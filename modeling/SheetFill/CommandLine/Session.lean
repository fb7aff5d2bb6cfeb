import SheetFill.CommandLine.Invocation
import SheetFill.Config
import SheetFill.Model
import SheetFill.Workbook.Rendering

/-!
# Sessions

One run of the program: the command line is read, settings and the data model are loaded, and the
template is rendered. The outcome tells how the run ended, what it reported and which files there
are afterwards.
-/
namespace SheetFill.CommandLine

inductive Failure where
  | config (e : Config.Error)
  | threshold (e : Log.ThresholdError)
  /-- A place for a path holds none. -/
  | noPath
  | model (e : Model.Error)
  | outputDirectory (kind : String)
  | outputOctets
  /-- The directory for results has half of a surrogate pair in its name. -/
  | outputHalf (directory : Text)
  | rendering (e : Rendering.Error)

def Failure.message : Failure → String
  | .config e => e.message
  | .threshold e => e.message
  | .noPath => "stat: path should be string, bytes, os.PathLike or integer, not list"
  | .model e => e.message
  | .outputDirectory kind => "expected str, bytes or os.PathLike object, not " ++ kind
  | .outputOctets => "Can't mix strings and bytes in path components"
  | .outputHalf directory => directory.halfMessage
  | .rendering e => e.message

inductive Ending where
  | status (code : Nat)
  | stopped (s : Stop)
  | failed (e : Failure)

def Stop.status : Stop → Nat
  | .help => 0
  | .usage _ => 2

structure Outcome where
  ending : Ending
  /-- The reports that reach the threshold. -/
  log : List Log.Entry
  threshold : Nat
  files : Files

/-- Where the result of a template goes: where the command line says, or else into the directory
that the settings name, if they do. -/
def target (output : Given) (directory : Value) (template : String) :
    Except Failure Rendering.Target :=
  match output with
  | .word output => .ok (.path output)
  | .noWord => .ok .noPath
  | .nothing =>
    if !directory.isTrue then .ok .usual
    else
      match directory with
      | .text directory =>
        match directory.string? with
        | some directory => .ok (.path (Path.join directory (Rendering.resultName template)))
        | none => .error (.outputHalf directory)
      | .bytes _ => .error .outputOctets
      | v => .error (.outputDirectory v.shortKindName)

/-- The sheets to be filled: those that the command line names, or else those of the settings. -/
def sheetNames (sheets? : Option (List String)) (settings : Config.Settings) : Value :=
  match sheets? with
  | some names => .list (names.map fun (name : String) => .text name)
  | none => Config.get settings "sheets"

/-- How the main part of a run ended, with all its reports and the files afterwards. -/
structure Work where
  ending : Ending
  log : List Log.Entry
  files : Files

def renderTemplate (i : Invocation) (settings : Config.Settings) (template : String)
    (files : Files) : Work :=
  match i.data with
  | .nothing | .noWord => ⟨.failed .noPath, [], files⟩
  | .word data =>
    match Model.load files data with
    | .error (.problem path p) =>
      let e := Model.Error.problem path p
      ⟨.status 1, [⟨.error, .command, "Could not load data model: " ++ e.message⟩], files⟩
    | .error e => ⟨.failed (.model e), [], files⟩
    | .ok model =>
      let loaded := [Model.loaded data model]
      match target i.output (Config.get settings "output_dir") template with
      | .error e => ⟨.failed e, loaded, files⟩
      | .ok target =>
        let announced := [⟨.info, .command, "Template: " ++ template⟩,
          ⟨.info, .command, "Data model: " ++ data⟩]
        let out := Rendering.run files [] template (.mapping model) target
          (sheetNames i.sheets settings)
        let ending :=
          match out.result with
          | .ok _ => .status 0
          | .error e => .failed (.rendering e)
        ⟨ending, loaded ++ announced ++ out.log, out.files⟩

def work (i : Invocation) (settings : Config.Settings) (files : Files) : Work :=
  match i.template with
  | .nothing | .noWord => ⟨.failed .noPath, [], files⟩
  | .word template =>
    if files.contains template then renderTemplate i settings template files
    else ⟨.status 1, [⟨.error, .command, "Template file not found: " ++ template⟩], files⟩

def Given.filled? : Given → Option String
  | .word w => if w.isEmpty then none else some w
  | _ => none

/-- The value that names the threshold; an empty name on the command line is none. -/
def thresholdName (i : Invocation) (settings : Config.Settings) : Value :=
  ((i.logLevel.filled?).map fun (name : String) => .text name).getD
    (Config.get settings "log_level")

/-- Follows an invocation. -/
def Invocation.run (i : Invocation) (files : Files) : Outcome :=
  match Config.load files i.config.filled? with
  | .error e => ⟨.failed (.config e), [], Log.defaultThreshold, files⟩
  | .ok settings =>
    match Log.threshold (thresholdName i settings) with
    | .error e => ⟨.failed (.threshold e), [], Log.defaultThreshold, files⟩
    | .ok threshold =>
      let w := work i settings files
      ⟨w.ending, Log.filter threshold w.log, threshold, w.files⟩

/-- One run of the program among some files. -/
def run (words : List String) (files : Files) : Outcome :=
  match Invocation.read words with
  | .error stop => ⟨.stopped stop, [], Log.defaultThreshold, files⟩
  | .ok i => i.run files

end SheetFill.CommandLine
