import SheetFill.Expansion
import SheetFill.FileTree.Content
import SheetFill.Log
import SheetFill.Workbook.Archive

/-!
# Rendering of workbooks

A template workbook is opened, its selected sheets are filled from a record, and the result is saved
under another name. Nothing is saved unless every selected sheet could be filled; the directory of
the result is made before. A cell that cannot be saved leaves the target unfinished.
-/
namespace SheetFill.Rendering

inductive Error where
  | unsupported (extension : String)
  | file (e : FileError)
  | archive (e : Archive.Fault)
  /-- A text in the workbook holds a point that cannot be read. -/
  | illegible (p : Point)
  | notIterable (kind : String)
  | streamFailed
  | fill (e : Failure)
  | save (e : SaveError)
  /-- A name of a sheet has too many digits to be reported. -/
  | unwritable
  /-- There is no path for the result. -/
  | noPath

def extensions : List String := [".xlsx", ".xlsm", ".xltx", ".xltm"]

def unsupportedMessage (extension : String) : String :=
  if extension == ".xls" then
    "openpyxl does not support the old .xls file format, please use xlrd to read this file, or " ++
      "convert it to the more recent .xlsx file format."
  else if extension == ".xlsb" then
    "openpyxl does not support binary format .xlsb, please convert this file to .xlsx format if " ++
      "you want to open it with openpyxl"
  else
    "openpyxl does not support " ++ extension ++ " file format, please check you can open it " ++
      "with Excel first. Supported formats are: " ++ ",".intercalate extensions

/-- Of a workbook that cannot be read the place in its text is left out. -/
def Error.message : Error → String
  | .unsupported extension => unsupportedMessage extension
  | .file e => e.message
  | .archive e => e.message
  | .illegible (.char _) => "not well-formed (invalid token)"
  | .illegible (.half _) => "reference to invalid character number"
  | .notIterable kind => (Failure.notIterable kind).message
  | .streamFailed => Failure.streamFailed.message
  | .fill e => e.message
  | .save e => e.message
  | .unwritable => Decimal.unwritableMessage
  | .noPath => "expected str, bytes or os.PathLike object, not list"

/-- The state of a rendering: the files, what is left of the streams of the model, the opened
workbook and the reports so far. -/
structure State where
  files : Files
  streams : Streams
  workbook : Workbook
  log : List Log.Entry

abbrev Step := EStateM Error State

def report (level : Log.Level) (text : String) : Step Unit :=
  modify (fun s => { s with log := s.log ++ [⟨level, .workbook, text⟩] })

/-- The workbook in a file, whose extension is looked at first. -/
def openWorkbook (files : Files) (path : String) : Except Error Workbook :=
  let extension := Text.lower (Path.extension path)
  if !extensions.contains extension then .error (.unsupported extension)
  else
    match files.read path with
    | .error e => .error (.file e)
    | .ok (.plain octets) => .error (.archive (Archive.fault octets))
    | .ok (.unfinished _) => .error (.archive .noContents)
    | .ok (.workbook saved) =>
      match SavedWorkbook.opened saved with
      | .error p => .error (.illegible p)
      | .ok workbook => .ok workbook

/-- The items of a stream up to its end or its first failure, and what is left behind that failure
if there is one. -/
def drain : List StreamItem → List Value × Option (List StreamItem)
  | [] => ([], none)
  | .fails :: rest => ([], some rest)
  | .value v :: rest =>
    let (items, left) := drain rest
    (v :: items, left)

def titlesAmong (titles : List String) (names : List Value) : List String :=
  names.filterMap fun v =>
    match v with
    | .text s => s.string?.filter titles.contains
    | _ => none

def namesBeside (titles : List String) (names : List Value) : List Value :=
  names.filter fun v =>
    match v with
    | .text s => !(s.string?.any titles.contains)
    | _ => true

/-- Names to be reported as missing, and titles to be filled. -/
structure Selection where
  missing : List Value
  titles : List String

/-- The selection that a value makes. Null selects all sheets. The names of a stream are used up by
looking for missing ones, so that it selects no sheet. -/
def select (titles : List String) (names : Value) : Step Selection :=
  match names with
  | .null => pure ⟨[], titles⟩
  | names =>
    match names.items with
    | .all items => pure ⟨namesBeside titles items, titlesAmong titles items⟩
    | .none => throw (.notIterable names.kindName)
    | .stream id => do
      let (items, left) := drain ((← get).streams.getD id [])
      modify (fun s => { s with streams := s.streams.set id (left.getD []) })
      if left.isSome then throw .streamFailed
      return ⟨namesBeside titles items, []⟩

def reportMissing (template : String) : List Value → Step Unit
  | [] => pure ()
  | name :: rest => do
    match name.plain? with
    | none => throw .unwritable
    | some text =>
      report .warning ("Sheet '" ++ text ++ "' not found in " ++ template ++ ", skipping")
      reportMissing template rest

/-- The path of a directory, where the empty one is the working directory. -/
def orHere (directory : String) : String :=
  if directory.isEmpty then "." else directory

def resultName (template : String) : String :=
  Path.stem template ++ "_rendered.xlsx"

/-- Where a result goes if nothing is said: a directory `output` beside the template. -/
def defaultOutput (template : String) : String :=
  Path.join (Path.join (orHere (Path.directory template)) "output") (resultName template)

/-- Where a result goes: to the usual place, to a path, or nowhere, which comes up only when its
directory is to be made. -/
inductive Target where
  | usual
  | path (p : String)
  | noPath
  deriving DecidableEq, Repr

def Target.path? (template : String) : Target → Option String
  | .usual => some (defaultOutput template)
  | .path p => some p
  | .noPath => none

def makeDirectoryOf (path : String) : Step Unit := do
  let directory := orHere (Path.directory path)
  let (files, error?) := (← get).files.makeDirectories (directory.length + 1) directory
  modify (fun s => { s with files })
  match error? with
  | some e => throw (.file e)
  | none => pure ()

def replaceSheet (title : String) (sheet : Sheet) : Workbook → Workbook
  | [] => []
  | s :: rest => if s.title == title then sheet :: rest else s :: replaceSheet title sheet rest

def fillSheet (model : Record) (title : String) : Step Unit := do
  let s ← get
  match s.workbook.find? (·.title == title) with
  | none => pure ()
  | some sheet =>
    let out := Run.fill ⟨sheet, s.streams, [], none⟩ model
    let filled := out.run.sheet
    set { s with workbook := replaceSheet title filled s.workbook, streams := out.run.streams }
    match out.failure? with
    | some e => throw (.fill e)
    | none =>
      report .info ("  Sheet '" ++ title ++ "': " ++ toString sheet.maxRow ++ " -> " ++
        toString filled.maxRow ++ " rows")

def fillSheets (model : Record) : List String → Step Unit
  | [] => pure ()
  | title :: rest => do
    fillSheet model title
    fillSheets model rest

def save (path : String) : Step Unit := do
  let s ← get
  let (content, error?) := Content.ofWorkbook s.workbook
  match s.files.write path content with
  | .error e => throw (.file e)
  | .ok files =>
    set { s with files }
    match error? with
    | some e => throw (.save e)
    | none => pure ()

/-- Renders the selected sheets of a template and gives the path of the result. -/
def render (template : String) (model : Record) (target : Target) (names : Value) :
    Step String := do
  match openWorkbook (← get).files template with
  | .error e => throw e
  | .ok workbook =>
    modify (fun s => { s with workbook })
    let selection ← select (workbook.map (·.title)) names
    reportMissing template selection.missing
    match target.path? template with
    | none => throw .noPath
    | some output =>
      makeDirectoryOf output
      fillSheets model selection.titles
      save output
      report .info ("Rendered workbook: " ++ output)
      return output

structure Outcome where
  result : Except Error String
  files : Files
  log : List Log.Entry

def run (files : Files) (streams : Streams) (template : String) (model : Record)
    (target : Target) (names : Value) : Outcome :=
  match render template model target names ⟨files, streams, [], []⟩ with
  | .ok path s => ⟨.ok path, s.files, s.log⟩
  | .error e s => ⟨.error e, s.files, s.log⟩

end SheetFill.Rendering
