import SheetFill.FileTree.Content
import SheetFill.Log
import SheetFill.Json.Reader
import SheetFill.Yaml.Value
import SheetFill.Text.Newlines

/-!
# Model files

A data model is read from a JSON or a YAML file, told apart by the extension of the file name. Its
root has to be a mapping.
-/
namespace SheetFill.Model

/-- Why a file holds no data model. -/
inductive Problem where
  | notFound
  | unsupported (extension : String)
  | unreadable (message : String)
  | noMapping (kind : String)
  deriving DecidableEq, Repr

def Problem.message : Problem → String
  | .notFound => "file not found"
  | .unsupported extension => "unsupported model format '" ++ extension ++ "'"
  | .unreadable message => "could not parse: " ++ message
  | .noMapping kind => "root must be a mapping, got " ++ kind

/-- Why loading stopped: the file holds no data model, it cannot be opened, or something in it is
beyond what can be represented. -/
inductive Error where
  | problem (path : String) (p : Problem)
  | file (e : FileError)
  | limit (l : Json.Limit)
  | yaml (e : Yaml.Error)
  deriving DecidableEq, Repr

def Error.message : Error → String
  | .problem path p => path ++ ": " ++ p.message
  | .file e => e.message
  | .limit l => l.message
  | .yaml e => e.message

inductive Format where
  | json
  | yaml
  deriving DecidableEq, Repr

def Format.ofExtension? (extension : String) : Option Format :=
  if extension == ".json" then some .json
  else if extension == ".yaml" || extension == ".yml" then some .yaml
  else none

def readJson (path : String) (octets : List UInt8) : Except Error Value :=
  match Text.Utf8.decode octets with
  | .error e => .error (.problem path (.unreadable e.message))
  | .ok cs =>
    let text := Text.unifyNewlines '\r' '\n' cs
    match Json.read text with
    | .ok v => .ok v
    | .error (.limit l) => .error (.limit l)
    | .error e => .error (.problem path (.unreadable (e.message text)))

def readYaml (path : String) (octets : List UInt8) : Except Error Value :=
  match Yaml.read octets with
  | .ok v => .ok v
  | .error .malformed => .error (.problem path (.unreadable Yaml.Error.malformed.message))
  | .error (.encoding e) => .error (.problem path (.unreadable e.message))
  | .error e => .error (.yaml e)

/-- The data model in a file. The file is opened before its extension is looked at. -/
def load (files : Files) (path : String) : Except Error (List (Value × Value)) :=
  if !files.contains path then .error (.problem path .notFound)
  else
    match files.read path with
    | .error e => .error (.file e)
    | .ok content =>
      let extension := Text.lower (Path.extension path)
      let value : Except Error Value :=
        match Format.ofExtension? extension with
        | none => .error (.problem path (.unsupported extension))
        | some .json => readJson path content.octets
        | some .yaml => readYaml path content.octets
      match value with
      | .error e => .error e
      | .ok v =>
        match v.untied with
        | .map entries => .ok entries
        | v => .error (.problem path (.noMapping v.shortKindName))

def loaded (path : String) (model : List (Value × Value)) : Log.Entry :=
  ⟨.info, .model, "Loaded model: " ++ path ++ " (" ++ toString model.length ++ " fields)"⟩

end SheetFill.Model
