import SheetFill.FileTree.Content
import SheetFill.Yaml.Value

/-!
# Configuration

Settings are read from a YAML file and laid over the defaults. The root of the file is a mapping or
anything else that can be gone through as pairs.
-/
namespace SheetFill.Config

/-- Why a value cannot be laid over settings: it has no items, an item is no pair, or the first of
a pair is no key. -/
inductive UpdateError where
  | notIterable (kind : String)
  | noSequence (index : Nat)
  | wrongLength (index length : Nat)
  | unhashable (kind : String)
  deriving DecidableEq, Repr

def UpdateError.message : UpdateError → String
  | .notIterable kind => "'" ++ kind ++ "' object is not iterable"
  | .noSequence index =>
    "cannot convert dictionary update sequence element #" ++ toString index ++ " to a sequence"
  | .wrongLength index length =>
    "dictionary update sequence element #" ++ toString index ++ " has length " ++
      toString length ++ "; 2 is required"
  | .unhashable kind => "unhashable type: '" ++ kind ++ "'"

inductive Error where
  | file (e : FileError)
  | yaml (e : Yaml.Error)
  | update (e : UpdateError)
  deriving DecidableEq, Repr

def Error.message : Error → String
  | .file e => e.message
  | .yaml e => e.message
  | .update e => e.message

abbrev Settings := List (Value × Value)

/-- All sheets, no directory of its own for rendered workbooks, and reports from `INFO` on. -/
def defaults : Settings :=
  [(.text "sheets", .null), (.text "output_dir", .null), (.text "log_level", .text "INFO")]

def get (settings : Settings) (name : Text) : Value :=
  (Value.lookup? settings name).getD .null

def itemsOf? (v : Value) : Option (List Value) :=
  match v.items with
  | .all items => some items
  | _ => none

/-- Lays the pairs from number `index` on over settings. -/
def updatePairs (settings : Settings) (index : Nat) : List Value → Except UpdateError Settings
  | [] => .ok settings
  | item :: rest =>
    match itemsOf? item with
    | none => .error (.noSequence index)
    | some [key, value] =>
      match key.unhashable? with
      | some part => .error (.unhashable part.kindName)
      | none => updatePairs (Value.insertEntry settings key.untied value) (index + 1) rest
    | some items => .error (.wrongLength index items.length)

def update (settings : Settings) (v : Value) : Except UpdateError Settings :=
  match v.untied with
  | .map entries => .ok (entries.foldl (fun s (k, v) => Value.insertEntry s k v) settings)
  | v =>
    match itemsOf? v with
    | none => .error (.notIterable v.kindName)
    | some items => updatePairs settings 0 items

/-- The settings that octets encode, laid over the defaults. A root that counts as false changes
nothing. -/
def ofOctets (octets : List UInt8) : Except Error Settings :=
  match Yaml.read octets with
  | .error e => .error (.yaml e)
  | .ok root =>
    if !root.isTrue then .ok defaults
    else
      match update defaults root with
      | .error e => .error (.update e)
      | .ok settings => .ok settings

/-- The settings in a file; without a file there are the defaults. -/
def load (files : Files) (path? : Option String) : Except Error Settings :=
  match path? with
  | none => .ok defaults
  | some path =>
    if path.isEmpty || !files.contains path then .ok defaults
    else
      match files.read path with
      | .error e => .error (.file e)
      | .ok content => ofOctets content.octets

end SheetFill.Config
