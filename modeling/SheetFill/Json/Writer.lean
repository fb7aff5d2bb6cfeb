import SheetFill.Value.Basic
import SheetFill.Text.Quoted

/-!
# Writing JSON

The JSON text of values made of nulls, truth values, whole numbers, texts, lists and mappings with
text keys. What has no JSON text is written as null.
-/
namespace SheetFill.Json

/-- Quotes and backslashes are escaped, and control characters and halves of surrogate pairs are
written by their numbers. -/
def escaped : Point → List Char
  | .char c =>
    if c == '"' || c == '\\' then ['\\', c]
    else if c.toNat < 0x20 then '\\' :: 'u' :: Text.hex 4 c.toNat
    else [c]
  | .half distance => Text.escapeHalf distance

def writeText (s : Text) : List Char :=
  '"' :: s.points.flatMap escaped ++ ['"']

def separated : List (List Char) → List Char
  | [] => []
  | [part] => part
  | part :: rest => part ++ ',' :: separated rest

mutual
def write : Value → List Char
  | .bool b => (if b then "true" else "false").toList
  | .int n => (toString n).toList
  | .text s => writeText s
  | .list items => '[' :: separated (writeAll items) ++ [']']
  | .map entries => '{' :: separated (writeEntries entries) ++ ['}']
  | _ => "null".toList

def writeAll : List Value → List (List Char)
  | [] => []
  | v :: rest => write v :: writeAll rest

def writeEntries : List (Value × Value) → List (List Char)
  | [] => []
  | (.text key, v) :: rest => (writeText key ++ ':' :: write v) :: writeEntries rest
  | _ :: rest => writeEntries rest
end

end SheetFill.Json
