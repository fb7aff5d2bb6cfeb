import SheetFill.Value.Basic
import SheetFill.Calendar.Text
import SheetFill.Decimal.Limit
import SheetFill.Text.Quoted

/-!
# Values in messages

The name of the kind of a value, and the value itself as messages show it.
-/
namespace SheetFill.Value

def kindName (v : Value) : String :=
  match v.untied with
  | .null => "NoneType"
  | .bool _ => "bool"
  | .int _ => "int"
  | .real _ => "float"
  | .undefined _ => "float"
  | .text _ => "str"
  | .bytes _ => "bytes"
  | .date _ => "datetime.date"
  | .dateTime _ => "datetime.datetime"
  | .time _ => "datetime.time"
  | .duration _ => "datetime.timedelta"
  | .list _ => "list"
  | .tuple _ => "tuple"
  | .set _ => "set"
  | .map _ => "dict"
  | .object _ => "types.SimpleNamespace"
  | .record _ _ => "CustomRecord"
  | .stream _ => "OneShot"
  | .other kind _ => kind
  | .knot _ _ | .again _ => "object"

def shortKindName (v : Value) : String :=
  match v with
  | .date _ => "date"
  | .dateTime _ => "datetime"
  | .time _ => "time"
  | .duration _ => "timedelta"
  | .object _ => "SimpleNamespace"
  | v => v.kindName

/-- How the collections of a knot are shown, by their numbers. -/
abbrev Shower := Nat → Option String

def shownList (parts : List String) : String := "[" ++ ", ".intercalate parts ++ "]"

def shownTuple (parts : List String) : String :=
  match parts with
  | [one] => "(" ++ one ++ ",)"
  | all => "(" ++ ", ".intercalate all ++ ")"

def shownSet (parts : List String) : String :=
  if parts.isEmpty then "set()" else "\x7b" ++ ", ".intercalate parts ++ "\x7d"

def shownMap (parts : List String) : String := "\x7b" ++ ", ".intercalate parts ++ "\x7d"

/-- What stands for a collection within itself. -/
def shownInside : Value → String
  | .list _ => "[...]"
  | .tuple _ => "(...)"
  | .set _ => "set(...)"
  | _ => "\x7b...\x7d"

/-- A collection of a knot as it is shown, given how each collection is shown when it is known how
the others are. Within itself only its brackets are. -/
def tieShown (collections : List Value) (showers : List (Shower → Option String)) :
    (fuel : Nat) → (around : List Nat) → Shower
  | 0, _, _ => none
  | fuel + 1, around, id =>
    if around.contains id then some (shownInside (collections.getD id .null))
    else (showers[id]?).bind (· (tieShown collections showers fuel (id :: around)))

mutual
/-- A value as messages show it, where `shower` shows the collections of the knot around it; none
where a whole number in it has too many digits to be written. -/
def shownWithin : Value → Shower → Option String
  | .null, _ => some "None"
  | .bool b, _ => some (if b then "True" else "False")
  | .int n, _ => if Decimal.isWritable n then some (toString n) else none
  | .real x, _ => some (Decimal.shown x)
  | .undefined _, _ => some "nan"
  | .text s, _ => some (Text.quoted s)
  | .bytes b, _ => some (Text.quotedOctets b)
  | .date d, _ => some d.shown
  | .dateTime t, _ => some t.shown
  | .time t, _ => some t.shown
  | .duration d, _ => some d.shown
  | .list items, shower => (shownItems items shower).map shownList
  | .tuple items, shower => (shownItems items shower).map shownTuple
  | .set items, shower => (shownItems items shower).map shownSet
  | .map entries, shower => (shownEntries entries shower).map shownMap
  | .object fields, shower =>
    (shownFields fields shower).map (fun parts => "namespace(" ++ ", ".intercalate parts ++ ")")
  | .record _ _, _ => some "<record>"
  | .stream _, _ => some "<generator>"
  | .other _ shown, _ => some shown
  | .knot collections id, _ =>
    tieShown collections (showers collections) (collections.length + 1) [] id
  | .again id, shower => shower id

def shownItems : List Value → Shower → Option (List String)
  | [], _ => some []
  | v :: rest, shower => do
    let first ← shownWithin v shower
    return first :: (← shownItems rest shower)

def shownEntries : List (Value × Value) → Shower → Option (List String)
  | [], _ => some []
  | (k, v) :: rest, shower => do
    let key ← shownWithin k shower
    let value ← shownWithin v shower
    return (key ++ ": " ++ value) :: (← shownEntries rest shower)

/-- A field without a name is not shown. -/
def shownFields : List (Text × Value) → Shower → Option (List String)
  | [], _ => some []
  | (n, v) :: rest, shower =>
    if n.isEmpty then shownFields rest shower
    else do
      let value ← shownWithin v shower
      return (n.printed ++ "=" ++ value) :: (← shownFields rest shower)

def showers : List Value → List (Shower → Option String)
  | [] => []
  | v :: rest => shownWithin v :: showers rest
end

/-- A value as messages show it, unless a whole number in it has too many digits. -/
def shown? (v : Value) : Option String := shownWithin v (fun _ => none)

/-- A value as plain text: a text is itself, dates and times have their usual form, and all else is
as messages show it. -/
def plain? : Value → Option String
  | .text s => some s.printed
  | .date d => some d.iso
  | .dateTime t => some (t.date.iso ++ " " ++ t.time.iso)
  | .time t => some t.iso
  | .duration d => some d.clock
  | v => v.shown?

end SheetFill.Value
