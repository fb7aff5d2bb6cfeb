import SheetFill.Decimal.Reading

/-!
# Tags of YAML

The kinds of node that have a meaning, and the kind of a plain scalar, which its text decides: a
scalar that is written like a number, a date, a truth value or nothing is one, and all others are
texts.
-/
namespace SheetFill.Yaml

inductive Tag where
  | null
  | bool
  | int
  | float
  | binary
  | timestamp
  | orderedMap
  | pairs
  | set
  | text
  | sequence
  | mapping
  | merge
  | value
  | unknown
  deriving DecidableEq, Repr

def coreTagStart : List Char := "tag:yaml.org,2002:".toList

def coreTags : List (List Char × Tag) :=
  [("null".toList, .null), ("bool".toList, .bool), ("int".toList, .int), ("float".toList, .float),
    ("binary".toList, .binary), ("timestamp".toList, .timestamp), ("omap".toList, .orderedMap),
    ("pairs".toList, .pairs), ("set".toList, .set), ("str".toList, .text),
    ("seq".toList, .sequence), ("map".toList, .mapping)]

def Tag.ofName (name : List Char) : Tag :=
  if coreTagStart.isPrefixOf name then
    match coreTags.find? (fun (n, _) => n == name.drop coreTagStart.length) with
    | some (_, tag) => tag
    | none =>
      if name.drop coreTagStart.length == "merge".toList then .merge
      else if name.drop coreTagStart.length == "value".toList then .value
      else .unknown
  else .unknown

namespace Plain

open Decimal (isDigit splitSign)

def isDigitOrLine (c : Char) : Bool := isDigit c || c == '_'

/-- The spellings of a word: small, with a capital and in capitals. -/
def spellings (word : String) : List (List Char) :=
  let cs := word.toList
  [cs, cs.take 1 |>.map Char.toUpper |> (· ++ cs.drop 1), cs.map Char.toUpper]

def truthWords : List (List Char) :=
  ["yes", "no", "true", "false", "on", "off"].flatMap spellings

def isBool (cs : List Char) : Bool := truthWords.contains cs

def isNull (cs : List Char) : Bool :=
  cs == ['~'] || (spellings "null").contains cs

/-- One or two digits behind a colon, of which the first is below six. -/
def isSixtieth (cs : List Char) : Bool :=
  match cs with
  | [a] => isDigit a
  | [a, b] => '0' ≤ a && a ≤ '5' && isDigit b
  | _ => false

def parts : List Char → List (List Char)
  | [] => [[]]
  | c :: rest =>
    match parts rest with
    | [] => [[c]]
    | first :: more => if c == ':' then [] :: first :: more else (c :: first) :: more

def isInt (cs : List Char) : Bool :=
  let (_, body) := splitSign cs
  match body with
  | '0' :: 'b' :: rest =>
    !rest.isEmpty && rest.all (fun c => c == '0' || c == '1' || c == '_')
  | '0' :: 'x' :: rest =>
    !rest.isEmpty && rest.all (fun c =>
      isDigitOrLine c || ('a' ≤ c && c ≤ 'f') || ('A' ≤ c && c ≤ 'F'))
  | '0' :: rest => rest.all (fun c => ('0' ≤ c && c ≤ '7') || c == '_')
  | c :: _ =>
    if '1' ≤ c && c ≤ '9' then
      match parts body with
      | first :: more => first.all isDigitOrLine && more.all isSixtieth
      | [] => false
    else false
  | [] => false

/-- The power of ten of a number with a point, whose sign may not be left out. -/
def isPower (cs : List Char) : Bool :=
  match cs with
  | [] => true
  | e :: sign :: rest =>
    (e == 'e' || e == 'E') && (sign == '+' || sign == '-') && !rest.isEmpty && rest.all isDigit
  | _ => false

def isFloat (cs : List Char) : Bool :=
  let (_, body) := splitSign cs
  let hasSign := body.length != cs.length
  if (spellings "inf").contains (body.drop 1) && body.head? == some '.' then true
  else if body.head? == some '.' then
    if hasSign then false
    else if body == ".nan".toList || body == ".NaN".toList || body == ".NAN".toList then true
    else
      match body.drop 1 with
      | c :: rest => isDigit c && isPower (rest.dropWhile isDigitOrLine)
      | [] => false
  else if (body.head?.map isDigit).getD false then
    let front := body.takeWhile (· != '.')
    match body.dropWhile (· != '.') with
    | [] => false
    | _ :: back =>
      match parts front with
      | [whole] => whole.all isDigitOrLine && isPower (back.dropWhile isDigitOrLine)
      | first :: more => first.all isDigitOrLine && more.all isSixtieth && back.all isDigitOrLine
      | [] => false
  else false

end Plain

/-- The characters without a line feed at their end. -/
def withoutLineEnd (cs : List Char) : List Char :=
  if cs.getLast? == some '\n' then cs.dropLast else cs

/-- The parts of a timestamp as they are written; the time and the zone may be missing. -/
structure Stamp where
  year : List Char
  month : List Char
  day : List Char
  time : Option (List Char × List Char × List Char)
  fraction : List Char
  /-- The sign, the hours and the minutes of the distance from universal time; without a sign the
  time is universal. -/
  zone : Option (Option (Bool × List Char × List Char))

namespace Stamp

open Decimal (isDigit)

def digits? (least most : Nat) (cs : List Char) : Option (List Char × List Char) :=
  let run := (cs.take most).takeWhile isDigit
  if run.length < least then none else some (run, cs.drop run.length)

def literal? (c : Char) (cs : List Char) : Option (List Char) :=
  match cs with
  | d :: rest => if c == d then some rest else none
  | [] => none

def isGap (c : Char) : Bool := c == ' ' || c == '\t'

/-- What may stand between the date and the time: a letter, or blanks. -/
def gap? (cs : List Char) : Option (List Char) :=
  match cs with
  | 'T' :: rest => some rest
  | 't' :: rest => some rest
  | c :: rest => if isGap c then some (rest.dropWhile isGap) else none
  | [] => none

/-- The zone at the end of a timestamp. -/
def zone? (cs : List Char) : Option (Option (Option (Bool × List Char × List Char))) :=
  if cs.isEmpty then some none
  else
    match cs.dropWhile isGap with
    | ['Z'] => some (some none)
    | sign :: rest =>
      if sign == '+' || sign == '-' then do
        let (hour, rest) ← digits? 1 2 rest
        if rest.isEmpty then return some (some (sign == '-', hour, []))
        let (minute, rest) ← digits? 2 2 (← literal? ':' rest)
        if rest.isEmpty then return some (some (sign == '-', hour, minute)) else none
      else none
    | [] => none

/-- A timestamp, whose month and day may have one digit. A line feed may end it. -/
def ofChars? (cs : List Char) : Option Stamp := do
  let (year, rest) ← digits? 4 4 (withoutLineEnd cs)
  let (month, rest) ← digits? 1 2 (← literal? '-' rest)
  let (day, rest) ← digits? 1 2 (← literal? '-' rest)
  if rest.isEmpty then return ⟨year, month, day, none, [], none⟩
  let (hour, rest) ← digits? 1 2 (← gap? rest)
  let (minute, rest) ← digits? 2 2 (← literal? ':' rest)
  let (second, rest) ← digits? 2 2 (← literal? ':' rest)
  let (fraction, rest) :=
    match rest with
    | '.' :: rest => (rest.takeWhile isDigit, rest.dropWhile isDigit)
    | rest => ([], rest)
  let zone ← zone? rest
  return ⟨year, month, day, some (hour, minute, second), fraction, zone⟩

end Stamp

/-- A plain scalar that is a date alone has two digits for the month and the day. -/
def Plain.isTimestamp (cs : List Char) : Bool :=
  match Stamp.ofChars? cs with
  | none => false
  | some s => s.time.isSome || (s.month.length == 2 && s.day.length == 2)

/-- The kind of a scalar whose text decides it. A line feed at the end, which no plain scalar has,
is not looked at; but a line feed alone is a text. -/
def Plain.tag (text : List Char) : Tag :=
  let cs := withoutLineEnd text
  if Plain.isBool cs then .bool
  else if Plain.isFloat cs then .float
  else if Plain.isInt cs then .int
  else if cs == ['<', '<'] then .merge
  else if text.isEmpty || Plain.isNull cs then .null
  else if Plain.isTimestamp text then .timestamp
  else if cs == ['='] then .value
  else if cs == ['!'] || cs == ['&'] || cs == ['*'] then .unknown
  else .text

end SheetFill.Yaml
