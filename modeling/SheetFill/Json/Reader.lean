import SheetFill.Value.Basic
import SheetFill.Decimal.Limit
import SheetFill.Decimal.Reading

/-!
# JSON

Reading of a JSON text as a value. The names `NaN`, `Infinity` and `-Infinity` are numbers too. A
text that is no JSON is refused at the place where reading cannot go on.
-/
namespace SheetFill.Json

inductive Problem where
  | byteOrderMark
  | value
  | comma
  | colon
  | propertyName
  | controlCharacter
  | escape
  | unicodeEscape
  | unterminatedText
  | extraData
  deriving DecidableEq, Repr

def Problem.message : Problem → String
  | .byteOrderMark => "Unexpected UTF-8 BOM (decode using utf-8-sig)"
  | .value => "Expecting value"
  | .comma => "Expecting ',' delimiter"
  | .colon => "Expecting ':' delimiter"
  | .propertyName => "Expecting property name enclosed in double quotes"
  | .controlCharacter => "Invalid control character at"
  | .escape => "Invalid \\escape"
  | .unicodeEscape => "Invalid \\uXXXX escape"
  | .unterminatedText => "Unterminated string starting at"
  | .extraData => "Extra data"

/-- What is beyond all that is read: a whole number of too many digits, or a list or a mapping
within too many others. -/
inductive Limit where
  | digits (count : Nat)
  | nestedLists
  | nestedMaps
  deriving DecidableEq, Repr

def Limit.message : Limit → String
  | .digits count => Decimal.unreadableMessage count
  | .nestedLists =>
    "maximum recursion depth exceeded while decoding a JSON array from a unicode string"
  | .nestedMaps =>
    "maximum recursion depth exceeded while decoding a JSON object from a unicode string"

/-- Why a text was refused: it is no JSON, with the number of the character at fault, or it goes
beyond a limit. -/
inductive Error where
  | malformed (problem : Problem) (index : Nat)
  | limit (l : Limit)
  deriving DecidableEq, Repr

def position (cs : List Char) (index : Nat) : Nat × Nat :=
  let before := cs.take index
  let column := (before.reverse.takeWhile (· != '\n')).length + 1
  (before.count '\n' + 1, column)

def Error.message (text : List Char) : Error → String
  | .malformed problem index =>
    let (line, column) := position text index
    problem.message ++ ": line " ++ toString line ++ " column " ++ toString column ++ " (char " ++
      toString index ++ ")"
  | .limit l => l.message

/-- What is left of a text and the number of its first character. -/
structure Cursor where
  rest : List Char
  index : Nat

abbrev Result (α : Type) := Except Error (α × Cursor)

def Cursor.advance (c : Cursor) (n : Nat) : Cursor := ⟨c.rest.drop n, c.index + n⟩

def Cursor.fail {α : Type} (c : Cursor) (problem : Problem) : Except Error α :=
  .error (.malformed problem c.index)

def isSpace (c : Char) : Bool :=
  c == ' ' || c == '\t' || c == '\n' || c == '\r'

def Cursor.skipSpace (c : Cursor) : Cursor :=
  c.advance (c.rest.takeWhile isSpace).length

def hexValue? (c : Char) : Option Nat :=
  if '0' ≤ c && c ≤ '9' then some (c.toNat - '0'.toNat)
  else if 'a' ≤ c && c ≤ 'f' then some (c.toNat - 'a'.toNat + 10)
  else if 'A' ≤ c && c ≤ 'F' then some (c.toNat - 'A'.toNat + 10)
  else none

/-- The number that four hexadecimal digits stand for. They are not the end of the text. -/
def fourHex? : List Char → Option Nat
  | a :: b :: c :: d :: _ :: _ => do
    some (((← hexValue? a) * 16 + (← hexValue? b)) * 256 + (← hexValue? c) * 16 + (← hexValue? d))
  | _ => none

def isHighHalf (n : Nat) : Bool := 0xD800 ≤ n && n < 0xDC00

def isLowHalf (n : Nat) : Bool := 0xDC00 ≤ n && n < 0xE000

/-- The code point of an escape with a number, whose digits come first in `cs`, and how many
characters it takes up; two halves of a pair are taken together. -/
def unicodeEscape? (cs : List Char) : Option (Point × Nat) := do
  let first ← fourHex? cs
  if isHighHalf first then
    match cs.drop 4 with
    | '\\' :: 'u' :: more =>
      match fourHex? more with
      | some second =>
        if isLowHalf second then
          return (.ofNat (0x10000 + (first - 0xD800) * 0x400 + (second - 0xDC00)), 10)
        else return (.ofNat first, 4)
      | none => return (.ofNat first, 4)
    | _ => return (.ofNat first, 4)
  else return (.ofNat first, 4)

def simpleEscape? (c : Char) : Option Char :=
  match c with
  | '"' => some '"'
  | '\\' => some '\\'
  | '/' => some '/'
  | 'b' => some '\x08'
  | 'f' => some '\x0c'
  | 'n' => some '\n'
  | 'r' => some '\r'
  | 't' => some '\t'
  | _ => none

/-- The rest of a text whose opening quote is the character number `start`. -/
def readText (start : Nat) : (fuel : Nat) → Cursor → List Point → Result Text
  | 0, _, _ => .error (.malformed .unterminatedText start)
  | fuel + 1, c, done =>
    match c.rest with
    | [] => .error (.malformed .unterminatedText start)
    | '"' :: _ => .ok (⟨done.reverse⟩, c.advance 1)
    | '\\' :: more =>
      match more with
      | [] => .error (.malformed .unterminatedText start)
      | 'u' :: digits =>
        match unicodeEscape? digits with
        | some (x, n) => readText start fuel (c.advance (n + 2)) (x :: done)
        | none => (c.advance 1).fail .unicodeEscape
      | x :: _ =>
        match simpleEscape? x with
        | some x => readText start fuel (c.advance 2) (x :: done)
        | none => c.fail .escape
    | x :: _ =>
      if x.toNat ≤ 0x1F then c.fail .controlCharacter
      else readText start fuel (c.advance 1) (x :: done)

def digitsOf (cs : List Char) : List Char := cs.takeWhile Decimal.isDigit

/-- The decimal places at the head of `cs`, with their point; a point alone is none. -/
def places (cs : List Char) : List Char :=
  match cs with
  | '.' :: rest => if (digitsOf rest).isEmpty then [] else '.' :: digitsOf rest
  | _ => []

/-- The power of ten at the head of `cs`; it needs a digit. -/
def power (cs : List Char) : List Char :=
  match cs with
  | e :: rest =>
    if e == 'e' || e == 'E' then
      let sign := rest.take (match rest with
        | '+' :: _ => 1
        | '-' :: _ => 1
        | _ => 0)
      let digits := digitsOf (rest.drop sign.length)
      if digits.isEmpty then [] else e :: sign ++ digits
    else []
  | [] => []

/-- The whole part of a number: a zero alone or digits that begin with another. -/
def whole (cs : List Char) : List Char :=
  match cs with
  | '0' :: _ => ['0']
  | _ => digitsOf cs

/-- A number at the cursor, as long as it reaches. -/
def readNumber (c : Cursor) : Result Value :=
  let negative := c.rest.head? == some '-'
  let body := if negative then c.rest.drop 1 else c.rest
  let front := whole body
  if front.isEmpty then c.fail .value
  else
    let back := places (body.drop front.length)
    let exponent := power (body.drop (front.length + back.length))
    let chars := front ++ back ++ exponent
    let next := c.advance (chars.length + if negative then 1 else 0)
    if back.isEmpty && exponent.isEmpty then
      if Decimal.maxDigits < front.length then .error (.limit (.digits front.length))
      else
        let n : Int := Decimal.natOfDigits front
        .ok (.int (if negative then -n else n), next)
    else
      let x := (Decimal.ofChars? chars).getD (.zero false)
      .ok (.real (if negative then -x else x), next)

def names : List (List Char × Value) :=
  [("null".toList, .null), ("true".toList, .bool true), ("false".toList, .bool false),
    ("NaN".toList, .undefined 0), ("Infinity".toList, .real (.infinite false)),
    ("-Infinity".toList, .real (.infinite true))]

/-- How many lists and mappings may lie within one another. Each takes one call within the others,
of which there may be a thousand unless that limit is set otherwise; twelve are under way when the
text of a model is read. -/
def maxDepth : Nat := 1000 - 12

mutual
/-- The value at the cursor, which lies within `depth` lists and mappings. -/
def readValue (fuel depth : Nat) (c : Cursor) : Result Value :=
  match fuel with
  | 0 => c.fail .value
  | fuel + 1 =>
    match c.rest with
    | '"' :: _ =>
      match readText c.index fuel (c.advance 1) [] with
      | .ok (s, c) => .ok (.text s, c)
      | .error e => .error e
    | '[' :: _ =>
      let c := (c.advance 1).skipSpace
      if depth == maxDepth then .error (.limit .nestedLists)
      else if c.rest.head? == some ']' then .ok (.list [], c.advance 1)
      else readItems fuel (depth + 1) c []
    | '{' :: _ =>
      let c := (c.advance 1).skipSpace
      if depth == maxDepth then .error (.limit .nestedMaps)
      else if c.rest.head? == some '}' then .ok (.map [], c.advance 1)
      else readEntries fuel (depth + 1) c []
    | _ =>
      match names.find? (fun (name, _) => name.isPrefixOf c.rest) with
      | some (name, v) => .ok (v, c.advance name.length)
      | none => readNumber c
termination_by structural fuel

/-- The items of a list from the one at the cursor on, behind those `done`. -/
def readItems (fuel depth : Nat) (c : Cursor) (done : List Value) : Result Value :=
  match fuel with
  | 0 => c.fail .value
  | fuel + 1 =>
    match readValue fuel depth c with
    | .error e => .error e
    | .ok (v, c) =>
      let c := c.skipSpace
      match c.rest with
      | ']' :: _ => .ok (.list (v :: done).reverse, c.advance 1)
      | ',' :: _ => readItems fuel depth (c.advance 1).skipSpace (v :: done)
      | _ => c.fail .comma
termination_by structural fuel

/-- The entries of a mapping from the one at the cursor on, behind those `done`. -/
def readEntries (fuel depth : Nat) (c : Cursor) (done : List (Value × Value)) : Result Value :=
  match fuel with
  | 0 => c.fail .propertyName
  | fuel + 1 =>
    if c.rest.head? != some '"' then c.fail .propertyName
    else
      match readText c.index fuel (c.advance 1) [] with
      | .error e => .error e
      | .ok (key, c) =>
        let c := c.skipSpace
        if c.rest.head? != some ':' then c.fail .colon
        else
          match readValue fuel depth (c.advance 1).skipSpace with
          | .error e => .error e
          | .ok (v, c) =>
            let c := c.skipSpace
            let entries := (Value.text key, v) :: done
            match c.rest with
            | '}' :: _ => .ok (.map (Value.mapOf entries.reverse), c.advance 1)
            | ',' :: _ => readEntries fuel depth (c.advance 1).skipSpace entries
            | _ => c.fail .comma
termination_by structural fuel
end

def read (cs : List Char) : Except Error Value :=
  let start : Cursor := ⟨cs, 0⟩
  if cs.head? == some (Char.ofNat 0xFEFF) then start.fail .byteOrderMark
  else
    match readValue (2 * cs.length + 2) 0 start.skipSpace with
    | .error e => .error e
    | .ok (v, c) =>
      let c := c.skipSpace
      if c.rest.isEmpty then .ok v else c.fail .extraData

end SheetFill.Json
