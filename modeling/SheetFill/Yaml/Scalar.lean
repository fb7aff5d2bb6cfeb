import SheetFill.Yaml.Tag
import SheetFill.Json.Reader
import SheetFill.Value.Text
import SheetFill.Text.Blank
import SheetFill.Text.Case
import SheetFill.Text.Digit

/-!
# Values of YAML scalars

What the text of a scalar stands for under each tag, and what is wrong with a text that stands for
nothing there.
-/
namespace SheetFill.Yaml

/-- Why a node has no value: it breaks a rule of YAML, its text is not what its tag says, it has no
text of its own, or it leads too deep. -/
inductive BuildError where
  | malformed
  | tooDeep
  | noText
  | calendar (e : Calendar.Error)
  | noTimestamp
  | noTruthValue (word : String)
  | emptyNumber
  | noInteger (base : Nat) (text : String)
  | noFloat (text : String)
  | tooManyDigits (count : Nat)
  | tooLarge
  deriving DecidableEq, Repr

/-- How much is shown at most of a text that is no whole number. -/
def maxShown : Nat := 200

def BuildError.message : BuildError → String
  | .malformed => "(yaml)"
  | .tooDeep => "maximum recursion depth exceeded"
  | .noText => "expected string or bytes-like object, got 'list'"
  | .calendar e => e.message
  | .noTimestamp => "'NoneType' object has no attribute 'groupdict'"
  | .noTruthValue word => Text.quoted word
  | .emptyNumber => "string index out of range"
  | .noInteger base text =>
    "invalid literal for int() with base " ++ toString base ++ ": " ++
      String.ofList ((Text.quoted text).toList.take maxShown)
  | .noFloat text => "could not convert string to float: " ++ Text.quoted text
  | .tooManyDigits count => Decimal.unreadableMessage count
  | .tooLarge => "int too large to convert to float"

namespace Scalar

/-- The characters of a number in ASCII: digits of any script are those of ASCII, and blanks beyond
it are spaces. -/
def plainly (cs : List Char) : List Char :=
  (Text.asciiDigits cs).map (fun c => if 0x7F < c.toNat && Text.isBlank c then ' ' else c)

def isSpace (c : Char) : Bool :=
  c == ' ' || (0x09 ≤ c.toNat && c.toNat ≤ 0x0D)

def strip (cs : List Char) : List Char :=
  ((cs.dropWhile isSpace).reverse.dropWhile isSpace).reverse

def digit? (base : Nat) (c : Char) : Option Nat :=
  (Json.hexValue? c).bind fun n => if n < base then some n else none

/-- The letter that may stand behind a zero to name a base. -/
def baseLetter? (base : Nat) : Option Char :=
  match base with
  | 2 => some 'b'
  | 8 => some 'o'
  | 16 => some 'x'
  | _ => none

/-- The number without the sign for its base. -/
def dropBase (base : Nat) (cs : List Char) : List Char :=
  match cs with
  | '0' :: c :: rest => if some c.toLower == baseLetter? base then rest else cs
  | _ => cs

/-- A whole number in a base, with a sign if wanted. The number of decimal digits is looked at
before what stands behind them. -/
def integer (base : Nat) (cs : List Char) : Except BuildError Int :=
  let (negative, body) := Decimal.splitSign (strip (plainly cs))
  let body := dropBase base body
  let digits := body.takeWhile (fun c => (digit? base c).isSome)
  if base == 10 && Decimal.maxDigits < digits.length then .error (.tooManyDigits digits.length)
  else if digits.isEmpty || digits.length < body.length then
    .error (.noInteger base (String.ofList cs))
  else
    let n : Nat := digits.foldl (fun n c => n * base + (digit? base c).getD 0) 0
    .ok (if negative then -(n : Int) else n)

/-- Parts between colons count sixtieths of one another. -/
def sexagesimal (ns : List Int) : Int :=
  ns.foldl (fun n part => n * 60 + part) 0

/-- The sign of a number and what follows it; a number of no characters has no sign. -/
def signed (cs : List Char) : Except BuildError (Bool × List Char) :=
  if cs.isEmpty then .error .emptyNumber else .ok (Decimal.splitSign cs)

/-- A whole number: binary behind `0b`, hexadecimal behind `0x`, octal behind another zero, and
otherwise decimal. -/
def int (cs : List Char) : Except BuildError Int := do
  let (negative, body) ← signed (cs.filter (· != '_'))
  let n ←
    match body with
    | [] => .error .emptyNumber
    | ['0'] => .ok 0
    | '0' :: 'b' :: rest => integer 2 rest
    | '0' :: 'x' :: rest => integer 16 rest
    | '0' :: _ => integer 8 body
    | _ =>
      if body.contains ':' then sexagesimal <$> (Plain.parts body).mapM (integer 10)
      else integer 10 body
  return if negative then -n else n

/-- A number with a point, by name or in decimal digits. -/
def realNumber (cs : List Char) : Except BuildError Binary64 :=
  let (negative, body) := Decimal.splitSign (strip (plainly cs))
  let x? :=
    if body == "inf".toList || body == "infinity".toList then some (.infinite false)
    else if body == "nan".toList then some .undefined
    else
      match Decimal.splitSign body with
      | (_, unsigned) => if unsigned.length == body.length then Decimal.ofChars? body else none
  match x? with
  | none => .error (.noFloat (String.ofList cs))
  | some x => .ok (if negative then -x else x)

def realOf (n : Nat) : Except BuildError Binary64 :=
  match Binary64.ofInt n with
  | .finite x => .ok (.finite x)
  | _ => .error .tooLarge

/-- Parts between colons, the last of them first, added to a sum; `unit` is what the first of them
counts. -/
def sexagesimalReal (sum : Binary64) (unit : Nat) :
    List Binary64 → Except BuildError Binary64
  | [] => .ok sum
  | x :: rest => do sexagesimalReal (sum + x * (← realOf unit)) (unit * 60) rest

/-- A number with a point: infinite, undefined, in sixtieths or decimal. The name of what is
undefined always stands for the same, and so does not have the number `id` of this one. -/
def float (id : Nat) (cs : List Char) : Except BuildError Value := do
  let lowered := Text.lowerChars (cs.filter (· != '_'))
  let (negative, body) ← signed lowered
  let sign (x : Binary64) : Value := .ofReal id (if negative then -x else x)
  if body == ".inf".toList then return sign (.infinite false)
  else if body == ".nan".toList then return .undefined 0
  else if body.contains ':' then
    return sign (← sexagesimalReal (.zero false) 1 (← (Plain.parts body).mapM realNumber).reverse)
  else return sign (← realNumber body)

def bool (cs : List Char) : Except BuildError Bool :=
  let word := Text.lowerChars cs
  if ["yes", "true", "on"].any (fun w => w.toList == word) then .ok true
  else if ["no", "false", "off"].any (fun w => w.toList == word) then .ok false
  else .error (.noTruthValue (String.ofList word))

def base64Digit? (c : Char) : Option Nat :=
  if 'A' ≤ c && c ≤ 'Z' then some (c.toNat - 'A'.toNat)
  else if 'a' ≤ c && c ≤ 'z' then some (c.toNat - 'a'.toNat + 26)
  else if '0' ≤ c && c ≤ '9' then some (c.toNat - '0'.toNat + 52)
  else if c == '+' then some 62
  else if c == '/' then some 63
  else none

/-- The octets of a base 64 text from a place on where `count` digits of a group are read, of which
`bits` is what they leave over, and `pads` padding marks. Other characters are passed over, and what
follows the end of the padding is not read. -/
def base64 (count bits pads : Nat) : List Char → Except BuildError (List UInt8)
  | [] => if count == 0 then .ok [] else .error .malformed
  | '=' :: rest =>
    if 2 ≤ count && 4 ≤ count + pads + 1 then .ok []
    else base64 count bits (if 2 ≤ count then pads + 1 else pads) rest
  | c :: rest =>
    match base64Digit? c with
    | none => base64 count bits pads rest
    | some d =>
      match count with
      | 0 => base64 1 d 0 rest
      | 1 => (UInt8.ofNat (bits * 4 + d / 16) :: ·) <$> base64 2 (d % 16) 0 rest
      | 2 => (UInt8.ofNat (bits * 16 + d / 4) :: ·) <$> base64 3 (d % 4) 0 rest
      | _ => (UInt8.ofNat (bits * 64 + d) :: ·) <$> base64 0 0 0 rest

def binary (cs : List Char) : Except BuildError (List UInt8) :=
  if cs.all (fun c => c.toNat < 0x80) then base64 0 0 0 cs else .error .malformed

/-- The distance from universal time that a zone names, in seconds. -/
def offsetOf (zone : Option (Bool × List Char × List Char)) : Int :=
  match zone with
  | none => 0
  | some (negative, hour, minute) =>
    let n := Decimal.natOfDigits hour * 3600 + Decimal.natOfDigits minute * 60
    if negative then -(n : Int) else n

/-- A date, or a date with a time. The zone is checked first, then the date, then the time. -/
def timestamp (cs : List Char) : Except BuildError Value :=
  match Stamp.ofChars? cs with
  | none => .error .noTimestamp
  | some s =>
    let number := Decimal.natOfDigits
    let date : Calendar.Date := ⟨number s.year, number s.month, number s.day⟩
    match s.time with
    | none =>
      match date.fault? with
      | some e => .error (.calendar e)
      | none => .ok (.date date)
    | some (hour, minute, second) =>
      let places := s.fraction.take 6
      let micro := number (places ++ List.replicate (6 - places.length) '0')
      let offset := s.zone.map offsetOf
      let moment : Calendar.DateTime :=
        ⟨date, ⟨number hour, number minute, number second, micro, offset⟩⟩
      match (offset.bind Calendar.offsetFault?).or moment.fault? with
      | some e => .error (.calendar e)
      | none => .ok (.dateTime moment)

end Scalar

end SheetFill.Yaml
