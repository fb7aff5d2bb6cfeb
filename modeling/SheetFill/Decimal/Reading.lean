import SheetFill.Binary64.Basic

/-!
# Reading decimal numbers

A decimal number is read as the nearest binary64 number.
-/
namespace SheetFill.Decimal

/-- The nearest number to `mantissa * 10 ^ exponent`, with a sign in front. What lies beyond the
largest number is infinite and what lies far below the smallest is zero, whatever the size of the
exponent. -/
def nearest (negative : Bool) (mantissa : Nat) (exponent : Int) : Binary64 :=
  if mantissa == 0 then .zero negative
  else
    let lead := ((Nat.toDigits 10 mantissa).length : Int) + exponent
    if lead > 400 then .infinite negative
    else if lead < -400 then .zero negative
    else if 0 ≤ exponent then .ofFraction negative (mantissa * Nat.pow 10 exponent.toNat) 1
    else .ofFraction negative mantissa (Nat.pow 10 (-exponent).toNat)

def isDigit (c : Char) : Bool :=
  '0' ≤ c && c ≤ '9'

def digitValue (c : Char) : Nat :=
  c.toNat - '0'.toNat

def natOfDigits (cs : List Char) : Nat :=
  cs.foldl (fun n c => n * 10 + digitValue c) 0

def splitSign : List Char → Bool × List Char
  | '-' :: rest => (true, rest)
  | '+' :: rest => (false, rest)
  | rest => (false, rest)

/-- The power of ten at the end of a number; it needs a digit. -/
def exponent? : List Char → Option Int
  | [] => some 0
  | c :: rest =>
    if c == 'e' || c == 'E' then
      let (negative, digits) := splitSign rest
      if digits.isEmpty || !digits.all isDigit then none
      else some (if negative then -(natOfDigits digits : Int) else natOfDigits digits)
    else none

/-- The nearest number to a decimal text such as `-12.5e3`: digits with at most one point among
them, a sign before and a power of ten behind if wanted. -/
def ofChars? (cs : List Char) : Option Binary64 :=
  let (negative, body) := splitSign cs
  let whole := body.takeWhile isDigit
  let afterWhole := body.dropWhile isDigit
  let (places, rest) :=
    match afterWhole with
    | '.' :: r => (r.takeWhile isDigit, r.dropWhile isDigit)
    | r => ([], r)
  if whole.isEmpty && places.isEmpty then none
  else
    (exponent? rest).map fun e =>
      nearest negative (natOfDigits (whole ++ places)) (e - places.length)

end SheetFill.Decimal
