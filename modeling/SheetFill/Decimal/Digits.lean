import SheetFill.Binary64.Basic

/-!
# Decimal digits of a fraction

A positive fraction is written as a whole number of a given number of digits times a power of ten:
either the fewest digits that identify a binary64 number among its neighbours, or a fixed number of
digits rounded to nearest.
-/
namespace SheetFill.Decimal

/-- The number `0.d₁d₂…dₙ · 10 ^ point`, with the digits most significant first. -/
structure Digits where
  digits : List Nat
  point : Int
  deriving DecidableEq, Repr

def digitsOf (n : Nat) : List Nat :=
  if n == 0 then [] else (Nat.toDigits 10 n).map (fun c => c.toNat - '0'.toNat)

/-- The least `k ≤ fuel` with `den ≤ num * 10 ^ k`. -/
def leadingZeros (num den : Nat) : (fuel : Nat) → Nat
  | 0 => 0
  | fuel + 1 => if den ≤ num then 0 else leadingZeros (num * 10) den fuel + 1

/-- The `p` with `10 ^ (p - 1) ≤ num / den < 10 ^ p`. -/
def pointOf (num den : Nat) : Int :=
  if den ≤ num then ((Nat.toDigits 10 (num / den)).length : Int)
  else 1 - (leadingZeros num den 400 : Int)

/-- The fraction `num / den` in units of `10 ^ (point - count)`. -/
def scaled (num den : Nat) (point : Int) (count : Nat) : Nat × Nat :=
  let shift := (count : Int) - point
  if 0 ≤ shift then (num * Nat.pow 10 shift.toNat, den) else (num, den * Nat.pow 10 (-shift).toNat)

/-- Trailing zeros carry nothing. -/
def Digits.trimmed (d : Digits) : Digits :=
  { d with digits := (d.digits.reverse.dropWhile (· == 0)).reverse }

def rounded (num den count : Nat) : Digits :=
  let point := pointOf num den
  let (a, b) := scaled num den point count
  let q := quotientToEven a b
  if q == Nat.pow 10 count then ⟨[1], point + 1⟩ else (Digits.mk (digitsOf q) point).trimmed

/-- The reals that read back as `m * 2 ^ e` run from `low` to `high`, in quarters of `2 ^ e`; the
ends belong to them if `m` is even. Below a power of two the spacing is half as wide. -/
def quarterBounds (b : Binary64.Finite) : Nat × Nat :=
  let low := if b.mantissa == Nat.pow 2 52 && b.exponent != -1074 then 1 else 2
  (4 * b.mantissa - low, 4 * b.mantissa + 2)

/-- The better of the two neighbours of the number on the grid of `count` digits, if one of them
reads back as the number. -/
def candidate? (b : Binary64.Finite) (point : Int) (count : Nat) : Option Nat :=
  let (num, den) := b.fraction
  let (a, d) := scaled num den point count
  let (low, high) := quarterBounds b
  let even := b.mantissa % 2 == 0
  let reads (q : Nat) : Bool :=
    -- `q` in units of the grid against the bounds, all over a common denominator
    let lhs := q * d * 4 * b.mantissa
    if even then low * a ≤ lhs && lhs ≤ high * a else low * a < lhs && lhs < high * a
  let q := a / d
  let r := a % d
  if r == 0 then some q
  else
    match reads q, reads (q + 1) with
    | true, true => some (if 2 * r < d || (2 * r == d && q % 2 == 0) then q else q + 1)
    | true, false => some q
    | false, true => some (q + 1)
    | false, false => none

/-- The first grid of at least `count` digits that has a candidate. -/
def shortestFrom (b : Binary64.Finite) (point : Int) : (fuel count : Nat) → Digits
  | 0, _ => ⟨[], 0⟩
  | fuel + 1, count =>
    match candidate? b point count with
    | some q =>
      if q == Nat.pow 10 count then ⟨[1], point + 1⟩ else (Digits.mk (digitsOf q) point).trimmed
    | none => shortestFrom b point fuel (count + 1)

/-- The fewest digits that read back as the number, and of those the nearest to it. Seventeen
always do. -/
def shortest (b : Binary64.Finite) : Digits :=
  if b.mantissa == 0 then ⟨[], 0⟩
  else
    let (num, den) := b.fraction
    shortestFrom b (pointOf num den) 18 1

end SheetFill.Decimal
