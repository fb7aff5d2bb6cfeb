import SheetFill.Decimal.Rounding

/-!
# Binary64 numbers

Floating-point numbers of 64 bits, finite ones with their exact values. A fraction is rounded to the
nearest number, and a half goes to the even mantissa; what lies beyond all finite numbers becomes
infinite.
-/
namespace SheetFill

/-- A mantissa has 53 bits, and fewer only at the least exponent, so that each value has one form
but for the sign of zero. -/
def Binary64.Fits (mantissa : Nat) (exponent : Int) : Prop :=
  mantissa < Nat.pow 2 53 ∧ (Nat.pow 2 52 ≤ mantissa ∨ exponent = -1074) ∧
    -1074 ≤ exponent ∧ exponent ≤ 971

instance (mantissa : Nat) (exponent : Int) : Decidable (Binary64.Fits mantissa exponent) :=
  inferInstanceAs (Decidable (_ ∧ _))

/-- The number `mantissa * 2 ^ exponent` with a sign in front. -/
structure Binary64.Finite where
  negative : Bool
  mantissa : Nat
  exponent : Int
  fits : Binary64.Fits mantissa exponent
  deriving DecidableEq, Repr

inductive Binary64 where
  | finite (x : Binary64.Finite)
  | infinite (negative : Bool)
  /-- What is no number. -/
  | undefined
  deriving DecidableEq, Repr

namespace Binary64

def zero (negative : Bool) : Binary64 := .finite ⟨negative, 0, -1074, by decide⟩

instance : Inhabited Binary64 := ⟨zero false⟩

/-- The number with a mantissa and an exponent, which is infinite if they are too large. -/
def ofParts (negative : Bool) (mantissa : Nat) (exponent : Int) : Binary64 :=
  if h : Fits mantissa exponent then .finite ⟨negative, mantissa, exponent, h⟩
  else .infinite negative

/-- The fraction `num / den` in units of `2 ^ e`. -/
def scaled (num den : Nat) (e : Int) : Nat × Nat :=
  if 0 ≤ e then (num, den * Nat.pow 2 e.toNat) else (num * Nat.pow 2 (-e).toNat, den)

/-- The `k` with `2 ^ k ≤ num / den < 2 ^ (k + 1)`. -/
def leadOf (num den : Nat) : Int :=
  let k : Int := (num.log2 : Int) - den.log2
  let (a, b) := scaled num den k
  if b ≤ a then k else k - 1

def ofFraction (negative : Bool) (num den : Nat) : Binary64 :=
  if num = 0 then zero negative
  else
    let e := max (leadOf num den - 52) (-1074)
    let (a, b) := scaled num den e
    let m := Decimal.quotientToEven a b
    if m = Nat.pow 2 53 then ofParts negative (Nat.pow 2 52) (e + 1) else ofParts negative m e

/-- The number nearest to `n * 2 ^ e`. Zero has the sign that is given. -/
def ofScaled (zeroNegative : Bool) (n : Int) (e : Int) : Binary64 :=
  let negative := if n = 0 then zeroNegative else decide (n < 0)
  if 0 ≤ e then ofFraction negative (n.natAbs * Nat.pow 2 e.toNat) 1
  else ofFraction negative n.natAbs (Nat.pow 2 (-e).toNat)

def ofInt (n : Int) : Binary64 := ofScaled false n 0

namespace Finite

/-- Numerator and denominator of the absolute value. -/
def fraction (x : Finite) : Nat × Nat :=
  if 0 ≤ x.exponent then (x.mantissa * Nat.pow 2 x.exponent.toNat, 1)
  else (x.mantissa, Nat.pow 2 (-x.exponent).toNat)

def signed (x : Finite) : Int := if x.negative then -x.mantissa else x.mantissa

def floor (x : Finite) : Int :=
  let (num, den) := x.fraction
  (if x.negative then -(num : Int) else num).fdiv den

def truncate (x : Finite) : Int :=
  let (num, den) := x.fraction
  if x.negative then -((num / den : Nat) : Int) else (num / den : Nat)

/-- The nearest whole number; a half goes to the even neighbour. -/
def round (x : Finite) : Int :=
  let (num, den) := x.fraction
  let n := Decimal.quotientToEven num den
  if x.negative then -(n : Int) else n

end Finite

def isNaN : Binary64 → Bool
  | .undefined => true
  | _ => false

/-- Whether a number is the whole number `n`, compared without rounding. -/
def isWhole (x : Binary64) (n : Int) : Bool :=
  match x with
  | .finite x =>
    let (num, den) := x.fraction
    (if x.negative then -(num : Int) else num) == n * den
  | _ => false

/-- Equality of values. The two zeros are equal, and what is no number equals nothing. -/
def same : Binary64 → Binary64 → Bool
  | .finite x, .finite y => (x.mantissa == 0 && y.mantissa == 0) || x == y
  | .infinite s, .infinite t => s == t
  | _, _ => false

def isZero : Binary64 → Bool
  | .finite x => x.mantissa == 0
  | _ => false

protected def neg : Binary64 → Binary64
  | .finite x => .finite { x with negative := !x.negative }
  | .infinite s => .infinite (!s)
  | .undefined => .undefined

instance : Neg Binary64 := ⟨Binary64.neg⟩

protected def add : Binary64 → Binary64 → Binary64
  | .finite x, .finite y =>
    let e := min x.exponent y.exponent
    ofScaled (x.negative && y.negative)
      (x.signed * Nat.pow 2 (x.exponent - e).toNat +
        y.signed * Nat.pow 2 (y.exponent - e).toNat) e
  | .infinite s, .infinite t => if s = t then .infinite s else .undefined
  | .infinite s, .finite _ => .infinite s
  | .finite _, .infinite s => .infinite s
  | _, _ => .undefined

instance : Add Binary64 := ⟨Binary64.add⟩

instance : Sub Binary64 := ⟨fun x y => x + -y⟩

protected def mul : Binary64 → Binary64 → Binary64
  | .finite x, .finite y =>
    ofScaled (x.negative != y.negative) (x.signed * y.signed) (x.exponent + y.exponent)
  | .infinite s, .infinite t => .infinite (s != t)
  | .infinite s, .finite y => if y.mantissa = 0 then .undefined else .infinite (s != y.negative)
  | .finite x, .infinite t => if x.mantissa = 0 then .undefined else .infinite (x.negative != t)
  | _, _ => .undefined

instance : Mul Binary64 := ⟨Binary64.mul⟩

def divNat (x : Binary64) (n : Nat) : Binary64 :=
  match x with
  | .finite x =>
    let (num, den) := x.fraction
    ofFraction x.negative num (den * n)
  | x => x

end Binary64

end SheetFill
