/-!
# Rounding of quotients

A quotient of natural numbers is rounded to the nearest whole number, and a half goes to the even
neighbour.
-/
namespace SheetFill.Decimal

def quotientToEven (num den : Nat) : Nat :=
  let q := num / den
  let rest := 2 * (num % den)
  if rest < den || (rest == den && q % 2 == 0) then q else q + 1

end SheetFill.Decimal
