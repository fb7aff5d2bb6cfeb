/-!
# Limit on decimal digits

A whole number of more than 4300 decimal digits is neither read from text nor written to it.
-/
namespace SheetFill.Decimal

def maxDigits : Nat := 4300

def limitMessage (detail : String) : String :=
  "Exceeds the limit (" ++ toString maxDigits ++ " digits) for integer string conversion" ++
    detail ++ "; use sys.set_int_max_str_digits() to increase the limit"

def unreadableMessage (count : Nat) : String :=
  limitMessage (": value has " ++ toString count ++ " digits")

def unwritableMessage : String := limitMessage ""

def isWritable (n : Int) : Bool := n.natAbs < Nat.pow 10 maxDigits

end SheetFill.Decimal
