import SheetFill.Decimal.Limit
import SheetFill.Text.Digit

/-!
# Cell addresses

Columns are counted in letters: A to Z, then AA to ZZ, then AAA to ZZZ, which is base 26 without a
zero. An address is the letters of a column followed by the number of a row, in the digits of any
script.
-/
namespace SheetFill.Address

def letter (d : Nat) : Char :=
  Char.ofNat ('A'.toNat + d)

/-- The letters of a column; `n` is at least one and `fuel` bounds the number of letters. -/
def lettersWithin : (fuel n : Nat) → List Char
  | 0, _ => []
  | fuel + 1, n =>
    if n == 0 then []
    else lettersWithin fuel ((n - 1) / 26) ++ [letter ((n - 1) % 26)]

/-- The last column that has letters. -/
def lastColumn : Nat := 18278

def letters? (col : Nat) : Option String :=
  if 1 ≤ col && col ≤ lastColumn then some (String.ofList (lettersWithin 3 col)) else none

def columnOf (cs : List Char) : Nat :=
  cs.foldl (fun n c => n * 26 + (c.toUpper.toNat - 'A'.toNat + 1)) 0

def text? (col row : Nat) : Option String :=
  (letters? col).map (fun letters => letters ++ toString row)

/-- A dollar sign may precede either part of an address. -/
def dropDollar : List Char → List Char
  | '$' :: rest => rest
  | cs => cs

def isEnd (cs : List Char) : Bool := cs.isEmpty || cs == ['\n']

/-- The column and the row of an address, behind which a line may end. The number of the row has no
more digits than are read. -/
def parse? (address : String) : Option (Nat × Nat) :=
  let cs := dropDollar address.toList
  let letters := cs.takeWhile Char.isAlpha
  let cs := dropDollar (cs.dropWhile Char.isAlpha)
  let digits := cs.takeWhile Text.isDigit
  if letters.isEmpty || 3 < letters.length || digits.isEmpty ||
    Decimal.maxDigits < digits.length || !isEnd (cs.drop digits.length) then none
  else some (columnOf letters, Text.natOfDigits digits)

end SheetFill.Address
