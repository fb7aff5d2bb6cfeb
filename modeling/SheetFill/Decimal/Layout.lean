import SheetFill.Decimal.Digits

/-!
# Layout of decimal numbers

How the digits of a number become text: plainly, or with a power of ten behind the first digit.
-/
namespace SheetFill.Decimal

structure Layout where
  /-- The least and the greatest power of ten of the first digit that are written plainly. -/
  plainFrom : Int
  plainTo : Int
  /-- Whether a whole number that is written plainly ends in `.0`. -/
  keepsPoint : Bool

/-- Numbers in messages: plain from 0.0001 to below 10 ^ 16. -/
def Layout.message : Layout := ⟨-4, 15, true⟩

def Layout.stored : Layout := ⟨-4, 15, false⟩

def digitChars (ds : List Nat) : List Char :=
  ds.map Nat.digitChar

/-- The power of ten, with a sign and at least two digits. -/
def exponentChars (e : Int) : List Char :=
  let digits := Nat.toDigits 10 e.natAbs
  'e' :: (if e < 0 then '-' else '+') :: (if digits.length < 2 then '0' :: digits else digits)

def Layout.chars (l : Layout) (d : Digits) : List Char :=
  if d.digits.isEmpty then if l.keepsPoint then ['0', '.', '0'] else ['0']
  else
    let lead := d.point - 1
    if l.plainFrom ≤ lead && lead ≤ l.plainTo then
      if d.point ≤ 0 then
        '0' :: '.' :: List.replicate (-d.point).toNat '0' ++ digitChars d.digits
      else
        let whole := d.point.toNat
        let front := d.digits.take whole
        let back := d.digits.drop whole
        let zeros := List.replicate (whole - front.length) '0'
        digitChars front ++ zeros ++
          (if back.isEmpty then if l.keepsPoint then ['.', '0'] else []
            else '.' :: digitChars back)
    else
      let back := digitChars (d.digits.drop 1)
      digitChars (d.digits.take 1) ++ (if back.isEmpty then [] else '.' :: back) ++
        exponentChars lead

def signed (negative : Bool) (cs : List Char) : List Char :=
  if negative then '-' :: cs else cs

/-- The text of a number in a message: the fewest digits that read back as it. What is undefined has
no sign. -/
def shown (x : Binary64) : String :=
  match x with
  | .undefined => "nan"
  | .infinite negative => String.ofList (signed negative "inf".toList)
  | .finite b => String.ofList (signed b.negative (Layout.message.chars (shortest b)))

/-- The text of a number in a stored workbook: sixteen significant digits. -/
def storedChars (b : Binary64.Finite) : List Char :=
  let (num, den) := b.fraction
  let digits := if num == 0 then ⟨[], 0⟩ else rounded num den 16
  signed b.negative (Layout.stored.chars digits)

end SheetFill.Decimal
