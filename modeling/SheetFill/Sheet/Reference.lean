import SheetFill.Sheet.Reading

/-!
# References

A reference names cells by their columns, by their rows or by both: `B3` is one cell, `B` a column,
`3` a row, and `A1:B3`, `A:B` and `1:3` are ranges. Where one cell is wanted any other reference is
refused, but only after its cells were asked for, so that they exist afterwards.
-/
namespace SheetFill

namespace Range

def cols (r : Range) : List Nat := List.range' r.firstCol (r.lastCol + 1 - r.firstCol)

def rows (r : Range) : List Nat := List.range' r.firstRow (r.lastRow + 1 - r.firstRow)

def positions (r : Range) : List (Nat × Nat) :=
  r.rows.flatMap (fun row => r.cols.map (fun col => (col, row)))

end Range

/-- One end of a reference: a column, the digits of a row, both or neither. -/
structure Corner where
  col? : Option Nat
  digits : List Char
  deriving DecidableEq, Repr

def Corner.read (cs : List Char) : Corner × List Char :=
  let cs := Address.dropDollar cs
  let letters := (cs.takeWhile Char.isAlpha).take 3
  let cs := Address.dropDollar (cs.drop letters.length)
  let digits := cs.takeWhile Text.isDigit
  let col? := if letters.isEmpty then none else some (Address.columnOf letters)
  (⟨col?, digits⟩, cs.drop digits.length)

/-- The row of a corner, unless its number has more digits than are read. -/
def Corner.row? (c : Corner) : Except Sheet.Error (Option Nat) :=
  if c.digits.isEmpty then .ok none
  else if Decimal.maxDigits < c.digits.length then .error (.tooManyDigits c.digits.length)
  else .ok (some (Text.natOfDigits c.digits))

/-- The columns and the rows that a reference begins and ends with. Both ends name the same of
column and row. -/
structure Reference where
  firstCol? : Option Nat
  firstRow? : Option Nat
  lastCol? : Option Nat
  lastRow? : Option Nat
  deriving DecidableEq, Repr

namespace Reference

def between (first last : Corner) : Except Sheet.Error Reference := do
  return ⟨first.col?, ← first.row?, last.col?, ← last.row?⟩

/-- The reference that a text stands for. A single corner is both ends; a range has corners that
name something. -/
def parse (text : String) : Except Sheet.Error Reference :=
  match Corner.read text.toList with
  | (first, ':' :: cs) =>
    let (last, rest) := Corner.read cs
    if Address.isEnd rest && first.col?.isSome == last.col?.isSome &&
        first.digits.isEmpty == last.digits.isEmpty &&
        (first.col?.isSome || !first.digits.isEmpty)
    then between first last
    else .error (.noReference text)
  | (first, rest) =>
    if Address.isEnd rest then between first first else .error (.noReference text)

/-- A reference without a column and without a row above zero names nothing. -/
def isEmpty (r : Reference) : Bool :=
  r.firstCol?.isNone && r.firstRow?.getD 0 == 0 && r.lastRow?.getD 0 == 0

/-- The positions that a reference names on a sheet. What it leaves open reaches to the bounds of
the sheet, and row zero counts as left open. -/
def range (r : Reference) (s : Sheet) : Range where
  firstCol := r.firstCol?.getD 1
  firstRow := max 1 (r.firstRow?.getD 1)
  lastCol := r.lastCol?.getD s.maxCol
  lastRow := match r.lastRow?.getD 0 with
    | 0 => s.maxRow
    | row => row

end Reference

namespace Sheet

/-- Refuses a text that is not the address of one cell. -/
def refuse (text : String) : SheetAction Unit := do
  match Reference.parse text with
  | .error e => throw e
  | .ok r =>
    if r.isEmpty then throw (.emptyReference text)
    let range := r.range (← get)
    range.positions.forM (fun (col, row) => discard (cell col row))
    throw .severalCells

end Sheet

end SheetFill
