import SheetFill.Sheet.Reference

/-!
# Merged ranges

Of a merged range only the first cell is left; the others are covered. The lines around the range
are those of its first cell, to which the bottom line of its last cell is added, and the protection
of the first cell is that of all.
-/
namespace SheetFill

namespace Range

/-- The range that a text such as `B3:C4` names; a single address is a range of one cell. -/
def parse? (s : String) : Option Range :=
  let cs := s.toList
  let first := String.ofList (cs.takeWhile (· != ':'))
  let rest := (cs.dropWhile (· != ':')).drop 1
  let last := if rest.isEmpty then first else String.ofList rest
  match Address.parse? first, Address.parse? last with
  | some (c, r), some (c', r') => if c ≤ c' && r ≤ r' then some ⟨c, r, c', r'⟩ else none
  | _, _ => none

def others (r : Range) : List (Nat × Nat) := r.positions.drop 1

end Range

namespace Sheet

/-- Adds lines to the border of a cell where it has none. -/
def addLines (s : Sheet) (left bottom : Option String) (position : Nat × Nat) : Sheet :=
  let (col, row) := position
  let c := (s.get? col row).getD Cell.covered
  s.put col row { c with style := { c.style with border := c.style.border.or left bottom } }

/-- Covers the cells of a range, protects them like the first one and draws the lines. -/
def cover (s : Sheet) (r : Range) : Sheet :=
  let first := (s.get? r.firstCol r.firstRow).getD Cell.blank
  let bottom := ((s.get? r.lastCol r.lastRow).bind (·.style.border.bottom))
  let border := first.style.border.or none bottom
  let covered :=
    { Cell.covered with style := { Style.plain with protection := first.style.protection } }
  let s := s.put r.firstCol r.firstRow { first with style := { first.style with border } }
  let s := r.others.foldl (fun s (col, row) => s.put col row covered) s
  let s := (r.rows.map (fun row => (r.firstCol, row))).foldl (·.addLines border.left none) s
  (r.cols.map (fun col => (col, r.lastRow))).foldl (·.addLines none border.bottom) s

def merge (s : Sheet) (r : Range) : Sheet :=
  let s := s.cover r
  { s with merged := s.merged ++ [r] }

end Sheet

end SheetFill
