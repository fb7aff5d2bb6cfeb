import SheetFill.Sheet.Basic
import SheetFill.Marker

/-!
# Reading a template

Classification of the cells of a sheet. Reading a position creates its cell, but a template row
below the last row of the sheet is not read at all, so that the bounds stay as they are.
-/
namespace SheetFill

/-- A step on a sheet that may fail; what it changed before it failed stays. -/
abbrev SheetAction := EStateM Sheet.Error Sheet

namespace Sheet

def cell (col row : Nat) : SheetAction Cell := fun s =>
  match s.access col row with
  | .ok (c, s) => .ok c s
  | .error e => .error e s

def columns (s : Sheet) : List Nat := List.range' 1 s.maxCol

def readColumns (row : Nat) : List Nat → SheetAction (List (Nat × CellMarker))
  | [] => pure []
  | col :: rest => do
    let c ← cell col row
    let others ← readColumns row rest
    return (col, (Marker.ofValue c.value).inTemplateRow) :: others

/-- The markers of a template row, column by column; a row below the sheet has none. -/
def readTemplateRow (row : Nat) : SheetAction (List (Nat × CellMarker)) := do
  let s ← get
  if s.maxRow < row then return [] else readColumns row s.columns

/-- The marker in a cell. A block marker comes with the columns of the row below. -/
def classify (col row : Nat) : SheetAction Marker := do
  let c ← cell col row
  match Marker.ofValue c.value with
  | .each name _ => return .each name (← readTemplateRow (row + 1))
  | marker => return marker

end Sheet

end SheetFill
