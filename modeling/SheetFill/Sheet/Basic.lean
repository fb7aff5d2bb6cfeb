import SheetFill.Sheet.Cell
import SheetFill.Sheet.Address

/-!
# Sheets

A sheet is sparse: a position holds a cell or nothing at all. Columns and rows are counted from one.
The bounds of a sheet are those of its existing cells, so that asking for a cell, which creates it,
can widen the sheet.

Inserting and removing rows moves all rows below. Every row that moves is first completed with
blank cells up to the last column; inserted rows hold no cells. Rows that are moved up beyond the
first one are out of reach, but their cells still exist and count for the bounds.
-/
namespace SheetFill

abbrev Row := List (Option Cell)

structure Range where
  firstCol : Nat
  firstRow : Nat
  lastCol : Nat
  lastRow : Nat
  deriving DecidableEq, Repr

/-- `merged` lists the merged ranges as they were declared; it does not follow the rows. `above`
has the rows out of reach that hold cells, each with how far its number lies below zero and its last
column; the nearest comes first. `used` tells whether the sheet has a highest row other than zero,
as far as that was noticed: a row whose cells are asked for counts at once, and rows that went away
count until the next insertion or removal. -/
structure Sheet where
  title : String
  rows : List Row
  merged : List Range
  above : List (Nat × Nat) := []
  used : Bool := true

namespace Row

/-- The last column that holds a cell, or zero. -/
def width : Row → Nat
  | [] => 0
  | c :: rest =>
    match width rest with
    | 0 => if c.isSome then 1 else 0
    | w + 1 => w + 2

/-- The row with a cell in the first `w` columns; where there was none it is blank. -/
def fill (w : Nat) (r : Row) : Row :=
  (List.range w).map (fun i => some ((r.getD i none).getD Cell.blank))

/-- The row with `c` behind the first `i` columns. -/
def put (c : Cell) : (i : Nat) → Row → Row
  | 0, [] => [some c]
  | 0, _ :: rest => some c :: rest
  | i + 1, [] => none :: put c i []
  | i + 1, x :: rest => x :: put c i rest

end Row

namespace Sheet

def empty (title : String) : Sheet where
  title
  rows := []
  merged := []
  used := false

inductive Error where
  | belowOne
  | noSuchRow (row : Int)
  | noColumnLetters (col : Nat)
  | noReference (text : String)
  | emptyReference (text : String)
  | tooManyDigits (count : Nat)
  | severalCells
  deriving DecidableEq, Repr

/-- The greatest row number at which a cell can be asked for. -/
def lastRow : Nat := 1048576

def Error.message : Error → String
  | .belowOne => "Row or column values must be at least 1"
  | .noSuchRow row =>
    "Row numbers must be between 1 and " ++ toString lastRow ++ ". Row number supplied was " ++
      toString row
  | .noColumnLetters col => "Invalid column index " ++ toString col
  | .noReference text | .emptyReference text => text ++ " is not a valid coordinate or range"
  | .tooManyDigits count => Decimal.unreadableMessage count
  | .severalCells => "'tuple' object has no attribute 'font'"

def height : List Row → Nat
  | [] => 0
  | r :: rest =>
    match height rest with
    | 0 => if r.width == 0 then 0 else 1
    | h + 1 => h + 2

/-- The number of the highest row that holds a cell; a sheet without cells has one row. -/
def highestRow (s : Sheet) : Int :=
  match height s.rows, s.above with
  | 0, (depth, _) :: _ => -depth
  | h, _ => max 1 h

/-- The highest row of the sheet that is in reach, or zero. -/
def maxRow (s : Sheet) : Nat := s.highestRow.toNat

/-- The highest column of the sheet; a sheet without cells has one column. -/
def maxCol (s : Sheet) : Nat := (s.rows.map Row.width ++ s.above.map (·.2)).foldl max 1

def get? (s : Sheet) (col row : Nat) : Option Cell :=
  match col, row with
  | c + 1, r + 1 => (s.rows.getD r []).getD c none
  | _, _ => none

def putRow (c : Cell) (i : Nat) : (j : Nat) → List Row → List Row
  | 0, [] => [Row.put c i []]
  | 0, r :: rest => Row.put c i r :: rest
  | j + 1, [] => [] :: putRow c i j []
  | j + 1, r :: rest => r :: putRow c i j rest

def put (s : Sheet) (col row : Nat) (c : Cell) : Sheet :=
  match col, row with
  | i + 1, j + 1 => { s with rows := putRow c i j s.rows, used := true }
  | _, _ => s

def access (s : Sheet) (col row : Nat) : Except Error (Cell × Sheet) :=
  if col < 1 || row < 1 then .error .belowOne
  else if lastRow < row then .error (.noSuchRow row)
  else
    match s.get? col row with
    | some c => .ok (c, s)
    | none => .ok (Cell.blank, s.put col row Cell.blank)

def body (s : Sheet) : List Row :=
  s.rows.take s.maxRow ++ List.replicate (s.maxRow - s.rows.length) []

/-- The rows from number `row` on, completed with blank cells. -/
def rowsFrom (s : Sheet) (row : Nat) : List Row :=
  (s.body.drop (row - 1)).map (Row.fill s.maxCol)

/-- Completing the rows from number `row` on asks for their cells, which fails beyond the last
row. -/
def movable (s : Sheet) (row : Nat) : Except Error Unit :=
  if row ≤ s.maxRow && lastRow < s.maxRow then .error (.noSuchRow (max row (lastRow + 1)))
  else .ok ()

def hasCells (s : Sheet) : Bool := height s.rows != 0 || !s.above.isEmpty

/-- The sheet after an insertion. A sheet without cells counts as having its first row. -/
def inserted (s : Sheet) : Sheet := { s with used := s.highestRow != 0 }

/-- The sheet after a removal. -/
def removed (s : Sheet) : Sheet := { s with used := s.hasCells && s.highestRow != 0 }

/-- Moves the rows from number `row` on down by `count`. Moving by nothing loses them. -/
def insertRows (s : Sheet) (row count : Nat) : Except Error Sheet :=
  match s.movable row with
  | .error e => .error e
  | .ok () =>
    let kept := s.body.take (row - 1)
    let rows :=
      if s.maxRow < row then s.rows
      else if count == 0 then kept
      else kept ++ List.replicate count [] ++ s.rowsFrom row
    .ok { s with rows }.inserted

/-- Takes out a row and moves those below it up. There is nothing to do below the highest row. -/
def removeRow (s : Sheet) (row : Nat) : Except Error Sheet :=
  match s.movable (row + 1) with
  | .error e => .error e
  | .ok () =>
    let rows := if s.maxRow < row then s.rows else s.body.take (row - 1) ++ s.rowsFrom (row + 1)
    .ok { s with rows }.removed

def restyle (s : Sheet) (col row : Nat) (f : Style → Style) : Except Error Sheet :=
  match s.access col row with
  | .error e => .error e
  | .ok (c, s) => .ok (s.put col row { c with style := f c.style })

def shown (s : Sheet) : Except Error String :=
  match Address.letters? s.maxCol with
  | none => .error (.noColumnLetters s.maxCol)
  | some letters =>
    .ok ("WorksheetGrid(" ++ Text.quoted s.title ++ ", rows=" ++ toString s.highestRow ++
      ", cols=" ++ letters ++ ")")

def cells (s : Sheet) : List (Nat × Nat × Cell) :=
  s.rows.zipIdx.flatMap fun (r, j) =>
    r.zipIdx.filterMap fun (c, i) => c.map (fun c => (i + 1, j + 1, c))

end Sheet

end SheetFill
