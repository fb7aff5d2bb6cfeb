import SheetFill.Sheet.Reading

/-!
# Rows given by any number

Rows can be inserted before a row of any number and by any count. A negative count moves rows up.
Rows that pass the first one are out of reach from then on: nothing can move them any more, and
where they would have to move the change fails half-way.
-/
namespace SheetFill.Sheet

/-- Adds a row to those above the first row, `depth` below row zero; it covers one that is there
already. -/
def putAbove (depth width : Nat) : List (Nat × Nat) → List (Nat × Nat)
  | [] => [(depth, width)]
  | (d, w) :: rest =>
    if depth < d then (depth, width) :: (d, w) :: rest
    else if d == depth then (depth, width) :: rest
    else (d, w) :: putAbove depth width rest

/-- The sheet whose rows from number `row` on are completed with blank cells. -/
def completed (s : Sheet) (row : Nat) : Sheet :=
  if s.maxRow < row then s
  else { s with rows := s.body.take (row - 1) ++ s.rowsFrom row, used := true }

/-- Moves the rows from number `row` on up by `count`, over what is there. -/
def raiseRows (s : Sheet) (row count : Nat) : Except Error Sheet :=
  match s.movable row with
  | .error e => .error e
  | .ok () =>
    if s.maxRow < row then .ok s
    else
      let kept := s.body.take (row - 1)
      let moved := s.rowsFrom row
      let passing := min moved.length (count + 1 - row)
      let landed := moved.drop passing
      let target := kept.length - count
      let depths := (List.range passing).map (fun i => count - (row + i))
      .ok { s with
        rows := kept.take target ++ landed ++ kept.drop (target + landed.length)
        above := depths.foldl (fun above d => putAbove d s.maxCol above) s.above
        used := true }

/-- Moves the rows from number `row` on by `offset`, down or up. -/
def moveRows (s : Sheet) (row : Nat) (offset : Int) : Except Error Sheet :=
  if offset < 0 then s.raiseRows row (-offset).toNat else s.insertRows row offset.toNat

/-- Moves all rows. A row out of reach cannot be moved: of those the first that is met is named,
which is the highest when rows go down, and by then all rows in reach have moved. -/
def moveAll (offset : Int) : SheetAction Unit := fun s =>
  match s.above, s.above.getLast? with
  | (nearest, _) :: _, some (farthest, _) =>
    if 0 < offset then
      if s.used then
        match s.moveRows 1 offset with
        | .ok s => .error (.noSuchRow (-nearest)) { s with used := true }
        | .error e => .error e s
      else .error (.noSuchRow (-nearest)) s
    else .error (.noSuchRow (-farthest)) (if s.used then s.completed 1 else s)
  | _, _ =>
    if !s.used then .ok () s
    else
      match s.moveRows 1 offset with
      | .ok s => .ok () s
      | .error e => .error e s

/-- Moves the rows from any number on by `offset`. Row zero stands for all rows, and a lower number
is refused where there are rows to move. -/
def moveFrom (row offset : Int) : SheetAction Unit := fun s =>
  if row < 0 then if row ≤ s.highestRow then .error .belowOne s else .ok () s
  else if row = 0 then moveAll offset s
  else
    match s.moveRows row.toNat offset with
    | .ok s => .ok () s
    | .error e => .error e s

def insertBefore (row count : Int) : SheetAction Unit := do
  moveFrom row count
  modify inserted

def removeAt (row : Int) : SheetAction Unit := fun s =>
  if 0 < row then
    match s.removeRow row.toNat with
    | .ok s => .ok () s
    | .error e => .error e s
  else
    let outOfReach := s.highestRow == row
    match moveFrom (row + 1) (-1) s with
    | .ok () s => .ok () (if outOfReach then { s with above := s.above.drop 1 } else s).removed
    | .error e s => .error e s

/-- Reads the markers of the template row of any number; a row above the first one has no cells to
be asked for. -/
def templateRowAt (row : Int) : SheetAction (List (Nat × CellMarker)) := do
  if 0 < row then readTemplateRow row.toNat
  else if (← get).highestRow < row then return []
  else throw .belowOne

end SheetFill.Sheet
