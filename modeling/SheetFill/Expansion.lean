import SheetFill.Sheet.Reference
import SheetFill.Record

/-!
# Expansion of a template

Fills a sheet in place. Rows are scanned from the top, cells from the left. A field marker is
replaced by the value of its field. The first block marker of a row ends the scan of that row: the
row below is its template row, one row is generated above the template row for each item of the
collection, and then the marker row and the template row are taken out. Scanning goes on behind the
generated rows, so that values of the model are never read as markers. Where the model does not
have the collection both rows stay as they are and are passed over.

A failure leaves the sheet as it is at that moment.
-/
namespace SheetFill

inductive StreamItem where
  | value (v : Value)
  | fails

abbrev Streams := List (List StreamItem)

inductive EditKind where
  | insertRow
  | removeRow
  | cloneStyle
  deriving DecidableEq, Repr

inductive Edit where
  | insertRow (row count : Nat)
  | removeRow (row : Nat)
  | cloneStyle (source target : String)
  deriving DecidableEq, Repr

def Edit.kind : Edit → EditKind
  | .insertRow _ _ => .insertRow
  | .removeRow _ => .removeRow
  | .cloneStyle _ _ => .cloneStyle

def EditKind.name : EditKind → String
  | .insertRow => "insert_row_before"
  | .removeRow => "remove_row"
  | .cloneStyle => "clone_style"

inductive Failure where
  | sheet (e : Sheet.Error)
  | cell (e : Cell.Error)
  | record (e : Record.Error)
  | notIterable (kind : String)
  | streamFailed
  | refused (kind : EditKind)

def Failure.message : Failure → String
  | .sheet e => e.message
  | .cell e => e.message
  | .record e => e.message
  | .notIterable kind => "'" ++ kind ++ "' object is not iterable"
  | .streamFailed => "generator failed"
  | .refused kind => kind.name ++ " failed"

/-- The state of an expansion: the sheet, what is left of the streams, the edits so far, and the
edit that will be refused, by its kind and how many of that kind are still to come up to it. -/
structure Run where
  sheet : Sheet
  streams : Streams
  edits : List Edit
  refusal : Option (EditKind × Nat)

/-- A step of an expansion; what it changed before it failed stays. -/
abbrev Step := EStateM Failure Run

namespace Expansion

def onSheet {α : Type} (action : SheetAction α) : Step α := fun run =>
  match action run.sheet with
  | .ok a s => .ok a { run with sheet := s }
  | .error e s => .error (.sheet e) { run with sheet := s }

def ofRecord {α : Type} (answer : Except Record.Error α) : Step α :=
  match answer with
  | .ok a => pure a
  | .error e => throw (.record e)

def act (f : Sheet → Except Sheet.Error Sheet) : SheetAction Unit := fun s =>
  match f s with
  | .ok s => .ok () s
  | .error e => .error e s

/-- Notes an edit and carries it out, unless it is the one to be refused. -/
def edit (e : Edit) (action : SheetAction Unit) : Step Unit := do
  modify (fun run => { run with edits := run.edits ++ [e] })
  match (← get).refusal with
  | none => onSheet action
  | some (kind, n) =>
    if kind != e.kind then onSheet action
    else if n ≤ 1 then
      modify (fun run => { run with refusal := none })
      throw (.refused kind)
    else
      modify (fun run => { run with refusal := some (kind, n - 1) })
      onSheet action

def insertRow (row : Nat) : Step Unit :=
  edit (.insertRow row 1) (act (·.insertRows row 1))

def removeRow (row : Nat) : Step Unit :=
  edit (.removeRow row) (act (·.removeRow row))

/-- Gives the cell at an address the style `style`. -/
def restyleAt (address : String) (style : Style) : SheetAction Unit :=
  match Address.parse? address with
  | none => Sheet.refuse address
  | some (col, row) => act fun s =>
    if row < 1 then .error (.noSuchRow row) else s.restyle col row (fun _ => style)

def cloneStyleFromBelow (col row : Nat) : Step Unit := do
  let below ← onSheet (Sheet.cell col (row + 1))
  match Address.text? col (row + 1), Address.text? col row with
  | some source, some target => edit (.cloneStyle source target) (restyleAt target below.style)
  | _, _ => throw (.sheet (.noColumnLetters col))

def assign (col row : Nat) (v : Value) : Step Unit := do
  let c ← onSheet (Sheet.cell col row)
  let (c, error?) := c.assign v
  modify (fun run => { run with sheet := run.sheet.put col row c })
  match error? with
  | some e => throw (.cell e)
  | none => pure ()

/-- Writes the field that a marker names to a cell, if the record has it. -/
def fillCell (col row : Nat) (marker : CellMarker) (record : Record) : Step Unit := do
  let _ ← onSheet (Sheet.cell col row)
  match marker with
  | .plain => pure ()
  | .field name =>
    match ← ofRecord (record.field? name) with
    | some v => assign col row v
    | none => pure ()

/-- Fills the columns of a generated row, which stands directly above its template row. -/
def fillRow (row : Nat) (child : Record) : List (Nat × CellMarker) → Step Unit
  | [] => pure ()
  | (col, marker) :: rest => do
    fillCell col row marker child
    cloneStyleFromBelow col row
    fillRow row child rest

/-- Notes what is left of the stream that is being gone through, if it is one. -/
def leave (source : Option Nat) (rest : List StreamItem) : Step Unit :=
  match source with
  | none => pure ()
  | some id => modify (fun run => { run with streams := run.streams.set id rest })

/-- Generates a row for each item, the first of them at `row`, and gives the row behind them. -/
def generate (source : Option Nat) (columns : List (Nat × CellMarker)) :
    (row : Nat) → List StreamItem → Step Nat
  | row, [] => pure row
  | _, .fails :: rest => do
    leave source rest
    throw .streamFailed
  | row, .value item :: rest => do
    leave source rest
    insertRow row
    fillRow row (Record.ofValue item) columns
    generate source columns (row + 1) rest

/-- The items of a collection and the stream they come from, if they do. What counts as false is an
empty collection. -/
def collection (v : Value) : Step (Option Nat × List StreamItem) :=
  if !v.isTrue then pure (none, [])
  else
    match v.items with
    | .all items => pure (none, items.map .value)
    | .stream id => do return (some id, (← get).streams.getD id [])
    | .none => throw (.notIterable v.kindName)

/-- Expands the block whose marker stands in `row` and gives the row to be scanned next. -/
def expandBlock (row : Nat) (name : Text) (columns : List (Nat × CellMarker))
    (record : Record) : Step Nat := do
  if !(← ofRecord (record.hasField name)) then return row + 2
  let (source, items) ← collection (← ofRecord (record.getField name))
  let behind ← generate source columns (row + 1) items
  removeRow row
  removeRow (behind - 1)
  return behind - 1

/-- Scans the given columns of a row and gives the row to be scanned next. -/
def scanRow (record : Record) (row : Nat) : List Nat → Step Nat
  | [] => pure (row + 1)
  | col :: rest => do
    match ← onSheet (Sheet.classify col row) with
    | .plain => scanRow record row rest
    | .field name =>
      fillCell col row (.field name) record
      scanRow record row rest
    | .each name columns => expandBlock row name columns record

/-- Scans from `row` to the end of the sheet, whose bounds are read anew before each row, through at
most `fuel` rows; tells whether the end was reached. -/
def scan (record : Record) : (fuel row : Nat) → Step Bool
  | 0, row => do return (← get).sheet.maxRow < row
  | fuel + 1, row => do
    let s := (← get).sheet
    if s.maxRow < row then return true
    let next ← scanRow record row s.columns
    scan record fuel next

/-- Fills the sheet from a record. A sheet of `h` rows takes at most `h + 1` rows of scanning: each
row of the template is met once, and a sheet that was emptied still has one row. -/
def fill (record : Record) : Step Unit := do
  let s := (← get).sheet
  let _ ← scan record (s.maxRow + 1) 1

end Expansion

structure Outcome where
  run : Run
  failure? : Option Failure

def Run.fill (run : Run) (record : Record) : Outcome :=
  match Expansion.fill record run with
  | .ok _ run => ⟨run, none⟩
  | .error e run => ⟨run, some e⟩

end SheetFill
