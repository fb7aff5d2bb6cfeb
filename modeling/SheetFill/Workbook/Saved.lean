import SheetFill.Calendar.Serial
import SheetFill.Sheet.Merge
import SheetFill.Text.Newlines

/-!
# Saved workbooks

What a saved workbook keeps of its sheets. A number is kept as its text, a date as a number whose
format shows a date, an empty text as nothing. A plain cell that holds nothing is not kept at all,
and merged ranges are kept as they were declared, so that they cover their cells again when the
workbook is opened. Some points are saved that cannot be read: a workbook with one of them in a cell
is not opened again.
-/
namespace SheetFill

inductive SavedValue where
  | nothing
  | number (digits : String)
  | text (s : Text)
  | boolean (b : Bool)
  | formula (s : Text)
  | error (code : Text)
  deriving DecidableEq, Repr

structure SavedCell where
  value : SavedValue
  style : Style
  deriving DecidableEq, Repr

structure SavedSheet where
  title : String
  rows : List (List (Option SavedCell))
  merged : List Range
  deriving DecidableEq, Repr

abbrev Workbook := List Sheet

abbrev SavedWorkbook := List SavedSheet

/-- Why a cell cannot be saved: its time has a distance from universal time, or its number is beyond
all that are stored. -/
inductive SaveError where
  | zoned
  | tooLarge
  deriving DecidableEq, Repr

def SaveError.message : SaveError → String
  | .zoned => "Excel does not support timezones in datetimes. " ++
      "The tzinfo in the datetime/time object must be set to None."
  | .tooLarge => "int too large to convert to float"

namespace SavedValue

/-- A number as its text; what is no finite number is kept as nothing. -/
def ofReal (x : Binary64) : SavedValue :=
  match x with
  | .finite b => .number (String.ofList (Decimal.storedChars b))
  | _ => .nothing

def ofInt (n : Int) : Except SaveError SavedValue :=
  match Binary64.ofInt n with
  | .finite b => .ok (ofReal (.finite b))
  | _ => .error .tooLarge

def ofTime (t : Calendar.Time) (serial : Binary64) : Except SaveError SavedValue :=
  if t.offset.isSome then .error .zoned else .ok (ofReal serial)

def ofText (kind : CellKind) (s : Text) : SavedValue :=
  if s.isEmpty then .nothing
  else
    match kind with
    | .formula => .formula s.unified
    | .error => .error s.unified
    | _ => .text s.unified

def ofCell (c : Cell) : Except SaveError SavedValue :=
  match c.value with
  | .bool b => .ok (.boolean b)
  | .int n => ofInt n
  | .real x => .ok (ofReal x)
  | .text s => .ok (ofText c.kind s)
  | .date d => .ok (ofReal d.serial)
  | .dateTime t => ofTime t.time t.serial
  | .time t => ofTime t t.serial
  | .duration d => .ok (ofReal d.serial)
  | _ => .ok .nothing

/-- The number with the digits of a saved one: whole unless it has a point or a power of ten. -/
def readNumber (digits : String) : Value :=
  let cs := digits.toList
  if cs.contains '.' || cs.contains 'e' then .real ((Decimal.ofChars? cs).getD (.zero false))
  else
    let (negative, body) := Decimal.splitSign cs
    let n : Int := Decimal.natOfDigits body
    .int (if negative then -n else n)

/-- What stands in a cell with a date format whose number is no date. -/
def noDate : Value × CellKind := (.text "#VALUE!", .error)

/-- What a number in a cell with a date format stands for. -/
def readDate (format : String) (number : Value) : Value × CellKind :=
  let (serial?, exact) : Option Calendar.Serial × (Int ⊕ Binary64) :=
    match number with
    | .int n => (some (.ofInt n), .inl n)
    | .real x => (Calendar.Serial.ofReal? x, .inr x)
    | _ => (none, .inl 0)
  if NumberFormat.showsDuration format then
    match Calendar.Duration.ofSerial? exact with
    | some d => (.duration d, .date)
    | none => noDate
  else
    match serial?.bind (·.moment?) with
    | some (.time t) => (.time t, .date)
    | some (.dateTime t) => (.dateTime t, .date)
    | none => noDate

/-- The text that is kept as such, whatever it stands for. -/
def text? : SavedValue → Option Text
  | .text s | .formula s | .error s => some s
  | _ => none

/-- The value and its kind in a cell with a number format. -/
def read (format : String) : SavedValue → Value × CellKind
  | .nothing => (.null, .number)
  | .number digits =>
    let number := readNumber digits
    if NumberFormat.showsDate format then readDate format number else (number, .number)
  | .text s => (.text s, .text)
  | .boolean b => (.bool b, .boolean)
  | .formula s => (.text s, .formula)
  | .error code => (.text code, .error)

end SavedValue

def Cell.saved? (c : Cell) : Except SaveError (Option SavedCell) :=
  match c.value with
  | .null => .ok (if c.style = .plain then none else some ⟨.nothing, c.style.kept⟩)
  | _ => do return some ⟨← SavedValue.ofCell c, c.style.kept⟩

def SavedCell.opened (c : SavedCell) : Cell :=
  let (value, kind) := c.value.read c.style.numberFormat
  ⟨value, kind, c.style⟩

def Row.saved (r : Row) : Except SaveError (List (Option SavedCell)) :=
  r.mapM fun c? =>
    match c? with
    | none => .ok none
    | some c => c.saved?

/-- What is kept of a sheet. The first cell in reading order that cannot be saved decides on the
error. -/
def Sheet.saved (s : Sheet) : Except SaveError SavedSheet := do
  return ⟨s.title, ← s.rows.mapM Row.saved, s.merged⟩

/-- The points that cannot be read in the texts of cells. The other texts of a workbook were read
from a file, or are the program's own. -/
def SavedSheet.illegible (s : SavedSheet) : List Point :=
  (s.rows.flatten.filterMap id).flatMap fun c =>
    (c.value.text?.getD "").points.filter (!·.isLegible)

/-- The sheet that a saved one is opened as if it can be read. -/
def SavedSheet.opened (s : SavedSheet) : Sheet :=
  let rows := s.rows.map (·.map (·.map SavedCell.opened))
  s.merged.foldl Sheet.cover { title := s.title, rows, merged := s.merged }

def Workbook.saved (w : Workbook) : Except SaveError SavedWorkbook :=
  w.mapM Sheet.saved

/-- The sheets that are saved before the first one that cannot be. -/
def Workbook.savedBefore : Workbook → SavedWorkbook
  | [] => []
  | s :: rest =>
    match s.saved with
    | .ok saved => saved :: savedBefore rest
    | .error _ => []

/-- The workbook that a saved one is opened as, or the first point that cannot be read. -/
def SavedWorkbook.opened (w : SavedWorkbook) : Except Point Workbook :=
  match w.flatMap SavedSheet.illegible with
  | [] => .ok (w.map SavedSheet.opened)
  | p :: _ => .error p

end SheetFill
