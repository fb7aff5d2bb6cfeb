import SheetFill.Sheet.Style
import SheetFill.Sheet.NumberFormat
import SheetFill.Value.Text
import SheetFill.Text.Utf8

/-!
# Cells

A cell holds a value, the kind of the value and a style. The covered cells of a merged range hold
nothing and refuse every value. Assigning a date to a cell whose number format shows no date also
sets the format.
-/
namespace SheetFill

inductive CellKind where
  | number
  | text
  | boolean
  | formula
  | error
  | date
  | covered
  deriving DecidableEq, Repr

structure Cell where
  value : Value
  kind : CellKind
  style : Style

namespace Cell

def blank : Cell := ⟨.null, .number, .plain⟩

def covered : Cell := ⟨.null, .covered, .plain⟩

inductive Error where
  | notStorable (v : Value)
  | illegalText (s : Text)
  | undecodable (e : Text.Utf8.Failure)
  | readOnly

/-- A value that cannot be shown is named only as that. -/
def Error.message : Error → String
  | .notStorable v =>
    match v.shown? with
    | some shown => "Cannot convert " ++ shown ++ " to Excel"
    | none => Decimal.unwritableMessage
  | .illegalText s => s.printed ++ " cannot be used in worksheets."
  | .undecodable e => e.message
  | .readOnly => "'MergedCell' object attribute 'value' is read-only"

def isIllegal (p : Point) : Bool :=
  let n := p.number
  n ≤ 0x08 || n == 0x0B || n == 0x0C || (0x0E ≤ n && n ≤ 0x1F)

def maxTextLength : Nat := 32767

def errorCodes : List Text :=
  ["#NULL!", "#DIV/0!", "#VALUE!", "#REF!", "#NAME?", "#NUM!", "#N/A"]

/-- A text that begins with an equals sign and goes on is a formula. -/
def textKind (s : Text) : CellKind :=
  match s.points with
  | .char '=' :: _ :: _ => .formula
  | _ => if errorCodes.contains s then .error else .text

/-- What is stored for a text: it is cut to the greatest length and must then be legal. -/
def textContent (s : Text) : Except Error (Value × CellKind) :=
  let kept : Text := ⟨s.points.take maxTextLength⟩
  if kept.points.any isIllegal then .error (.illegalText kept)
  else .ok (.text kept, textKind kept)

/-- The number format that a value asks for where the present one shows no date. -/
def formatFor? : Value → Option String
  | .date _ => some NumberFormat.dateFormat
  | .dateTime _ => some NumberFormat.dateTimeFormat
  | .time _ => some NumberFormat.timeFormat
  | .duration _ => some NumberFormat.durationFormat
  | _ => none

/-- What a cell stores for a value, and as what kind. Octets are stored as the text they encode. -/
def content (v : Value) : Except Error (Value × CellKind) :=
  match v with
  | .null | .int _ | .real _ | .undefined _ => .ok (v, .number)
  | .bool _ => .ok (v, .boolean)
  | .text s => textContent s
  | .bytes octets =>
    match Text.Utf8.decode octets with
    | .ok cs => textContent (.ofChars cs)
    | .error e => .error (.undecodable e)
  | .date _ | .dateTime _ | .time _ | .duration _ => .ok (v, .date)
  | _ => .error (.notStorable v)

/-- The kind that a cell is left with when a value is refused. -/
def kindAfter : Error → CellKind → CellKind
  | .notStorable _, _ => .number
  | .illegalText _, _ => .text
  | .undecodable _, _ => .text
  | .readOnly, kind => kind

/-- The style of a cell after a value was stored in it. -/
def styleFor (v : Value) (s : Style) : Style :=
  match formatFor? v with
  | some format =>
    if NumberFormat.showsDate s.numberFormat then s else { s with numberFormat := format }
  | none => s

/-- The cell after an assignment, and why the value was refused if it was; a refused value leaves
the old one in place. -/
def assign (c : Cell) (v : Value) : Cell × Option Error :=
  if c.kind == .covered then (c, some .readOnly)
  else
    match content v with
    | .ok (stored, kind) => (⟨stored, kind, styleFor v c.style⟩, none)
    | .error e => ({ c with kind := kindAfter e c.kind }, some e)

end Cell

end SheetFill
