import SheetFill.Workbook.Saved
import SheetFill.Json.Reader
import SheetFill.Json.Writer

/-!
# Files of saved workbooks

The text of a saved workbook: a list of sheets, each with its title, its rows and its merged ranges.
A cell is a list of the kind of its value, the value and the groups of its style; a position without
a cell is null.
-/
namespace SheetFill

namespace Encoding

def ofOption (s : Option String) : Value :=
  match s with
  | some s => .text s
  | none => .null

def option? : Value → Option (Option String)
  | .null => some none
  | .text s => s.string?.map some
  | _ => none

def ofFont (f : Font) : Value :=
  .list [.bool f.bold, .bool f.italic, .int f.size, ofOption f.color, .bool f.chosen]

def font? : Value → Option Font
  | .list [.bool bold, .bool italic, .int size, color, .bool chosen] => do
    return ⟨bold, italic, size, ← option? color, chosen⟩
  | _ => none

def ofBorder (b : Border) : Value :=
  .list [ofOption b.left, ofOption b.bottom, .bool b.chosen]

def border? : Value → Option Border
  | .list [left, bottom, .bool chosen] => do
    return ⟨← option? left, ← option? bottom, chosen⟩
  | _ => none

def ofAlignment (a : Alignment) : Value :=
  .list [ofOption a.horizontal,
    match a.wrapText with
    | some b => .bool b
    | none => .null]

def alignment? : Value → Option Alignment
  | .list [horizontal, .bool wrapText] => do
    return ⟨← option? horizontal, some wrapText⟩
  | .list [horizontal, .null] => do
    return ⟨← option? horizontal, none⟩
  | _ => none

def ofProtection (p : Protection) : Value :=
  .list [.bool p.locked, .bool p.hidden]

def protection? : Value → Option Protection
  | .list [.bool locked, .bool hidden] => some ⟨locked, hidden⟩
  | _ => none

def ofStyle (s : Style) : List Value :=
  [ofFont s.font, ofOption s.fill, ofBorder s.border, ofAlignment s.alignment,
    ofProtection s.protection, .text s.numberFormat]

def style? : List Value → Option Style
  | [font, fill, border, alignment, protection, .text numberFormat] => do
    return ⟨← font? font, ← option? fill, ← border? border, ← alignment? alignment,
      ← protection? protection, ← numberFormat.string?⟩
  | _ => none

def ofValue : SavedValue → List Value
  | .nothing => [.null, .null]
  | .number digits => [.text "number", .text digits]
  | .text s => [.text "text", .text s]
  | .boolean b => [.text "boolean", .bool b]
  | .formula s => [.text "formula", .text s]
  | .error code => [.text "error", .text code]

def value? : Value → Value → Option SavedValue
  | .null, _ => some .nothing
  | .text kind, .bool b => if kind == ("boolean" : Text) then some (.boolean b) else none
  | .text kind, .text s =>
    if kind == ("number" : Text) then s.string?.map .number
    else if kind == ("text" : Text) then some (.text s)
    else if kind == ("formula" : Text) then some (.formula s)
    else if kind == ("error" : Text) then some (.error s)
    else none
  | _, _ => none

def ofCell (c : Option SavedCell) : Value :=
  match c with
  | none => .null
  | some c => .list (ofValue c.value ++ ofStyle c.style)

def cell? : Value → Option (Option SavedCell)
  | .null => some none
  | .list (kind :: value :: style) => do
    return some ⟨← value? kind value, ← style? style⟩
  | _ => none

def ofRange (r : Range) : Value :=
  .list [.int r.firstCol, .int r.firstRow, .int r.lastCol, .int r.lastRow]

def range? : Value → Option Range
  | .list [.int a, .int b, .int c, .int d] => some ⟨a.toNat, b.toNat, c.toNat, d.toNat⟩
  | _ => none

def items? : Value → Option (List Value)
  | .list items => some items
  | _ => none

def ofSheet (s : SavedSheet) : Value :=
  .map [(.text "title", .text s.title),
    (.text "rows", .list (s.rows.map (fun r => .list (r.map ofCell)))),
    (.text "merged", .list (s.merged.map ofRange))]

def sheet? : Value → Option SavedSheet
  | .map entries => do
    let .text title ← Value.lookup? entries "title" | none
    let rows ← (← items? (← Value.lookup? entries "rows")).mapM
      fun r => do (← items? r).mapM cell?
    let merged ← (← items? (← Value.lookup? entries "merged")).mapM range?
    return ⟨← title.string?, rows, merged⟩
  | _ => none

end Encoding

def SavedWorkbook.write (w : SavedWorkbook) : List Char :=
  Json.write (.list (w.map Encoding.ofSheet))

def SavedWorkbook.read? (text : List Char) : Option SavedWorkbook :=
  match Json.read text with
  | .ok (.list sheets) => sheets.mapM Encoding.sheet?
  | _ => none

end SheetFill
