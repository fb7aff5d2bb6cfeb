import SheetFill.Proofs.Expansion.Scanning
import SheetFill.Proofs.Expansion.Progress

/-!
# The same field in a row and in a block

A field is written to a cell that has its style already, or to a new cell that is given the style of
its template behind the value. Both cells then hold the same value as the same kind. They differ
only where the value itself asks for a number format, which the style that comes last takes back.
-/
namespace SheetFill

open Sheet (lastRow)

def Record.single (name : Text) (v : Value) : Record := .mapping [(.text name, v)]

def Record.listing (list name : Text) (v : Value) : Record :=
  .single list (.list [.map [(.text name, v)]])

theorem Record.field?_single (name : Text) (v : Value) :
    (Record.single name v).field? name = .ok (some v) := by
  simp [single, field?, hasField, getField, Value.lookup?]

theorem Record.field?_single_of_ne {name other : Text} (h : name ≠ other) (v : Value) :
    (Record.single name v).field? other = .ok none := by
  simp [single, field?, hasField, Value.lookup?, h]

/-! ## Cells -/

namespace Cell

/-- Whether a cell is no block marker and takes the field that it names, if the record has it. -/
def accepts (c : Cell) (record : Record) : Bool :=
  match Marker.ofValue c.value with
  | .each _ _ => false
  | marker => (c.filled marker.inTemplateRow record).2.isNone

def rendered (c : Cell) (record : Record) : Cell :=
  (c.filled (Marker.ofValue c.value).inTemplateRow record).1

variable {c t : Cell} {x : Text} {v stored : Value} {kind : CellKind}

theorem assign_of_content (hc : c.kind ≠ .covered) (hv : content v = .ok (stored, kind)) :
    c.assign v = (⟨stored, kind, styleFor v c.style⟩, none) := by
  have hk : (c.kind == .covered) = false := by simpa using hc
  simp only [assign, hk, hv, Bool.false_eq_true, if_false]

theorem kind_ne_covered_of_accepts (hm : Marker.ofValue c.value = .field x)
    (h : c.accepts (.single x v)) : c.kind ≠ .covered := by
  intro hk
  simp [accepts, hm, Marker.inTemplateRow, filled, Record.field?_single, assign, hk] at h

theorem rendered_single (hm : Marker.ofValue c.value = .field x)
    (h : c.accepts (.single x v)) (hv : content v = .ok (stored, kind)) :
    c.rendered (.single x v) = ⟨stored, kind, styleFor v c.style⟩ := by
  rw [rendered, hm]
  simp only [Marker.inTemplateRow, filled, Record.field?_single,
    assign_of_content (kind_ne_covered_of_accepts hm h) hv]

theorem drawn_single (hm : Marker.ofValue t.value = .field x)
    (hv : content v = .ok (stored, kind)) :
    t.drawn (.single x v) = ⟨stored, kind, t.style⟩ := by
  rw [drawn, hm]
  simp only [Marker.inTemplateRow, filled, Record.field?_single,
    assign_of_content (c := blank) (by simp [blank]) hv]

/-- Whatever a template row names, a record with one field that can be stored is no obstacle. -/
theorem filled_blank_single (hv : content v = .ok (stored, kind)) (marker : CellMarker) :
    (blank.filled marker (.single x v)).2 = none := by
  cases marker with
  | plain => rfl
  | field name =>
    by_cases hname : x = name
    · subst hname
      simp only [filled, Record.field?_single, assign_of_content (c := blank) (by simp [blank]) hv]
      rfl
    · simp only [filled, Record.field?_single_of_ne hname]

theorem styleFor_eq_self {s : Style}
    (h : formatFor? v = none ∨ NumberFormat.showsDate s.numberFormat = true) :
    styleFor v s = s := by
  rcases h with h | h
  · simp [styleFor, h]
  · cases hf : formatFor? v <;> simp [styleFor, hf, h]

end Cell

/-! ## Lines that are filled without a block -/

namespace Line

variable {record : Record} {c : Cell}

def rendered (line : Line) (record : Record) : Line := line.map (·.rendered record)

theorem scan_cons_of_accepts (h : c.accepts record) (rest : Line) :
    scan record (c :: rest) = (scan record rest).behind (c.rendered record) := by
  cases hm : Marker.ofValue c.value with
  | plain => simp [scan, hm, Cell.rendered, Marker.inTemplateRow, Cell.filled]
  | field name =>
    rcases hf : c.filled (.field name) record with ⟨c', _ | e⟩
    · simp [scan, hm, Cell.rendered, Marker.inTemplateRow, hf]
    · simp [Cell.accepts, hm, Marker.inTemplateRow, hf] at h
  | each name columns => simp [Cell.accepts, hm] at h

theorem scan_of_accepts {line : Line} (h : ∀ c ∈ line, c.accepts record) :
    scan record line = .plain (line.rendered record) := by
  induction line with
  | nil => rfl
  | cons c line ih =>
    rw [scan_cons_of_accepts (h c (by simp)), ih fun d hd => h d (by simp [hd])]
    rfl

theorem scan_append_block {line : Line} {name : Text} {columns : List (Nat × CellMarker)}
    (h : ∀ c ∈ line, c.accepts record) (hc : Marker.ofValue c.value = .each name columns)
    (rest : Line) :
    scan record (line ++ c :: rest) = .block (line.rendered record ++ c :: rest) name := by
  induction line with
  | nil => simp [scan, hc, rendered]
  | cons d line ih =>
    rw [List.cons_append, scan_cons_of_accepts (h d (by simp)), ih fun e he => h e (by simp [he])]
    rfl

end Line

namespace Lines

variable {record : Record} {n : Notes}

/-- Lines that take the fields of the record are filled where they stand. -/
theorem fill_append_of_accepts {ls : List Line} (h : ∀ line ∈ ls, ∀ c ∈ line, c.accepts record)
    (rest : List Line) : ∀ {row : Nat}, row + ls.length ≤ lastRow + 1 →
    fill record row (ls ++ rest) n =
      ⟨ls.map (·.rendered record) ++ (fill record (row + ls.length) rest n).content,
        (fill record (row + ls.length) rest n).notes,
        (fill record (row + ls.length) rest n).failure?⟩ := by
  induction ls with
  | nil =>
    intro row _
    rfl
  | cons line ls ih =>
    intro row hlast
    rw [List.length_cons] at hlast
    have hnext : row + (line :: ls).length = row + 1 + ls.length := by
      rw [List.length_cons, Nat.add_assoc, Nat.add_comm 1]
    rw [List.cons_append, fill_plain (by omega) (Line.scan_of_accepts (h line (by simp))),
      ih (fun l hl => h l (by simp [hl])) (by omega), hnext]
    rfl

theorem fill_of_accepts {ls : List Line} (h : ∀ line ∈ ls, ∀ c ∈ line, c.accepts record)
    {row : Nat} (hlast : row + ls.length ≤ lastRow + 1) :
    fill record row ls n = ⟨ls.map (·.rendered record), n, none⟩ := by
  have hfill := fill_append_of_accepts (n := n) h [] hlast
  simpa [fill] using hfill

end Lines

/-! ## Blocks that are expanded to the end -/

/-- Whatever a template row names, it can be written to a new cell. -/
def Record.Storable (child : Record) : Prop := ∀ marker, (Cell.blank.filled marker child).2 = none

namespace Line

variable {child : Record} {row : Nat}

theorem restyled_of_reach {n : Notes} {col : Nat} (hn : n.refusal = none)
    (hrow : row + 1 ≤ lastRow) (hcol : 1 ≤ col) (hlast : col ≤ Address.lastColumn) :
    ∃ n', restyled col row n = (n', none) ∧ n'.refusal = none := by
  have hletters (k : Nat) : Address.text? col k =
      some (String.ofList (Address.lettersWithin 3 col) ++ toString k) := by
    simp [Address.text?, Address.letters?, hcol, hlast]
  rw [restyled, if_neg (by omega), hletters, hletters]
  exact Notes.attempt_of_refusal hn _

/-- A row is drawn to its end where all its columns have letters. -/
theorem draw_of_reach (hchild : child.Storable) (hrow : row + 1 ≤ lastRow) (template : Line) :
    ∀ {col : Nat} {n : Notes}, n.refusal = none → 1 ≤ col →
    col + template.length ≤ Address.lastColumn + 1 →
    ∃ line n', draw child row col template n = ⟨line, n', none⟩ ∧ n'.refusal = none := by
  induction template with
  | nil =>
    intro col n hn _ _
    exact ⟨[], n, rfl, hn⟩
  | cons t template ih =>
    intro col n hn hcol hlast
    rw [List.length_cons] at hlast
    rcases hc : Cell.blank.filled (Marker.ofValue t.value).inTemplateRow child with ⟨c, _ | e⟩
    · obtain ⟨n₁, hn₁, hr₁⟩ := restyled_of_reach hn hrow hcol (by omega)
      obtain ⟨line, n₂, hline, hr₂⟩ := ih hr₁ (Nat.le_succ_of_le hcol) (by omega)
      exact ⟨{ c with style := t.style } :: line, n₂, by simp only [draw, hc, hn₁, hline], hr₂⟩
    · have hnone := hchild (Marker.ofValue t.value).inTemplateRow
      rw [hc] at hnone
      cases hnone

end Line

namespace Lines

variable {source : Option Nat} {template : Line} {below : List Line}

theorem draw_of_reach (source : Option Nat) (hcol : template.length ≤ Address.lastColumn)
    (items : List Value) (hitems : ∀ item ∈ items, (Record.ofValue item).Storable) :
    ∀ {row : Nat} {n : Notes}, n.refusal = none → 1 ≤ row →
    row + below.length + items.length ≤ lastRow →
    ∃ ls n', draw source (template :: below) row (items.map .value) n = ⟨ls, n', none⟩ ∧
      n'.refusal = none := by
  induction items with
  | nil =>
    intro row n hn _ _
    exact ⟨[], n, rfl, hn⟩
  | cons item items ih =>
    intro row n hn hrow hlast
    rw [List.length_cons] at hlast
    have hleave : (n.leave source (items.map .value)).refusal = none := by
      rw [Notes.refusal_leave, hn]
    have hobstacle : obstacle (row - 1 + (template :: below).length) row = none := by
      apply obstacle_of_le
      rw [List.length_cons]
      omega
    obtain ⟨n₁, hinsert, hn₁⟩ := Notes.attempt_of_refusal hleave (.insertRow row 1)
    have hreach : row + 1 ≤ lastRow := by omega
    obtain ⟨line, n₂, hline, hn₂⟩ := Line.draw_of_reach (hitems item (by simp)) hreach template hn₁
      le_rfl (by omega)
    obtain ⟨ls, n₃, hls, hn₃⟩ := ih (fun i hi => hitems i (by simp [hi])) hn₂
      (Nat.le_succ_of_le hrow) (by omega)
    refine ⟨line :: ls, n₃, ?_, hn₃⟩
    rw [List.map_cons, draw, hobstacle, hinsert]
    simp only [hline, hls]

/-- A block is expanded to its end where all rows stay in reach while the marker row and the
template row are still there. -/
theorem expandItems_of_reach {row : Nat} {n : Notes} (line : Line) {items : List Value}
    (hitems : ∀ item ∈ items, (Record.ofValue item).Storable) (hn : n.refusal = none)
    (hcol : template.length ≤ Address.lastColumn)
    (hlast : row + 1 + below.length + items.length ≤ lastRow) :
    (expandItems row line source (items.map .value) (template :: below) n).failure? = none := by
  obtain ⟨ls, n₁, hd, hn₁⟩ := draw_of_reach source hcol items hitems hn (Nat.le_add_left 1 row)
    hlast
  have hlen : ls.length = items.length := by
    have hlen := length_draw source template below (items.map .value) (row + 1) n
    simpa [hd] using hlen
  have hcount : row + ls.length + (template :: below).length ≤ lastRow := by
    rw [List.length_cons]
    omega
  obtain ⟨n₂, hmarker, hn₂⟩ := Notes.attempt_of_refusal hn₁ (.removeRow row)
  obtain ⟨n₃, htemplate, -⟩ :=
    Notes.attempt_of_refusal hn₂ (.removeRow (row + (items.map StreamItem.value).length))
  rw [expandItems_of_drawn hd (by rw [obstacle_of_le hcount, hmarker])
    (by rw [obstacle_of_le ((Nat.sub_le _ 1).trans hcount), htemplate])]

section Block

variable {xs : Text} {item : Value} {n : Notes}

theorem blockItems_single (streams : Streams) :
    blockItems (.single xs (.list [item])) xs streams =
      .ok (some (none, [item].map .value)) := by
  rw [blockItems, Record.field?_single]
  rfl

variable {above below : List Line} {before behind template : Line} {e : Cell}
  {columns : List (Nat × CellMarker)}

/-- Filling lines of which one is the marker row of a block with one item ends as expanding the
block ends, and puts the row for the item in the place of the two rows of the block. -/
theorem fill_single_block {record : Record} {ls : List Line}
    (hrecord : record = .single xs (.list [item]))
    (hls : ls = above ++ (before ++ e :: behind) :: template :: below)
    (h : ∀ line ∈ above ++ before :: below, ∀ c ∈ line, c.accepts record)
    (he : Marker.ofValue e.value = .each xs columns) (hlast : ls.length ≤ lastRow) :
    (fill record 1 ls n).failure? =
        (expandItems (above.length + 1) (before.rendered record ++ e :: behind) none
          ([item].map .value) (template :: below) n).failure? ∧
      ((fill record 1 ls n).failure? = none →
        (fill record 1 ls n).content = above.map (·.rendered record) ++
          template.drawn (Record.ofValue item) :: below.map (·.rendered record)) := by
  subst hls
  simp only [List.length_append, List.length_cons] at hlast
  have habove : ∀ line ∈ above, ∀ c ∈ line, c.accepts record := fun l hl => h l (by simp [hl])
  have hbefore : ∀ c ∈ before, c.accepts record := h before (by simp)
  have hbelow : ∀ line ∈ below, ∀ c ∈ line, c.accepts record := fun l hl => h l (by simp [hl])
  rw [fill_append_of_accepts habove _ (by omega), Nat.add_comm 1]
  have hs := Line.scan_append_block hbefore he behind
  have hrow : above.length + 1 ≤ lastRow := by omega
  have hitems : blockItems record xs n.streams = .ok (some (none, [item].map .value)) := by
    rw [hrecord, blockItems_single]
  rcases hd : expandItems (above.length + 1) (before.rendered record ++ e :: behind) none
    ([item].map .value) (template :: below) n with ⟨ls, n₁, f?⟩
  have hb : block record (above.length + 1) (before.rendered record ++ e :: behind) xs
      (template :: below) n = ⟨ls, n₁, f?⟩ := by
    rw [block, if_neg (by omega), expand, hitems]
    exact hd
  -- either all rows above and the block were passed, or the block is where filling stops
  cases f? with
  | some f =>
    rw [fill_block_stopped hrow hs hb rfl]
    simp
  | none =>
    obtain ⟨vs, hvs, rfl, -⟩ := expandItems_eq_children hrow hitems hd
    obtain rfl : vs = [item] := by
      rw [← (List.map_injective_iff.mpr fun _ _ => StreamItem.value.inj) hvs]
    have hrest : fill record (above.length + 1 + 1) below n₁ =
        ⟨below.map (·.rendered record), n₁, none⟩ := fill_of_accepts hbelow (by omega)
    rw [fill_block hrow hs hb rfl hrest]
    exact ⟨rfl, fun _ => rfl⟩

end Block

end Lines

/-! ## A row and a block of a sheet -/

/-- A cell in a row of a sheet that has no block and that takes the fields of a record wherever one
is named. -/
structure Sheet.FieldRow (s : Sheet) (record : Record) (c : Cell) where
  above : List Line
  left : Line
  right : Line
  below : List Line
  lines_eq : s.lines = above ++ (left ++ c :: right) :: below
  accepts : ∀ line ∈ s.lines, ∀ d ∈ line, d.accepts record
  maxRow_le : s.maxRow ≤ lastRow

/-- A cell in the template row of the only block of a sheet, which otherwise takes the fields of a
record wherever one is named. -/
structure Sheet.FieldBlock (s : Sheet) (record : Record) (name : Text) (t : Cell) where
  above : List Line
  before : Line
  marker : Cell
  behind : Line
  left : Line
  right : Line
  below : List Line
  lines_eq : s.lines = above ++ (before ++ marker :: behind) :: (left ++ t :: right) :: below
  names : ∃ columns, Marker.ofValue marker.value = .each name columns
  accepts : ∀ line ∈ above ++ before :: below, ∀ d ∈ line, d.accepts record
  maxRow_le : s.maxRow ≤ lastRow

theorem Sheet.Reads.getD_get? {s : Sheet} {w : Nat} {ls above below : List Line} {left right : Line}
    {c : Cell} (h : s.Reads w ls) (hls : ls = above ++ (left ++ c :: right) :: below) :
    (s.get? (left.length + 1) (above.length + 1)).getD .blank = c := by
  subst hls
  exact Sheet.cell_eq (h.lines_eq (by simp))

/-- A sheet without blocks is filled to the end, each cell by itself. -/
theorem Run.fill_fieldRow (run : Run) (record : Record) {c : Cell}
    (r : run.sheet.FieldRow record c) :
    (run.fill record).failure? = none ∧
      ((run.fill record).run.sheet.get? (r.left.length + 1) (r.above.length + 1)).getD .blank =
        c.rendered record := by
  obtain ⟨s, hfill, hr, -⟩ := run.fill_eq record
  have hlast : 1 + run.sheet.lines.length ≤ lastRow + 1 := by
    rw [Sheet.length_lines]
    have hmax := r.maxRow_le
    omega
  rw [Lines.fill_of_accepts r.accepts hlast] at hfill hr
  rw [hfill]
  rw [r.lines_eq, List.map_append, List.map_cons, Line.rendered, List.map_append,
    List.map_cons] at hr
  exact ⟨rfl, by simpa [Notes.on] using hr.getD_get? rfl⟩

/-- A sheet with a block of one item is filled to the end where it has a row to spare and letters
for its columns, and the row for the item comes to stand in the place of the marker row. -/
theorem Run.fill_fieldBlock (run : Run) {xs : Text} {item : Value} {t : Cell}
    (b : run.sheet.FieldBlock (.single xs (.list [item])) xs t) :
    (run.refusal = none → (Record.ofValue item).Storable → run.sheet.maxRow < lastRow →
        run.sheet.maxCol ≤ Address.lastColumn →
        (run.fill (.single xs (.list [item]))).failure? = none) ∧
      ((run.fill (.single xs (.list [item]))).failure? = none →
        ((run.fill (.single xs (.list [item]))).run.sheet.get? (b.left.length + 1)
          (b.above.length + 1)).getD .blank = t.drawn (Record.ofValue item)) := by
  obtain ⟨columns, hmarker⟩ := b.names
  obtain ⟨hfailure, hcontent⟩ := Lines.fill_single_block (n := run.notes) rfl b.lines_eq b.accepts
    hmarker (run.sheet.length_lines.trans_le b.maxRow_le)
  obtain ⟨s, hfill, hr, -⟩ := run.fill_eq (.single xs (.list [item]))
  rw [hfill]
  refine ⟨fun hrefusal hitem hrow hcol => ?_, fun h => ?_⟩
  · have hwidth : (b.left ++ t :: b.right).length = run.sheet.maxCol :=
      Sheet.length_of_mem_lines (by simp [b.lines_eq])
    have hmax : run.sheet.maxRow = b.above.length + (b.below.length + 2) := by
      rw [← Sheet.length_lines, b.lines_eq]
      simp
    refine hfailure.trans (Lines.expandItems_of_reach _ (by simpa using hitem) hrefusal
      (hwidth.trans_le hcol) ?_)
    rw [List.length_singleton]
    omega
  · have hlines := hcontent h
    rw [Line.drawn, List.map_append, List.map_cons] at hlines
    simpa [Notes.on] using hr.getD_get? hlines

/-- The same value in the same column of a row and of the only row of a block, under the same style.
Both sheets are filled to the end, the one with the block where it has a row to spare and letters
for its columns, and the cells agree in value, kind and style. Only where the value asks for a
number format, as dates do, and the style shows no date, the cell of the row alone has that
format. -/
theorem Run.fieldCells_alike (scalar block : Run) {x xs : Text} {v stored : Value}
    {kind : CellKind} {c t : Cell} (r : scalar.sheet.FieldRow (.single x v) c)
    (b : block.sheet.FieldBlock (.listing xs x v) xs t)
    (hc : Marker.ofValue c.value = .field x) (ht : Marker.ofValue t.value = .field x)
    (hcol : b.left.length = r.left.length) (hstyle : t.style = c.style)
    (hv : Cell.content v = .ok (stored, kind)) :
    let filled := scalar.fill (.single x v)
    let expanded := block.fill (.listing xs x v)
    filled.failure? = none ∧
      (block.refusal = none → block.sheet.maxRow < lastRow →
        block.sheet.maxCol ≤ Address.lastColumn → expanded.failure? = none) ∧
      (expanded.failure? = none → ∃ ofRow ofBlock : Cell,
        (filled.run.sheet.get? (r.left.length + 1) (r.above.length + 1)).getD .blank = ofRow ∧
        (expanded.run.sheet.get? (r.left.length + 1) (b.above.length + 1)).getD .blank = ofBlock ∧
        ofRow.value = ofBlock.value ∧ ofRow.kind = ofBlock.kind ∧
        ofBlock = ⟨stored, kind, c.style⟩ ∧
        (Cell.formatFor? v = none ∨ NumberFormat.showsDate c.style.numberFormat = true →
          ofRow = ofBlock) ∧
        (∀ format, Cell.formatFor? v = some format →
          NumberFormat.showsDate c.style.numberFormat = false →
          ofRow = { ofBlock with style := { c.style with numberFormat := format } })) := by
  intro filled expanded
  obtain ⟨hfilled, hrow⟩ := scalar.fill_fieldRow _ r
  obtain ⟨hcomplete, hblock⟩ := block.fill_fieldBlock b
  have haccepts : c.accepts (.single x v) :=
    r.accepts (r.left ++ c :: r.right) (by rw [r.lines_eq]; simp) c (by simp)
  rw [Cell.rendered_single hc haccepts hv] at hrow
  refine ⟨hfilled, fun hrefusal => hcomplete hrefusal (Cell.filled_blank_single hv), fun h => ?_⟩
  have hdrawn : t.drawn (Record.ofValue (.map [(.text x, v)])) = ⟨stored, kind, c.style⟩ :=
    (Cell.drawn_single ht hv).trans (by rw [hstyle])
  have hcell := (hblock h).trans hdrawn
  rw [hcol] at hcell
  refine ⟨_, _, hrow, hcell, rfl, rfl, rfl, fun hsame => ?_, fun format hformat hshows => ?_⟩
  · rw [Cell.styleFor_eq_self hsame]
  · simp [Cell.styleFor, hformat, hshows]

def Cell.day : Cell := ⟨.text "$F{day}", .text, { Style.plain with fill := some "FFFF00" }⟩

def Run.dayRow : Run where
  sheet :=
    { title := "Day"
      rows := [[some ⟨.text "Day", .text, .plain⟩], [none, some .day]]
      merged := [] }
  streams := []
  edits := []
  refusal := none

def Run.dayBlock : Run where
  sheet :=
    { title := "Days"
      rows := [[some ⟨.text "$Each{days}", .text, .plain⟩], [none, some .day]]
      merged := [] }
  streams := []
  edits := []
  refusal := none

def Run.dayRowField : Run.dayRow.sheet.FieldRow (.single "day" (.text "May")) .day where
  above := [[⟨.text "Day", .text, .plain⟩, .blank]]
  left := [.blank]
  right := []
  below := []
  lines_eq := rfl
  accepts := by decide +kernel
  maxRow_le := by decide

def Run.dayBlockField :
    Run.dayBlock.sheet.FieldBlock (.listing "days" "day" (.text "May")) "days" .day where
  above := []
  before := []
  marker := ⟨.text "$Each{days}", .text, .plain⟩
  behind := [.blank]
  left := [.blank]
  right := []
  below := []
  lines_eq := rfl
  names := ⟨[], rfl⟩
  accepts := by decide +kernel
  maxRow_le := by decide

theorem Run.fieldCells_alike_day :
    let filled := Run.dayRow.fill (.single "day" (.text "May"))
    let expanded := Run.dayBlock.fill (.listing "days" "day" (.text "May"))
    filled.failure? = none ∧ expanded.failure? = none ∧
      (filled.run.sheet.get? 2 2).getD .blank = (expanded.run.sheet.get? 2 1).getD .blank := by
  obtain ⟨hrow, hcomplete, hcells⟩ := Run.fieldCells_alike Run.dayRow Run.dayBlock Run.dayRowField
    Run.dayBlockField rfl rfl rfl rfl rfl
  have hblock := hcomplete rfl (by decide) (by decide)
  obtain ⟨ofRow, ofBlock, hofRow, hofBlock, -, -, -, hsame, -⟩ := hcells hblock
  refine ⟨hrow, hblock, ?_⟩
  have hcol : Run.dayRowField.left.length + 1 = 2 := rfl
  have hrowRow : Run.dayRowField.above.length + 1 = 2 := rfl
  have hblockRow : Run.dayBlockField.above.length + 1 = 1 := rfl
  rw [hcol, hrowRow] at hofRow
  rw [hcol, hblockRow] at hofBlock
  rw [hofRow, hofBlock]
  exact hsame (.inl rfl)

/-- A date that is shown as one in the row is shown as a number in the block. -/
theorem Run.fieldCells_date :
    (Run.dayRow.fill (.single "day" (.date ⟨2024, 2, 29⟩))).failure? = none ∧
      (Run.dayBlock.fill (.listing "days" "day" (.date ⟨2024, 2, 29⟩))).failure? = none ∧
      (Run.dayRow.sheet.get? 2 2).map Cell.style = (Run.dayBlock.sheet.get? 2 2).map Cell.style ∧
      ((Run.dayRow.fill (.single "day" (.date ⟨2024, 2, 29⟩))).run.sheet.get? 2 2).map
          (·.style.numberFormat) = some "yyyy-mm-dd" ∧
      ((Run.dayBlock.fill (.listing "days" "day" (.date ⟨2024, 2, 29⟩))).run.sheet.get? 2 1).map
          (·.style.numberFormat) = some "General" := by
  decide +kernel

end SheetFill
