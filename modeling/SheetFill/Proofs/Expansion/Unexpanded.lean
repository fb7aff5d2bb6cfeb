import SheetFill.Proofs.Expansion.Parts

/-!
# Blocks that are not expanded

Where the record does not have the collection of a block, the marker row and the template row come
to stand below what was made of the rows above them. The template row is as it was, and so is the
marker row from its marker on. To the left of the marker the row was filled before the marker was
met, so that it is as it was only as far as no field there is one of the record.
-/
namespace SheetFill

/-- What a value is in a row that was filled: what is stored for the field that it names, if the
record has it. -/
def Record.written (record : Record) (x : Value) : Value :=
  (record.stored? (Marker.ofValue x).inTemplateRow).getD x

theorem Record.written_eq_self {record : Record} {x : Value}
    (h : ∀ name, Marker.ofValue x = .field name → record.hasField name = .ok false) :
    record.written x = x := by
  cases hm : Marker.ofValue x with
  | field name => simp [written, hm, Marker.inTemplateRow, stored?, field?, h name hm]
  | _ => simp [written, hm, Marker.inTemplateRow, stored?]

theorem Rows.filled_of_block (record : Record) {row : List Value} {name : Text}
    (h : block? row = some name) :
    ∃ left e right columns, row = left ++ e :: right ∧
      (∀ x ∈ left, ∀ name columns, Marker.ofValue x ≠ .each name columns) ∧
      Marker.ofValue e = .each name columns ∧
      filled record row = left.map record.written ++ e :: right := by
  induction row with
  | nil => cases h
  | cons x row ih =>
    cases hm : Marker.ofValue x with
    | each name' columns =>
      simp only [block?, hm, Option.some.injEq] at h
      subst h
      exact ⟨[], x, row, columns, rfl, by simp, hm, by simp [filled, hm]⟩
    | plain =>
      simp only [block?, hm] at h
      obtain ⟨left, e, right, columns, rfl, hleft, he, hfilled⟩ := ih h
      refine ⟨x :: left, e, right, columns, rfl, ?_, he, ?_⟩
      · simpa [hm] using hleft
      · simp [filled, hm, hfilled, Record.written, Marker.inTemplateRow, Record.stored?]
    | field field =>
      simp only [block?, hm] at h
      obtain ⟨left, e, right, columns, rfl, hleft, he, hfilled⟩ := ih h
      refine ⟨x :: left, e, right, columns, rfl, ?_, he, ?_⟩
      · simpa [hm] using hleft
      · simp [filled, hm, hfilled, Record.written, Marker.inTemplateRow]

theorem Line.values_of_filled {record : Record} {line line' : Line} (h : line.Filled record line') :
    line'.values = Rows.filled record line.values := by
  induction h with
  | nil => rfl
  | @cell c c' line line' hc hf h ih =>
    have hvalue := Cell.value_eq_of_filled hf
    cases hm : Marker.ofValue c.value with
    | plain =>
      rw [hm] at hvalue
      simpa [values, Rows.filled, hm, hvalue, Marker.inTemplateRow, Record.stored?] using ih
    | field name =>
      rw [hm] at hvalue
      simpa [values, Rows.filled, hm, hvalue, Marker.inTemplateRow] using ih
    | each name columns => exact absurd hm (hc name columns)
  | block hc => simp [values, Rows.filled, hc]

namespace Part

variable {record : Record}

def height : Part → Nat
  | plain _ => 1
  | kept _ template? => 1 + template?.toList.length
  | expanded _ template? items => (Lines.children template?.toList items).length

theorem height_eq_of_becomes {part : Part} {out : List Line} (h : part.Becomes record out) :
    part.height = out.length := by
  cases h with
  | plain h => rfl
  | kept h => simp [height, Nat.add_comm]
  | expanded => rfl

def Fits (record : Record) : Part → Prop
  | plain line => Rows.block? line.values = none
  | kept marker _ => ∃ name, Rows.block? marker.values = some name ∧
      ∀ v, record.field? name ≠ .ok (some v)
  | expanded marker _ _ => ∃ name v, Rows.block? marker.values = some name ∧
      record.field? name = .ok (some v)

theorem Fits.eq_kept {part : Part} (h : part.Fits record) {marker : Line} {below : List Line}
    {name : Text} (hsource : part.source = marker :: below)
    (hname : Rows.block? marker.values = some name) (hfield : record.hasField name = .ok false) :
    ∃ template?, part = .kept marker template? ∧ template?.toList = below := by
  cases part with
  | plain line =>
    obtain ⟨rfl, -⟩ := List.cons.inj hsource
    cases h.symm.trans hname
  | kept line template? =>
    obtain ⟨rfl, hbelow⟩ := List.cons.inj hsource
    exact ⟨template?, rfl, hbelow⟩
  | expanded line template? items =>
    obtain ⟨rfl, -⟩ := List.cons.inj hsource
    obtain ⟨name', v, hname', hv⟩ := h
    obtain rfl := Option.some.inj (hname'.symm.trans hname)
    simp [Record.field?, hfield] at hv

end Part

namespace Lines

variable {record : Record}

theorem fits_of_mem_parts (ls : List Line) (streams : Streams) :
    ∀ part ∈ parts record streams ls, part.Fits record := by
  induction streams, ls using parts_induction record with
  | nil streams => simp [parts]
  | plain streams line below hb ih =>
    rw [parts_plain hb, List.forall_mem_cons]
    exact ⟨hb, ih⟩
  | kept streams line below name hb hf ih =>
    rw [parts_kept hb hf, List.forall_mem_cons]
    exact ⟨⟨name, hb, hf⟩, ih⟩
  | expanded streams line below name v hb hf ih =>
    rw [parts_expanded hb hf, List.forall_mem_cons]
    exact ⟨⟨name, v, hb, hf⟩, ih⟩

/-- What a part became stands below what became of the parts before it. -/
theorem flatten_of_becomes {before after : List Part} {part : Part} {outs : List (List Line)}
    (h : List.Forall₂ (Part.Becomes record) (before ++ part :: after) outs) :
    ∃ front out back, outs.flatten = front ++ (out ++ back) ∧ part.Becomes record out ∧
      front.length = (before.map Part.height).sum := by
  induction before generalizing outs with
  | nil =>
    obtain _ | @⟨_, out, _, outs, hpart, -⟩ := h
    exact ⟨[], out, outs.flatten, rfl, hpart, rfl⟩
  | cons first before ih =>
    obtain _ | @⟨_, firstOut, _, outs, hfirst, hrest⟩ := h
    obtain ⟨front, out, back, hflatten, hpart, hlen⟩ := ih hrest
    refine ⟨firstOut ++ front, out, back, ?_, hpart, ?_⟩
    · rw [List.flatten_cons, hflatten, List.append_assoc]
    · rw [List.length_append, hlen, List.map_cons, List.sum_cons, Part.height_eq_of_becomes hfirst]

end Lines

/-- The rows of a block whose collection the record does not have, in the sheet that is left: the
template row is as it was, and the marker row is as it was from its first block marker on. All of it
is where no cell to the left names a field of the record. -/
theorem Run.values_unexpanded (run : Run) (record : Record)
    (h : (run.fill record).failure? = none) {before after : List Part} {part : Part}
    (hparts : Lines.parts record run.streams run.sheet.lines = before ++ part :: after)
    {marker : Line} {below : List Line} (hsource : part.source = marker :: below) {name : Text}
    (hname : Rows.block? marker.values = some name) (hfield : record.hasField name = .ok false) :
    ((run.fill record).run.sheet.values.drop (before.map Part.height).sum).take (1 + below.length) =
        Rows.filled record marker.values :: below.map Line.values ∧
      ∃ left e right columns, marker.values = left ++ e :: right ∧
        (∀ x ∈ left, ∀ name columns, Marker.ofValue x ≠ .each name columns) ∧
        Marker.ofValue e = .each name columns ∧
        Rows.filled record marker.values = left.map record.written ++ e :: right ∧
        ((∀ x ∈ left, ∀ field, Marker.ofValue x = .field field →
          record.hasField field = .ok false) →
          Rows.filled record marker.values = marker.values) := by
  obtain ⟨outs, houts, hr, -⟩ := run.becomes_fill record h
  have hmem : part ∈ Lines.parts record run.streams run.sheet.lines := by
    rw [hparts]
    simp
  obtain ⟨template?, rfl, rfl⟩ :=
    (Lines.fits_of_mem_parts _ _ _ hmem).eq_kept hsource hname hfield
  rw [hparts] at houts
  obtain ⟨front, out, back, hflatten, hpart, hlen⟩ := Lines.flatten_of_becomes houts
  constructor
  · cases hpart with
    | @kept _ marker' _ hmarker' =>
      have hlines : (run.fill record).run.sheet.lines = outs.flatten := by
        apply hr.lines_eq
        rw [hflatten]
        simp
      have hheight : 1 + template?.toList.length = (marker' :: template?.toList).length := by
        simp [Nat.add_comm]
      rw [← Line.values_of_filled hmarker', ← List.map_cons, Sheet.values, hlines, hflatten,
        ← List.map_drop, ← hlen, List.drop_left, ← List.map_take, hheight, List.take_left]
      rfl
  · obtain ⟨left, e, right, columns, hmarker, hleft, he, hfilled⟩ :=
      Rows.filled_of_block record hname
    refine ⟨left, e, right, columns, hmarker, hleft, he, hfilled, fun hidle => ?_⟩
    have hsame : left.map record.written = left := by
      conv_rhs => rw [← List.map_id left]
      exact List.map_congr_left fun x hx => Record.written_eq_self (hidle x hx)
    rw [hfilled, hsame, hmarker]

def Run.reminder : Run where
  sheet := .ofTexts [["$Each{lines}"], ["$F{price}"],
    ["No. $F{number}", "$F{customer}", "$Each{notes}", "$F{number}"], ["$F{number}", "note"],
    ["$F{number}"]]
  streams := []
  edits := []
  refusal := none

def Record.reminder : Record :=
  .mapping [(.text "number", .int 7),
    (.text "lines", .list [.map [(.text "price", .int 3)], .map []])]

theorem Run.values_unexpanded_reminder :
    (Run.reminder.fill .reminder).failure? = none ∧
      Record.reminder.hasField "notes" = .ok false ∧
      ((Run.reminder.fill .reminder).run.sheet.values.drop 2).take 2 =
        [[.int 7, .text "$F{customer}", .text "$Each{notes}", .text "$F{number}"],
          [.text "$F{number}", .text "note", .null, .null]] := by
  have h : (Run.reminder.fill .reminder).failure? = none := by
    decide +kernel
  have hparts : Lines.parts .reminder Run.reminder.streams Run.reminder.sheet.lines =
      [.expanded (Run.reminder.sheet.lines.getD 0 []) (Run.reminder.sheet.lines[1]?)
        [.map [(.text "price", .int 3)], .map []]] ++
      .kept (Run.reminder.sheet.lines.getD 2 []) (Run.reminder.sheet.lines[3]?) ::
      [.plain (Run.reminder.sheet.lines.getD 4 [])] := by
    rfl
  obtain ⟨hrows, -⟩ := Run.values_unexpanded _ _ h hparts rfl rfl rfl
  exact ⟨h, rfl, hrows.trans (by rfl)⟩

/-- A block whose marker stands to the right of a field. -/
def Run.heading : Run where
  sheet := .ofTexts [["$F{title}", "$Each{items}"], ["$F{name}", "each"]]
  streams := []
  edits := []
  refusal := none

def Record.heading : Record := .mapping [(.text "title", .text "May")]

/-- Its marker row does not stay as it is although the record does not have the collection. -/
theorem Run.fill_heading :
    (Run.heading.fill .heading).failure? = none ∧
      Lines.parts .heading Run.heading.streams Run.heading.sheet.lines =
        [.kept (Run.heading.sheet.lines.getD 0 []) (Run.heading.sheet.lines[1]?)] ∧
      Rows.block? (Run.heading.sheet.lines.getD 0 []).values = some "items" ∧
      Record.heading.hasField "items" = .ok false ∧
      Run.heading.sheet.values =
        [[.text "$F{title}", .text "$Each{items}"], [.text "$F{name}", .text "each"]] ∧
      (Run.heading.fill .heading).run.sheet.values =
        [[.text "May", .text "$Each{items}"], [.text "$F{name}", .text "each"]] :=
  ⟨by decide +kernel, rfl, rfl, rfl, rfl, rfl⟩

end SheetFill
