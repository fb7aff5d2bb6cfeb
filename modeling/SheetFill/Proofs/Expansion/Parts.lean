import SheetFill.Proofs.Expansion.RowSemantics

/-!
# The parts of a template

From the top the lines of a template fall into parts: lines without a block marker, blocks that are
kept, and blocks that are expanded. Filling puts the lines that each part becomes below each other,
so that what holds for every kind of part holds for the sheet that is left.
-/
namespace SheetFill

/-- A line of a template, or a block with its template row if it has one. -/
inductive Part where
  | plain (line : Line)
  | kept (marker : Line) (template? : Option Line)
  | expanded (marker : Line) (template? : Option Line) (items : List Value)

/-- A line whose fields were filled in up to the first block marker. -/
inductive Line.Filled (record : Record) : Line → Line → Prop
  | nil : Filled record [] []
  | cell {c c' line line'} (hc : ∀ name columns, Marker.ofValue c.value ≠ .each name columns)
      (hf : c.filled (Marker.ofValue c.value).inTemplateRow record = (c', none))
      (h : Filled record line line') : Filled record (c :: line) (c' :: line')
  | block {c line name columns} (hc : Marker.ofValue c.value = .each name columns) :
      Filled record (c :: line) (c :: line)

namespace Part

def source : Part → List Line
  | plain line => [line]
  | kept marker template? => marker :: template?.toList
  | expanded marker template? _ => marker :: template?.toList

inductive Becomes (record : Record) : Part → List Line → Prop
  | plain {line line'} (h : line.Filled record line') : Becomes record (.plain line) [line']
  | kept {marker marker' template?} (h : marker.Filled record marker') :
      Becomes record (.kept marker template?) (marker' :: template?.toList)
  | expanded {marker template? items} :
      Becomes record (.expanded marker template? items) (Lines.children template?.toList items)

end Part

def Scanned.Fills (record : Record) (line : Line) : Scanned → Prop
  | .plain line' => line.Filled record line'
  | .block line' _ => line.Filled record line'
  | .stopped _ _ => True

namespace Line

variable {record : Record}

theorem fills_behind {scanned : Scanned} {line : Line} {c c' : Cell}
    (h : scanned.Fills record line)
    (hc : ∀ name columns, Marker.ofValue c.value ≠ .each name columns)
    (hf : c.filled (Marker.ofValue c.value).inTemplateRow record = (c', none)) :
    (scanned.behind c').Fills record (c :: line) := by
  cases scanned with
  | plain line' => exact .cell hc hf h
  | block line' name => exact .cell hc hf h
  | stopped line' e => trivial

theorem fills_scan (line : Line) : (scan record line).Fills record line := by
  induction line with
  | nil => exact .nil
  | cons c line ih =>
    cases hm : Marker.ofValue c.value with
    | plain =>
      simp only [scan, hm]
      exact fills_behind ih (by simp [hm]) (by simp [hm, Marker.inTemplateRow, Cell.filled])
    | field name =>
      rcases hf : c.filled (.field name) record with ⟨c', _ | e⟩
      · simp only [scan, hm, hf]
        exact fills_behind ih (by simp [hm]) (by simp [hm, Marker.inTemplateRow, hf])
      · simp only [scan, hm, hf]
        trivial
    | each name columns =>
      simp only [scan, hm]
      exact .block hm

end Line

namespace Lines

/-- The parts of some lines, and with each expanded block the items of its collection. -/
def parts (record : Record) : Streams → List Line → List Part
  | _, [] => []
  | streams, line :: below =>
    match Rows.block? line.values with
    | none => .plain line :: parts record streams below
    | some name =>
      match record.field? name with
      | .ok (some v) =>
        .expanded line below.head? (Rows.items streams v).1 ::
          match below with
          | [] => []
          | _ :: below => parts record (Rows.items streams v).2 below
      | _ =>
        .kept line below.head? ::
          match below with
          | [] => []
          | _ :: below => parts record streams below

section Parts

variable {record : Record} {streams : Streams} {line : Line} {below : List Line} {name : Text}
  {v : Value}

theorem parts_plain (h : Rows.block? line.values = none) :
    parts record streams (line :: below) = .plain line :: parts record streams below := by
  cases below <;> simp [parts, h]

theorem parts_kept (h : Rows.block? line.values = some name)
    (hf : ∀ v, record.field? name ≠ .ok (some v)) :
    parts record streams (line :: below) =
      .kept line below.head? :: parts record streams (below.drop 1) := by
  rcases hx : record.field? name with e | _ | v
  · cases below <;> simp [parts, h, hx]
  · cases below <;> simp [parts, h, hx]
  · exact absurd hx (hf v)

theorem parts_expanded (h : Rows.block? line.values = some name)
    (hf : record.field? name = .ok (some v)) :
    parts record streams (line :: below) =
      .expanded line below.head? (Rows.items streams v).1 ::
        parts record (Rows.items streams v).2 (below.drop 1) := by
  cases below <;> simp [parts, h, hf]

theorem take_one_eq (ls : List Line) : ls.take 1 = ls.head?.toList := by
  cases ls <;> rfl

theorem children_take_one (below : List Line) (items : List Value) :
    children below items = children below.head?.toList items := by
  cases below <;> rfl

/-- Where filling reaches the end it has put together what the parts become. -/
theorem becomes_of_passes {row : Nat} {n n' : Notes} {ls out rest : List Line}
    (h : Passes record row n ls out n' rest) (hrest : rest = []) :
    ∃ outs, List.Forall₂ (Part.Becomes record) (parts record n.streams ls) outs ∧
      out = outs.flatten := by
  induction h with
  | here =>
    subst hrest
    exact ⟨[], .nil, rfl⟩
  | @plain row n line line' below out n' rest hrow hs h ih =>
    have hb := Line.block?_of_plain hs
    have hline : Scanned.Fills record line (.plain line') := hs ▸ Line.fills_scan line
    obtain ⟨outs, houts, rfl⟩ := ih hrest
    rw [parts_plain hb]
    exact ⟨[line'] :: outs, .cons (.plain hline) houts, rfl⟩
  | @kept row n line line' name below out n' rest hrow hs hf h ih =>
    have hb := Line.block?_of_block hs
    have hline : Scanned.Fills record line (.block line' name) := hs ▸ Line.fills_scan line
    obtain ⟨outs, houts, rfl⟩ := ih hrest
    rw [parts_kept hb (by simp [hf]), take_one_eq]
    exact ⟨(line' :: below.head?.toList) :: outs, .cons (.kept hline) houts, rfl⟩
  | @expanded row n line line' name source items below n₁ out n' rest hrow hs hi hd hn hlast h ih =>
    have hb := Line.block?_of_block hs
    obtain ⟨v, hf, hitems⟩ := items_of_blockItems hi
    obtain ⟨outs, houts, rfl⟩ := ih hrest
    rw [hn] at houts
    rw [parts_expanded hb hf, hitems, children_take_one]
    exact ⟨children below.head?.toList items :: outs, .cons .expanded houts, rfl⟩

/-- Induction along the parts of some lines. -/
@[elab_as_elim]
theorem parts_induction (record : Record) {motive : Streams → List Line → Prop}
    (nil : ∀ streams, motive streams [])
    (plain : ∀ streams line below, Rows.block? line.values = none → motive streams below →
      motive streams (line :: below))
    (kept : ∀ streams line below name, Rows.block? line.values = some name →
      (∀ v, record.field? name ≠ .ok (some v)) → motive streams (below.drop 1) →
      motive streams (line :: below))
    (expanded : ∀ streams line below name v, Rows.block? line.values = some name →
      record.field? name = .ok (some v) → motive (Rows.items streams v).2 (below.drop 1) →
      motive streams (line :: below))
    (streams : Streams) (ls : List Line) : motive streams ls := by
  induction hk : ls.length using Nat.strong_induction_on generalizing streams ls with
  | _ k ih =>
    cases ls with
    | nil => exact nil streams
    | cons line below =>
      rw [List.length_cons] at hk
      have hdrop : (below.drop 1).length < k := by
        rw [List.length_drop]
        omega
      cases hb : Rows.block? line.values with
      | none => exact plain streams line below hb (ih below.length (by omega) _ below rfl)
      | some name =>
        by_cases hf : ∃ v, record.field? name = .ok (some v)
        · obtain ⟨v, hf⟩ := hf
          exact expanded streams line below name v hb hf (ih _ hdrop _ _ rfl)
        · exact kept streams line below name hb (not_exists.mp hf) (ih _ hdrop _ _ rfl)

theorem head_append_drop (below : List Line) : below.head?.toList ++ below.drop 1 = below := by
  rw [← take_one_eq, List.take_append_drop]

/-- The parts have all lines in their order. -/
theorem flatMap_source_parts (record : Record) (ls : List Line) (streams : Streams) :
    (parts record streams ls).flatMap Part.source = ls := by
  induction streams, ls using parts_induction record with
  | nil streams => rfl
  | plain streams line below hb ih =>
    rw [parts_plain hb, List.flatMap_cons, ih]
    rfl
  | kept streams line below name hb hf ih =>
    rw [parts_kept hb hf, List.flatMap_cons, Part.source, List.cons_append, ih, head_append_drop]
  | expanded streams line below name v hb hf ih =>
    rw [parts_expanded hb hf, List.flatMap_cons, Part.source, List.cons_append, ih,
      head_append_drop]

end Parts

theorem map_flatten_of_becomes {α : Type} {record : Record} {ps : List Part}
    {outs : List (List Line)} {f : Part → List α} {g : Line → α}
    (h : List.Forall₂ (Part.Becomes record) ps outs)
    (hf : ∀ part out, part.Becomes record out → out.map g = f part) :
    outs.flatten.map g = ps.flatMap f := by
  induction h with
  | nil => rfl
  | cons hpart hrest ih =>
    rw [List.flatten_cons, List.map_append, hf _ _ hpart, ih, List.flatMap_cons]

end Lines

theorem Run.keeps_fill (run : Run) (record : Record) :
    run.sheet.Keeps 0 (run.fill record).run.sheet := by
  obtain ⟨s, hfill, -, hk⟩ := run.fill_eq record
  rw [hfill]
  exact hk

theorem Run.passes_fill (run : Run) (record : Record) (h : (run.fill record).failure? = none) :
    ∃ out n', Lines.Passes record 1 run.notes run.sheet.lines out n' [] ∧
      (run.fill record).run.sheet.Reads run.sheet.maxCol out := by
  obtain ⟨s, hfill, hr, -⟩ := run.fill_eq record
  rw [hfill] at h ⊢
  rcases hd : Lines.fill record 1 run.sheet.lines run.notes with ⟨out, n', f?⟩
  rw [hd] at h hr
  obtain rfl : f? = none := h
  exact ⟨out, n', Lines.passes_of_fill hd, hr⟩

/-- Once a sheet could be filled, its lines are what the parts of its template became. -/
theorem Run.becomes_fill (run : Run) (record : Record) (h : (run.fill record).failure? = none) :
    ∃ outs, List.Forall₂ (Part.Becomes record)
        (Lines.parts record run.streams run.sheet.lines) outs ∧
      (run.fill record).run.sheet.Reads run.sheet.maxCol outs.flatten ∧
      run.sheet.Keeps 0 (run.fill record).run.sheet := by
  obtain ⟨out, n', hp, hr⟩ := run.passes_fill record h
  obtain ⟨outs, houts, rfl⟩ := Lines.becomes_of_passes hp rfl
  exact ⟨outs, houts, hr, run.keeps_fill record⟩

end SheetFill
