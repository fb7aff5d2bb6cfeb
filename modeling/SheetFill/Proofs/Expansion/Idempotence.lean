import SheetFill.Proofs.Expansion.RowSemantics

/-!
# Filling twice

What could be filled once is settled, as long as no text that was stored is a marker itself. The
markers that are left name fields and collections that the record does not have, and they are met
again in the same rows, beside the same template rows.
-/
namespace SheetFill

namespace Rows

/-- The values that are stored in a row when its fields are filled in up to the first block
marker. -/
def storedIn (record : Record) : List Value → List Value
  | [] => []
  | x :: rest =>
    match Marker.ofValue x with
    | .plain => storedIn record rest
    | .field name => (record.stored? (.field name)).toList ++ storedIn record rest
    | .each _ _ => []

def storedFor (template : List Value) (item : Value) : List Value :=
  template.filterMap fun t => (Record.ofValue item).stored? (Marker.ofValue t).inTemplateRow

def stored (record : Record) : Streams → List (List Value) → List Value
  | _, [] => []
  | streams, row :: rest =>
    storedIn record row ++
      match block? row with
      | none => stored record streams rest
      | some name =>
        match record.field? name with
        | .ok (some v) =>
          match rest with
          | [] => []
          | template :: rest =>
            (items streams v).1.flatMap (storedFor template) ++
              stored record (items streams v).2 rest
        | _ =>
          match rest with
          | [] => []
          | _ :: rest => stored record streams rest

section Stored

variable {record : Record} {streams : Streams} {row : List Value} {rest : List (List Value)}
  {name : Text} {v : Value}

theorem stored_plain (h : block? row = none) : stored record streams (row :: rest) =
    storedIn record row ++ stored record streams rest := by
  cases rest <;> simp [stored, h]

theorem stored_kept (h : block? row = some name) (hf : record.field? name = .ok none) :
    stored record streams (row :: rest) =
      storedIn record row ++ stored record streams (rest.drop 1) := by
  cases rest <;> simp [stored, h, hf]

theorem stored_expanded (h : block? row = some name) (hf : record.field? name = .ok (some v)) :
    stored record streams (row :: rest) = storedIn record row ++
      ((rest.take 1).flatMap (fun template => (items streams v).1.flatMap (storedFor template)) ++
        stored record (items streams v).2 (rest.drop 1)) := by
  cases rest <;> simp [stored, h, hf]

end Stored

end Rows

/-! ## Settled lines -/

theorem Cell.eq_of_filled {c c' : Cell} {marker : CellMarker} {record : Record}
    (h : c.filled marker record = (c', none)) (hs : record.stored? marker = none) : c' = c := by
  cases marker with
  | plain => exact (Prod.mk.inj h).1.symm
  | field name =>
    rcases hf : record.field? name with e | _ | v
    · simp [filled, hf] at h
    · simp only [filled, hf, Prod.mk.injEq, and_true] at h
      exact h.symm
    · simp only [Record.stored?, hf] at hs
      cases hc : content v with
      | ok stored => simp [hc, Except.toOption] at hs
      | error e =>
        simp only [filled, hf, assign, hc] at h
        split_ifs at h <;> simp at h

namespace Line

variable {record : Record}

/-- A row that was drawn has no markers unless one was stored. -/
theorem scan_drawn {template : Line} {item : Value}
    (h : ∀ v ∈ Rows.storedFor template.values item, Marker.ofValue v = .plain) :
    scan record (template.drawn (Record.ofValue item)) =
      .plain (template.drawn (Record.ofValue item)) := by
  apply scan_of_plain
  intro c hc
  obtain ⟨t, ht, rfl⟩ := List.mem_map.mp hc
  rw [Cell.value_drawn]
  cases hv : (Record.ofValue item).stored? (Marker.ofValue t.value).inTemplateRow with
  | none => rfl
  | some v =>
    exact h v (List.mem_filterMap.mpr ⟨t.value, List.mem_map_of_mem ht, hv⟩)

end Line

/-- A line that is scanned once more is left as it is. -/
def Scanned.Again (record : Record) : Scanned → Prop
  | .plain line => Line.scan record line = .plain line
  | .block line name => Line.scan record line = .block line name
  | .stopped _ _ => True

namespace Line

variable {record : Record}

theorem again_behind {scanned : Scanned} {c : Cell} (h : scanned.Again record)
    (hc : ∀ line, scan record (c :: line) = (scan record line).behind c) :
    (scanned.behind c).Again record := by
  cases scanned with
  | plain line =>
    show scan record (c :: line) = _
    rw [hc, h]
    rfl
  | block line name =>
    show scan record (c :: line) = _
    rw [hc, h]
    rfl
  | stopped line e => trivial

theorem again_scan (line : Line)
    (h : ∀ v ∈ Rows.storedIn record line.values, Marker.ofValue v = .plain) :
    (scan record line).Again record := by
  induction line with
  | nil => rfl
  | cons c line ih =>
    cases hm : Marker.ofValue c.value with
    | plain =>
      simp only [scan, hm]
      refine again_behind (ih fun v hv => h v ?_) fun line => by simp only [scan, hm]
      simpa [values, Rows.storedIn, hm] using hv
    | each name columns =>
      simp only [scan, hm]
      show scan record (c :: line) = _
      simp only [scan, hm]
    | field name =>
      rcases hf : c.filled (.field name) record with ⟨c', _ | e⟩
      · simp only [scan, hm, hf]
        have hc' := Cell.value_eq_of_filled hf
        have hrest : (scan record line).Again record := by
          apply ih
          intro v hv
          apply h v
          simp only [values, List.map_cons, Rows.storedIn, hm, List.mem_append]
          exact .inr hv
        -- what was stored is no marker, and where nothing was stored the marker stays
        apply again_behind hrest
        intro line
        cases hv : record.stored? (.field name) with
        | none =>
          obtain rfl := Cell.eq_of_filled hf hv
          simp only [scan, hm, hf]
        | some v =>
          have hplain : Marker.ofValue c'.value = .plain := by
            rw [hc', hv]
            exact h v (by simp [values, Rows.storedIn, hm, hv])
          simp only [scan, hplain]
      · simp only [scan, hm, hf]
        trivial

end Line

namespace Lines

variable {record : Record}

/-- Lines that are left as they are when they are filled, the first of them as row `row`. -/
inductive Settled (record : Record) : Nat → List Line → Prop
  | nil {row} : Settled record row []
  | plain {row line below} (hrow : row ≤ Sheet.lastRow) (hs : Line.scan record line = .plain line)
      (h : Settled record (row + 1) below) : Settled record row (line :: below)
  | kept {row line name below} (hrow : row + (below.take 1).length ≤ Sheet.lastRow)
      (hs : Line.scan record line = .block line name) (hf : record.field? name = .ok none)
      (h : Settled record (row + 1 + (below.take 1).length) (below.drop 1)) :
      Settled record row (line :: below)

theorem fill_of_settled {row : Nat} {ls : List Line} (h : Settled record row ls) (n : Notes) :
    fill record row ls n = ⟨ls, n, none⟩ := by
  induction h with
  | nil => rfl
  | plain hrow hs h ih => rw [fill_plain hrow hs, ih]
  | @kept row line name below hrow hs hf h ih =>
    have hb : block record row line name below n = ⟨line :: below.take 1, n, none⟩ :=
      block_of_absent hrow hf
    have hd : fill record (row + (line :: below.take 1).length) (below.drop 1) n =
        ⟨below.drop 1, n, none⟩ := by
      rwa [List.length_cons, Nat.add_comm _ 1, ← Nat.add_assoc]
    rw [fill_block (by omega) hs hb rfl hd, List.cons_append, List.take_append_drop]

theorem settled_append {ls rest : List Line}
    (hs : ∀ line ∈ ls, Line.scan record line = .plain line) :
    ∀ {row : Nat}, row + ls.length ≤ Sheet.lastRow + 1 → Settled record (row + ls.length) rest →
    Settled record row (ls ++ rest) := by
  induction ls with
  | nil =>
    intro row _ h
    simpa using h
  | cons line ls ih =>
    intro row hlast h
    rw [List.length_cons] at hlast h
    have hrest : Settled record (row + 1) (ls ++ rest) := by
      apply ih (fun l hl => hs l (by simp [hl])) (by omega)
      rwa [Nat.add_assoc, Nat.add_comm 1]
    exact .plain (by omega) (hs line (by simp)) hrest

/-- What was left behind is settled where no marker was stored. -/
theorem settled_of_passes {row : Nat} {n n' : Notes} {ls out rest : List Line}
    (h : Passes record row n ls out n' rest) (hrest : rest = [])
    (hstored : ∀ v ∈ Rows.stored record n.streams (ls.map Line.values), Marker.ofValue v = .plain) :
    Settled record row out := by
  induction h with
  | here =>
    subst hrest
    exact .nil
  | @plain row n line line' below out n' rest hrow hs h ih =>
    have hb := Line.block?_of_plain hs
    rw [List.map_cons, Rows.stored_plain hb] at hstored
    simp only [List.mem_append, or_imp, forall_and] at hstored
    have hagain : Scanned.Again record (.plain line') := hs ▸ Line.again_scan line hstored.1
    exact .plain hrow hagain (ih hrest hstored.2)
  | @kept row n line line' name below out n' rest hrow hs hf h ih =>
    have hb := Line.block?_of_block hs
    rw [List.map_cons, Rows.stored_kept hb hf] at hstored
    simp only [List.mem_append, or_imp, forall_and, ← List.map_drop] at hstored
    have hagain : Scanned.Again record (.block line' name) := hs ▸ Line.again_scan line hstored.1
    have hbelow := ih hrest hstored.2
    cases below with
    | nil =>
      cases h
      exact .kept hrow hagain hf .nil
    | cons template below => exact .kept hrow hagain hf hbelow
  | @expanded row n line line' name source items below n₁ out n' rest hrow hs hi hd hn hlast h ih =>
    have hb := Line.block?_of_block hs
    obtain ⟨v, hf, hitems⟩ := items_of_blockItems hi
    rw [List.map_cons, Rows.stored_expanded hb hf, hitems] at hstored
    simp only [List.mem_append, or_imp, forall_and, ← List.map_drop, ← hn] at hstored
    obtain ⟨-, hchildren, hbelow⟩ := hstored
    refine settled_append (fun child hchild => ?_) hlast (ih hrest hbelow)
    cases below with
    | nil => simp [children] at hchild
    | cons template below =>
      obtain ⟨item, hitem, rfl⟩ := List.mem_map.mp hchild
      refine Line.scan_drawn fun v hv => hchildren v ?_
      simpa using ⟨item, hitem, hv⟩

end Lines

/-- Once a sheet could be filled, filling it again from the same record completes, asks for nothing
and changes nothing, unless a text that was stored is a marker. -/
theorem Run.fill_again (run : Run) (record : Record) (h : (run.fill record).failure? = none)
    (hstored : ∀ v ∈ Rows.stored record run.streams run.sheet.values, Marker.ofValue v = .plain) :
    ((run.fill record).run.fill record).failure? = none ∧
      ((run.fill record).run.fill record).run.sheet.lines = (run.fill record).run.sheet.lines ∧
      ((run.fill record).run.fill record).run.sheet.maxRow = (run.fill record).run.sheet.maxRow ∧
      ((run.fill record).run.fill record).run.sheet.maxCol = (run.fill record).run.sheet.maxCol ∧
      ((run.fill record).run.fill record).run.notes = (run.fill record).run.notes := by
  obtain ⟨s, hs, hr, -⟩ := run.fill_eq record
  rw [hs] at h
  rcases hd : Lines.fill record 1 run.sheet.lines run.notes with ⟨out, n', f?⟩
  rw [hd] at h hs hr
  obtain rfl : f? = none := h
  have hout : Lines.Settled record 1 out :=
    Lines.settled_of_passes (Lines.passes_of_fill hd) rfl hstored
  rw [hs]
  obtain ⟨s', hs', hr', hk'⟩ := (n'.on s).fill_eq record
  have hsettled : Lines.Settled record 1 s.lines := by
    by_cases hnil : out = []
    · -- a sheet that was emptied has a blank row, if any
      subst hnil
      by_cases hrow : s.maxRow = 0
      · have hlines : s.lines = [] := List.eq_nil_of_length_eq_zero (s.length_lines.trans hrow)
        rw [hlines]
        exact .nil
      · rw [hr.lines_eq_blank hrow]
        exact .plain (by decide) (Line.scan_blank record _) .nil
    · rwa [hr.lines_eq hnil]
  have hagain : Lines.fill record 1 (n'.on s).sheet.lines (n'.on s).notes = ⟨s.lines, n', none⟩ :=
    Lines.fill_of_settled hsettled n'
  rw [hagain] at hs' hr'
  rw [hs']
  obtain ⟨hlines, hrow, hcol⟩ := s.reads_self.congr hr' hk'.above
  exact ⟨rfl, hlines, hrow, hcol, rfl⟩

def Run.report : Run where
  sheet := .ofTexts [["$F{heading}", "$F{year}"], ["$Each{notes}", "$F{year}"],
    ["$F{note}", "$F{year}"], ["$Each{figures}", ""], ["$F{figure}", "$F{year}"]]
  streams := [[.value (.map [(.text "figure", .int 3)]), .value (.map [])]]
  edits := []
  refusal := none

def Record.report : Record := .mapping [(.text "year", .int 7), (.text "figures", .stream 0)]

theorem Run.fill_report_again :
    ((Run.report.fill .report).run.fill .report).run.sheet.lines =
      (Run.report.fill .report).run.sheet.lines := by
  have h : (Run.report.fill .report).failure? = none := by
    decide +kernel
  have hstored : ∀ v ∈ Rows.stored .report Run.report.streams Run.report.sheet.values,
      Marker.ofValue v = .plain := by
    decide +kernel
  exact (Run.fill_again _ _ h hstored).2.1

end SheetFill
