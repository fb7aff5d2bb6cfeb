import SheetFill.Proofs.Sheet.Covering
import SheetFill.Proofs.Expansion.Interruption
import SheetFill.Proofs.Expansion.Parts

/-!
# Covered cells

A covered cell holds nothing, so that it is no marker. What is filled in place is a cell with a
field marker, and all else is written to a new row. Filling therefore never writes to a cell that
refuses it. Where it completes, the covered cells stand where they stood in the rows of the
template, and a row that was drawn has none.
-/
namespace SheetFill

def Line.coverage (line : Line) : List Bool := line.map (·.kind == .covered)

/-- Which cells of a sheet are covered, in all columns of all rows up to its bounds. -/
def Sheet.coverage (s : Sheet) : List (List Bool) := s.lines.map Line.coverage

def Part.coverage : Part → List (List Bool)
  | .plain line => [line.coverage]
  | .kept marker template? => marker.coverage :: template?.toList.map Line.coverage
  | .expanded _ template? items =>
    template?.toList.flatMap fun template =>
      List.replicate items.length (List.replicate template.length false)

def Cell.CoversEmpty (c : Cell) : Prop := c.kind = .covered → c.value = .null

def Sheet.CoversEmpty (s : Sheet) : Prop :=
  ∀ col row c, s.get? col row = some c → c.CoversEmpty

/-! ## Cells -/

namespace Cell

variable {c c' : Cell} {marker : CellMarker} {record : Record}

/-- What is stored does not cover its cell, and what is not stored is refused for its own sake. -/
def Uncovering : Except Error (Value × CellKind) → Prop
  | .ok (_, kind) => kind ≠ .covered
  | .error e => e ≠ .readOnly

theorem uncovering_textContent (text : Text) : Uncovering (textContent text) := by
  unfold textContent
  dsimp only
  split_ifs with hillegal
  · exact Error.noConfusion
  · show textKind _ ≠ .covered
    unfold textKind
    split
    · exact CellKind.noConfusion
    · split_ifs <;> exact CellKind.noConfusion

theorem uncovering_content (v : Value) : Uncovering (content v) := by
  unfold content
  split
  case h_6 text => exact uncovering_textContent _
  case h_7 octets =>
    split
    · exact uncovering_textContent _
    · exact Error.noConfusion
  all_goals first | exact CellKind.noConfusion | exact Error.noConfusion

/-- A cell that is not covered stays so, and never refuses to be written. -/
theorem uncovered_assign (h : c.kind ≠ .covered) (v : Value) :
    (c.assign v).1.kind ≠ .covered ∧ (c.assign v).2 ≠ some .readOnly := by
  have hk : (c.kind == .covered) = false := by simpa using h
  have hv := uncovering_content v
  simp only [assign, hk, Bool.false_eq_true, if_false]
  rcases hc : content v with e | ⟨stored, kind⟩
  · rw [hc] at hv
    refine ⟨?_, fun he => hv (Option.some.inj he)⟩
    cases e <;> simp [kindAfter, h]
  · rw [hc] at hv
    exact ⟨hv, by simp⟩

theorem uncovered_filled (h : c.kind ≠ .covered) (marker : CellMarker) (record : Record) :
    (c.filled marker record).1.kind ≠ .covered ∧
      (c.filled marker record).2 ≠ some (.cell .readOnly) := by
  cases marker with
  | plain => exact ⟨h, by simp [filled]⟩
  | field name =>
    rcases hf : record.field? name with e | _ | v
    · simp [filled, hf, h]
    · simp [filled, hf, h]
    · obtain ⟨hkind, herror⟩ := uncovered_assign h v
      simp only [filled, hf]
      refine ⟨hkind, fun he => ?_⟩
      obtain ⟨e, he, hcell⟩ := Option.map_eq_some_iff.mp he
      exact herror (he.trans (congrArg some (Failure.cell.inj hcell)))

/-- Whether a cell is covered is not changed by filling it. -/
theorem covered_of_filled (h : c.filled marker record = (c', none)) :
    (c'.kind == .covered) = (c.kind == .covered) := by
  by_cases hk : c.kind = .covered
  · cases marker with
    | plain =>
      obtain ⟨rfl, -⟩ := Prod.mk.inj h
      rfl
    | field name =>
      rcases hf : record.field? name with e | _ | v
      · simp [filled, hf] at h
      · obtain ⟨rfl, -⟩ : c = c' ∧ True := by simpa [filled, hf] using h
        rfl
      · simp [filled, hf, assign, hk] at h
  · have hk' := (uncovered_filled hk marker record).1
    rw [h] at hk'
    rw [beq_eq_false_iff_ne.mpr hk, beq_eq_false_iff_ne.mpr hk']

theorem uncovered_blank : blank.kind ≠ .covered := by
  simp [blank]

/-- A covered cell that holds nothing is no marker. -/
theorem CoversEmpty.uncovered_of_field {name : Text} (h : c.CoversEmpty)
    (hc : Marker.ofValue c.value = .field name) : c.kind ≠ .covered := by
  intro hk
  rw [h hk] at hc
  exact Marker.noConfusion hc

end Cell

/-! ## Lines -/

namespace Line

variable {record : Record} {line line' : Line}

theorem coverage_of_filled (h : line.Filled record line') : line'.coverage = line.coverage := by
  induction h with
  | nil => rfl
  | cell hc hf h ih =>
    rw [coverage, List.map_cons, Cell.covered_of_filled hf]
    exact congrArg _ ih
  | block hc => rfl

theorem coverage_drawn (template : Line) (child : Record) :
    (template.drawn child).coverage = List.replicate template.length false := by
  rw [List.eq_replicate_iff]
  constructor
  · simp [coverage, drawn]
  · intro covered hcovered
    simp only [coverage, drawn, List.map_map, List.mem_map] at hcovered
    obtain ⟨t, -, rfl⟩ := hcovered
    exact beq_eq_false_iff_ne.mpr (Cell.uncovered_filled Cell.uncovered_blank _ child).1

end Line

theorem Part.coverage_of_becomes {record : Record} {part : Part} {out : List Line}
    (h : part.Becomes record out) : out.map Line.coverage = part.coverage := by
  cases h with
  | plain h => rw [List.map_singleton, Line.coverage_of_filled h, Part.coverage]
  | kept h => rw [List.map_cons, Line.coverage_of_filled h, Part.coverage]
  | @expanded marker template? items =>
    cases template? with
    | none => rfl
    | some template =>
      simp [Lines.children, Part.coverage, Function.comp_def, Line.coverage_drawn]

/-! ## Failures -/

namespace Lines

variable {record : Record} {row : Nat} {below : List Line} {n n' : Notes} {e : Failure}

theorem ne_readOnly_of_ofEdit {kind : EditKind} (h : e.OfEdit kind) : e ≠ .cell .readOnly := by
  rcases h with rfl | ⟨limit, rfl⟩ <;> exact Failure.noConfusion

theorem PartlyDrawn.ne_readOnly {items : List StreamItem} {ls : List Line}
    (h : PartlyDrawn below items e ls) : e ≠ .cell .readOnly := by
  cases h with
  | stream done => exact Failure.noConfusion
  | insertion done he => exact ne_readOnly_of_ofEdit he
  | row done ht hl =>
    cases hl with
    | @value left t right c ht hc hempty =>
      rintro rfl
      exact (Cell.uncovered_filled Cell.uncovered_blank _ _).2 (congrArg Prod.snd hc)
    | style left ht hc he => exact ne_readOnly_of_ofEdit he

theorem PartlyExpanded.ne_readOnly {streams : Streams} {edits : List Edit} {name : Text}
    {ls : List Line} (h : PartlyExpanded record streams edits row name below e ls) :
    e ≠ .cell .readOnly := by
  cases h with
  | collection hi =>
    rintro rfl
    unfold blockItems Lines.collection at hi
    split at hi
    · exact Failure.noConfusion (Except.error.inj hi)
    · simp at hi
    · split_ifs at hi
      · simp [Except.map] at hi
      · split at hi
        · simp [Except.map] at hi
        · simp [Except.map] at hi
        · simp [Except.map] at hi
  | outOfReach hbelow hlast => exact Failure.noConfusion
  | drawing hi h => exact h.ne_readOnly
  | markerRow hi he hedits => exact ne_readOnly_of_ofEdit he

/-- No line whose covered cells hold nothing stops filling with a cell that refuses to be
written. -/
theorem Left.ne_readOnly {streams : Streams} {edits : List Edit} {line : Line} {rest : List Line}
    (h : Left record streams edits row line below e rest) (hempty : ∀ c ∈ line, c.CoversEmpty) :
    e ≠ .cell .readOnly := by
  cases h with
  | outOfReach hlast => exact Failure.noConfusion
  | @cell left left' right c c' name below e hleft hc he hsame =>
    have hopen : c.kind ≠ .covered := (hempty c (by simp)).uncovered_of_field hc
    rintro rfl
    exact (Cell.uncovered_filled hopen _ record).2 (congrArg Prod.snd he)
  | block hleft hc h => exact h.ne_readOnly
  | templateRow hleft hc hi he hedits => exact ne_readOnly_of_ofEdit he

end Lines

/-! ## Sheets -/

namespace Sheet

variable {s : Sheet}

theorem coversEmpty_of_mem_lines (h : s.CoversEmpty) {line : Line} (hline : line ∈ s.lines) :
    ∀ c ∈ line, c.CoversEmpty := by
  intro c hc
  obtain ⟨j, -, rfl⟩ := List.mem_map.mp hline
  obtain ⟨i, -, rfl⟩ := List.mem_map.mp hc
  cases hcell : s.get? (i + 1) (j + 1) with
  | some c => exact h _ _ c hcell
  | none => exact fun _ => rfl

theorem coversEmpty_put (h : s.CoversEmpty) (col row : Nat) {c : Cell} (hc : c.CoversEmpty) :
    (s.put col row c).CoversEmpty := by
  cases col with
  | zero => exact h
  | succ i =>
    cases row with
    | zero => exact h
    | succ j =>
      intro col row c' hc'
      rw [get?_put] at hc'
      split_ifs at hc'
      · exact Option.some.inj hc' ▸ hc
      · exact h col row c' hc'

theorem coversEmpty_getD (h : s.CoversEmpty) (col row : Nat) {c : Cell} (hc : c.CoversEmpty) :
    ((s.get? col row).getD c).CoversEmpty := by
  cases hcell : s.get? col row with
  | some c' => exact h col row c' hcell
  | none => exact hc

theorem coversEmpty_foldl {α : Type} {f : Sheet → α → Sheet}
    (hf : ∀ s a, CoversEmpty s → (f s a).CoversEmpty) (as : List α) :
    ∀ s : Sheet, s.CoversEmpty → (as.foldl f s).CoversEmpty := by
  induction as with
  | nil => exact fun s h => h
  | cons a as ih => exact fun s h => ih _ (hf s a h)

theorem coversEmpty_addLines (h : s.CoversEmpty) (left bottom : Option String) (p : Nat × Nat) :
    (s.addLines left bottom p).CoversEmpty :=
  coversEmpty_put h _ _ (coversEmpty_getD h _ _ fun _ => rfl)

theorem coversEmpty_merge (h : s.CoversEmpty) (r : Range) : (s.merge r).CoversEmpty := by
  have hfirst : ((s.get? r.firstCol r.firstRow).getD Cell.blank).CoversEmpty :=
    coversEmpty_getD h _ _ fun _ => rfl
  have hcover : (s.cover r).CoversEmpty := by
    unfold cover
    apply coversEmpty_foldl fun s p h => coversEmpty_addLines h _ _ p
    apply coversEmpty_foldl fun s p h => coversEmpty_addLines h _ _ p
    apply coversEmpty_foldl fun s p h => coversEmpty_put h _ _ fun _ => rfl
    exact coversEmpty_put h _ _ hfirst
  exact hcover

theorem coversEmpty_ofTexts (rows : List (List String)) : (ofTexts rows).CoversEmpty := by
  intro col row c hc
  obtain ⟨texts, -, text, -, rfl⟩ := exists_of_get?_ofTexts hc
  exact CellKind.noConfusion

end Sheet

/-- Where the covered cells of a sheet hold nothing, filling writes to none of them. If it
completes, the covered cells of the sheet are those of the parts of its template, from the top to
the bottom. Where these have no rows the sheet reads like one without cells. -/
theorem Run.coverage_fill (run : Run) (record : Record) (hempty : run.sheet.CoversEmpty) :
    (run.fill record).failure? ≠ some (.cell .readOnly) ∧
      ((run.fill record).failure? = none → (run.fill record).run.sheet.coverage =
        if (Lines.parts record run.streams run.sheet.lines).flatMap Part.coverage = [] then
          run.sheet.cleared.coverage
        else (Lines.parts record run.streams run.sheet.lines).flatMap Part.coverage) := by
  constructor
  · intro h
    obtain ⟨s, hfill, -, -⟩ := run.fill_eq record
    rw [hfill] at h
    rcases hd : Lines.fill record 1 run.sheet.lines run.notes with ⟨ls, n', f?⟩
    rw [hd] at h
    obtain rfl : f? = some (.cell .readOnly) := h
    obtain ⟨out, n, line, below, rest, hp, hstop, -⟩ := Lines.stops_of_fill hd
    have hline : line ∈ run.sheet.lines := (Lines.suffix_of_passes hp).subset (by simp)
    exact (Lines.left_of_stops hstop).ne_readOnly (Sheet.coversEmpty_of_mem_lines hempty hline) rfl
  · intro h
    obtain ⟨outs, houts, hr, hk⟩ := run.becomes_fill record h
    have hcoverage : (Lines.parts record run.streams run.sheet.lines).flatMap Part.coverage =
        outs.flatten.map Line.coverage :=
      (Lines.map_flatten_of_becomes houts fun _ _ => Part.coverage_of_becomes).symm
    simp only [hcoverage, List.map_eq_nil_iff]
    show List.map _ _ = _
    rw [hr.lines, Sheet.cleared_lines_congr hk.above]
    split_ifs <;> rfl

def Run.bill : Run where
  sheet := [⟨1, 1, 2, 1⟩, ⟨2, 2, 2, 4⟩].foldl Sheet.merge (.ofTexts
    [["$F{title}", "$F{title}"], ["$Each{items}", "$F{note}"], ["$F{name}", "$F{price}"],
      ["$F{total}", "$F{note}"]])
  streams := []
  edits := []
  refusal := none

def Record.bill : Record :=
  .mapping [(.text "title", .text "Bill"), (.text "total", .int 5), (.text "note", .null),
    (.text "items", .list [.map [(.text "name", .text "Tea")], .map [(.text "price", .int 2)]])]

theorem Run.coverage_fill_bill :
    Run.bill.sheet.CoversEmpty ∧ (Run.bill.fill .bill).failure? = none ∧
      (Run.bill.fill .bill).run.sheet.coverage =
        [[false, true], [false, false], [false, false], [false, true]] := by
  have hempty : Run.bill.sheet.CoversEmpty := by
    apply Sheet.coversEmpty_foldl fun s r h => Sheet.coversEmpty_merge h r
    exact Sheet.coversEmpty_ofTexts _
  have h : (Run.bill.fill .bill).failure? = none := by
    decide +kernel
  exact ⟨hempty, h, ((Run.coverage_fill _ _ hempty).2 h).trans (by decide +kernel)⟩

end SheetFill
