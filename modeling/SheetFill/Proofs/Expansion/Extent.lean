import SheetFill.Proofs.Expansion.Parts

/-!
# The bounds of a filled sheet

Rows come and go with the blocks that are expanded, and with nothing else. The columns stay as long
as a row does. A sheet without any rows left reads like one without cells.
-/
namespace SheetFill

namespace Part

/-- The rows that are taken out with a part: the marker row of an expanded block, and its template
row if it has one. -/
def removed : Part → Nat
  | .expanded _ (some _) _ => 2
  | .expanded _ none _ => 1
  | _ => 0

/-- The rows that are generated for a part: one for each item of an expanded block that has a
template row. -/
def added : Part → Nat
  | .expanded _ (some _) items => items.length
  | _ => 0

variable {record : Record}

theorem length_of_becomes {part : Part} {out : List Line} (h : part.Becomes record out) :
    out.length + part.removed = part.source.length + part.added := by
  cases h with
  | plain h => rfl
  | kept h => rfl
  | @expanded marker template? items =>
    cases template? with
    | none => rfl
    | some template =>
      simp only [Lines.children, Option.toList_some, List.length_map, removed, source,
        List.length_cons, List.length_nil, added]
      omega

theorem length_flatten_of_becomes {ps : List Part} {outs : List (List Line)}
    (h : List.Forall₂ (Part.Becomes record) ps outs) :
    outs.flatten.length + (ps.map removed).sum =
      (ps.flatMap source).length + (ps.map added).sum := by
  induction h with
  | nil => rfl
  | cons hpart hrest ih =>
    have hlen := length_of_becomes hpart
    simp only [List.flatten_cons, List.flatMap_cons, List.length_append, List.map_cons,
      List.sum_cons]
    omega

end Part

namespace Sheet

theorem cleared_bounds {s : Sheet} (h : s.above = []) :
    s.cleared.maxRow = 1 ∧ s.cleared.maxCol = 1 := by
  simp [cleared, maxRow_eq, maxCol, height, h]

theorem cleared_maxRow_le (s : Sheet) : s.cleared.maxRow ≤ 1 := by
  rw [maxRow_eq]
  simp only [cleared, height]
  split_ifs <;> simp

theorem Reads.bounds {s s' : Sheet} {w : Nat} {ls : List Line} (h : s'.Reads w ls)
    (ha : s'.above = s.above) :
    s'.maxRow = max s.cleared.maxRow ls.length ∧
      s'.maxCol = if ls.length = 0 then s.cleared.maxCol else w := by
  by_cases hls : ls = []
  · subst hls
    have hlines : s'.lines = s.cleared.lines := by
      rw [h.lines, if_pos rfl, cleared_lines_congr ha]
    constructor
    · rw [← length_lines, hlines, length_lines]
      simp
    · rw [h.maxCol_of_nil]
      simp [Sheet.maxCol, cleared, ha]
  · have hpos := List.length_pos_iff.mpr hls
    have hle := s.cleared_maxRow_le
    rw [h.maxRow_eq_length hls, h.maxCol hls, if_neg hpos.ne']
    omega

end Sheet

def Lines.remaining (height : Nat) (parts : List Part) : Int :=
  height - (parts.map Part.removed).sum + (parts.map Part.added).sum

/-- The bounds of a sheet that could be filled. Unless there are rows out of reach, a sheet that has
lost all rows has the first row and the first column. -/
theorem Run.bounds_fill (run : Run) (record : Record) (h : (run.fill record).failure? = none) :
    let filled := (run.fill record).run.sheet
    let rows := Lines.remaining run.sheet.maxRow
      (Lines.parts record run.streams run.sheet.lines)
    (filled.maxRow = max (run.sheet.cleared.maxRow : Int) rows ∧
      filled.maxCol = if 0 < rows then run.sheet.maxCol else run.sheet.cleared.maxCol) ∧
    (run.sheet.above = [] →
      filled.maxRow = max 1 rows ∧ filled.maxCol = if 0 < rows then run.sheet.maxCol else 1) := by
  intro filled rows
  obtain ⟨outs, houts, hr, hk⟩ := run.becomes_fill record h
  have hrows : (outs.flatten.length : Int) = rows := by
    have hlen := Part.length_flatten_of_becomes houts
    rw [Lines.flatMap_source_parts, Sheet.length_lines] at hlen
    simp only [rows, Lines.remaining]
    omega
  obtain ⟨hmaxRow, hmaxCol⟩ := hr.bounds hk.above
  have hbounds : filled.maxRow = max (run.sheet.cleared.maxRow : Int) rows ∧
      filled.maxCol = if 0 < rows then run.sheet.maxCol else run.sheet.cleared.maxCol := by
    constructor
    · simp only [filled, hmaxRow, ← hrows]
      norm_cast
    · have hpos : 0 < rows ↔ outs.flatten.length ≠ 0 := by omega
      simp only [filled, hmaxCol, hpos, ite_not]
  refine ⟨hbounds, fun ha => ?_⟩
  obtain ⟨hone, hone'⟩ := Sheet.cleared_bounds ha
  rw [hone, hone'] at hbounds
  exact hbounds

/-- Three blocks, of which the record has two; the last one has no template row. Only the first row
reaches the last column. -/
def Run.sections : Run where
  sheet := .ofTexts [["$F{heading}", "", "page"], ["$Each{lines}"], ["$F{price}", "each"],
    ["$Each{notes}"], ["$F{note}"], ["$Each{lines}"]]
  streams := []
  edits := []
  refusal := none

def Record.sections : Record :=
  .mapping [(.text "lines", .list [.map [(.text "price", .int 3)], .map [], .int 5, .null])]

theorem Run.bounds_fill_sections :
    (Run.sections.fill .sections).failure? = none ∧
      (Run.sections.fill .sections).run.sheet.maxRow = 7 ∧
      (Run.sections.fill .sections).run.sheet.maxCol = 3 := by
  have h : (Run.sections.fill .sections).failure? = none := by
    decide +kernel
  have hrows : Lines.remaining Run.sections.sheet.maxRow
      (Lines.parts .sections Run.sections.streams Run.sections.sheet.lines) = 7 := by
    decide +kernel
  have hwidth : Run.sections.sheet.maxCol = 3 := by
    decide +kernel
  obtain ⟨hrow, hcol⟩ := (Run.bounds_fill .sections .sections h).2 rfl
  rw [hrows] at hrow hcol
  rw [if_pos (by norm_num), hwidth] at hcol
  exact ⟨h, by exact_mod_cast hrow, hcol⟩

end SheetFill
