import SheetFill.Proofs.Sheet.Bounds

/-!
# The lines of a sheet

A sheet is read line by line: all columns of all rows up to its bounds, blank where no cell exists.
Asking for cells keeps the lines, putting a cell changes one place, and inserting or removing a row
inserts or removes one line. Removing the last row keeps the other lines only where the row above it
reaches the last column, because the bounds are those of the cells that are left.
-/
namespace SheetFill

/-- A row as it is read: its cells from the first column to the last. -/
abbrev Line := List Cell

def Row.line (w : Nat) (r : Row) : Line :=
  (List.range w).map fun i => (r.getD i none).getD Cell.blank

theorem Row.line_fill (w : Nat) (r : Row) : (r.fill w).line w = r.line w := by
  apply List.map_congr_left
  intro i hi
  have hw : i < w := List.mem_range.mp hi
  simp [Row.fill, hw]

def Line.blank (w : Nat) : Line := List.replicate w Cell.blank

theorem Row.line_nil (w : Nat) : Row.line w [] = Line.blank w := by
  simp [Row.line, Line.blank]

theorem Row.width_fill (w : Nat) (r : Row) : (r.fill w).width = w := by
  have h : r.fill w = (r.line w).map some := by simp [Row.fill, Row.line, Function.comp_def]
  rw [h, Row.width_map_some]
  simp [Row.line]

namespace Sheet

def ofTexts (rows : List (List String)) : Sheet where
  title := "Sheet"
  rows := rows.map (·.map fun (text : String) => some ⟨.text text, .text, .plain⟩)
  merged := []

theorem exists_of_get?_ofTexts {rows : List (List String)} {col row : Nat} {c : Cell}
    (h : (ofTexts rows).get? col row = some c) :
    ∃ texts ∈ rows, ∃ text ∈ texts, c = ⟨.text text, .text, .plain⟩ := by
  cases col with
  | zero => simp [get?] at h
  | succ i =>
    cases row with
    | zero => simp [get?] at h
    | succ j =>
      rw [get?_succ] at h
      by_cases hj : j < rows.length
      · by_cases hi : i < rows[j].length
        · have hc : c = ⟨.text rows[j][i], .text, .plain⟩ := by
            simpa [ofTexts, hj, hi, eq_comm] using h
          exact ⟨rows[j], List.getElem_mem hj, rows[j][i], List.getElem_mem hi, hc⟩
        · simp [ofTexts, hj, hi] at h
      · simp [ofTexts, hj] at h

/-- The lines of a sheet from the first to the highest row. -/
def lines (s : Sheet) : List Line :=
  (List.range s.maxRow).map fun j =>
    (List.range s.maxCol).map fun i => (s.get? (i + 1) (j + 1)).getD Cell.blank

@[simp] theorem length_lines (s : Sheet) : s.lines.length = s.maxRow := by simp [lines]

theorem length_of_mem_lines {s : Sheet} {l : Line} (h : l ∈ s.lines) : l.length = s.maxCol := by
  obtain ⟨j, -, rfl⟩ := List.mem_map.mp h
  simp

theorem lines_eq_body (s : Sheet) : s.lines = s.body.map (Row.line s.maxCol) := by
  have hbody : s.body = (List.range s.maxRow).map fun j => s.rows.getD j [] := by
    apply List.ext_getElem
    · simp only [body, List.length_append, List.length_take, List.length_replicate,
        List.length_map, List.length_range]
      omega
    · intro j h₁ h₂
      have hj : j < s.maxRow := by simpa using h₂
      simp only [body, List.getElem_append, List.getElem_map, List.getElem_range,
        List.length_take]
      split_ifs with h
      · have hl : j < s.rows.length := by omega
        simp [hl]
      · have hl : s.rows.length ≤ j := by omega
        simp [hl]
  simp only [hbody, lines, List.map_map]
  rfl

theorem length_body (s : Sheet) : s.body.length = s.maxRow := by
  rw [← s.length_lines, lines_eq_body, List.length_map]

theorem width_le_of_mem_body {s : Sheet} {r : Row} (h : r ∈ s.body) : r.width ≤ s.maxCol := by
  rcases List.mem_append.mp h with h | h
  · exact s.width_le_maxCol (List.mem_of_mem_take h)
  · rw [(List.mem_replicate.mp h).2]
    exact Nat.zero_le _

theorem lines_of_maxRow {s : Sheet} (h : s.maxRow = s.rows.length) :
    s.lines = s.rows.map (Row.line s.maxCol) := by
  simp [lines_eq_body, body, h]

def cleared (s : Sheet) : Sheet := { s with rows := [] }

/-- Row `row` reaches column `w`: there is a cell in it. -/
def Spans (s : Sheet) (w row : Nat) : Prop := (s.get? w row).isSome

/-- The lines of the sheet are `ls`, each of `w` cells. With no line left it reads like one without
cells. -/
structure Reads (s : Sheet) (w : Nat) (ls : List Line) : Prop where
  lines : s.lines = if ls = [] then s.cleared.lines else ls
  maxCol : ls ≠ [] → s.maxCol = w

/-- The cells of the first `k` rows of `s` exist in `s'` as well, and what no row holds is the
same. -/
structure Keeps (k : Nat) (s s' : Sheet) : Prop where
  above : s'.above = s.above
  merged : s'.merged = s.merged
  title : s'.title = s.title
  cells : ∀ col row, row ≤ k → (s.get? col row).isSome → (s'.get? col row).isSome

theorem Keeps.refl (k : Nat) (s : Sheet) : s.Keeps k s := ⟨rfl, rfl, rfl, fun _ _ _ h => h⟩

theorem Keeps.trans {k : Nat} {s s' s'' : Sheet} (h : s.Keeps k s') (h' : s'.Keeps k s'') :
    s.Keeps k s'' :=
  ⟨h'.above.trans h.above, h'.merged.trans h.merged, h'.title.trans h.title,
    fun col row hk hc => h'.cells col row hk (h.cells col row hk hc)⟩

theorem Keeps.mono {k m : Nat} {s s' : Sheet} (h : s.Keeps k s') (hm : m ≤ k) : s.Keeps m s' :=
  ⟨h.above, h.merged, h.title, fun col row hk => h.cells col row (hk.trans hm)⟩

theorem Keeps.spans {k w row : Nat} {s s' : Sheet} (h : s.Keeps k s') (hrow : row ≤ k)
    (hs : s.Spans w row) : s'.Spans w row :=
  h.cells w row hrow hs

theorem cleared_lines_congr {s s' : Sheet} (h : s'.above = s.above) :
    s'.cleared.lines = s.cleared.lines := by
  have hr : s'.cleared.maxRow = s.cleared.maxRow := by simp [maxRow, highestRow, cleared, h]
  have hc : s'.cleared.maxCol = s.cleared.maxCol := by simp [Sheet.maxCol, cleared, h]
  simp only [lines, hr, hc]
  rfl

theorem lines_of_cleared (s : Sheet) :
    s.cleared.lines = List.replicate s.cleared.maxRow (Line.blank s.cleared.maxCol) := by
  simp [lines, cleared, get?, Line.blank]

theorem maxCol_eq_cleared {s : Sheet} (h : s.maxRow = 0) : s.maxCol = s.cleared.maxCol := by
  have hheight : height s.rows = 0 := by
    rw [maxRow_eq] at h
    split_ifs at h with hs
    · exact hs.1
    · omega
  apply eq_of_forall_ge_iff
  intro n
  rw [maxCol_le_iff, maxCol_le_iff]
  simp only [cleared, List.not_mem_nil, false_implies, implies_true, true_and]
  refine and_congr_right fun _ => ⟨fun hn => hn.2, fun hn => ⟨fun r hr => ?_, hn⟩⟩
  rw [width_eq_zero hheight hr]
  exact Nat.zero_le n

theorem reads_self (s : Sheet) : s.Reads s.maxCol s.lines := by
  refine ⟨?_, fun _ => rfl⟩
  split_ifs with h
  · -- only a sheet with nothing but rows out of reach has no lines
    have hr : s.maxRow = 0 := by rw [← s.length_lines, h, List.length_nil]
    have ha : s.above ≠ [] := by
      rw [maxRow_eq] at hr
      split_ifs at hr with hs
      · exact hs.2
      · omega
    have hc : s.cleared.maxRow = 0 := by
      rw [maxRow_eq]
      simp [cleared, height, ha]
    rw [h]
    simp [lines, hc]
  · rfl

namespace Reads

variable {s : Sheet} {w : Nat} {ls : List Line}

theorem lines_eq (h : s.Reads w ls) (hls : ls ≠ []) : s.lines = ls := by
  rw [h.lines, if_neg hls]

theorem maxRow_eq_length (h : s.Reads w ls) (hls : ls ≠ []) : s.maxRow = ls.length := by
  rw [← s.length_lines, h.lines_eq hls]

theorem of_lines (hl : s.lines = ls) (hw : s.maxCol = w) (hls : ls ≠ []) : s.Reads w ls :=
  ⟨by rw [hl, if_neg hls], fun _ => hw⟩

/-- A sheet that has lost its lines has at most its first row left. -/
theorem maxRow_le_one (h : s.Reads w []) : s.maxRow ≤ 1 := by
  rw [← s.length_lines, h.lines, if_pos rfl, length_lines, Sheet.maxRow_eq]
  simp only [cleared, height]
  split_ifs <;> omega

/-- And that row is blank. -/
theorem lines_eq_blank (h : s.Reads w []) (hrow : s.maxRow ≠ 0) :
    s.lines = [Line.blank s.cleared.maxCol] := by
  have hlines : s.lines = s.cleared.lines := by rw [h.lines, if_pos rfl]
  have hone : s.cleared.maxRow = 1 := by
    have hle := h.maxRow_le_one
    rw [← length_lines, ← hlines, length_lines]
    omega
  rw [hlines, Sheet.lines_of_cleared, hone, List.replicate_one]

theorem maxCol_of_nil (h : s.Reads w []) : s.maxCol = s.cleared.maxCol := by
  by_cases hrow : s.maxRow = 0
  · exact maxCol_eq_cleared hrow
  · have hlen : (Line.blank s.cleared.maxCol).length = s.maxCol :=
      length_of_mem_lines (by rw [h.lines_eq_blank hrow]; simp)
    rw [← hlen]
    simp [Line.blank]

/-- Nothing but the lines and the rows out of reach decides on how a sheet reads. -/
theorem congr {s' : Sheet} (h : s.Reads w ls) (h' : s'.Reads w ls) (ha : s'.above = s.above) :
    s'.lines = s.lines ∧ s'.maxRow = s.maxRow ∧ s'.maxCol = s.maxCol := by
  have hlines : s'.lines = s.lines := by
    rw [h.lines, h'.lines, cleared_lines_congr ha]
  refine ⟨hlines, by rw [← length_lines, hlines, length_lines], ?_⟩
  by_cases hls : ls = []
  · subst hls
    rw [h.maxCol_of_nil, h'.maxCol_of_nil]
    simp [Sheet.maxCol, cleared, ha]
  · rw [h.maxCol hls, h'.maxCol hls]

end Reads
end Sheet
end SheetFill
