import SheetFill.Sheet.Basic
import Mathlib.Tactic

/-!
# Bounds of a sheet

The bounds are those of the existing cells. Putting a cell moves them exactly as far as its
position, and a position that holds a cell lies within them.
-/
namespace SheetFill

theorem foldl_max_le_iff (l : List Nat) : ∀ a n : Nat,
    l.foldl max a ≤ n ↔ a ≤ n ∧ ∀ x ∈ l, x ≤ n := by
  induction l with
  | nil => intro a n; simp
  | cons y l ih =>
    intro a n
    rw [List.foldl_cons, ih, List.forall_mem_cons, max_le_iff, and_assoc]

namespace Row

theorem width_cons (c : Option Cell) (r : Row) :
    width (c :: r) = if r.width = 0 then (if c.isSome then 1 else 0) else r.width + 1 := by
  cases h : r.width <;> simp [width, h]

theorem width_put (c : Cell) (i : Nat) (r : Row) : (put c i r).width = max r.width (i + 1) := by
  induction i generalizing r with
  | zero =>
    cases r with
    | nil => simp [put, width]
    | cons x r =>
      simp only [put, width_cons]
      split_ifs <;> simp_all
  | succ i ih =>
    cases r with
    | nil =>
      simp only [put, width_cons, ih, width]
      split_ifs <;> omega
    | cons x r =>
      simp only [put, width_cons, ih]
      split_ifs <;> omega

theorem getD_put (c : Cell) (i j : Nat) (r : Row) :
    (put c i r).getD j none = if j = i then some c else r.getD j none := by
  induction i generalizing r j with
  | zero =>
    cases r <;> cases j <;> simp [put]
  | succ i ih =>
    cases r with
    | nil =>
      cases j with
      | zero => simp [put]
      | succ j => simpa [put] using ih j []
    | cons x r =>
      cases j with
      | zero => simp [put]
      | succ j => simpa [put] using ih j r

theorem width_map_some (l : List Cell) : Row.width (l.map some) = l.length := by
  induction l with
  | nil => rfl
  | cons c l ih =>
    rw [List.map_cons, width_cons, ih]
    cases l <;> simp

theorem lt_width {r : Row} {i : Nat} (h : (r.getD i none).isSome) : i < width r := by
  induction r generalizing i with
  | nil => simp at h
  | cons c r ih =>
    rw [width_cons]
    cases i with
    | zero =>
      have hc : c.isSome := by simpa using h
      split_ifs <;> omega
    | succ i =>
      have hi : i < width r := ih (by simpa using h)
      split_ifs <;> omega

end Row

namespace Sheet

theorem height_cons (r : Row) (rows : List Row) : height (r :: rows) =
    if height rows = 0 then (if r.width = 0 then 0 else 1) else height rows + 1 := by
  cases h : height rows <;> simp [height, h]

theorem width_eq_zero {rows : List Row} (h : height rows = 0) {r : Row} (hr : r ∈ rows) :
    r.width = 0 := by
  induction rows with
  | nil => simp at hr
  | cons x rows ih =>
    rw [height_cons] at h
    split_ifs at h with hrows hx
    rcases List.mem_cons.mp hr with rfl | hr
    · exact hx
    · exact ih hrows hr

theorem height_putRow (c : Cell) (i j : Nat) (rows : List Row) :
    height (putRow c i j rows) = max (height rows) (j + 1) := by
  have hw : ∀ r : Row, (Row.put c i r).width ≠ 0 := by
    intro r
    rw [Row.width_put]
    omega
  induction j generalizing rows with
  | zero =>
    cases rows with
    | nil => simp [putRow, height, hw]
    | cons r rows =>
      simp only [putRow, height_cons, hw]
      split_ifs <;> simp_all
  | succ j ih =>
    cases rows with
    | nil =>
      simp only [putRow, height_cons, ih, height]
      split_ifs <;> omega
    | cons r rows =>
      simp only [putRow, height_cons, ih]
      split_ifs <;> omega

theorem height_concat {r : Row} (h : r.width ≠ 0) (rows : List Row) :
    height (rows ++ [r]) = rows.length + 1 := by
  induction rows with
  | nil => simp [height, h]
  | cons x rows ih => simp [height_cons, ih]

theorem getD_putRow (c : Cell) (i j k : Nat) (rows : List Row) :
    (putRow c i j rows).getD k [] =
      if k = j then Row.put c i (rows.getD j []) else rows.getD k [] := by
  induction j generalizing rows k with
  | zero => cases rows <;> cases k <;> simp [putRow]
  | succ j ih =>
    cases rows with
    | nil =>
      cases k with
      | zero => simp [putRow]
      | succ k => simpa [putRow] using ih k []
    | cons r rows =>
      cases k with
      | zero => simp [putRow]
      | succ k => simpa [putRow] using ih k rows

theorem width_putRow_le_iff (c : Cell) (i j n : Nat) (rows : List Row) :
    (∀ r ∈ putRow c i j rows, r.width ≤ n) ↔ (∀ r ∈ rows, r.width ≤ n) ∧ i + 1 ≤ n := by
  induction j generalizing rows with
  | zero =>
    cases rows with
    | nil => simp [putRow, Row.width_put, Row.width]
    | cons r rows =>
      simp only [putRow, List.forall_mem_cons, Row.width_put, max_le_iff]
      tauto
  | succ j ih =>
    cases rows with
    | nil => simp [putRow, ih, Row.width]
    | cons r rows =>
      simp only [putRow, List.forall_mem_cons, ih]
      tauto

variable (s : Sheet)

/-- Where only rows out of reach hold cells the sheet has no highest row. -/
theorem maxRow_eq :
    s.maxRow = if height s.rows = 0 ∧ s.above ≠ [] then 0 else max 1 (height s.rows) := by
  unfold maxRow highestRow
  cases hh : height s.rows with
  | zero => cases ha : s.above <;> simp
  | succ h => simp

theorem maxCol_le_iff (n : Nat) : s.maxCol ≤ n ↔
    1 ≤ n ∧ (∀ r ∈ s.rows, r.width ≤ n) ∧ ∀ p ∈ s.above, p.2 ≤ n := by
  simp only [maxCol, foldl_max_le_iff, List.mem_append, List.mem_map, or_imp, forall_and,
    forall_exists_index, and_imp, forall_apply_eq_imp_iff₂]

theorem one_le_maxCol : 1 ≤ s.maxCol := ((s.maxCol_le_iff _).mp le_rfl).1

theorem width_le_maxCol {r : Row} (h : r ∈ s.rows) : r.width ≤ s.maxCol :=
  ((s.maxCol_le_iff _).mp le_rfl).2.1 r h

theorem maxCol_put (i j : Nat) (c : Cell) :
    (s.put (i + 1) (j + 1) c).maxCol = max s.maxCol (i + 1) := by
  apply eq_of_forall_ge_iff
  intro n
  rw [max_le_iff, maxCol_le_iff, maxCol_le_iff]
  simp only [put, width_putRow_le_iff]
  tauto

theorem maxRow_put {i j : Nat} (h : j < s.maxRow) (c : Cell) :
    (s.put (i + 1) (j + 1) c).maxRow = s.maxRow := by
  rw [maxRow_eq] at h ⊢
  rw [maxRow_eq]
  simp only [put, height_putRow]
  split_ifs at h ⊢ <;> omega

theorem get?_succ (i j : Nat) : s.get? (i + 1) (j + 1) = (s.rows.getD j []).getD i none := rfl

theorem get?_put (i j : Nat) (c : Cell) (col row : Nat) : (s.put (i + 1) (j + 1) c).get? col row =
    if col = i + 1 ∧ row = j + 1 then some c else s.get? col row := by
  cases col with
  | zero => simp [get?]
  | succ col =>
    cases row with
    | zero => simp [get?]
    | succ row =>
      simp only [get?_succ, put, getD_putRow, Nat.add_right_cancel_iff]
      by_cases hr : row = j
      · subst hr
        simp only [if_true, Row.getD_put, and_true]
      · simp [hr]

structure SameBounds (s s' : Sheet) : Prop where
  maxRow : s'.maxRow = s.maxRow
  maxCol : s'.maxCol = s.maxCol

theorem SameBounds.refl : s.SameBounds s := ⟨rfl, rfl⟩

theorem SameBounds.trans {s s' s'' : Sheet} (h : s.SameBounds s') (h' : s'.SameBounds s'') :
    s.SameBounds s'' :=
  ⟨h'.maxRow.trans h.maxRow, h'.maxCol.trans h.maxCol⟩

/-- Putting a cell within the bounds does not move them. -/
theorem sameBounds_put {col row : Nat} (hcol : col ≤ s.maxCol) (hrow : row ≤ s.maxRow) (c : Cell) :
    s.SameBounds (s.put col row c) := by
  cases col with
  | zero => exact .refl s
  | succ i =>
    cases row with
    | zero => exact .refl s
    | succ j => exact ⟨s.maxRow_put hrow c, by rw [maxCol_put]; omega⟩

theorem sameBounds_access {s s' : Sheet} {col row : Nat} {c : Cell} (hcol : col ≤ s.maxCol)
    (hrow : row ≤ s.maxRow) (h : s.access col row = .ok (c, s')) : s.SameBounds s' := by
  unfold access at h
  split_ifs at h
  cases hg : s.get? col row with
  | some c' =>
    rw [hg] at h
    cases h
    exact .refl s
  | none =>
    rw [hg] at h
    cases h
    exact s.sameBounds_put hcol hrow _

/-- The bounds of a sheet whose last row ends with a cell in column `w`, behind which there is
none. -/
theorem bounds_of_last {w : Nat} {rows : List Row} {r : Row} (hrows : s.rows = rows ++ [r])
    (hw : 1 ≤ w) (hr : r.width = w) (hle : ∀ x ∈ rows, x.width ≤ w)
    (ha : ∀ p ∈ s.above, p.2 ≤ w) : s.maxRow = rows.length + 1 ∧ s.maxCol = w := by
  constructor
  · rw [maxRow_eq, hrows, height_concat (by omega)]
    simp
  · apply le_antisymm
    · rw [maxCol_le_iff, hrows]
      refine ⟨hw, ?_, ha⟩
      intro x hx
      rcases List.mem_append.mp hx with hx | hx
      · exact hle x hx
      · rw [List.mem_singleton.mp hx, hr]
    · rw [← hr]
      exact s.width_le_maxCol (by simp [hrows])

end Sheet
end SheetFill
