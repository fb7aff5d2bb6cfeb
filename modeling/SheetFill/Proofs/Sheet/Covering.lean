import SheetFill.Sheet.Merge
import SheetFill.Proofs.Sheet.Lines

/-!
# Values under merged ranges

The value at a position is that of its cell, and null where there is none. Covering a range takes
the values at all its positions but the first, and no other value.
-/
namespace SheetFill.Sheet

variable {s : Sheet} {col row : Nat}

/-- The value at a position, null where no cell exists. -/
def valueAt (s : Sheet) (col row : Nat) : Value := ((s.get? col row).getD Cell.blank).value

/-- A position is covered by a merged range of the sheet. -/
def Covered (s : Sheet) (col row : Nat) : Prop := ∃ r ∈ s.merged, (col, row) ∈ r.others

instance (s : Sheet) (col row : Nat) : Decidable (s.Covered col row) :=
  inferInstanceAs (Decidable (∃ r ∈ s.merged, (col, row) ∈ r.others))

theorem valueAt_put (s : Sheet) (i j : Nat) (c : Cell) (col row : Nat) :
    (s.put i j c).valueAt col row =
      if col = i ∧ row = j ∧ 0 < i ∧ 0 < j then c.value else s.valueAt col row := by
  cases i with
  | zero => simp [put]
  | succ i =>
    cases j with
    | zero => simp [put]
    | succ j =>
      simp only [valueAt, get?_put, Nat.succ_pos, and_self, and_true]
      split_ifs <;> rfl

theorem valueAt_eq_null (s : Sheet) {col row : Nat} (h : col = 0 ∨ row = 0) :
    s.valueAt col row = .null := by
  rcases h with rfl | rfl
  · rfl
  · cases col <;> rfl

/-- A cell put in the place of one with the same value changes no value. -/
theorem valueAt_put_self {i j : Nat} {c : Cell} (h : c.value = s.valueAt i j) (col row : Nat) :
    (s.put i j c).valueAt col row = s.valueAt col row := by
  rw [valueAt_put]
  split_ifs with hp
  · rw [h, hp.1, hp.2.1]
  · rfl

theorem foldl_keeps {α β : Type} {f : Sheet → α} {g : Sheet → β → Sheet}
    (h : ∀ s p, f (g s p) = f s) (ps : List β) (s : Sheet) : f (ps.foldl g s) = f s := by
  induction ps generalizing s with
  | nil => rfl
  | cons p ps ih => rw [List.foldl_cons, ih, h]

theorem valueAt_foldl_put {c : Cell} (hc : c.value = .null) (ps : List (Nat × Nat)) (s : Sheet) :
    (ps.foldl (fun s (col, row) => s.put col row c) s).valueAt col row =
      if (col, row) ∈ ps then .null else s.valueAt col row := by
  induction ps generalizing s with
  | nil => rfl
  | cons p ps ih =>
    obtain ⟨i, j⟩ := p
    rw [List.foldl_cons, ih, valueAt_put, hc]
    by_cases hp : col = i ∧ row = j
    · obtain ⟨rfl, rfl⟩ := hp
      by_cases hpos : 0 < col ∧ 0 < row
      · simp [hpos]
      · -- nothing is put out of reach, but nothing stands there either
        have hnull : s.valueAt col row = .null := s.valueAt_eq_null (by omega)
        simp [hnull]
    · simp [hp, ← and_assoc]

theorem valueAt_addLines (s : Sheet) (left bottom : Option String) (p : Nat × Nat) :
    (s.addLines left bottom p).valueAt col row = s.valueAt col row := by
  apply valueAt_put_self
  rw [valueAt]
  cases s.get? p.1 p.2 <;> rfl

/-- What putting a cell keeps is kept by covering a range. -/
theorem keeps_cover {α : Type} {f : Sheet → α} (h : ∀ s i j c, f (s.put i j c) = f s) (s : Sheet)
    (r : Range) : f (s.cover r) = f s := by
  have hput (c : Cell) (s : Sheet) (p : Nat × Nat) : f (s.put p.1 p.2 c) = f s := h s p.1 p.2 c
  have hlines (left bottom : Option String) (s : Sheet) (p : Nat × Nat) :
      f (s.addLines left bottom p) = f s := hput _ s p
  unfold cover
  simp only [foldl_keeps (hlines _ _), foldl_keeps (hput _), h]

theorem title_put (s : Sheet) (i j : Nat) (c : Cell) : (s.put i j c).title = s.title := by
  cases i <;> cases j <;> rfl

theorem merged_put (s : Sheet) (i j : Nat) (c : Cell) : (s.put i j c).merged = s.merged := by
  cases i <;> cases j <;> rfl

theorem valueAt_cover (s : Sheet) (r : Range) :
    (s.cover r).valueAt col row =
      if (col, row) ∈ r.others then .null else s.valueAt col row := by
  have hlines (left bottom : Option String) (ps : List (Nat × Nat)) (s : Sheet) :
      (ps.foldl (·.addLines left bottom) s).valueAt col row = s.valueAt col row :=
    foldl_keeps (f := (·.valueAt col row)) (fun s p => valueAt_addLines s left bottom p) ps s
  unfold cover
  simp only [hlines]
  rw [valueAt_foldl_put rfl]
  split_ifs
  · rfl
  · apply valueAt_put_self
    rfl

/-- Covering some ranges takes the values that stand in one of them behind its first position. -/
theorem valueAt_foldl_cover (rs : List Range) (s : Sheet) :
    (rs.foldl cover s).valueAt col row =
      if ∃ r ∈ rs, (col, row) ∈ r.others then .null else s.valueAt col row := by
  induction rs generalizing s with
  | nil => simp
  | cons r rs ih =>
    rw [List.foldl_cons, ih, valueAt_cover]
    by_cases hr : (col, row) ∈ r.others <;> simp [hr]

theorem lt_height {rows : List Row} {j : Nat} (h : (rows.getD j []).width ≠ 0) :
    j < height rows := by
  induction rows generalizing j with
  | nil => simp [Row.width] at h
  | cons r rows ih =>
    rw [height_cons]
    cases j with
    | zero =>
      have hr : r.width ≠ 0 := by simpa using h
      split_ifs <;> omega
    | succ j =>
      have hj : j < height rows := ih (by simpa using h)
      rw [if_neg (by omega)]
      omega

theorem lt_bounds_of_isSome {i j : Nat} (h : (s.get? (i + 1) (j + 1)).isSome) :
    i < s.maxCol ∧ j < s.maxRow := by
  rw [get?_succ] at h
  have hi := Row.lt_width h
  have hj : j < height s.rows := lt_height (by omega)
  have hmem : s.rows.getD j [] ∈ s.rows := by
    have hlen : j < s.rows.length := by
      by_contra hlen
      simp [List.getElem?_eq_none (Nat.le_of_not_lt hlen)] at h
    simp [hlen]
  have hle := s.width_le_maxCol hmem
  rw [maxRow_eq, if_neg (by omega)]
  omega

theorem valueAt_succ (s : Sheet) (i j : Nat) :
    s.valueAt (i + 1) (j + 1) = ((s.lines.getD j []).getD i Cell.blank).value := by
  rw [valueAt]
  cases hc : s.get? (i + 1) (j + 1) with
  | some c =>
    have hsome : (s.get? (i + 1) (j + 1)).isSome := by rw [hc]; rfl
    obtain ⟨hi, hj⟩ := lt_bounds_of_isSome hsome
    simp [lines, hi, hj, hc]
  | none =>
    by_cases hj : j < s.maxRow
    · by_cases hi : i < s.maxCol
      · simp [lines, hi, hj, hc]
      · simp [lines, hi, hj]
    · simp [lines, hj]

end SheetFill.Sheet
