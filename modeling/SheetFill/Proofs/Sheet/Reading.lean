import SheetFill.Proofs.Sheet.Operations
import SheetFill.Proofs.Steps

/-!
# Reading template rows

Reading the markers of a template row keeps the lines of the sheet and gives what the line of that
row says. Afterwards the row reaches the last column. The bounds of the sheet stay as they are.
-/
namespace SheetFill

/-- The markers of a template row, whose first column is `col`. -/
def Line.columns : (col : Nat) → Line → List (Nat × CellMarker)
  | _, [] => []
  | col, c :: rest => (col, (Marker.ofValue c.value).inTemplateRow) :: columns (col + 1) rest

namespace Sheet

variable {s : Sheet} {w : Nat} {top below : List Line} {left right : Line} {c : Cell}

theorem cell_eq_of_access {col row : Nat} {s' : Sheet} (h : s.access col row = .ok (c, s')) :
    cell col row s = .ok c s' := by
  simp [cell, h]

theorem access_of_cell {col row : Nat} {s' : Sheet} (h : cell col row s = .ok c s') :
    s.access col row = .ok (c, s') := by
  unfold cell at h
  cases ha : s.access col row with
  | error e => simp [ha] at h
  | ok r =>
    simp only [ha] at h
    cases h
    rfl

theorem access_of_cell_error {col row : Nat} {s' : Sheet} {e : Error}
    (h : cell col row s = .error e s') : s.access col row = .error e := by
  unfold cell at h
  cases ha : s.access col row with
  | error e =>
    simp only [ha] at h
    cases h
    rfl
  | ok r => simp [ha] at h

theorem cell_of_lastRow_lt (s : Sheet) (i : Nat) {row : Nat} (h : lastRow < row) :
    cell (i + 1) row s = .error (.noSuchRow row) s := by
  simp [cell, s.access_of_lastRow_lt i h]

theorem readColumns_eq (top : List Line) (hrow : top.length + 1 ≤ lastRow) (right : Line) :
    ∀ (left : Line) (s : Sheet),
    s.Reads w (top ++ (left ++ right) :: below) →
    ∃ s', readColumns (top.length + 1) (List.range' (left.length + 1) right.length) s =
        .ok (Line.columns (left.length + 1) right) s' ∧
      s'.Reads w (top ++ (left ++ right) :: below) ∧ (∀ k, s.Keeps k s') ∧
      ∀ col, left.length < col → col ≤ left.length + right.length →
        s'.Spans col (top.length + 1) := by
  induction right with
  | nil =>
    intro left s h
    refine ⟨s, rfl, h, fun k => .refl k s, fun col h₁ h₂ => ?_⟩
    rw [List.length_nil] at h₂
    omega
  | cons c right ih =>
    intro left s h
    obtain ⟨s₁, hs₁, hr₁, hk₁, hc⟩ := h.access hrow
    obtain ⟨s₂, hs₂, hr₂, hk₂, hspans⟩ := ih (left ++ [c]) s₁ (by simpa using hr₁)
    rw [List.length_append, List.length_singleton] at hs₂ hspans
    refine ⟨s₂, ?_, by simpa using hr₂, fun k => (hk₁ k).trans (hk₂ k), ?_⟩
    · simp only [List.length_cons, List.range'_succ, readColumns, Line.columns, bind, EStateM.bind,
        cell_eq_of_access hs₁, hs₂]
      rfl
    · intro col h₁ h₂
      by_cases hcol : col = left.length + 1
      · subst hcol
        refine (hk₂ (top.length + 1)).spans le_rfl ?_
        rw [Spans, hc]
        rfl
      · rw [List.length_cons] at h₂
        exact hspans col (by omega) (by omega)

variable {line template : Line}

theorem columns_eq (h : s.Reads w (top ++ line :: below)) :
    s.columns = List.range' 1 line.length := by
  rw [columns, length_line (h.lines_eq (by simp))]

theorem readTemplateRow_apply (row : Nat) (s : Sheet) :
    readTemplateRow row s =
      if s.maxRow < row then .ok [] s else readColumns row s.columns s := by
  show (if s.maxRow < row then pure [] else readColumns row s.columns : SheetAction _) s = _
  split <;> rfl

theorem readTemplateRow_eq (h : s.Reads w (top ++ line :: template :: below))
    (hrow : top.length + 2 ≤ lastRow) :
    ∃ s', readTemplateRow (top.length + 2) s = .ok (Line.columns 1 template) s' ∧
      s'.Reads w (top ++ line :: template :: below) ∧ (∀ k, s.Keeps k s') ∧
      s'.Spans w (top.length + 2) := by
  have ht : s.Reads w ((top ++ [line]) ++ template :: below) := by simpa using h
  have hmax : ¬ s.maxRow < top.length + 2 := by
    rw [h.maxRow_eq_length (by simp)]
    simp
  have hw : w = template.length := by
    rw [length_line (ht.lines_eq (by simp)), ht.maxCol (by simp)]
  obtain ⟨s', hs', hr, hk, hspans⟩ :=
    readColumns_eq (top ++ [line]) (by simp; omega) template [] s ht
  simp only [List.length_append, List.length_singleton, List.length_nil, Nat.zero_add] at hs' hspans
  refine ⟨s', ?_, by simpa using hr, hk, hspans w ?_ hw.le⟩
  · rw [← columns_eq ht] at hs'
    rw [readTemplateRow_apply, if_neg hmax]
    exact hs'
  · rw [← ht.maxCol (by simp)]
    exact s.one_le_maxCol

theorem readTemplateRow_error (h : s.Reads w (top ++ line :: template :: below))
    (hrow : lastRow < top.length + 2) :
    readTemplateRow (top.length + 2) s = .error (.noSuchRow (top.length + 2 : Nat)) s := by
  have hmax : ¬ s.maxRow < top.length + 2 := by
    rw [h.maxRow_eq_length (by simp)]
    simp
  obtain ⟨k, hk⟩ := Nat.exists_eq_add_of_le' s.one_le_maxCol
  rw [readTemplateRow_apply, if_neg hmax]
  simp only [columns, hk, List.range'_succ, readColumns, bind, EStateM.bind,
    cell_of_lastRow_lt s 0 hrow]

theorem readTemplateRow_past (h : s.Reads w (top ++ [line])) :
    readTemplateRow (top.length + 2) s = .ok [] s := by
  have hmax : s.maxRow < top.length + 2 := by
    rw [h.maxRow_eq_length (by simp)]
    simp
  rw [readTemplateRow_apply, if_pos hmax]

/-! ## Bounds -/

section Bounds

variable {s' : Sheet} {col row : Nat}

theorem sameBounds_cell {c : Cell} (hcol : col ≤ s.maxCol) (hrow : row ≤ s.maxRow)
    (h : cell col row s = .ok c s') : s.SameBounds s' :=
  sameBounds_access hcol hrow (access_of_cell h)

theorem sameBounds_readColumns (cols : List Nat) : ∀ {s s' : Sheet} {markers},
    (∀ col ∈ cols, col ≤ s.maxCol) → row ≤ s.maxRow →
    readColumns row cols s = .ok markers s' → s.SameBounds s' := by
  induction cols with
  | nil =>
    intro s s' markers _ _ h
    cases h
    exact .refl s
  | cons col cols ih =>
    intro s s' markers hcols hrow h
    obtain ⟨c, s₁, hcell, h⟩ := bind_eq_ok.mp h
    obtain ⟨others, s₂, hothers, h⟩ := bind_eq_ok.mp h
    cases h
    have hb := sameBounds_cell (hcols col List.mem_cons_self) hrow hcell
    refine hb.trans (ih (fun c hc => ?_) (hb.maxRow ▸ hrow) hothers)
    rw [hb.maxCol]
    exact hcols c (List.mem_cons_of_mem col hc)

theorem sameBounds_classify {marker : Marker} (hcol : col ≤ s.maxCol) (hrow : row ≤ s.maxRow)
    (h : classify col row s = .ok marker s') : s.SameBounds s' := by
  obtain ⟨c, s₁, hcell, h⟩ := bind_eq_ok.mp h
  have hb := sameBounds_cell hcol hrow hcell
  cases hm : Marker.ofValue c.value with
  | each name columns =>
    rw [hm] at h
    obtain ⟨markers, s₂, hread, h⟩ := bind_eq_ok.mp h
    cases h
    rw [readTemplateRow_apply] at hread
    split_ifs at hread with hlast
    · cases hread
      exact hb
    · refine hb.trans (sameBounds_readColumns _ (fun c hc => ?_) (Nat.le_of_not_lt hlast) hread)
      have hmem := List.mem_range'_1.mp hc
      omega
  | plain =>
    rw [hm] at h
    cases h
    exact hb
  | field name =>
    rw [hm] at h
    cases h
    exact hb

end Bounds
end Sheet
end SheetFill
