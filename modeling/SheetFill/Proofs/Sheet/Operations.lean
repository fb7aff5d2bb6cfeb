import SheetFill.Proofs.Sheet.Lines
import SheetFill.Sheet.Reading
import Mathlib.Data.List.GetD

/-!
# Sheet operations on lines

What asking for cells, putting and restyling them, and inserting and removing rows do to the lines
of a sheet. Positions are given by what stands above and to the left of them.
-/
namespace SheetFill.Sheet

variable {s : Sheet} {w : Nat} {top below : List Line} {left right : Line} {c : Cell}

/-! ## Cells -/

theorem line_eq {l : Line} (h : s.lines = top ++ l :: below) :
    l = (List.range s.maxCol).map fun i =>
      (s.get? (i + 1) (top.length + 1)).getD Cell.blank := by
  have hl : s.lines[top.length]? = some l := by simp [h]
  have hrow : top.length < s.maxRow := by
    rw [← s.length_lines, h]
    simp
  simpa [lines, hrow] using hl.symm

theorem length_line {l : Line} (h : s.lines = top ++ l :: below) : l.length = s.maxCol := by
  rw [line_eq h]
  simp

theorem cell_eq (h : s.lines = top ++ (left ++ c :: right) :: below) :
    (s.get? (left.length + 1) (top.length + 1)).getD Cell.blank = c := by
  have hl : (left ++ c :: right)[left.length]? = some c := by simp
  have hcol : left.length < s.maxCol := by
    rw [← length_line h]
    simp
  rw [line_eq h] at hl
  simpa [hcol] using hl

theorem lines_put (h : s.lines = top ++ (left ++ c :: right) :: below) (c' : Cell) :
    (s.put (left.length + 1) (top.length + 1) c').lines =
      top ++ (left ++ c' :: right) :: below := by
  have hrow : top.length < s.maxRow := by
    rw [← s.length_lines, h]
    simp
  have hcol : left.length < s.maxCol := by
    rw [← length_line h]
    simp
  have hset : top ++ (left ++ c' :: right) :: below =
      s.lines.set top.length ((left ++ c :: right).set left.length c') := by
    simp [h]
  have hw : (s.put (left.length + 1) (top.length + 1) c').maxCol = s.maxCol := by
    rw [maxCol_put]
    omega
  rw [hset, line_eq h]
  apply List.ext_getElem
  · simp [s.maxRow_put hrow]
  · intro j h₁ h₂
    rw [List.getElem_set]
    simp only [lines, List.getElem_map, List.getElem_range, hw, get?_put, Nat.add_right_cancel_iff]
    split_ifs with hj
    · subst hj
      apply List.ext_getElem
      · simp
      · intro i h₁ h₂
        rw [List.getElem_set]
        simp only [List.getElem_map, List.getElem_range, and_true]
        by_cases hi : left.length = i
        · simp [hi]
        · simp [hi, Ne.symm hi]
    · simp [Ne.symm hj]

theorem keeps_put (s : Sheet) (k i j : Nat) (c : Cell) : s.Keeps k (s.put (i + 1) (j + 1) c) := by
  refine ⟨rfl, rfl, rfl, ?_⟩
  intro col row _ h
  rw [get?_put]
  split_ifs
  · rfl
  · exact h

namespace Reads

theorem put (h : s.Reads w (top ++ (left ++ c :: right) :: below)) (c' : Cell) :
    (s.put (left.length + 1) (top.length + 1) c').Reads w
      (top ++ (left ++ c' :: right) :: below) := by
  have hl := h.lines_eq (by simp)
  have hcol : left.length < s.maxCol := by
    rw [← length_line hl]
    simp
  apply of_lines (lines_put hl c') _ (by simp)
  rw [maxCol_put, h.maxCol (by simp)] at *
  omega

/-- Asking for a cell within the bounds gives what the line shows there. -/
theorem access (h : s.Reads w (top ++ (left ++ c :: right) :: below))
    (hrow : top.length + 1 ≤ lastRow) :
    ∃ s', s.access (left.length + 1) (top.length + 1) = .ok (c, s') ∧
      s'.Reads w (top ++ (left ++ c :: right) :: below) ∧ (∀ k, s.Keeps k s') ∧
      s'.get? (left.length + 1) (top.length + 1) = some c := by
  have hc := cell_eq (h.lines_eq (by simp))
  have hin : ¬ (left.length + 1 < 1 || top.length + 1 < 1) = true := by simp
  unfold Sheet.access
  rw [if_neg hin, if_neg (by omega)]
  cases hg : s.get? (left.length + 1) (top.length + 1) with
  | some c' =>
    rw [hg, Option.getD_some] at hc
    subst hc
    exact ⟨s, rfl, h, fun k => .refl k s, hg⟩
  | none =>
    rw [hg, Option.getD_none] at hc
    subst hc
    refine ⟨_, rfl, h.put _, fun k => s.keeps_put k _ _ _, ?_⟩
    rw [get?_put]
    simp

theorem restyle (h : s.Reads w (top ++ (left ++ c :: right) :: below))
    (hrow : top.length + 1 ≤ lastRow) (f : Style → Style) :
    ∃ s', s.restyle (left.length + 1) (top.length + 1) f = .ok s' ∧
      s'.Reads w (top ++ (left ++ { c with style := f c.style } :: right) :: below) ∧
      ∀ k, s.Keeps k s' := by
  obtain ⟨s₁, h₁, hr, hk, -⟩ := h.access hrow
  refine ⟨s₁.put (left.length + 1) (top.length + 1) { c with style := f c.style }, ?_, hr.put _,
    fun k => (hk k).trans (s₁.keeps_put k _ _ _)⟩
  simp [Sheet.restyle, h₁]

end Reads

theorem access_of_lastRow_lt (s : Sheet) (i : Nat) {row : Nat} (h : lastRow < row) :
    s.access (i + 1) row = .error (.noSuchRow row) := by
  have hin : ¬ (i + 1 < 1 || row < 1) = true := by
    have hpos : 0 < row := by omega
    simp [hpos.ne']
  rw [access, if_neg hin, if_pos h]

/-! ## Rows -/

theorem getD_take_body (s : Sheet) {j k : Nat} (hj : j < k) (hk : k ≤ s.maxRow) :
    (s.body.take k).getD j [] = s.rows.getD j [] := by
  simp only [body, List.getD_eq_getElem?_getD, List.getElem?_take_of_lt hj]
  by_cases hl : j < s.rows.length
  · rw [List.getElem?_append_left (by simp; omega), List.getElem?_take_of_lt (by omega)]
  · have hr : s.rows.length ≤ j := by omega
    rw [List.getElem?_append_right (by simp; omega)]
    simp only [List.getElem?_replicate, List.getElem?_eq_none hr]
    split_ifs <;> rfl

/-- A change of the rows that begins with the first `k` of them keeps their cells. -/
theorem keeps_of_take {s' : Sheet} {k : Nat} {rows : List Row} (hk : k ≤ s.maxRow)
    (hrows : s'.rows = s.body.take k ++ rows) (ha : s'.above = s.above)
    (hm : s'.merged = s.merged) (ht : s'.title = s.title) : s.Keeps k s' := by
  refine ⟨ha, hm, ht, ?_⟩
  intro col row hrow h
  cases col with
  | zero => simp [get?] at h
  | succ i =>
    cases row with
    | zero => simp [get?] at h
    | succ j =>
      have hlen : j < (s.body.take k).length := by
        rw [List.length_take, length_body]
        omega
      rw [get?_succ] at h ⊢
      rw [hrows, List.getD_append _ _ _ _ hlen, getD_take_body s (by omega) hk]
      exact h

/-- The lines of a sheet whose last rows were completed up to column `w`. -/
theorem lines_of_filled {kept moved : List Row} (hrows : s.rows = kept ++ moved.map (Row.fill w))
    (hm : moved ≠ []) (hw : 1 ≤ w) (hk : ∀ r ∈ kept, r.width ≤ w) (ha : ∀ p ∈ s.above, p.2 ≤ w) :
    s.maxCol = w ∧ s.lines = kept.map (Row.line w) ++ moved.map (Row.line w) := by
  obtain ⟨first, last, rfl⟩ := List.eq_nil_or_concat moved |>.resolve_left hm
  have hcat : s.rows = (kept ++ first.map (Row.fill w)) ++ [Row.fill w last] := by
    simp [hrows]
  obtain ⟨hmaxRow, hmaxCol⟩ := s.bounds_of_last hcat hw (Row.width_fill w last) (by
    intro r hr
    rcases List.mem_append.mp hr with hr | hr
    · exact hk r hr
    · obtain ⟨r, -, rfl⟩ := List.mem_map.mp hr
      exact (Row.width_fill w r).le) ha
  refine ⟨hmaxCol, ?_⟩
  rw [lines_of_maxRow (by simp [hmaxRow, hcat, Nat.add_assoc]), hmaxCol, hrows]
  simp [Function.comp_def, Row.line_fill]

theorem spans_of_filled {kept moved : List Row} (hrows : s.rows = kept ++ moved.map (Row.fill w))
    (hw : 1 ≤ w) {k : Nat} (hk : kept.length < k) (hk' : k ≤ kept.length + moved.length) :
    s.Spans w k := by
  obtain ⟨i, rfl⟩ := Nat.exists_eq_add_of_le' hw
  obtain ⟨j, rfl⟩ := Nat.exists_eq_add_of_lt hk
  have hj : j < moved.length := by omega
  rw [Spans, get?_succ, hrows, List.getD_append_right _ _ _ _ (by omega)]
  have hget : (moved.map (Row.fill (i + 1))).getD j [] = Row.fill (i + 1) moved[j] := by
    simp [hj]
  rw [Nat.add_sub_cancel_left, hget]
  simp [Row.fill]

theorem map_line_body {x : Line} (h : s.Reads w (top ++ x :: below)) :
    (s.body.take top.length).map (Row.line w) = top ∧
      (s.body.drop top.length).map (Row.line w) = x :: below := by
  have hbody : s.body.map (Row.line w) = top ++ x :: below := by
    rw [← h.maxCol (by simp), ← lines_eq_body, h.lines_eq (by simp)]
  constructor
  · rw [List.map_take, hbody, List.take_left]
  · rw [List.map_drop, hbody, List.drop_left]

theorem movable_eq (s : Sheet) (row : Nat) : s.movable row =
    if row ≤ s.maxRow ∧ lastRow < s.maxRow then .error (.noSuchRow (max row (lastRow + 1)))
    else .ok () := by
  simp [movable]

theorem above_le_maxCol (s : Sheet) : ∀ p ∈ s.above, p.2 ≤ s.maxCol :=
  ((s.maxCol_le_iff _).mp le_rfl).2.2

namespace Reads

variable {ls : List Line} {x : Line} {row : Nat}

theorem of_rows {s' : Sheet} (h : s.Reads w ls) (hr : s'.rows = s.rows)
    (ha : s'.above = s.above) : s'.Reads w ls := by
  obtain ⟨title, rows, merged, above, used⟩ := s
  obtain ⟨title', rows', merged', above', used'⟩ := s'
  simp only at hr ha
  subst hr ha
  exact ⟨h.lines, h.maxCol⟩

theorem insertRows (h : s.Reads w (top ++ x :: below))
    (hlimit : (top ++ x :: below).length ≤ lastRow) :
    ∃ s', s.insertRows (top.length + 1) 1 = .ok s' ∧
      s'.Reads w (top ++ Line.blank w :: x :: below) ∧ s.Keeps top.length s' := by
  have hmax := h.maxRow_eq_length (by simp)
  have hw := h.maxCol (by simp)
  obtain ⟨htop, hbelow⟩ := map_line_body h
  have hmov : s.movable (top.length + 1) = .ok () := by
    rw [movable_eq, if_neg (by omega)]
  have hin : ¬ s.maxRow < top.length + 1 := by
    rw [hmax, List.length_append, List.length_cons]
    omega
  have hne : s.body.drop top.length ≠ [] := by
    intro hnil
    simp [hnil] at hbelow
  let s' : Sheet := Sheet.inserted
    { s with rows := s.body.take top.length ++ [[]] ++ (s.body.drop top.length).map (Row.fill w) }
  have hs' : s.insertRows (top.length + 1) 1 = .ok s' := by
    simp [Sheet.insertRows, hmov, hin, rowsFrom, s', hw]
  obtain ⟨hw', hlines⟩ := lines_of_filled (s := s') rfl hne (hw ▸ s.one_le_maxCol) (by
      intro r hr
      rcases List.mem_append.mp hr with hr | hr
      · exact hw ▸ width_le_of_mem_body (List.mem_of_mem_take hr)
      · rw [List.mem_singleton.mp hr]
        exact Nat.zero_le _) (hw ▸ s.above_le_maxCol)
  refine ⟨s', hs', of_lines ?_ hw' (by simp), ?_⟩
  · rw [hlines, hbelow, List.map_append, htop]
    simp [Row.line_nil]
  · exact keeps_of_take (by omega) (List.append_assoc ..) rfl rfl rfl

theorem insertRows_error (h : s.Reads w (top ++ x :: below))
    (hlimit : lastRow < (top ++ x :: below).length) :
    s.insertRows (top.length + 1) 1 = .error (.noSuchRow (max (top.length + 1) (lastRow + 1))) := by
  have hmax := h.maxRow_eq_length (by simp)
  have hmov := s.movable_eq (top.length + 1)
  rw [if_pos (by rw [hmax]; simp only [List.length_append, List.length_cons] at *; omega)] at hmov
  simp [Sheet.insertRows, hmov]

/-- Behind the last row there is nothing to insert before. -/
theorem insertRows_past (s : Sheet) (hrow : s.maxRow < row) :
    ∃ s', s.insertRows row 1 = .ok s' ∧ (∀ w ls, s.Reads w ls → s'.Reads w ls) ∧
      ∀ k, s.Keeps k s' := by
  have hmov : s.movable row = .ok () := by
    rw [movable_eq, if_neg (by omega)]
  refine ⟨s.inserted, ?_, fun w ls h => h.of_rows rfl rfl, fun k => ⟨rfl, rfl, rfl, ?_⟩⟩
  · simp [Sheet.insertRows, hmov, hrow]
  · exact fun col row _ h => h

theorem removeRow_eq (h : s.Reads w (top ++ x :: below))
    (hlimit : below = [] ∨ (top ++ x :: below).length ≤ lastRow) :
    s.removeRow (top.length + 1) = .ok (Sheet.removed { s with
      rows := s.body.take top.length ++ (s.body.drop (top.length + 1)).map (Row.fill w) }) := by
  have hmax := h.maxRow_eq_length (by simp)
  rw [List.length_append, List.length_cons] at hmax hlimit
  have hmov : s.movable (top.length + 1 + 1) = .ok () := by
    rw [movable_eq, if_neg ?_]
    rcases hlimit with rfl | hlimit
    · simp only [List.length_nil] at hmax
      omega
    · omega
  have hin : ¬ s.maxRow < top.length + 1 := by omega
  simp [Sheet.removeRow, hmov, hin, rowsFrom, h.maxCol]

theorem map_line_drop_body (h : s.Reads w (top ++ x :: below)) :
    (s.body.drop (top.length + 1)).map (Row.line w) = below := by
  rw [← List.drop_drop, List.map_drop, (map_line_body h).2, List.drop_one, List.tail_cons]

/-- The rows below a removed one are completed and move up. -/
theorem removeRow_of_below (h : s.Reads w (top ++ x :: below)) (hbelow : below ≠ [])
    (hlimit : (top ++ x :: below).length ≤ lastRow) :
    ∃ s', s.removeRow (top.length + 1) = .ok s' ∧ s'.Reads w (top ++ below) ∧
      s.Keeps top.length s' ∧
      ∀ k, top.length < k → k ≤ (top ++ below).length → s'.Spans w k := by
  have hmax := h.maxRow_eq_length (by simp)
  have hw := h.maxCol (by simp)
  have hone : 1 ≤ w := hw ▸ s.one_le_maxCol
  have hdrop := map_line_drop_body h
  have hne : s.body.drop (top.length + 1) ≠ [] := by
    intro hnil
    rw [hnil, List.map_nil] at hdrop
    exact hbelow hdrop.symm
  have hlen : (s.body.take top.length).length = top.length := by
    rw [List.length_take, length_body, hmax]
    simp
  refine ⟨_, removeRow_eq h (.inr hlimit), ?_⟩
  obtain ⟨hw', hlines⟩ := lines_of_filled (s := Sheet.removed { s with
      rows := s.body.take top.length ++ (s.body.drop (top.length + 1)).map (Row.fill w) }) rfl hne
    hone (fun r hr => hw ▸ width_le_of_mem_body (List.mem_of_mem_take hr)) (hw ▸ s.above_le_maxCol)
  rw [(map_line_body h).1, hdrop] at hlines
  refine ⟨of_lines hlines hw' (by simp [hbelow]), ?_, ?_⟩
  · exact keeps_of_take (by rw [hmax]; simp) rfl rfl rfl rfl
  · intro k h₁ h₂
    refine spans_of_filled rfl hone (by rwa [hlen]) ?_
    rw [hlen, ← List.length_map (Row.line w), hdrop, ← List.length_append]
    exact h₂

/-- With the last row removed the one above it decides on the bounds that are left. -/
theorem removeRow_of_last (h : s.Reads w (top ++ [x])) (hspans : top = [] ∨ s.Spans w top.length) :
    ∃ s', s.removeRow (top.length + 1) = .ok s' ∧ s'.Reads w top ∧ s.Keeps top.length s' := by
  have hmax := h.maxRow_eq_length (by simp)
  have hw := h.maxCol (by simp)
  have htop := (map_line_body h).1
  have hnil : s.body.drop (top.length + 1) = [] := List.map_eq_nil_iff.mp (map_line_drop_body h)
  rw [List.length_append, List.length_singleton] at hmax
  have heq := removeRow_eq h (.inl rfl)
  rw [hnil, List.map_nil, List.append_nil] at heq
  have hnarrow : ∀ r ∈ s.body.take top.length, r.width ≤ w := fun r hr =>
    hw ▸ width_le_of_mem_body (List.mem_of_mem_take hr)
  refine ⟨_, heq, ?_, keeps_of_take (by omega) (List.append_nil _).symm rfl rfl rfl⟩
  rcases List.eq_nil_or_concat (s.body.take top.length) with hempty | ⟨rows, r, hrows⟩
  · -- nothing is left
    rw [hempty, List.map_nil] at htop
    subst htop
    exact ⟨rfl, fun hf => absurd rfl hf⟩
  · have hlen : top.length = rows.length + 1 := by
      rw [← htop, hrows, List.concat_eq_append]
      simp
    have hspan : s.Spans w (rows.length + 1) := by
      rcases hspans with rfl | hspans
      · simp at hlen
      · exact hlen ▸ hspans
    have hwidth : r.width = w := by
      obtain ⟨i, rfl⟩ := Nat.exists_eq_add_of_le' (hw ▸ s.one_le_maxCol : 1 ≤ w)
      have hr : r = s.rows.getD rows.length [] := by
        rw [← getD_take_body s (k := top.length) (by omega) (by omega), hrows]
        simp
      have hlt : i < r.width := by
        apply Row.lt_width
        rw [hr, ← get?_succ]
        exact hspan
      have hle : r.width ≤ i + 1 := hnarrow r (by simp [hrows])
      omega
    have hlast : (Sheet.removed { s with rows := s.body.take top.length }).rows = rows ++ [r] :=
      hrows.trans List.concat_eq_append
    obtain ⟨hrow', hw'⟩ := bounds_of_last _ hlast (hw ▸ s.one_le_maxCol) hwidth
      (fun y hy => hnarrow y (by simp [hrows, hy])) (hw ▸ s.above_le_maxCol)
    refine of_lines ?_ hw' (by rw [← List.length_pos_iff]; omega)
    rw [lines_of_maxRow, hw']
    · exact htop
    · rw [hrow', ← hlen]
      show _ = (s.body.take top.length).length
      rw [List.length_take, length_body]
      omega

theorem removeRow (h : s.Reads w (top ++ x :: below))
    (hlimit : below = [] ∨ (top ++ x :: below).length ≤ lastRow)
    (hspans : below = [] → top = [] ∨ s.Spans w top.length) :
    ∃ s', s.removeRow (top.length + 1) = .ok s' ∧ s'.Reads w (top ++ below) ∧
      s.Keeps top.length s' ∧
      ∀ k, top.length < k → k ≤ (top ++ below).length → s'.Spans w k := by
  by_cases hbelow : below = []
  · subst hbelow
    obtain ⟨s', hs', hr, hk⟩ := removeRow_of_last h (hspans rfl)
    refine ⟨s', hs', by rwa [List.append_nil], hk, fun k h₁ h₂ => ?_⟩
    rw [List.append_nil] at h₂
    omega
  · exact removeRow_of_below h hbelow (hlimit.resolve_left hbelow)

theorem removeRow_error (h : s.Reads w (top ++ x :: below)) (hbelow : below ≠ [])
    (hlimit : lastRow < (top ++ x :: below).length) :
    s.removeRow (top.length + 1) = .error (.noSuchRow (max (top.length + 2) (lastRow + 1))) := by
  have hmax := h.maxRow_eq_length (by simp)
  have hmov := s.movable_eq (top.length + 1 + 1)
  have hpos := List.length_pos_iff.mpr hbelow
  rw [if_pos (by rw [hmax]; simp only [List.length_append, List.length_cons] at *; omega)] at hmov
  simp only [Sheet.removeRow, hmov]
  norm_cast

/-- Behind the last line there is nothing to remove. A sheet that has lost its lines may have its
first row taken out once more. -/
theorem removeRow_past (h : s.Reads w ls) (hrow : ls.length < row) :
    ∃ s', s.removeRow row = .ok s' ∧ s'.Reads w ls ∧ s.Keeps ls.length s' := by
  by_cases hpast : s.maxRow < row
  · have hmov : s.movable (row + 1) = .ok () := by
      rw [movable_eq, if_neg (by omega)]
    refine ⟨Sheet.removed s, ?_, h.of_rows rfl rfl, ⟨rfl, rfl, rfl, fun _ _ _ hc => hc⟩⟩
    simp [Sheet.removeRow, hmov, hpast]
  · have hnil : ls = [] := by
      by_contra hls
      rw [h.maxRow_eq_length hls] at hpast
      omega
    subst hnil
    have hmax : s.lines.length = 1 := by
      have hle := h.maxRow_le_one
      rw [List.length_nil] at hrow
      rw [length_lines]
      omega
    obtain ⟨l, hl⟩ := List.length_eq_one_iff.mp hmax
    have hone : row = 1 := by
      rw [length_lines] at hmax
      rw [List.length_nil] at hrow
      omega
    have hr : s.Reads s.maxCol ([] ++ [l]) := by
      rw [List.nil_append, ← hl]
      exact s.reads_self
    subst hone
    obtain ⟨s', hs', hr', hk⟩ := removeRow_of_last hr (.inl rfl)
    exact ⟨s', hs', ⟨hr'.lines, fun hf => absurd rfl hf⟩, hk⟩

end Reads
end SheetFill.Sheet
