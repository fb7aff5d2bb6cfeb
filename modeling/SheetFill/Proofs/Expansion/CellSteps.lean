import SheetFill.Proofs.Sheet.Classification
import SheetFill.Proofs.Expansion.Lines

/-!
# Steps on single cells

What a step on one cell has done if it came to its end: which cell it asked for and what it put in
its place. Such a step works at any position, on the lines of the sheet or beyond them.
-/
namespace SheetFill.Expansion

variable {col row : Nat} {run run' : Run} {v : Value} {marker : CellMarker} {record : Record}

theorem assign_eq_ok (h : assign col row v run = .ok () run') :
    ∃ c c' s, Sheet.cell col row run.sheet = .ok c s ∧ c.assign v = (c', none) ∧
      run' = { run with sheet := s.put col row c' } := by
  obtain ⟨c, run₁, hcell, h⟩ := bind_eq_ok.mp h
  obtain ⟨s, hs, rfl⟩ := onSheet_eq_ok.mp hcell
  rcases hassign : c.assign v with ⟨c', _ | e⟩
  · rw [hassign] at h
    cases h
    exact ⟨c, c', s, hs, hassign, rfl⟩
  · rw [hassign] at h
    cases h

/-- A cell that could be filled was asked for. Either nothing was written to it, or the cell with
what was written was put in its place. -/
theorem fillCell_eq_ok (h : fillCell col row marker record run = .ok () run') :
    ∃ c c' s, Sheet.cell col row run.sheet = .ok c s ∧ c.filled marker record = (c', none) ∧
      (c' = c ∧ run' = { run with sheet := s } ∨
        run' = { run with sheet := s.put col row c' }) := by
  obtain ⟨c, run₁, hcell, h⟩ := bind_eq_ok.mp h
  obtain ⟨s, hs, rfl⟩ := onSheet_eq_ok.mp hcell
  cases marker with
  | plain =>
    cases h
    exact ⟨c, c, s, hs, rfl, .inl ⟨rfl, rfl⟩⟩
  | field name =>
    obtain ⟨v?, run₂, hfield, h⟩ := bind_eq_ok.mp h
    unfold ofRecord at hfield
    cases hf : record.field? name with
    | error e =>
      rw [hf] at hfield
      exact absurd hfield throw_ne_ok
    | ok v? =>
      rw [hf] at hfield
      cases hfield
      cases v? with
      | none =>
        cases h
        exact ⟨c, c, s, hs, by simp only [Cell.filled, hf], .inl ⟨rfl, rfl⟩⟩
      | some v =>
        -- the cell is asked for once more before it is written to
        obtain ⟨d, c', s', hs', hassign, rfl⟩ := assign_eq_ok h
        cases (Sheet.cell_again hs).2.symm.trans hs'
        refine ⟨c, c', s, hs, ?_, .inr rfl⟩
        simp only [Cell.filled, hf, hassign]
        rfl

/-- A style that could be taken from the cell below was asked for there, and what was restyled is
the cell that the address of the position leads to. -/
theorem cloneStyleFromBelow_eq_ok (h : cloneStyleFromBelow col row run = .ok () run') :
    ∃ t s source target, Sheet.cell col (row + 1) run.sheet = .ok t s ∧
      Address.text? col (row + 1) = some source ∧ Address.text? col row = some target ∧
      restyleAt target t.style s = .ok () run'.sheet ∧
      run'.edits = run.edits ++ [.cloneStyle source target] := by
  obtain ⟨t, run₁, hcell, h⟩ := bind_eq_ok.mp h
  obtain ⟨s, hs, rfl⟩ := onSheet_eq_ok.mp hcell
  cases hsource : Address.text? col (row + 1) with
  | none =>
    rw [hsource] at h
    exact absurd h throw_ne_ok
  | some source =>
    cases htarget : Address.text? col row with
    | none =>
      rw [hsource, htarget] at h
      exact absurd h throw_ne_ok
    | some target =>
      rw [hsource, htarget] at h
      obtain ⟨hs', hedits⟩ := edit_eq_ok h
      exact ⟨t, s, source, target, hs, rfl, rfl, hs', hedits⟩

/-- Filling a cell changes no other place of the sheet. -/
theorem get?_fillCell (h : fillCell col row marker record run = .ok () run') (i j : Nat) :
    run'.sheet.get? i j =
      if i = col ∧ j = row then
        some (((run.sheet.get? col row).getD Cell.blank).filled marker record).1
      else run.sheet.get? i j := by
  obtain ⟨c, c', s, hs, hf, h⟩ := fillCell_eq_ok h
  obtain ⟨hcol, hrow, -⟩ := Sheet.reach_of_cell hs
  obtain ⟨-, rfl, ha, -⟩ := (Sheet.meets_cell hcol hrow _).of_ok hs
  rw [hf]
  rcases h with ⟨rfl, rfl⟩ | rfl
  · simp only [ha.cells, List.mem_singleton, Prod.mk.injEq]
    by_cases hp : i = col ∧ j = row
    · obtain ⟨rfl, rfl⟩ := hp
      simp
    · simp [hp]
  · exact Sheet.get?_put_of_cell hs c' i j

theorem edits_fillCell (h : fillCell col row marker record run = .ok () run') :
    run'.edits = run.edits := by
  obtain ⟨c, c', s, -, -, ⟨-, rfl⟩ | rfl⟩ := fillCell_eq_ok h <;> rfl

end SheetFill.Expansion
