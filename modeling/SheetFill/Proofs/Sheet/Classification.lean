import SheetFill.Proofs.Sheet.Reading
import SheetFill.Proofs.Sheet.Covering

/-!
# What classifying a cell does to a sheet

Classifying a cell within the bounds asks for cells and does nothing else: those that were missing
exist afterwards and are blank, all others are as they were, and the bounds stay where they are. The
marker is the one that the sheet shows, and a block marker comes with all columns of the row below,
or with none where there is no row below.
-/
namespace SheetFill.Sheet

/-- `s'` is `s` after the cells at some positions were asked for: they exist, blank where there was
none, and all else is as it was. -/
structure Asked (s : Sheet) (ps : List (Nat × Nat)) (s' : Sheet) : Prop where
  title : s'.title = s.title
  merged : s'.merged = s.merged
  above : s'.above = s.above
  cells : ∀ col row, s'.get? col row =
    if (col, row) ∈ ps then some ((s.get? col row).getD Cell.blank) else s.get? col row

variable {s s' s₁ : Sheet} {ps qs : List (Nat × Nat)} {col row : Nat} {c : Cell}

namespace Asked

theorem refl (s : Sheet) : s.Asked [] s := by
  refine ⟨rfl, rfl, rfl, ?_⟩
  intro col row
  simp

theorem trans (h : s.Asked ps s₁) (h' : s₁.Asked qs s') : s.Asked (ps ++ qs) s' := by
  refine ⟨h'.title.trans h.title, h'.merged.trans h.merged, h'.above.trans h.above, ?_⟩
  intro col row
  rw [h'.cells, h.cells]
  by_cases hp : (col, row) ∈ ps <;> by_cases hq : (col, row) ∈ qs <;> simp [hp, hq]

theorem get?_of_some (h : s.Asked ps s') (hc : s.get? col row = some c) :
    s'.get? col row = some c := by
  rw [h.cells, hc]
  simp

theorem valueAt (h : s.Asked ps s') (col row : Nat) : s'.valueAt col row = s.valueAt col row := by
  rw [Sheet.valueAt, h.cells, Sheet.valueAt]
  split_ifs <;> rfl

end Asked

theorem asked_of_some (hc : s.get? col row = some c) : s.Asked [(col, row)] s := by
  refine ⟨rfl, rfl, rfl, ?_⟩
  intro i j
  by_cases hp : (i, j) = (col, row)
  · obtain ⟨rfl, rfl⟩ := Prod.mk.inj hp
    simp [hc]
  · simp [hp]

theorem asked_put_blank {i j : Nat} (hc : s.get? (i + 1) (j + 1) = none) :
    s.Asked [(i + 1, j + 1)] (s.put (i + 1) (j + 1) Cell.blank) := by
  refine ⟨rfl, rfl, rfl, ?_⟩
  intro col row
  rw [get?_put]
  by_cases hp : col = i + 1 ∧ row = j + 1
  · obtain ⟨rfl, rfl⟩ := hp
    simp [hc]
  · simp [hp]

/-! ## Steps that ask for cells -/

/-- The cell at a position can be asked for up to the last row. Where it exists nothing changes. -/
theorem meets_cell (hcol : 1 ≤ col) (hrow : 1 ≤ row) (s : Sheet) :
    Meets (cell col row) s
      (fun c s' => row ≤ lastRow ∧ c = (s.get? col row).getD Cell.blank ∧
        s.Asked [(col, row)] s' ∧ ((s.get? col row).isSome → s' = s))
      (fun e s' => lastRow < row ∧ e = .noSuchRow row ∧ s' = s) := by
  obtain ⟨i, rfl⟩ := Nat.exists_eq_add_of_le' hcol
  by_cases hlast : lastRow < row
  · exact .error (s.cell_of_lastRow_lt i hlast) ⟨hlast, rfl, rfl⟩
  · obtain ⟨j, rfl⟩ := Nat.exists_eq_add_of_le' hrow
    have hle : j + 1 ≤ lastRow := Nat.le_of_not_lt hlast
    cases hg : s.get? (i + 1) (j + 1) with
    | some c =>
      have ha : s.access (i + 1) (j + 1) = .ok (c, s) := by simp [access, hlast, hg]
      exact .ok (cell_eq_of_access ha) ⟨hle, rfl, asked_of_some hg, fun _ => rfl⟩
    | none =>
      have ha : s.access (i + 1) (j + 1) = .ok (Cell.blank, s.put (i + 1) (j + 1) Cell.blank) := by
        simp [access, hlast, hg]
      exact .ok (cell_eq_of_access ha) ⟨hle, rfl, asked_put_blank hg, by simp⟩

theorem reach_of_cell (h : cell col row s = .ok c s') : 1 ≤ col ∧ 1 ≤ row ∧ row ≤ lastRow := by
  have ha := access_of_cell h
  unfold access at ha
  split_ifs at ha with hin hlast
  simp only [Bool.or_eq_true, decide_eq_true_eq] at hin
  omega

theorem cell_again (h : cell col row s = .ok c s') :
    s'.get? col row = some c ∧ cell col row s' = .ok c s' := by
  obtain ⟨hcol, hrow, hle⟩ := reach_of_cell h
  obtain ⟨-, rfl, ha, -⟩ := (meets_cell hcol hrow s).of_ok h
  have hc : s'.get? col row = some ((s.get? col row).getD Cell.blank) := by
    rw [ha.cells]
    simp
  have hin : ¬ (col < 1 || row < 1) = true := by
    simp only [Bool.or_eq_true, decide_eq_true_eq]
    omega
  refine ⟨hc, cell_eq_of_access ?_⟩
  simp only [access, if_neg hin, if_neg (Nat.not_lt.mpr hle), hc]

theorem get?_put_of_cell (h : cell col row s = .ok c s') (c' : Cell) (i j : Nat) :
    (s'.put col row c').get? i j = if i = col ∧ j = row then some c' else s.get? i j := by
  obtain ⟨hcol, hrow, -⟩ := reach_of_cell h
  obtain ⟨-, -, ha, -⟩ := (meets_cell hcol hrow s).of_ok h
  obtain ⟨k, rfl⟩ := Nat.exists_eq_add_of_le' hcol
  obtain ⟨l, rfl⟩ := Nat.exists_eq_add_of_le' hrow
  rw [get?_put, ha.cells]
  by_cases hp : i = k + 1 ∧ j = l + 1 <;> simp [hp]

/-- The marker at a position as it counts in a template row. -/
def cellMarkerAt (s : Sheet) (col row : Nat) : CellMarker :=
  (Marker.ofValue (s.valueAt col row)).inTemplateRow

/-- Reading some columns of a row asks for their cells one by one. What was read before does not
change what is read next. -/
theorem meets_readColumns (hrow : 1 ≤ row) (cols : List Nat) : ∀ s : Sheet,
    (∀ col ∈ cols, 1 ≤ col) →
    Meets (readColumns row cols) s
      (fun markers s' => markers = cols.map (fun col => (col, s.cellMarkerAt col row)) ∧
        s.Asked (cols.map fun col => (col, row)) s')
      (fun e s' => lastRow < row ∧ e = .noSuchRow row ∧ s' = s) := by
  induction cols with
  | nil =>
    intro s _
    exact .pure ⟨rfl, .refl s⟩
  | cons col cols ih =>
    intro s hcols
    apply (meets_cell (hcols col List.mem_cons_self) hrow s).bind
    rintro c s₁ ⟨hle, rfl, ha, -⟩
    have hrest := ih s₁ fun col hcol => hcols col (List.mem_cons_of_mem _ hcol)
    -- the first of the cells was found, so that no other one lies beyond the last row
    apply (hrest.mono (fun _ _ h => h) fun e s' h => absurd h.1 (Nat.not_lt.mpr hle)).bind
    rintro others s₂ ⟨rfl, ha'⟩
    refine .pure ⟨?_, ha.trans ha'⟩
    simp only [cellMarkerAt, ha.valueAt]
    rfl

def rowMarkers (s : Sheet) (row : Nat) : List (Nat × CellMarker) :=
  (List.range' 1 s.maxCol).map fun col => (col, s.cellMarkerAt col row)

def rowPositions (s : Sheet) (row : Nat) : List (Nat × Nat) :=
  (List.range' 1 s.maxCol).map fun col => (col, row)

theorem meets_readTemplateRow (hrow : 1 ≤ row) (s : Sheet) :
    Meets (readTemplateRow row) s
      (fun markers s' => markers = (if s.maxRow < row then [] else s.rowMarkers row) ∧
        s.Asked (if s.maxRow < row then [] else s.rowPositions row) s')
      (fun e s' => row ≤ s.maxRow ∧ lastRow < row ∧ e = .noSuchRow row ∧ s' = s) := by
  apply Meets.get_bind
  split_ifs with hpast
  · exact .pure ⟨rfl, .refl s⟩
  · have hcols : ∀ col ∈ s.columns, 1 ≤ col := fun col hcol => (List.mem_range'_1.mp hcol).1
    apply (meets_readColumns hrow s.columns s hcols).mono
    · exact fun markers s' h => h
    · exact fun e s' h => ⟨Nat.le_of_not_lt hpast, h⟩

/-- The marker at a position. Below the last row there is no template row. -/
def markerAt (s : Sheet) (col row : Nat) : Marker :=
  match Marker.ofValue (s.valueAt col row) with
  | .each name _ => .each name (if row = s.maxRow then [] else s.rowMarkers (row + 1))
  | marker => marker

/-- The positions that are read for the marker at a position. -/
def readFor (s : Sheet) (col row : Nat) : List (Nat × Nat) :=
  match Marker.ofValue (s.valueAt col row) with
  | .each _ _ => (col, row) :: if row = s.maxRow then [] else s.rowPositions (row + 1)
  | _ => [(col, row)]

theorem isSome_of_each {name : Text} {columns : List (Nat × CellMarker)}
    (h : Marker.ofValue (s.valueAt col row) = .each name columns) : (s.get? col row).isSome := by
  cases hc : s.get? col row with
  | some c => rfl
  | none =>
    rw [valueAt, hc] at h
    cases h

theorem reads_classify (s : Sheet) (hcol : 1 ≤ col) (hrow : 1 ≤ row) (hmaxRow : row ≤ s.maxRow) :
    Meets (classify col row) s
      (fun marker s' => s.Asked (s.readFor col row) s' ∧ marker = s.markerAt col row)
      (fun e s' => lastRow < s.maxRow ∧ e = .noSuchRow (max row (lastRow + 1) : Nat) ∧ s' = s) := by
  have hfails : ∀ (e : Error) (s' : Sheet), lastRow < row ∧ e = .noSuchRow row ∧ s' = s →
      lastRow < s.maxRow ∧ e = .noSuchRow (max row (lastRow + 1) : Nat) ∧ s' = s := by
    rintro e s' ⟨hpast, rfl, rfl⟩
    exact ⟨by omega, by rw [max_eq_left hpast], rfl⟩
  apply ((meets_cell hcol hrow s).mono (fun _ _ h => h) hfails).bind
  rintro c s₁ ⟨hle, rfl, ha, hs₁⟩
  show Meets (match Marker.ofValue (s.valueAt col row) with
    | .each name _ => _
    | marker => _) s₁ _ _
  unfold readFor markerAt
  cases hm : Marker.ofValue (s.valueAt col row) with
  | plain => exact .pure ⟨ha, rfl⟩
  | field name => exact .pure ⟨ha, rfl⟩
  | each name columns =>
    obtain rfl := hs₁ (isSome_of_each hm)
    have hlast : s₁.maxRow < row + 1 ↔ row = s₁.maxRow := by omega
    apply ((meets_readTemplateRow (Nat.le_add_left 1 row) s₁).mono (fun _ _ h => h) ?_).bind
    · rintro markers s' ⟨rfl, ha'⟩
      simp only [hlast] at ha' ⊢
      exact .pure ⟨ha.trans ha', rfl⟩
    · rintro e s' ⟨hin, hpast, rfl, rfl⟩
      refine ⟨by omega, ?_, rfl⟩
      rw [max_eq_right (by omega), show row = lastRow by omega]

theorem highestRow_of_maxRow {s s' : Sheet} (hpos : 1 ≤ s.maxRow) (h : s'.maxRow = s.maxRow) :
    s'.highestRow = s.highestRow := by
  unfold maxRow at hpos h
  omega

/-- Classifying a cell within the bounds only reads. The bounds stay, and so does every cell that
exists; those that are read exist afterwards and were blank if they are new. The marker is the one
that the sheet shows. Only a sheet that reaches beyond the last row can be an obstacle, and then
nothing at all has changed. -/
theorem meets_classify (s : Sheet) (col row : Nat) (hcol : 1 ≤ col) (hmaxCol : col ≤ s.maxCol)
    (hrow : 1 ≤ row) (hmaxRow : row ≤ s.maxRow) :
    Meets (classify col row) s
      (fun marker s' => s'.highestRow = s.highestRow ∧ s'.maxCol = s.maxCol ∧
        s.Asked (s.readFor col row) s' ∧ marker = s.markerAt col row)
      (fun e s' => lastRow < s.maxRow ∧ e = .noSuchRow (max row (lastRow + 1) : Nat) ∧ s' = s) := by
  have hreads := reads_classify s hcol hrow hmaxRow
  refine ⟨?_, hreads.of_error⟩
  intro marker s' h
  have hb := sameBounds_classify hmaxCol hmaxRow h
  exact ⟨highestRow_of_maxRow (hrow.trans hmaxRow) hb.maxRow, hb.maxCol, hreads.of_ok h⟩

/-- A block with gaps around its marker and in its template row, which has a marker of a block that
does not count. -/
def guests : Sheet where
  title := "Sheet"
  rows := [[none, some ⟨.text "$Each{guests}", .text, .plain⟩],
    [some ⟨.text "$F{name}", .text, .plain⟩, none, some ⟨.text "$Each{meals}", .text, .plain⟩]]
  merged := []

theorem meets_classify_guests :
    (1 ≤ 2 ∧ 2 ≤ guests.maxCol ∧ 1 ≤ 1 ∧ 1 ≤ guests.maxRow) ∧ (guests.get? 2 2).isNone ∧
      ∃ s', classify 2 1 guests =
          .ok (.each "guests" [(1, .field "name"), (2, .plain), (3, .plain)]) s' ∧
        s'.highestRow = 2 ∧ s'.maxCol = 3 ∧ s'.get? 2 2 = some Cell.blank ∧
        s'.get? 1 1 = guests.get? 1 1 := by
  have hbounds : guests.maxCol = 3 ∧ guests.maxRow = 2 := by
    decide +kernel
  obtain ⟨hmaxCol, hmaxRow⟩ := hbounds
  have h := meets_classify guests 2 1 (by decide) (by omega) (by decide) (by omega)
  refine ⟨by omega, by decide +kernel, ?_⟩
  cases hc : classify 2 1 guests with
  | error e s' =>
    have hpast := (h.of_error hc).1
    rw [hmaxRow] at hpast
    exact absurd hpast (by decide)
  | ok marker s' =>
    obtain ⟨hrows, hcols, ha, rfl⟩ := h.of_ok hc
    have hmarker : guests.markerAt 2 1 =
        .each "guests" [(1, .field "name"), (2, .plain), (3, .plain)] := by
      decide +kernel
    have hread : guests.readFor 2 1 = [(2, 1), (1, 2), (2, 2), (3, 2)] := by
      decide +kernel
    rw [hread] at ha
    exact ⟨s', by rw [hmarker], hrows.trans (by decide +kernel), hcols.trans hmaxCol,
      ha.cells 2 2, ha.cells 1 1⟩

end SheetFill.Sheet
