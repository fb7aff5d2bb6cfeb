import SheetFill.Proofs.Expansion.Scanning
import SheetFill.Proofs.Expansion.CellSteps

/-!
# How often the loops of a scan turn

The scan as the two loops that it is: over the rows, and in each row over its columns. The bounds of
the sheet are read anew before each turn, and no number of turns is set beforehand. Both loops come
to an end. The one over the rows turns once for each row of the template at most, and once more for
a sheet that was emptied, and the one over the columns at most once for each column.
-/
namespace SheetFill

namespace Expansion

/-- One turn of the loop over the columns of a row: a field is filled where it stands, and a block
is expanded, behind which the row is left for another one. -/
def scanCell (record : Record) (row col : Nat) : Step (Option Nat) := do
  match ← onSheet (Sheet.classify col row) with
  | .plain => return none
  | .field name =>
    fillCell col row (.field name) record
    return none
  | .each name columns => return some (← expandBlock row name columns record)

/-- The loop over the columns of row `row` from column `col` on: how often it turns, and what it
leads to, which is the row to be scanned next unless it stops. -/
inductive RowTurns (record : Record) (row : Nat) :
    (col : Nat) → Run → (turns : Nat) → EStateM.Result Failure Run Nat → Prop
  | done {col run} (h : run.sheet.maxCol < col) : RowTurns record row col run 0 (.ok (row + 1) run)
  | goesOn {col run run' turns r} (h : col ≤ run.sheet.maxCol)
      (hcell : scanCell record row col run = .ok none run')
      (hrest : RowTurns record row (col + 1) run' turns r) :
      RowTurns record row col run (turns + 1) r
  | leaves {col run next run'} (h : col ≤ run.sheet.maxCol)
      (hcell : scanCell record row col run = .ok (some next) run') :
      RowTurns record row col run 1 (.ok next run')
  | stops {col run e run'} (h : col ≤ run.sheet.maxCol)
      (hcell : scanCell record row col run = .error e run') :
      RowTurns record row col run 1 (.error e run')

/-- The loop over the rows from row `row` on: how often the loop over the columns turns in each of
its turns, and what it leads to. -/
inductive Turns (record : Record) :
    (row : Nat) → Run → (turns : List Nat) → EStateM.Result Failure Run Unit → Prop
  | done {row run} (h : run.sheet.maxRow < row) : Turns record row run [] (.ok () run)
  | goesOn {row run k next run' turns r} (h : row ≤ run.sheet.maxRow)
      (hrow : RowTurns record row 1 run k (.ok next run'))
      (hrest : Turns record next run' turns r) : Turns record row run (k :: turns) r
  | stops {row run k e run'} (h : row ≤ run.sheet.maxRow)
      (hrow : RowTurns record row 1 run k (.error e run')) :
      Turns record row run [k] (.error e run')

variable {record : Record} {row col k k' : Nat} {run run' : Run} {turns turns' : List Nat}

/-- The loop over the columns can take no other course. -/
theorem RowTurns.unique {r r' : EStateM.Result Failure Run Nat}
    (h : RowTurns record row col run k r) (h' : RowTurns record row col run k' r') :
    k = k' ∧ r = r' := by
  induction h generalizing k' with
  | done h =>
    cases h' with
    | done => exact ⟨rfl, rfl⟩
    | goesOn hle | leaves hle | stops hle => omega
  | goesOn h hcell hrest ih =>
    cases h' with
    | done hlt => omega
    | goesOn _ hcell' hrest' =>
      cases hcell.symm.trans hcell'
      obtain ⟨rfl, rfl⟩ := ih hrest'
      exact ⟨rfl, rfl⟩
    | leaves _ hcell' | stops _ hcell' => cases hcell.symm.trans hcell'
  | leaves h hcell | stops h hcell =>
    cases h' with
    | done hlt => omega
    | goesOn _ hcell' | leaves _ hcell' | stops _ hcell' =>
      cases hcell.symm.trans hcell' <;> exact ⟨rfl, rfl⟩

theorem Turns.unique {r r' : EStateM.Result Failure Run Unit} (h : Turns record row run turns r)
    (h' : Turns record row run turns' r') : turns = turns' ∧ r = r' := by
  induction h generalizing turns' with
  | done h =>
    cases h' with
    | done => exact ⟨rfl, rfl⟩
    | goesOn hle | stops hle => omega
  | goesOn h hrow hrest ih =>
    cases h' with
    | done hlt => omega
    | goesOn _ hrow' hrest' =>
      obtain ⟨rfl, hr⟩ := hrow.unique hrow'
      cases hr
      obtain ⟨rfl, rfl⟩ := ih hrest'
      exact ⟨rfl, rfl⟩
    | stops _ hrow' => cases (hrow.unique hrow').2
  | stops h hrow =>
    cases h' with
    | done hlt => omega
    | goesOn _ hrow' => cases (hrow.unique hrow').2
    | stops _ hrow' =>
      obtain ⟨rfl, hr⟩ := hrow.unique hrow'
      cases hr
      exact ⟨rfl, rfl⟩

/-! ## The loop over the columns -/

theorem scanRow_eq (record : Record) (row col : Nat) (rest : List Nat) (run : Run) :
    scanRow record row (col :: rest) run =
      match scanCell record row col run with
      | .ok none run => scanRow record row rest run
      | .ok (some next) run => .ok next run
      | .error e run => .error e run := by
  simp only [scanRow, scanCell, bind_apply]
  rcases onSheet (Sheet.classify col row) run with ⟨marker, run₁⟩ | ⟨e, run₁⟩
  · cases marker with
    | plain => rfl
    | field name =>
      simp only [bind_apply]
      cases fillCell col row (.field name) record run₁ <;> rfl
    | each name columns =>
      simp only [bind_apply]
      cases expandBlock row name columns record run₁ <;> rfl
  · rfl

theorem sameBounds_fillCell {marker : CellMarker} (hcol : col ≤ run.sheet.maxCol)
    (hrow : row ≤ run.sheet.maxRow) (h : fillCell col row marker record run = .ok () run') :
    run.sheet.SameBounds run'.sheet := by
  obtain ⟨c, c', s, hs, -, h⟩ := fillCell_eq_ok h
  have hb := Sheet.sameBounds_cell hcol hrow hs
  rcases h with ⟨-, rfl⟩ | rfl
  · exact hb
  · exact hb.trans (s.sameBounds_put (hb.maxCol ▸ hcol) (hb.maxRow ▸ hrow) c')

theorem sameBounds_scanCell (hcol : col ≤ run.sheet.maxCol) (hrow : row ≤ run.sheet.maxRow)
    (h : scanCell record row col run = .ok none run') : run.sheet.SameBounds run'.sheet := by
  obtain ⟨marker, run₁, hread, h⟩ := bind_eq_ok.mp h
  obtain ⟨s₁, hs₁, rfl⟩ := onSheet_eq_ok.mp hread
  have hb := Sheet.sameBounds_classify hcol hrow hs₁
  cases marker with
  | plain =>
    cases h
    exact hb
  | field name =>
    obtain ⟨_, run₂, hfill, h⟩ := bind_eq_ok.mp h
    cases h
    exact hb.trans (sameBounds_fillCell (hb.maxCol ▸ hcol) (hb.maxRow ▸ hrow) hfill)
  | each name columns =>
    obtain ⟨next, run₂, -, h⟩ := bind_eq_ok.mp h
    cases h

/-- Scanning the columns that the sheet has at first comes to the same as reading its width anew
before each of them. -/
theorem rowTurns_scanRow (record : Record) (row count : Nat) : ∀ {col : Nat} {run : Run},
    col + count = run.sheet.maxCol + 1 → row ≤ run.sheet.maxRow →
    ∃ k ≤ count,
      RowTurns record row col run k (scanRow record row (List.range' col count) run) := by
  induction count with
  | zero =>
    intro col run hcol _
    exact ⟨0, le_rfl, .done (by omega)⟩
  | succ count ih =>
    intro col run hcol hrow
    have hle : col ≤ run.sheet.maxCol := by omega
    rw [List.range'_succ, scanRow_eq]
    cases hcell : scanCell record row col run with
    | error e run' => exact ⟨1, by omega, .stops hle hcell⟩
    | ok next? run' =>
      cases next? with
      | some next => exact ⟨1, by omega, .leaves hle hcell⟩
      | none =>
        have hb := sameBounds_scanCell hle hrow hcell
        obtain ⟨k, hk, hrest⟩ := @ih (col + 1) run' (by rw [hb.maxCol]; omega) (hb.maxRow ▸ hrow)
        exact ⟨k + 1, by omega, .goesOn hle hcell hrest⟩

theorem rowTurns_columns (record : Record) (n : Notes) {s : Sheet} (hrow : row ≤ s.maxRow) :
    ∃ k ≤ s.maxCol, RowTurns record row 1 (n.on s) k (scanRow record row s.columns (n.on s)) :=
  rowTurns_scanRow record row s.maxCol (Nat.add_comm 1 _) hrow

/-! ## The loop over the rows -/

section Scan

open Sheet (Reads)

variable {w : Nat}

/-- The scan of a sheet of which all lines are finished takes one turn at most: only the first row
of a sheet that was emptied may still be there. -/
theorem turns_scan_past (record : Record) (fuel : Nat) {top : List Line} {n : Notes} {s : Sheet}
    (h : s.Reads w top) (hwidth : s.maxCol ≤ w) (hrow : top.length < row) :
    ∃ turns, Turns record row (n.on s) turns
        ((scan record (fuel + 1) row >>= fun _ => pure ()) (n.on s)) ∧
      turns.length ≤ 1 ∧ ∀ k ∈ turns, k ≤ w := by
  rw [bind_apply, scan_succ]
  split_ifs with hpast
  · exact ⟨[], .done hpast, by simp, by simp⟩
  · obtain ⟨k, hk, hturns⟩ := rowTurns_columns record n (Nat.le_of_not_lt hpast)
    obtain ⟨s₁, ⟨-, -, hmax⟩, (heq : scanRow record row s.columns (n.on s) = .ok 2 (n.on s₁))⟩ :=
      ends_scanRow_past (n := n) record h hrow hpast
    rw [heq] at hturns
    rw [bind_of_ok heq, scan_past fuel hmax]
    exact ⟨[k], .goesOn (Nat.le_of_not_lt hpast) hturns (.done hmax), le_rfl,
      by simpa using hk.trans hwidth⟩

/-- The scan of a sheet of which the lines `top` are finished takes one turn for each line that is
left at most, and one more. -/
theorem turns_scan (record : Record) (fuel : Nat) : ∀ (row : Nat) (top rest : List Line) (n : Notes)
    (s : Sheet), s.Reads w (top ++ rest) → s.cleared.maxCol ≤ w →
    (rest ≠ [] → row = top.length + 1 ∧ (top = [] ∨ s.Spans w top.length)) →
    top.length < row → rest.length < fuel →
    ∃ turns,
      Turns record row (n.on s) turns ((scan record fuel row >>= fun _ => pure ()) (n.on s)) ∧
      turns.length ≤ rest.length + 1 ∧ ∀ k ∈ turns, k ≤ w := by
  induction fuel with
  | zero =>
    intro row top rest n s _ _ _ _ hfuel
    omega
  | succ fuel ih =>
    intro row top rest n s h hw hnext hrow hfuel
    have hmaxCol : s.maxCol ≤ w := by
      by_cases hnil : top ++ rest = []
      · rw [hnil] at h
        rwa [h.maxCol_of_nil]
      · exact (h.maxCol hnil).le
    cases rest with
    | nil =>
      rw [List.append_nil] at h
      exact turns_scan_past record fuel h hmaxCol hrow
    | cons line below =>
      obtain ⟨rfl, htop⟩ := hnext (by simp)
      have hpast : ¬ s.maxRow < top.length + 1 := by
        rw [h.maxRow_eq_length (by simp)]
        simp
      obtain ⟨k, hk, hturns⟩ := rowTurns_columns record n (Nat.le_of_not_lt hpast)
      have hstep := scanStep_scanRow (n := n) record h htop
      rw [bind_apply, scan_succ, if_neg hpast]
      generalize Lines.fill record (top.length + 1) (line :: below) n = d at hstep
      cases hstep with
      | @stops d e hd hends =>
        obtain ⟨s₁, -, (heq : scanRow record (top.length + 1) s.columns (n.on s) =
          .error e (d.notes.on s₁))⟩ := hends
        rw [heq] at hturns
        rw [bind_of_error heq]
        exact ⟨[k], .stops (Nat.le_of_not_lt hpast) hturns, by simp,
          by simpa using hk.trans hmaxCol⟩
      | @goesOn out rest n' next hrest hlt hends =>
        obtain ⟨s₁, ⟨hr₁, hk₁, hnext⟩, (heq : scanRow record (top.length + 1) s.columns (n.on s) =
          .ok next (n'.on s₁))⟩ := hends
        rw [heq] at hturns
        have hw₁ : s₁.cleared.maxCol ≤ w := by
          simpa [Sheet.maxCol, Sheet.cleared, hk₁.above] using hw
        obtain ⟨turns, hrest', hlen, hle⟩ :=
          ih next (top ++ out) rest n' s₁ hr₁ hw₁ hnext hlt (by omega)
        rw [bind_apply] at hrest'
        rw [bind_of_ok heq]
        refine ⟨k :: turns, .goesOn (Nat.le_of_not_lt hpast) hturns hrest', ?_, ?_⟩
        · simp only [List.length_cons] at hrest ⊢
          omega
        · simpa using ⟨hk.trans hmaxCol, hle⟩

end Scan

end Expansion

/-- Filling a sheet is one course of the two loops, and there is no other. The loop over the rows
turns at most once more than there are rows, and in each turn the loop over the columns turns at
most as often as there are columns. -/
theorem Run.turns_fill (run : Run) (record : Record) :
    ∃ turns, (∀ turns' r, Expansion.Turns record 1 run turns' r ↔
        turns' = turns ∧ r = Expansion.fill record run) ∧
      turns.length ≤ run.sheet.maxRow + 1 ∧ ∀ k ∈ turns, k ≤ run.sheet.maxCol := by
  have hw : run.sheet.cleared.maxCol ≤ run.sheet.maxCol := by
    have hle := (run.sheet.maxCol_le_iff _).mp le_rfl
    exact (Sheet.maxCol_le_iff _ _).mpr ⟨hle.1, by simp [Sheet.cleared], hle.2.2⟩
  obtain ⟨turns, hturns, hlen, hle⟩ := Expansion.turns_scan record (run.sheet.maxRow + 1) 1 []
    run.sheet.lines run.notes run.sheet run.sheet.reads_self hw (fun _ => ⟨rfl, .inl rfl⟩) (by simp)
    (by simp)
  rw [Sheet.length_lines] at hlen
  refine ⟨turns, fun turns' r => ⟨fun h => h.unique hturns, ?_⟩, hlen, hle⟩
  rintro ⟨rfl, rfl⟩
  exact hturns

end SheetFill
