import SheetFill.Proofs.Expansion.CellSteps
import SheetFill.Proofs.Expansion.Drawing

/-!
# Cells by their addresses

A value is written to the cell at a column and a row, a style to the cell at an address. The address
that is written for a position leads to the cell there and no other position has it, so that a
generated cell is given its style where it was given its value.
-/
namespace SheetFill

open Sheet (lastRow)

namespace Corner

open Address

theorem read_append {letters digits : List Char} (hl : ∀ c ∈ letters, c.isAlpha = true)
    (hd : ∀ c ∈ digits, c.isDigit = true) (hne : letters ≠ []) (hlen : letters.length ≤ 3) :
    read (letters ++ digits) = (⟨some (columnOf letters), digits⟩, []) := by
  have hdrop : dropDollar digits = digits := @dropDollar_append [] digits (by simp) hd
  simp [read, dropDollar_append hl hd, takeWhile_isAlpha_append hl hd,
    List.take_of_length_le hlen, hdrop, takeWhile_isDigit hd, hne]

theorem row?_of_maxDigits_lt {c : Corner} (h : Decimal.maxDigits < c.digits.length) :
    c.row? = .error (.tooManyDigits c.digits.length) := by
  have hne : c.digits ≠ [] := List.ne_nil_of_length_pos (Nat.zero_lt_of_lt h)
  simp [row?, hne, h]

end Corner

namespace Address

theorem refuse_text? {col row : Nat} {text : String} (h : text? col row = some text)
    (hrow : 10 ^ Decimal.maxDigits ≤ row) (s : Sheet) :
    Sheet.refuse text s = .error (.tooManyDigits (Nat.toDigits 10 row).length) s := by
  obtain ⟨⟨hpos, -⟩, rfl⟩ := text?_eq_some_iff.mp h
  have hcount : Decimal.maxDigits < (Nat.toDigits 10 row).length := by
    rw [← Nat.not_le, Nat.length_toDigits_le_iff (by decide) (by decide), Nat.not_lt]
    exact hrow
  have hread := Corner.read_append (isAlpha_of_mem_lettersWithin 3 col)
    (isDigit_of_mem_toDigits row) (lettersWithin_ne_nil (by omega))
    (length_lettersWithin_le 3 col)
  have hparse : Reference.parse (String.ofList (lettersWithin 3 col ++ Nat.toDigits 10 row)) =
      .error (.tooManyDigits (Nat.toDigits 10 row).length) := by
    simp only [Reference.parse, String.toList_ofList, hread, Reference.between]
    rw [Corner.row?_of_maxDigits_lt hcount]
    rfl
  simp only [Sheet.refuse, hparse]
  rfl

end Address

namespace Expansion

variable {col row : Nat} {text : String} {s s' : Sheet} {c : Cell} {run run' : Run}
  {marker : CellMarker} {child : Record}

/-- An address leads to the cell at a position. On every sheet the cell that is restyled at the
address is the one that is found at the position. Where no cell can be found, beyond the last row,
there is none to be restyled either, and nothing changes. -/
def LeadsTo (address : String) (col row : Nat) : Prop :=
  ∀ (s : Sheet) (style : Style),
    (∃ c s', Sheet.cell col row s = .ok c s' ∧
      restyleAt address style s = .ok () (s'.put col row { c with style })) ∨
    (lastRow < row ∧ (∃ e, Sheet.cell col row s = .error e s) ∧
      ∃ e, restyleAt address style s = .error e s)

theorem restyle_of_cell (h : Sheet.cell col row s = .ok c s') (f : Style → Style) :
    s.restyle col row f = .ok (s'.put col row { c with style := f c.style }) := by
  simp only [Sheet.restyle, Sheet.access_of_cell h]

theorem restyle_of_cell_error {e : Sheet.Error} (h : Sheet.cell col row s = .error e s')
    (f : Style → Style) : s.restyle col row f = .error e := by
  simp only [Sheet.restyle, Sheet.access_of_cell_error h]

/-- The address of a position leads to the cell there, however large the number of its row. -/
theorem leadsTo_text? (h : Address.text? col row = some text) (hrow : 1 ≤ row) :
    LeadsTo text col row := by
  intro s style
  have hcol : 1 ≤ col := (Address.text?_eq_some_iff.mp h).1.1
  have hmeets := Sheet.meets_cell hcol hrow s
  cases hcell : Sheet.cell col row s with
  | ok c s' =>
    left
    have hdigits := (hmeets.of_ok hcell).1.trans_lt lastRow_lt
    refine ⟨c, s', rfl, ?_⟩
    rw [restyleAt_of_text? style h hrow hdigits, act, restyle_of_cell hcell]
  | error e s' =>
    right
    obtain ⟨hlast, -, rfl⟩ := hmeets.of_error hcell
    refine ⟨hlast, ⟨e, rfl⟩, ?_⟩
    by_cases hdigits : row < 10 ^ Decimal.maxDigits
    · refine ⟨e, ?_⟩
      rw [restyleAt_of_text? style h hrow hdigits, act, restyle_of_cell_error hcell]
    · have hparse : Address.parse? text = none := by
        rw [Address.parse?_text?_eq h, if_neg hdigits]
      simp only [restyleAt, hparse]
      exact ⟨_, Address.refuse_text? h (Nat.le_of_not_lt hdigits) _⟩

/-- The cell at a position became `written` and then took the style of the cell below, which was
asked for. No other place of the sheet changed. -/
def Dressed (s : Sheet) (col row : Nat) (written : Cell) (s' : Sheet) : Prop :=
  ∀ i j, s'.get? i j =
    if i = col ∧ j = row then
      some { written with style := ((s.get? col (row + 1)).getD Cell.blank).style }
    else if i = col ∧ j = row + 1 then some ((s.get? col (row + 1)).getD Cell.blank)
    else s.get? i j

theorem dressed_cloneStyleFromBelow (h : cloneStyleFromBelow col row run = .ok () run')
    (hrow : 1 ≤ row) (hc : run.sheet.get? col row = some c) :
    Dressed run.sheet col row c run'.sheet := by
  intro i j
  obtain ⟨t, s, source, target, hs, -, htarget, hstyle, -⟩ := cloneStyleFromBelow_eq_ok h
  obtain ⟨hcol, hbelow, -⟩ := Sheet.reach_of_cell hs
  obtain ⟨-, rfl, ha, -⟩ := (Sheet.meets_cell hcol hbelow _).of_ok hs
  obtain ⟨d, s', hd, hrestyled⟩ | ⟨-, -, e, herror⟩ := leadsTo_text? htarget hrow s _
  · obtain ⟨-, rfl, -, -⟩ := (Sheet.meets_cell hcol hrow s).of_ok hd
    have hc' : s.get? col row = some c := ha.get?_of_some hc
    rw [(EStateM.Result.ok.inj (hstyle.symm.trans hrestyled)).2, Sheet.get?_put_of_cell hd, hc',
      Option.getD_some, ha.cells]
    simp only [List.mem_singleton, Prod.mk.injEq]
    split_ifs with hp hq
    · rfl
    · obtain ⟨rfl, rfl⟩ := hq
      rfl
    · rfl
  · cases herror.symm.trans hstyle

/-- A row is drawn column by column: the cell of the first one takes its value and its style, and
the columns behind it are left. -/
theorem fillRow_cons_eq_ok {rest : List (Nat × CellMarker)} (hrow : 1 ≤ row)
    (h : fillRow row child ((col, marker) :: rest) run = .ok () run') :
    ∃ run₁ source target, fillRow row child rest run₁ = .ok () run' ∧
      Address.text? col (row + 1) = some source ∧ Address.text? col row = some target ∧
      run₁.edits = run.edits ++ [.cloneStyle source target] ∧
      Dressed run.sheet col row (((run.sheet.get? col row).getD Cell.blank).filled marker child).1
        run₁.sheet := by
  obtain ⟨_, run₁, hfill, h⟩ := bind_eq_ok.mp h
  obtain ⟨_, run₂, hclone, h⟩ := bind_eq_ok.mp h
  obtain ⟨t, s, source, target, -, hsource, htarget, -, hedits⟩ :=
    cloneStyleFromBelow_eq_ok hclone
  refine ⟨run₂, source, target, h, hsource, htarget, by rw [hedits, edits_fillCell hfill], ?_⟩
  have hwritten := get?_fillCell hfill
  have hc := hwritten col row
  rw [if_pos ⟨rfl, rfl⟩] at hc
  intro i j
  have hbelow : run₁.sheet.get? col (row + 1) = run.sheet.get? col (row + 1) := by
    rw [hwritten, if_neg (by omega)]
  rw [dressed_cloneStyleFromBelow hclone hrow hc, hbelow, hwritten]
  split_ifs <;> rfl

/-- Each cell in a column with letters has an address that no other cell has and that leads to it.
Hence, whichever columns of a row are still to be drawn, the cell of the first of them takes its
style where it took its value. -/
theorem exists_unique_address (col row : Nat) (hcol : 1 ≤ col) (hlast : col ≤ Address.lastColumn)
    (hrow : 1 ≤ row) :
    ∃ text, Address.text? col row = some text ∧
      (∀ col' row', Address.text? col' row' = some text → col' = col ∧ row' = row) ∧
      LeadsTo text col row ∧
      ∀ marker child rest run run', fillRow row child ((col, marker) :: rest) run = .ok () run' →
        ∃ run₁ source, fillRow row child rest run₁ = .ok () run' ∧
          Address.text? col (row + 1) = some source ∧
          run₁.edits = run.edits ++ [.cloneStyle source text] ∧
          Dressed run.sheet col row
            (((run.sheet.get? col row).getD Cell.blank).filled marker child).1 run₁.sheet := by
  obtain ⟨text, htext⟩ : ∃ text, Address.text? col row = some text :=
    ⟨_, Address.text?_eq_some_iff.mpr ⟨⟨hcol, hlast⟩, rfl⟩⟩
  refine ⟨text, htext, ?_, leadsTo_text? htext hrow, ?_⟩
  · intro col' row' h
    exact Address.text?_injective htext h
  · intro marker child rest run run' h
    obtain ⟨run₁, source, target, hrest, hsource, htarget, hedits, hdressed⟩ :=
      fillRow_cons_eq_ok hrow h
    obtain rfl : target = text := Option.some.inj (htarget.symm.trans htext)
    exact ⟨run₁, source, hrest, hsource, hedits, hdressed⟩

/-- A template row of one cell, in the first column that has two letters. Its number has a digit
more than that of the row above. -/
def namesInBold : Run where
  sheet := (Sheet.empty "Sheet").put 27 10
    ⟨.text "$F{name}", .text, { Style.plain with font := { Font.plain with bold := true } }⟩
  streams := []
  edits := []
  refusal := none

def annDrawn : EStateM.Result Failure Run Unit :=
  fillRow 9 (.mapping [(.text "name", .text "Ann")]) [(27, .field "name")] namesInBold

theorem exists_unique_address_AA9 :
    (1 ≤ 27 ∧ 27 ≤ Address.lastColumn ∧ 1 ≤ 9) ∧ Address.text? 27 9 = some "AA9" ∧
      (∀ col row, Address.text? col row = some "AA9" → col = 27 ∧ row = 9) ∧
      LeadsTo "AA9" 27 9 ∧
      ∃ run, annDrawn = .ok () run ∧ run.edits = [.cloneStyle "AA10" "AA9"] ∧
        run.sheet.get? 27 9 = some ⟨.text "Ann", .text,
          { Style.plain with font := { Font.plain with bold := true } }⟩ := by
  obtain ⟨text, htext, hunique, hleads, hfill⟩ :=
    exists_unique_address 27 9 (by decide) (by decide) (by decide)
  have hAA9 : Address.text? 27 9 = some "AA9" := by
    decide +kernel
  have hAA10 : Address.text? 27 10 = some "AA10" := by
    decide +kernel
  obtain rfl : text = "AA9" := Option.some.inj (htext.symm.trans hAA9)
  obtain ⟨run, hrun⟩ : ∃ run, annDrawn = .ok () run := ⟨_, rfl⟩
  obtain ⟨run₁, source, hend, hsource, hedits, hdressed⟩ := hfill _ _ _ _ _ hrun
  cases hend
  obtain rfl : source = "AA10" := Option.some.inj (hsource.symm.trans hAA10)
  exact ⟨by decide, htext, hunique, hleads, _, hrun, hedits, hdressed 27 9⟩

end Expansion
end SheetFill
