import SheetFill.Sheet.Address
import Mathlib.Data.List.TakeWhile
import Mathlib.Tactic

/-!
# Writing and reading addresses

The letters of a column are its number in base 26 with the digits one to twenty-six, so reading them
gives the column back, and an address that was written reads as its own position.
-/
namespace SheetFill.Address

theorem isAlpha_letter : ∀ d < 26, (letter d).isAlpha = true := by decide

theorem columnDigit_letter : ∀ d < 26, (letter d).toUpper.toNat - 'A'.toNat + 1 = d + 1 := by
  decide

/-- The last column that has at most `k` letters. -/
def lastWithin : Nat → Nat
  | 0 => 0
  | k + 1 => 26 * lastWithin k + 26

theorem columnOf_concat (cs : List Char) (c : Char) :
    columnOf (cs ++ [c]) = columnOf cs * 26 + (c.toUpper.toNat - 'A'.toNat + 1) := by
  simp [columnOf]

theorem columnOf_lettersWithin : ∀ fuel n : Nat, n ≤ lastWithin fuel →
    columnOf (lettersWithin fuel n) = n := by
  intro fuel
  induction fuel with
  | zero =>
    intro n hn
    rw [Nat.le_zero.mp hn]
    rfl
  | succ fuel ih =>
    intro n hn
    rw [lastWithin] at hn
    by_cases h : n = 0
    · subst h
      rfl
    · have hd : (n - 1) / 26 ≤ lastWithin fuel := by omega
      have hm : (n - 1) % 26 < 26 := Nat.mod_lt _ (by omega)
      simp only [lettersWithin, beq_iff_eq, h, if_false, columnOf_concat, ih _ hd,
        columnDigit_letter _ hm]
      omega

theorem length_lettersWithin_le : ∀ fuel n : Nat, (lettersWithin fuel n).length ≤ fuel := by
  intro fuel
  induction fuel with
  | zero => intro n; simp [lettersWithin]
  | succ fuel ih =>
    intro n
    simp only [lettersWithin]
    split_ifs
    · simp
    · have h := ih ((n - 1) / 26)
      simp only [List.length_append, List.length_singleton]
      omega

theorem isAlpha_of_mem_lettersWithin : ∀ fuel n : Nat, ∀ c ∈ lettersWithin fuel n,
    c.isAlpha = true := by
  intro fuel
  induction fuel with
  | zero => intro n c hc; simp [lettersWithin] at hc
  | succ fuel ih =>
    intro n c hc
    simp only [lettersWithin] at hc
    split_ifs at hc
    · simp at hc
    · rcases List.mem_append.mp hc with hc | hc
      · exact ih _ c hc
      · rw [List.mem_singleton.mp hc]
        exact isAlpha_letter _ (Nat.mod_lt _ (by omega))

theorem lettersWithin_ne_nil {fuel n : Nat} (h : n ≠ 0) : lettersWithin (fuel + 1) n ≠ [] := by
  simp [lettersWithin, h]

theorem digit?_of_isDigit {c : Char} (h : c.isDigit = true) :
    Text.digit? c = some (c.toNat - '0'.toNat) := by
  have hle : '0' ≤ c ∧ c ≤ '9' := by
    simpa [Char.isDigit, Char.le_def] using h
  have hlt : c.toNat < 0x80 := lt_of_le_of_lt (Char.le_def.mp hle.2) (by decide)
  simp [Text.digit?, hlt, hle]

theorem natOfDigits_toDigits (n : Nat) : Text.natOfDigits (Nat.toDigits 10 n) = n := by
  have hfold : ∀ (cs : List Char) (m : Nat), (∀ c ∈ cs, c.isDigit = true) →
      cs.foldl (fun n c => n * 10 + (Text.digit? c).getD 0) m = Nat.ofDigitChars 10 cs m := by
    intro cs
    induction cs with
    | nil => intro m _; simp
    | cons c cs ih =>
      intro m h
      rw [List.foldl_cons, ih _ (fun d hd => h d (by simp [hd])), Nat.ofDigitChars_cons,
        digit?_of_isDigit (h c (by simp)), Option.getD_some, Nat.mul_comm]
  rw [Text.natOfDigits, hfold _ _ (fun c hc => Nat.isDigit_of_mem_toDigits (by decide) le_rfl hc)]
  exact Nat.ofDigitChars_ten_toDigits

theorem dropDollar_eq_self {cs : List Char} (h : ∀ c ∈ cs, c ≠ '$') : dropDollar cs = cs := by
  cases cs with
  | nil => rfl
  | cons c cs =>
    have hc : c ≠ '$' := h c (by simp)
    unfold dropDollar
    split
    · next heq => exact absurd (List.cons.inj heq).1 hc
    · rfl

theorem isAlpha_of_isDigit {c : Char} (h : c.isDigit = true) : c.isAlpha = false := by
  have h₉ : c.val.toNat ≤ 57 := (Char.isDigit_iff_toNat.mp h).2
  have hA : ¬ c.val ≥ 'A'.val := by
    rw [ge_iff_le, UInt32.le_iff_toNat_le]
    exact not_le.mpr (lt_of_le_of_lt h₉ (by decide))
  have ha : ¬ c.val ≥ 'a'.val := by
    rw [ge_iff_le, UInt32.le_iff_toNat_le]
    exact not_le.mpr (lt_of_le_of_lt h₉ (by decide))
  have hupper : c.isUpper = false := decide_eq_false fun h => hA h.1
  have hlower : c.isLower = false := by
    show (decide (c.val ≥ 'a'.val) && _) = false
    rw [decide_eq_false ha, Bool.false_and]
  show (c.isUpper || c.isLower) = false
  rw [hupper, hlower, Bool.or_false]

section Parts

variable {letters digits : List Char} (hl : ∀ c ∈ letters, c.isAlpha = true)
  (hd : ∀ c ∈ digits, c.isDigit = true)

include hl hd

theorem takeWhile_isAlpha_append : (letters ++ digits).takeWhile Char.isAlpha = letters := by
  rw [List.takeWhile_append_of_pos hl]
  cases digits with
  | nil => simp
  | cons d ds => simp [isAlpha_of_isDigit (hd d (by simp))]

theorem dropWhile_isAlpha_append : (letters ++ digits).dropWhile Char.isAlpha = digits := by
  rw [List.dropWhile_append_of_pos hl]
  cases digits with
  | nil => rfl
  | cons d ds => simp [isAlpha_of_isDigit (hd d (by simp))]

theorem dropDollar_append : dropDollar (letters ++ digits) = letters ++ digits := by
  apply dropDollar_eq_self
  rintro c hc rfl
  rcases List.mem_append.mp hc with hc | hc
  · exact absurd (hl _ hc) (by decide)
  · exact absurd (hd _ hc) (by decide)

omit hl in
theorem takeWhile_isDigit : digits.takeWhile Text.isDigit = digits := by
  apply List.takeWhile_eq_self_iff.mpr
  intro c hc
  rw [Text.isDigit, digit?_of_isDigit (hd c hc), Option.isSome_some]

theorem parse?_append (hne : letters ≠ []) (hlen : letters.length ≤ 3) (hdne : digits ≠ []) :
    parse? (String.ofList (letters ++ digits)) =
      if Decimal.maxDigits < digits.length then none
      else some (columnOf letters, Text.natOfDigits digits) := by
  have hdrop : dropDollar digits = digits := @dropDollar_append [] digits (by simp) hd
  have hguard : (letters.isEmpty || decide (3 < letters.length) || digits.isEmpty ||
      decide (Decimal.maxDigits < digits.length) ||
      !isEnd (digits.drop digits.length)) = decide (Decimal.maxDigits < digits.length) := by
    simp [hne, hdne, isEnd, Nat.not_lt.mpr hlen]
  simp only [parse?, String.toList_ofList, dropDollar_append hl hd, takeWhile_isAlpha_append hl hd,
    dropWhile_isAlpha_append hl hd, hdrop, takeWhile_isDigit hd, hguard, decide_eq_true_eq]

end Parts

/-- The columns from A to ZZZ are those whose cells have addresses. -/
theorem text?_eq_some_iff {col row : Nat} {text : String} : text? col row = some text ↔
    (1 ≤ col ∧ col ≤ lastColumn) ∧
      text = String.ofList (lettersWithin 3 col ++ Nat.toDigits 10 row) := by
  by_cases hcol : 1 ≤ col ∧ col ≤ lastColumn
  · simp [text?, letters?, hcol, Nat.repr_eq_ofList_toDigits, String.ofList_append, eq_comm]
  · simp [text?, letters?, hcol]

theorem isDigit_of_mem_toDigits (n : Nat) : ∀ c ∈ Nat.toDigits 10 n, c.isDigit = true :=
  fun _ hc => Nat.isDigit_of_mem_toDigits (by decide) le_rfl hc

theorem parse?_text?_eq {col row : Nat} {text : String} (h : text? col row = some text) :
    parse? text = if row < 10 ^ Decimal.maxDigits then some (col, row) else none := by
  obtain ⟨⟨hpos, hlast⟩, rfl⟩ := text?_eq_some_iff.mp h
  have hcount : (Nat.toDigits 10 row).length ≤ Decimal.maxDigits ↔ row < 10 ^ Decimal.maxDigits :=
    Nat.length_toDigits_le_iff (by decide) (by decide)
  rw [parse?_append (isAlpha_of_mem_lettersWithin 3 col) (isDigit_of_mem_toDigits row)
    (lettersWithin_ne_nil (by omega)) (length_lettersWithin_le 3 col) Nat.toDigits_ne_nil,
    columnOf_lettersWithin 3 col hlast, natOfDigits_toDigits, ← ite_not]
  simp only [Nat.not_lt, hcount]

theorem parse?_text? {col row : Nat} {text : String} (h : text? col row = some text)
    (hrow : row < 10 ^ Decimal.maxDigits) : parse? text = some (col, row) := by
  rw [parse?_text?_eq h, if_pos hrow]

theorem text?_injective {col row col' row' : Nat} {text : String} (h : text? col row = some text)
    (h' : text? col' row' = some text) : col' = col ∧ row' = row := by
  obtain ⟨⟨-, hlast⟩, rfl⟩ := text?_eq_some_iff.mp h
  obtain ⟨⟨-, hlast'⟩, heq⟩ := text?_eq_some_iff.mp h'
  have hparts : lettersWithin 3 col ++ Nat.toDigits 10 row =
      lettersWithin 3 col' ++ Nat.toDigits 10 row' := String.ofList_injective heq
  have hletters := congrArg (List.takeWhile Char.isAlpha) hparts
  have hdigits := congrArg (List.dropWhile Char.isAlpha) hparts
  simp only [
    takeWhile_isAlpha_append (isAlpha_of_mem_lettersWithin 3 _) (isDigit_of_mem_toDigits _),
    dropWhile_isAlpha_append (isAlpha_of_mem_lettersWithin 3 _) (isDigit_of_mem_toDigits _)]
    at hletters hdigits
  constructor
  · rw [← columnOf_lettersWithin 3 col hlast, hletters, columnOf_lettersWithin 3 col' hlast']
  · rw [← natOfDigits_toDigits row, hdigits, natOfDigits_toDigits]

end SheetFill.Address
