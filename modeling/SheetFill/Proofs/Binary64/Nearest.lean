import SheetFill.Binary64.Basic
import SheetFill.Proofs.Binary64.Rounding
import Mathlib.Data.Int.Log

/-!
# Nearest binary64 numbers

The number nearest to a fraction depends on the value of the fraction alone: it is the fraction
rounded to its unit, the power of two that leaves 53 bits, or the least one. What lies below
`2 ^ 1023` stays finite.
-/
namespace SheetFill.Binary64

/-- The exponent of the unit of a positive fraction. -/
def unitOf (q : ℚ) : ℤ := max (Int.log 2 q - 52) (-1074)

def rounded (q : ℚ) : ℚ := roundTo (2 ^ unitOf |q|) q

/-- The number nearest to a fraction that is not negative, with a sign in front. -/
def ofMagnitude (negative : Bool) (q : ℚ) : Binary64 :=
  if q = 0 then zero negative
  else
    let m := (roundEven (q / 2 ^ unitOf q)).toNat
    if m = 2 ^ 53 then ofParts negative (2 ^ 52) (unitOf q + 1) else ofParts negative m (unitOf q)

/-! ## Fractions of natural numbers -/

section Fractions

variable {num den : ℕ}

theorem scaled_eq (num : ℕ) (hden : 0 < den) (e : ℤ) :
    0 < (scaled num den e).2 ∧
      ((scaled num den e).1 : ℚ) / (scaled num den e).2 = num / den / 2 ^ e := by
  have hden' : (den : ℚ) ≠ 0 := by exact_mod_cast hden.ne'
  unfold scaled
  split_ifs with he
  · obtain ⟨k, rfl⟩ := Int.eq_ofNat_of_zero_le he
    refine ⟨Nat.mul_pos hden (Nat.two_pow_pos k), ?_⟩
    simp only [Int.toNat_natCast, Nat.pow_eq, Nat.cast_mul, Nat.cast_pow,
      Nat.cast_ofNat, zpow_natCast, div_div]
  · obtain ⟨k, rfl⟩ := Int.exists_eq_neg_ofNat (not_le.mp he).le
    refine ⟨hden, ?_⟩
    simp only [neg_neg, Int.toNat_natCast, Nat.pow_eq, Nat.cast_mul, Nat.cast_pow,
      Nat.cast_ofNat, zpow_neg, zpow_natCast, div_inv_eq_mul]
    ring

theorem log_eq {b : ℕ} (hb : 1 < b) {q : ℚ} (hq : 0 < q) {k : ℤ} (hle : (b : ℚ) ^ k ≤ q)
    (hlt : q < (b : ℚ) ^ (k + 1)) : Int.log b q = k := by
  have hlow := (Int.zpow_le_iff_le_log hb hq).mp hle
  have hhigh := (Int.lt_zpow_iff_log_lt hb hq).mp hlt
  omega

theorem leadOf_eq (hnum : 0 < num) (hden : 0 < den) :
    leadOf num den = Int.log 2 ((num : ℚ) / den) := by
  have hnum' : (0 : ℚ) < num := by exact_mod_cast hnum
  have hden' : (0 : ℚ) < den := by exact_mod_cast hden
  have hq : (0 : ℚ) < num / den := div_pos hnum' hden'
  have hn₁ : (2 : ℚ) ^ (num.log2 : ℤ) ≤ num := by
    exact_mod_cast Nat.log2_self_le hnum.ne'
  have hn₂ : (num : ℚ) < 2 ^ ((num.log2 : ℤ) + 1) := by
    exact_mod_cast (Nat.lt_log2_self (n := num))
  have hd₁ : (2 : ℚ) ^ (den.log2 : ℤ) ≤ den := by
    exact_mod_cast Nat.log2_self_le hden.ne'
  have hd₂ : (den : ℚ) < 2 ^ ((den.log2 : ℤ) + 1) := by
    exact_mod_cast (Nat.lt_log2_self (n := den))
  set k : ℤ := (num.log2 : ℤ) - den.log2 with hk
  have hlow : (2 : ℚ) ^ (k - 1) ≤ num / den := by
    rw [le_div_iff₀ hden']
    calc (2 : ℚ) ^ (k - 1) * den ≤ 2 ^ (k - 1) * 2 ^ ((den.log2 : ℤ) + 1) := by gcongr
      _ = 2 ^ (num.log2 : ℤ) := by rw [← zpow_add₀ two_ne_zero]; congr 1; omega
      _ ≤ num := hn₁
  have hhigh : (num : ℚ) / den < 2 ^ (k + 1) := by
    rw [div_lt_iff₀ hden']
    calc (num : ℚ) < 2 ^ ((num.log2 : ℤ) + 1) := hn₂
      _ = 2 ^ (k + 1) * 2 ^ (den.log2 : ℤ) := by rw [← zpow_add₀ two_ne_zero]; congr 1; omega
      _ ≤ 2 ^ (k + 1) * den := by gcongr
  obtain ⟨hpos, hscaled⟩ := scaled_eq num hden k
  have htest : (scaled num den k).2 ≤ (scaled num den k).1 ↔ (2 : ℚ) ^ k ≤ num / den := by
    have hpos' : (0 : ℚ) < (scaled num den k).2 := by exact_mod_cast hpos
    rw [← one_le_div₀ (a := (num : ℚ) / den) (by positivity), ← hscaled, one_le_div₀ hpos',
      Nat.cast_le]
  unfold leadOf
  simp only [← hk, htest]
  split_ifs with h
  · exact (log_eq one_lt_two hq h hhigh).symm
  · refine (log_eq one_lt_two hq hlow ?_).symm
    rw [sub_add_cancel]
    exact not_le.mp h

theorem ofFraction_eq (negative : Bool) (hden : 0 < den) :
    ofFraction negative num den = ofMagnitude negative ((num : ℚ) / den) := by
  have hden' : (den : ℚ) ≠ 0 := by exact_mod_cast hden.ne'
  unfold ofFraction ofMagnitude
  by_cases hnum : num = 0
  · simp [hnum]
  · have hq : (num : ℚ) / den ≠ 0 := div_ne_zero (by exact_mod_cast hnum) hden'
    obtain ⟨hpos, hscaled⟩ := scaled_eq num hden (unitOf ((num : ℚ) / den))
    have hm : Decimal.quotientToEven (scaled num den (unitOf ((num : ℚ) / den))).1
          (scaled num den (unitOf ((num : ℚ) / den))).2 =
        (roundEven ((num : ℚ) / den / 2 ^ unitOf ((num : ℚ) / den))).toNat := by
      rw [← hscaled, ← quotientToEven_eq _ hpos, Int.toNat_natCast]
    rw [if_neg hnum, if_neg hq, leadOf_eq (Nat.pos_of_ne_zero hnum) hden]
    exact congrArg (fun m => if m = Nat.pow 2 53 then _ else ofParts negative m _) hm

end Fractions

/-! ## Units -/

section Units

variable {q : ℚ}

theorem lt_unitOf (q : ℚ) : q / 2 ^ unitOf q < 2 ^ 53 := by
  rw [div_lt_iff₀ (by positivity)]
  calc q < 2 ^ (Int.log 2 q + 1) := by
        exact_mod_cast Int.lt_zpow_succ_log_self (b := 2) one_lt_two q
    _ ≤ 2 ^ (53 + unitOf q) := zpow_le_zpow_right₀ one_le_two (by unfold unitOf; omega)
    _ = 2 ^ 53 * 2 ^ unitOf q := by rw [zpow_add₀ two_ne_zero]; norm_num

theorem le_unitOf (hq : 0 < q) (hunit : unitOf q ≠ -1074) : 2 ^ 52 ≤ q / 2 ^ unitOf q := by
  have hlog : Int.log 2 q - 52 = unitOf q := by
    unfold unitOf at hunit ⊢
    omega
  rw [le_div_iff₀ (by positivity)]
  calc (2 : ℚ) ^ 52 * 2 ^ unitOf q = 2 ^ (52 + unitOf q) := by
        rw [zpow_add₀ two_ne_zero]; norm_num
    _ = 2 ^ Int.log 2 q := by rw [← hlog]; congr 1; omega
    _ ≤ q := by exact_mod_cast Int.zpow_log_le_self (b := 2) one_lt_two hq

theorem log_lt_of_lt {k : ℤ} (hq : 0 < q) (hk : q < 2 ^ k) : Int.log 2 q < k :=
  (Int.lt_zpow_iff_log_lt one_lt_two hq).mp (by exact_mod_cast hk)

theorem roundEven_div_unitOf (hq : 0 < q) :
    0 ≤ roundEven (q / 2 ^ unitOf q) ∧ roundEven (q / 2 ^ unitOf q) ≤ 2 ^ 53 ∧
      (unitOf q ≠ -1074 → 2 ^ 52 ≤ roundEven (q / 2 ^ unitOf q)) := by
  refine ⟨le_roundEven_of_le ?_, roundEven_le_of_le ?_, fun h => le_roundEven_of_le ?_⟩
  · rw [Int.cast_zero]
    positivity
  · exact_mod_cast (lt_unitOf q).le
  · exact_mod_cast le_unitOf hq h

end Units

/-! ## Values -/

def Finite.toRat (x : Finite) : ℚ := x.signed * 2 ^ x.exponent

/-- A number is finite and has a value. -/
def Is (x : Binary64) (q : ℚ) : Prop := ∃ b : Finite, x = .finite b ∧ b.toRat = q

def withSign (negative : Bool) (q : ℚ) : ℚ := if negative then -q else q

variable {q : ℚ} {negative : Bool}

theorem abs_withSign (negative : Bool) (q : ℚ) : |withSign negative q| = |q| := by
  cases negative
  · rfl
  · exact abs_neg q

theorem is_zero (negative : Bool) : (zero negative).Is 0 :=
  ⟨_, rfl, by cases negative <;> simp [Finite.toRat, Finite.signed]⟩

theorem is_ofParts {m : ℕ} {e : ℤ} (h : Fits m e) :
    (ofParts negative m e).Is (withSign negative (m * 2 ^ e)) := by
  refine ⟨_, dif_pos h, ?_⟩
  cases negative <;> simp [Finite.toRat, Finite.signed, withSign]

theorem rounded_neg (q : ℚ) : rounded (-q) = -rounded q := by
  rw [rounded, abs_neg, roundTo_neg, rounded]

theorem rounded_withSign (negative : Bool) (q : ℚ) :
    rounded (withSign negative q) = withSign negative (rounded q) := by
  cases negative
  · rfl
  · exact rounded_neg q

theorem rounded_zero : rounded 0 = 0 := by
  rw [rounded]
  exact roundTo_eq_self (n := 0) (by positivity) (by simp)

theorem lt_of_lt_pow {k : ℤ} (h : |q| < 2 ^ k) (hk : k ≤ 1023) : |q| < 2 ^ (1023 : ℤ) :=
  h.trans_le (zpow_le_zpow_right₀ one_le_two hk)

theorem is_ofMagnitude (negative : Bool) (hq : 0 ≤ q) (hlt : q < 2 ^ (1023 : ℤ)) :
    (ofMagnitude negative q).Is (rounded (withSign negative q)) := by
  rw [rounded_withSign]
  rcases hq.eq_or_lt with rfl | hpos
  · rw [ofMagnitude, if_pos rfl, rounded_zero]
    cases negative
    · exact is_zero false
    · rw [withSign, neg_zero, ite_self]
      exact is_zero true
  · have hlog := log_lt_of_lt hpos hlt
    obtain ⟨hlow, hhigh, hnormal⟩ := roundEven_div_unitOf hpos
    have hvalue : rounded q = roundEven (q / 2 ^ unitOf q) * 2 ^ unitOf q := by
      rw [rounded, abs_of_pos hpos, roundTo]
    rw [ofMagnitude, if_neg hpos.ne', hvalue]
    lift roundEven (q / 2 ^ unitOf q) to ℕ using hlow with m hm
    have hunit : -1074 ≤ unitOf q ∧ unitOf q < 971 := by
      unfold unitOf
      omega
    simp only [Int.toNat_natCast]
    split_ifs with hm'
    · -- the next power of two has a unit twice as large
      have hpow : ((m : ℤ) : ℚ) * 2 ^ unitOf q = (2 ^ 52 : ℕ) * 2 ^ (unitOf q + 1) := by
        rw [hm', zpow_add_one₀ two_ne_zero]
        push_cast
        ring
      rw [hpow]
      exact is_ofParts ⟨by norm_num, .inl le_rfl, by omega, by omega⟩
    · rw [Int.cast_natCast]
      refine is_ofParts ⟨?_, ?_, by omega, by omega⟩
      · exact lt_of_le_of_ne (by exact_mod_cast hhigh) hm'
      · by_cases hleast : unitOf q = -1074
        · exact .inr hleast
        · exact .inl (by exact_mod_cast hnormal hleast)

/-! ## Errors -/

theorem unitOf_le {k : ℤ} (hq : 0 < q) (hk : q < 2 ^ k) (hleast : -1021 ≤ k) :
    unitOf q ≤ k - 53 := by
  have hlog := log_lt_of_lt hq hk
  unfold unitOf
  omega

theorem abs_rounded_sub_le {k : ℤ} (hk : |q| < 2 ^ k) (hleast : -1021 ≤ k) :
    |rounded q - q| ≤ 2 ^ (k - 54) := by
  by_cases hq : q = 0
  · rw [hq, rounded_zero, sub_zero, abs_zero]
    positivity
  · calc |rounded q - q| ≤ 2 ^ unitOf |q| / 2 := abs_roundTo_sub_le (by positivity)
      _ ≤ 2 ^ (k - 53) / 2 := by
        gcongr
        · exact one_le_two
        · exact unitOf_le (abs_pos.mpr hq) hk hleast
      _ = 2 ^ (k - 54) := by
        rw [show k - 53 = k - 54 + 1 by omega, zpow_add_one₀ two_ne_zero]
        ring

/-- Away from the least numbers the error is a part of the value. -/
theorem abs_rounded_sub_le_mul (hq : 2 ^ (-1022 : ℤ) ≤ |q|) :
    |rounded q - q| ≤ |q| * 2 ^ (-53 : ℤ) := by
  have hpos : 0 < |q| := lt_of_lt_of_le (by positivity) hq
  have hlog : -1022 ≤ Int.log 2 |q| :=
    (Int.zpow_le_iff_le_log one_lt_two hpos).mp (by rwa [Nat.cast_ofNat])
  have hunit : unitOf |q| = Int.log 2 |q| + (-53) + 1 := by
    unfold unitOf
    omega
  calc |rounded q - q| ≤ 2 ^ unitOf |q| / 2 := abs_roundTo_sub_le (by positivity)
    _ = 2 ^ Int.log 2 |q| * 2 ^ (-53 : ℤ) := by
      rw [hunit, zpow_add_one₀ two_ne_zero, zpow_add₀ two_ne_zero]
      ring
    _ ≤ |q| * 2 ^ (-53 : ℤ) := by
      gcongr
      exact_mod_cast Int.zpow_log_le_self (b := 2) one_lt_two hpos

theorem rounded_eq_self {n k : ℤ} (hn : |n| < 2 ^ 53) (hk : -1074 ≤ k) (hq : q = n * 2 ^ k) :
    rounded q = q := by
  by_cases hzero : q = 0
  · rw [hzero, rounded_zero]
  · have hlt : |q| < 2 ^ (k + 53) := by
      rw [hq, abs_mul, abs_of_pos (by positivity : (0 : ℚ) < 2 ^ k), zpow_add₀ two_ne_zero,
        mul_comm]
      gcongr
      exact_mod_cast hn
    have hunit : unitOf |q| ≤ k := by
      have hlog := log_lt_of_lt (abs_pos.mpr hzero) hlt
      unfold unitOf
      omega
    exact_mod_cast roundTo_pow_eq_self two_pos hunit (by exact_mod_cast hq)

theorem rounded_intCast {n : ℤ} (hn : |n| < 2 ^ 53) : rounded n = n :=
  rounded_eq_self hn (by norm_num : (-1074 : ℤ) ≤ 0) (by simp)

theorem rounded_nonneg (hq : 0 ≤ q) : 0 ≤ rounded q := by
  have hunit : (0 : ℚ) < 2 ^ unitOf |q| := by positivity
  have hle := le_roundTo (n := 0) hunit (by simpa using hq)
  simpa [rounded] using hle

/-- The value `p` comes from `q`, which is below `2 ^ k`, by rounding. -/
structure RoundedBelow (k : ℤ) (q p : ℚ) : Prop where
  close : |p - q| ≤ 2 ^ (k - 54)
  nonneg : 0 ≤ q → 0 ≤ p

theorem roundedBelow {k : ℤ} (hk : |q| < 2 ^ k) (hleast : -1021 ≤ k) :
    RoundedBelow k q (rounded q) :=
  ⟨abs_rounded_sub_le hk hleast, rounded_nonneg⟩

/-- Rounding does not pass over a whole number. -/
theorem intCast_le_rounded {n : ℤ} (hq : |q| < 2 ^ 53) (hn : n ≤ q) : n ≤ rounded q := by
  by_cases hzero : q = 0
  · rwa [hzero, rounded_zero, ← hzero]
  · have hunit : unitOf |q| ≤ 0 := by
      have hlog := log_lt_of_lt (k := 53) (abs_pos.mpr hzero) (by exact_mod_cast hq)
      unfold unitOf
      omega
    exact_mod_cast intCast_le_roundTo_pow two_pos hunit hn

end SheetFill.Binary64
