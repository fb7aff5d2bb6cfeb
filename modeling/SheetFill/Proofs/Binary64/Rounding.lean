import SheetFill.Decimal.Rounding
import Mathlib.Tactic

/-!
# Rounding of fractions

A fraction is rounded to the nearest whole number, and a half goes to the even neighbour, or to the
nearest multiple of a unit. The rounding of quotients of natural numbers is the same.
-/
namespace SheetFill

/-- The nearest whole number, and of two the even one. -/
def roundEven (q : ℚ) : ℤ :=
  if q - ⌊q⌋ < 1 / 2 ∨ q - ⌊q⌋ = 1 / 2 ∧ Even ⌊q⌋ then ⌊q⌋ else ⌊q⌋ + 1

theorem abs_roundEven_sub_le (q : ℚ) : |(roundEven q : ℚ) - q| ≤ 1 / 2 := by
  have hfloor := Int.floor_le q
  have hlt := Int.lt_floor_add_one q
  unfold roundEven
  split_ifs with h
  · rw [abs_le]
    rcases h with h | ⟨h, -⟩ <;> constructor <;> linarith
  · have hhalf : 1 / 2 ≤ q - ⌊q⌋ := not_lt.mp fun hlow => h (.inl hlow)
    push_cast
    rw [abs_le]
    constructor <;> linarith

theorem floor_le_roundEven (q : ℚ) : ⌊q⌋ ≤ roundEven q := by
  unfold roundEven
  split_ifs <;> omega

theorem roundEven_intCast (n : ℤ) : roundEven n = n := by
  simp [roundEven]

theorem roundEven_le_of_le {q : ℚ} {n : ℤ} (h : q ≤ n) : roundEven q ≤ n := by
  have hle := abs_le.mp (abs_roundEven_sub_le q)
  have hlt : (roundEven q : ℚ) < n + 1 := by linarith [hle.2]
  exact Int.lt_add_one_iff.mp (by exact_mod_cast hlt)

theorem le_roundEven_of_le {q : ℚ} {n : ℤ} (h : (n : ℚ) ≤ q) : n ≤ roundEven q :=
  (Int.le_floor.mpr h).trans (floor_le_roundEven q)

theorem roundEven_of_lt {q : ℚ} (h : q - ⌊q⌋ < 1 / 2) : roundEven q = ⌊q⌋ := if_pos (.inl h)

theorem roundEven_of_gt {q : ℚ} (h : 1 / 2 < q - ⌊q⌋) : roundEven q = ⌊q⌋ + 1 := by
  rw [roundEven, if_neg]
  rintro (hlow | ⟨htie, -⟩)
  · exact lt_asymm h hlow
  · exact h.ne' htie

theorem roundEven_of_tie {q : ℚ} (h : q - ⌊q⌋ = 1 / 2) :
    roundEven q = if Even ⌊q⌋ then ⌊q⌋ else ⌊q⌋ + 1 := by
  rw [roundEven]
  simp only [h, lt_irrefl, false_or, true_and]

theorem roundEven_neg (q : ℚ) : roundEven (-q) = -roundEven q := by
  by_cases hq : (⌊q⌋ : ℚ) = q
  · rw [← hq, ← Int.cast_neg, roundEven_intCast, roundEven_intCast]
  · have hfloor : ⌊-q⌋ = -⌊q⌋ - 1 := by
      rw [Int.floor_eq_iff]
      have hle := lt_of_le_of_ne (Int.floor_le q) hq
      have hlt := Int.lt_floor_add_one q
      push_cast
      constructor <;> linarith
    have hrest : -q - ⌊-q⌋ = 1 - (q - ⌊q⌋) := by
      rw [hfloor]
      push_cast
      ring
    -- the part behind the point of one is what that of the other leaves to a whole
    rcases lt_trichotomy (q - ⌊q⌋) (1 / 2) with hlow | htie | hhigh
    · rw [roundEven_of_lt hlow, roundEven_of_gt (by rw [hrest]; linarith), hfloor, sub_add_cancel]
    · have heven : Even (-⌊q⌋ - 1) ↔ ¬ Even ⌊q⌋ := by rw [Int.even_sub_one, even_neg]
      rw [roundEven_of_tie htie, roundEven_of_tie (by rw [hrest, htie]; norm_num), hfloor]
      simp only [heven, ite_not]
      split_ifs <;> ring
    · rw [roundEven_of_gt hhigh, roundEven_of_lt (by rw [hrest]; linarith), hfloor]
      ring

theorem quotientToEven_eq (num : ℕ) {den : ℕ} (hden : 0 < den) :
    (Decimal.quotientToEven num den : ℤ) = roundEven ((num : ℚ) / den) := by
  have hfloor : ⌊(num : ℚ) / den⌋ = (num / den : ℕ) := Rat.floor_natCast_div_natCast num den
  have hden' : (0 : ℚ) < den := by exact_mod_cast hden
  have hrest : (num : ℚ) / den - (num / den : ℕ) = (num % den : ℕ) / den := by
    have hdiv : ((den * (num / den) + num % den : ℕ) : ℚ) = num := by rw [Nat.div_add_mod]
    field_simp
    push_cast at hdiv
    linarith
  have hlow : (num : ℚ) / den - (num / den : ℕ) < 1 / 2 ↔ 2 * (num % den) < den := by
    rw [hrest, div_lt_div_iff₀ hden' two_pos, one_mul, mul_comm]
    norm_cast
  have htie : (num : ℚ) / den - (num / den : ℕ) = 1 / 2 ↔ 2 * (num % den) = den := by
    rw [hrest, div_eq_div_iff hden'.ne' two_ne_zero, one_mul, mul_comm]
    norm_cast
  have heven : Even ((num / den : ℕ) : ℤ) ↔ num / den % 2 = 0 := by
    rw [Int.even_coe_nat, Nat.even_iff]
  unfold roundEven Decimal.quotientToEven
  rw [hfloor]
  simp only [Int.cast_natCast, hlow, htie, heven, Bool.or_eq_true, Bool.and_eq_true,
    decide_eq_true_eq, beq_iff_eq]
  split_ifs <;> simp

/-! ## Multiples of a unit -/

def roundTo (unit q : ℚ) : ℚ := roundEven (q / unit) * unit

variable {unit q : ℚ} {n : ℤ}

theorem abs_roundTo_sub_le (hunit : 0 < unit) : |roundTo unit q - q| ≤ unit / 2 := by
  have hscaled : roundTo unit q - q = (roundEven (q / unit) - q / unit) * unit := by
    rw [roundTo, sub_mul, div_mul_cancel₀ _ hunit.ne']
  rw [hscaled, abs_mul, abs_of_pos hunit]
  calc |(roundEven (q / unit) : ℚ) - q / unit| * unit ≤ 1 / 2 * unit :=
        mul_le_mul_of_nonneg_right (abs_roundEven_sub_le _) hunit.le
    _ = unit / 2 := by ring

theorem roundTo_eq_self (hunit : 0 < unit) (hq : q = n * unit) : roundTo unit q = q := by
  rw [roundTo, hq, mul_div_cancel_right₀ _ hunit.ne', roundEven_intCast]

theorem le_roundTo (hunit : 0 < unit) (hn : n * unit ≤ q) : n * unit ≤ roundTo unit q := by
  have hle : n ≤ roundEven (q / unit) := le_roundEven_of_le ((le_div_iff₀ hunit).mpr hn)
  exact mul_le_mul_of_nonneg_right (by exact_mod_cast hle) hunit.le

theorem exists_multiple {b : ℕ} (hb : b ≠ 0) {j k : ℤ} (hjk : j ≤ k) (n : ℤ) :
    ∃ m : ℤ, (n : ℚ) * b ^ k = m * b ^ j := by
  obtain ⟨i, hi⟩ := Int.eq_ofNat_of_zero_le (sub_nonneg.mpr hjk)
  refine ⟨n * b ^ i, ?_⟩
  rw [show k = i + j by omega, zpow_add₀ (by exact_mod_cast hb)]
  push_cast
  rw [zpow_natCast, mul_assoc]

/-- A multiple of a power is one of each lower power, and is not rounded to it. -/
theorem roundTo_pow_eq_self {b : ℕ} (hb : 0 < b) {j k : ℤ} (hjk : j ≤ k) (hq : q = n * b ^ k) :
    roundTo (b ^ j) q = q := by
  obtain ⟨m, hm⟩ := exists_multiple hb.ne' hjk n
  exact roundTo_eq_self (n := m) (by positivity) (hq.trans hm)

/-- Rounding to parts of one does not pass over a whole number. -/
theorem intCast_le_roundTo_pow {b : ℕ} (hb : 0 < b) {j : ℤ} (hj : j ≤ 0) (hn : n ≤ q) :
    n ≤ roundTo (b ^ j) q := by
  obtain ⟨m, hm⟩ := exists_multiple hb.ne' hj n
  rw [zpow_zero, mul_one] at hm
  rw [hm] at hn ⊢
  exact le_roundTo (by positivity) hn

theorem roundTo_neg (unit q : ℚ) : roundTo unit (-q) = -roundTo unit q := by
  rw [roundTo, neg_div, roundEven_neg, roundTo, Int.cast_neg, neg_mul]

end SheetFill
