import SheetFill.Proofs.Binary64.Nearest

/-!
# Arithmetic of binary64 numbers

An operation on finite numbers gives the rounded result of the exact one, as long as that is below
`2 ^ 1023`.
-/
namespace SheetFill.Binary64

/-! ## Fractions -/

namespace Finite

variable (x : Finite)

theorem fraction_pos : 0 < x.fraction.2 := by
  unfold fraction
  split_ifs
  · exact one_pos
  · exact Nat.two_pow_pos _

theorem toRat_eq : x.toRat = withSign x.negative ((x.fraction.1 : ℚ) / x.fraction.2) := by
  have hvalue : (x.fraction.1 : ℚ) / x.fraction.2 = x.mantissa * 2 ^ x.exponent := by
    unfold fraction
    split_ifs with he
    · obtain ⟨k, hk⟩ := Int.eq_ofNat_of_zero_le he
      simp [hk]
    · obtain ⟨k, hk⟩ := Int.exists_eq_neg_ofNat (not_le.mp he).le
      simp [hk, div_eq_mul_inv]
  rw [hvalue, toRat, signed, withSign]
  split_ifs <;> simp

theorem toRat_eq_div :
    x.toRat = ((if x.negative then -(x.fraction.1 : ℤ) else x.fraction.1 : ℤ) : ℚ) /
      x.fraction.2 := by
  rw [toRat_eq, withSign]
  split_ifs
  · rw [Int.cast_neg, neg_div, Int.cast_natCast]
  · rw [Int.cast_natCast]

theorem floor_eq : x.floor = ⌊x.toRat⌋ := by
  rw [toRat_eq_div, Rat.floor_intCast_div_natCast, floor]
  exact Int.fdiv_eq_ediv_of_nonneg _ (Int.natCast_nonneg _)

theorem round_eq : x.round = roundEven x.toRat := by
  have hquotient := quotientToEven_eq x.fraction.1 x.fraction_pos
  rw [toRat_eq, withSign, round]
  split_ifs
  · rw [roundEven_neg, ← hquotient]
  · rw [← hquotient]

theorem abs_sub_truncate_lt : |x.toRat - x.truncate| < 1 := by
  have hpos : (0 : ℚ) < x.fraction.2 := by exact_mod_cast x.fraction_pos
  have hfloor : ⌊(x.fraction.1 : ℚ) / x.fraction.2⌋ = (x.fraction.1 / x.fraction.2 : ℕ) :=
    Rat.floor_natCast_div_natCast _ _
  have hlow := Int.floor_le ((x.fraction.1 : ℚ) / x.fraction.2)
  have hhigh := Int.lt_floor_add_one ((x.fraction.1 : ℚ) / x.fraction.2)
  rw [hfloor, Int.cast_natCast] at hlow hhigh
  rw [toRat_eq, withSign, truncate, abs_lt]
  split_ifs
  · rw [Int.cast_neg, Int.cast_natCast]
    constructor <;> linarith
  · rw [Int.cast_natCast]
    constructor <;> linarith

end Finite

/-! ## Operations -/

variable {x y : Binary64} {p q : ℚ}

theorem ofScaled_eq (zeroNegative : Bool) (n e : ℤ) :
    ofScaled zeroNegative n e =
      ofMagnitude (if n = 0 then zeroNegative else decide (n < 0)) (|(n : ℚ)| * 2 ^ e) := by
  have hn : |(n : ℚ)| = n.natAbs := by rw [Nat.cast_natAbs, Int.cast_abs]
  unfold ofScaled
  by_cases he : 0 ≤ e
  · obtain ⟨k, rfl⟩ := Int.eq_ofNat_of_zero_le he
    simp only [he, if_true]
    rw [ofFraction_eq _ one_pos, hn]
    simp
  · obtain ⟨k, rfl⟩ := Int.exists_eq_neg_ofNat (not_le.mp he).le
    simp only [he, if_false, Nat.pow_eq]
    rw [ofFraction_eq _ (Nat.two_pow_pos _), hn]
    simp [div_eq_mul_inv]

theorem is_ofScaled (zeroNegative : Bool) {n e : ℤ} (h : |(n : ℚ) * 2 ^ e| < 2 ^ (1023 : ℤ)) :
    (ofScaled zeroNegative n e).Is (rounded (n * 2 ^ e)) := by
  have hpow : (0 : ℚ) < 2 ^ e := by positivity
  rw [abs_mul, abs_of_pos hpow] at h
  have hsign : (n : ℚ) * 2 ^ e =
      withSign (if n = 0 then zeroNegative else decide (n < 0)) (|(n : ℚ)| * 2 ^ e) := by
    rcases lt_trichotomy n 0 with hn | rfl | hn
    · rw [abs_of_neg (by exact_mod_cast hn)]
      simp [withSign, hn, hn.ne]
    · simp [withSign]
    · rw [abs_of_pos (by exact_mod_cast hn)]
      simp [withSign, hn.le, hn.ne']
  rw [ofScaled_eq, hsign]
  exact is_ofMagnitude _ (by positivity) h

theorem is_ofInt {n : ℤ} (hn : |(n : ℚ)| < 2 ^ (1023 : ℤ)) : (ofInt n).Is (rounded n) := by
  have hscaled := is_ofScaled false (n := n) (e := 0)
  rw [zpow_zero, mul_one] at hscaled
  exact hscaled hn

theorem is_ofInt_of_lt {n : ℤ} (hn : |n| < 2 ^ 53) : (ofInt n).Is n := by
  have hlt : |(n : ℚ)| < 2 ^ (53 : ℤ) := by exact_mod_cast hn
  have hvalue := is_ofInt (lt_of_lt_pow hlt (by norm_num))
  rwa [rounded_intCast hn] at hvalue

theorem Is.neg (hx : x.Is p) : (-x).Is (-p) := by
  obtain ⟨b, rfl, rfl⟩ := hx
  refine ⟨_, rfl, ?_⟩
  cases h : b.negative <;> simp [Finite.toRat, Finite.signed, h]

theorem Is.add (hx : x.Is p) (hy : y.Is q) (h : |p + q| < 2 ^ (1023 : ℤ)) :
    (x + y).Is (rounded (p + q)) := by
  obtain ⟨a, rfl, rfl⟩ := hx
  obtain ⟨b, rfl, rfl⟩ := hy
  -- both are whole numbers of the smaller one of their units
  have hshift (c : Finite) {e : ℤ} (he : e ≤ c.exponent) :
      ((c.signed * Nat.pow 2 (c.exponent - e).toNat : ℤ) : ℚ) * 2 ^ e = c.toRat := by
    obtain ⟨k, hk⟩ := Int.eq_ofNat_of_zero_le (sub_nonneg.mpr he)
    rw [hk, Finite.toRat, show c.exponent = k + e by omega, zpow_add₀ two_ne_zero]
    simp [mul_assoc]
  have hsum : ((a.signed * Nat.pow 2 (a.exponent - min a.exponent b.exponent).toNat +
      b.signed * Nat.pow 2 (b.exponent - min a.exponent b.exponent).toNat : ℤ) : ℚ) *
      2 ^ min a.exponent b.exponent = a.toRat + b.toRat := by
    rw [Int.cast_add, add_mul, hshift a (min_le_left _ _), hshift b (min_le_right _ _)]
  rw [← hsum] at h ⊢
  exact is_ofScaled _ h

theorem Is.sub (hx : x.Is p) (hy : y.Is q) (h : |p - q| < 2 ^ (1023 : ℤ)) :
    (x - y).Is (rounded (p - q)) := by
  rw [sub_eq_add_neg] at h ⊢
  exact hx.add hy.neg h

theorem Is.mul (hx : x.Is p) (hy : y.Is q) (h : |p * q| < 2 ^ (1023 : ℤ)) :
    (x * y).Is (rounded (p * q)) := by
  obtain ⟨a, rfl, rfl⟩ := hx
  obtain ⟨b, rfl, rfl⟩ := hy
  have hproduct : ((a.signed * b.signed : ℤ) : ℚ) * 2 ^ (a.exponent + b.exponent) =
      a.toRat * b.toRat := by
    rw [Finite.toRat, Finite.toRat, zpow_add₀ two_ne_zero]
    push_cast
    ring
  rw [← hproduct] at h ⊢
  exact is_ofScaled _ h

theorem Is.divNat (hx : x.Is p) {n : ℕ} (hn : 0 < n) (h : |p / n| < 2 ^ (1023 : ℤ)) :
    (x.divNat n).Is (rounded (p / n)) := by
  obtain ⟨b, rfl, rfl⟩ := hx
  have hquotient : b.toRat / n = withSign b.negative
      ((b.fraction.1 : ℚ) / (b.fraction.2 * n : ℕ)) := by
    rw [Finite.toRat_eq, withSign, withSign, Nat.cast_mul]
    split_ifs
    · rw [neg_div, div_div]
    · rw [div_div]
  have hnonneg : (0 : ℚ) ≤ (b.fraction.1 : ℚ) / (b.fraction.2 * n : ℕ) :=
    div_nonneg (Nat.cast_nonneg _) (Nat.cast_nonneg _)
  rw [hquotient, abs_withSign, abs_of_nonneg hnonneg] at h
  rw [hquotient]
  show (ofFraction b.negative b.fraction.1 (b.fraction.2 * n)).Is _
  rw [ofFraction_eq _ (Nat.mul_pos b.fraction_pos hn)]
  exact is_ofMagnitude _ hnonneg h

/-! ## Errors of operations -/

section Errors

variable {k : ℤ} (hk : -1021 ≤ k ∧ k ≤ 1023)
include hk

theorem Is.exists_add (hx : x.Is p) (hy : y.Is q) (h : |p + q| < 2 ^ k) :
    ∃ r, (x + y).Is r ∧ RoundedBelow k (p + q) r :=
  ⟨_, hx.add hy (lt_of_lt_pow h hk.2), roundedBelow h hk.1⟩

theorem Is.exists_sub (hx : x.Is p) (hy : y.Is q) (h : |p - q| < 2 ^ k) :
    ∃ r, (x - y).Is r ∧ RoundedBelow k (p - q) r :=
  ⟨_, hx.sub hy (lt_of_lt_pow h hk.2), roundedBelow h hk.1⟩

theorem Is.exists_mul (hx : x.Is p) (hy : y.Is q) (h : |p * q| < 2 ^ k) :
    ∃ r, (x * y).Is r ∧ RoundedBelow k (p * q) r :=
  ⟨_, hx.mul hy (lt_of_lt_pow h hk.2), roundedBelow h hk.1⟩

theorem Is.exists_divNat (hx : x.Is p) {n : ℕ} (hn : 0 < n) (h : |p / n| < 2 ^ k) :
    ∃ r, (x.divNat n).Is r ∧ RoundedBelow k (p / n) r :=
  ⟨_, hx.divNat hn (lt_of_lt_pow h hk.2), roundedBelow h hk.1⟩

end Errors

end SheetFill.Binary64
