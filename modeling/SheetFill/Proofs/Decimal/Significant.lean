import SheetFill.Decimal.Layout
import SheetFill.Proofs.Decimal.Reading
import Mathlib.Data.List.DropRight

/-!
# Significant digits

The digits that a positive fraction is rounded to stand for the fraction rounded to the power of ten
that leaves so many digits. The first one of them is not zero, and neither is the last.
-/
namespace SheetFill

/-- A fraction rounded to a number of significant digits. -/
def significant (count : ℕ) (q : ℚ) : ℚ := roundTo (10 ^ (Int.log 10 |q| + 1 - count)) q

section Significant

variable {q : ℚ} {count : ℕ}

theorem significant_neg (count : ℕ) (q : ℚ) : significant count (-q) = -significant count q := by
  rw [significant, abs_neg, roundTo_neg, significant]

theorem significant_zero (count : ℕ) : significant count 0 = 0 :=
  roundTo_eq_self (n := 0) (by positivity) (by simp)

theorem log_ten_lt_of_lt {k : ℤ} (hq : 0 < q) (hk : q < 10 ^ k) : Int.log 10 q < k :=
  (Int.lt_zpow_iff_log_lt (by norm_num) hq).mp (by exact_mod_cast hk)

theorem abs_significant_sub_le (count : ℕ) {k : ℤ} (hk : |q| < 10 ^ k) :
    |significant count q - q| ≤ 10 ^ (k - count) / 2 := by
  by_cases hq : q = 0
  · rw [hq, significant_zero, sub_zero, abs_zero]
    positivity
  · have hlog := log_ten_lt_of_lt (abs_pos.mpr hq) hk
    calc |significant count q - q| ≤ 10 ^ (Int.log 10 |q| + 1 - count) / 2 :=
          abs_roundTo_sub_le (by positivity)
      _ ≤ 10 ^ (k - count) / 2 := by
        gcongr
        · norm_num
        · omega

theorem abs_significant_sub_le_mul (count : ℕ) (q : ℚ) :
    |significant count q - q| ≤ |q| * (10 ^ (1 - count : ℤ) / 2) := by
  by_cases hq : q = 0
  · simp [hq, significant_zero]
  · calc |significant count q - q| ≤ 10 ^ (Int.log 10 |q| + 1 - count) / 2 :=
          abs_roundTo_sub_le (by positivity)
      _ = 10 ^ Int.log 10 |q| * (10 ^ (1 - count : ℤ) / 2) := by
        rw [add_sub_assoc, zpow_add₀ (by norm_num), mul_div_assoc]
      _ ≤ |q| * (10 ^ (1 - count : ℤ) / 2) := by
        gcongr
        exact_mod_cast Int.zpow_log_le_self (b := 10) (by norm_num) (abs_pos.mpr hq)

theorem significant_eq_self {n k : ℤ} (hn : |n| < 10 ^ count) (hq : q = n * 10 ^ k) :
    significant count q = q := by
  by_cases hzero : q = 0
  · rw [hzero, significant_zero]
  · have hlt : |q| < 10 ^ (count + k) := by
      rw [hq, abs_mul, abs_of_pos (by positivity : (0 : ℚ) < 10 ^ k), zpow_add₀ (by norm_num)]
      gcongr
      rw [zpow_natCast]
      exact_mod_cast hn
    have hlog := log_ten_lt_of_lt (abs_pos.mpr hzero) hlt
    exact_mod_cast roundTo_pow_eq_self (b := 10) (by norm_num)
      (by omega : Int.log 10 |q| + 1 - count ≤ k) (by exact_mod_cast hq)

theorem intCast_le_significant {n : ℤ} (hq : |q| < 10 ^ count) (hn : n ≤ q) :
    n ≤ significant count q := by
  by_cases hzero : q = 0
  · rwa [hzero, significant_zero, ← hzero]
  · have hlog := log_ten_lt_of_lt (k := count) (abs_pos.mpr hzero) (by rwa [zpow_natCast])
    exact_mod_cast intCast_le_roundTo_pow (b := 10) (by norm_num)
      (by omega : Int.log 10 |q| + 1 - count ≤ 0) hn

end Significant

namespace Decimal

/-! ## Fractions of natural numbers -/

section Fractions

variable {num den : ℕ}

theorem scaled_eq (num : ℕ) (hden : 0 < den) (point : ℤ) (count : ℕ) :
    0 < (scaled num den point count).2 ∧
      ((scaled num den point count).1 : ℚ) / (scaled num den point count).2 =
        num / den / 10 ^ (point - count) := by
  have hden' : (den : ℚ) ≠ 0 := by exact_mod_cast hden.ne'
  unfold scaled
  simp only
  rw [← neg_sub (count : ℤ) point]
  generalize (count : ℤ) - point = shift
  split_ifs with hshift
  · obtain ⟨k, rfl⟩ := Int.eq_ofNat_of_zero_le hshift
    refine ⟨hden, ?_⟩
    simp only [Int.toNat_natCast, Nat.pow_eq, Nat.cast_mul, Nat.cast_pow, Nat.cast_ofNat, zpow_neg,
      zpow_natCast, div_inv_eq_mul]
    ring
  · obtain ⟨k, rfl⟩ := Int.exists_eq_neg_ofNat (not_le.mp hshift).le
    refine ⟨Nat.mul_pos hden (Nat.pow_pos (by norm_num)), ?_⟩
    simp only [neg_neg, Int.toNat_natCast, Nat.pow_eq, Nat.cast_mul, Nat.cast_pow, Nat.cast_ofNat,
      zpow_natCast, div_div]

theorem leadingZeros_spec {fuel : ℕ} (h : den ≤ num * 10 ^ fuel) :
    den ≤ num * 10 ^ leadingZeros num den fuel ∧
      ∀ k < leadingZeros num den fuel, num * 10 ^ k < den := by
  induction fuel generalizing num with
  | zero => exact ⟨h, nofun⟩
  | succ fuel ih =>
    rw [leadingZeros]
    split_ifs with hle
    · exact ⟨by simpa using hle, nofun⟩
    · have hshift (k : ℕ) : num * 10 ^ (k + 1) = num * 10 * 10 ^ k := by ring
      obtain ⟨hden, hlow⟩ := ih (by rwa [← hshift])
      refine ⟨by rwa [hshift], fun k hk => ?_⟩
      cases k with
      | zero => simpa using hle
      | succ k =>
        rw [hshift]
        exact hlow k (by omega)

theorem pointOf_eq (hnum : 0 < num) (hden : 0 < den) (h : den ≤ num * 10 ^ 400) :
    pointOf num den = Int.log 10 ((num : ℚ) / den) + 1 := by
  have hden' : (0 : ℚ) < den := by exact_mod_cast hden
  have hq : (0 : ℚ) < num / den := div_pos (by exact_mod_cast hnum) hden'
  unfold pointOf
  split_ifs with hle
  · obtain ⟨hlow, hhigh⟩ := pow_length_toDigits (Nat.div_pos hle hden)
    have hlen : 0 < (Nat.toDigits 10 (num / den)).length := Nat.length_toDigits_pos
    rw [Binary64.log_eq (k := ((Nat.toDigits 10 (num / den)).length : ℤ) - 1) (by norm_num) hq]
    · omega
    · rw [show ((Nat.toDigits 10 (num / den)).length : ℤ) - 1 =
        ((Nat.toDigits 10 (num / den)).length - 1 : ℕ) by omega, zpow_natCast, le_div_iff₀ hden']
      exact_mod_cast (Nat.le_div_iff_mul_le hden).mp hlow
    · rw [sub_add_cancel, zpow_natCast, div_lt_iff₀ hden']
      exact_mod_cast (Nat.div_lt_iff_lt_mul hden).mp hhigh
  · obtain ⟨hlow, hhigh⟩ := leadingZeros_spec h
    have hpos : 0 < leadingZeros num den 400 := by
      by_contra hzero
      rw [Nat.eq_zero_of_not_pos hzero] at hlow
      omega
    have hbelow := hhigh (leadingZeros num den 400 - 1) (by omega)
    rw [Binary64.log_eq (k := -(leadingZeros num den 400 : ℤ)) (by norm_num) hq]
    · omega
    · rw [zpow_neg, zpow_natCast, le_div_iff₀ hden', inv_mul_le_iff₀ (by positivity), mul_comm]
      exact_mod_cast hlow
    · rw [show -(leadingZeros num den 400 : ℤ) + 1 = -((leadingZeros num den 400 - 1 : ℕ) : ℤ) by
        omega, zpow_neg, zpow_natCast, div_lt_iff₀ hden', lt_inv_mul_iff₀ (by positivity), mul_comm]
      exact_mod_cast hbelow

end Fractions

/-! ## Digits -/

def wholeOf (ds : List ℕ) : ℕ := natOfDigits (digitChars ds)

theorem wholeOf_append (xs ys : List ℕ) :
    wholeOf (xs ++ ys) = wholeOf xs * 10 ^ ys.length + wholeOf ys := by
  rw [wholeOf, digitChars, List.map_append, natOfDigits_append, List.length_map]
  rfl

theorem wholeOf_concat (ds : List ℕ) {k : ℕ} (hk : k < 10) :
    wholeOf (ds ++ [k]) = wholeOf ds * 10 + k := by
  have hone : wholeOf [k] = k := by
    simp [wholeOf, digitChars, natOfDigits, digitValue, Nat.toNat_digitChar_of_lt_ten hk]
  rw [wholeOf_append, hone, List.length_singleton, pow_one]

theorem wholeOf_append_zeros (ds : List ℕ) (k : ℕ) :
    wholeOf (ds ++ List.replicate k 0) = wholeOf ds * 10 ^ k := by
  induction k with
  | zero => simp
  | succ k ih =>
    rw [List.replicate_succ', ← List.append_assoc, wholeOf_concat _ (by norm_num), ih, add_zero,
      pow_succ, mul_assoc]

theorem wholeOf_lt {ds : List ℕ} (h : ∀ k ∈ ds, k < 10) : wholeOf ds < 10 ^ ds.length := by
  induction ds using List.reverseRecOn with
  | nil => exact one_pos
  | append_singleton ds k ih =>
    have hk := h k (by simp)
    have hds := ih fun j hj => h j (by simp [hj])
    rw [wholeOf_concat ds hk, List.length_append, List.length_singleton, pow_succ]
    omega

theorem digitChar_digitValue {c : Char} (hc : c.isDigit = true) :
    (c.toNat - '0'.toNat).digitChar = c := by
  have h₀ : '0'.toNat = 48 := rfl
  have h₉ : '9'.toNat = 57 := rfl
  obtain ⟨hlow, hhigh⟩ := Char.isDigit_iff_toNat.mp hc
  rw [h₀] at hlow
  rw [h₉] at hhigh
  apply Char.toNat_inj.mp
  rw [h₀, Nat.toNat_digitChar_of_lt_ten (by omega)]
  omega

theorem digitsOf_eq {n : ℕ} (hn : 0 < n) :
    digitsOf n = (Nat.toDigits 10 n).map (fun c => c.toNat - '0'.toNat) :=
  if_neg (by simpa using hn.ne')

theorem digitChars_digitsOf {n : ℕ} (hn : 0 < n) :
    digitChars (digitsOf n) = Nat.toDigits 10 n := by
  rw [digitChars, digitsOf_eq hn, List.map_map]
  exact (List.map_congr_left fun c hc => digitChar_digitValue
    (Nat.isDigit_of_mem_toDigits (by norm_num) le_rfl hc)).trans (List.map_id _)

theorem wholeOf_digitsOf {n : ℕ} (hn : 0 < n) : wholeOf (digitsOf n) = n := by
  rw [wholeOf, digitChars_digitsOf hn, natOfDigits_toDigits]

theorem lt_of_mem_digitsOf {n k : ℕ} (hk : k ∈ digitsOf n) : k < 10 := by
  unfold digitsOf at hk
  split_ifs at hk
  · cases hk
  · obtain ⟨c, hc, rfl⟩ := List.mem_map.mp hk
    have h₀ : '0'.toNat = 48 := rfl
    have h₉ : '9'.toNat = 57 := rfl
    have hhigh := (Char.isDigit_iff_toNat.mp
      (Nat.isDigit_of_mem_toDigits (by norm_num) le_rfl hc)).2
    omega

def Digits.value (d : Digits) : ℚ := wholeOf d.digits * 10 ^ (d.point - d.digits.length)

/-- Digits below ten, of which neither the first nor the last is zero. -/
structure Digits.Proper (d : Digits) : Prop where
  digit : ∀ k ∈ d.digits, k < 10
  first : 10 ^ (d.digits.length - 1) ≤ wholeOf d.digits
  last : ¬ 10 ∣ wholeOf d.digits

theorem exists_zeros {ds : List ℕ} (hdigit : ∀ k ∈ ds, k < 10) (hne : wholeOf ds ≠ 0) :
    ∃ k, ds = ds.rdropWhile (· == 0) ++ List.replicate k 0 ∧
      ¬ 10 ∣ wholeOf (ds.rdropWhile (· == 0)) := by
  induction ds using List.reverseRecOn with
  | nil => exact absurd rfl hne
  | append_singleton ds j ih =>
    have hj := hdigit j (by simp)
    rw [wholeOf_concat ds hj] at hne
    rw [List.rdropWhile_concat]
    split_ifs with hzero
    · obtain rfl : j = 0 := by simpa using hzero
      obtain ⟨k, hk, hlast⟩ := ih (fun i hi => hdigit i (by simp [hi])) (by omega)
      refine ⟨k + 1, ?_, hlast⟩
      rw [List.replicate_succ', ← List.append_assoc, ← hk]
    · refine ⟨0, (List.append_nil _).symm, ?_⟩
      rw [wholeOf_concat ds hj]
      have : j ≠ 0 := by simpa using hzero
      omega

/-- Digits without trailing zeros stand for the same fraction. -/
theorem Digits.trimmed_proper {d : Digits} (hdigit : ∀ k ∈ d.digits, k < 10)
    (hfirst : 10 ^ (d.digits.length - 1) ≤ wholeOf d.digits) :
    d.trimmed.Proper ∧ d.trimmed.value = d.value := by
  have hpos : 0 < wholeOf d.digits := (Nat.pow_pos (by norm_num)).trans_le hfirst
  obtain ⟨k, hk, hlast⟩ := exists_zeros hdigit hpos.ne'
  change d.digits = d.trimmed.digits ++ _ at hk
  change ¬ 10 ∣ wholeOf d.trimmed.digits at hlast
  have hlength := congrArg List.length hk
  rw [List.length_append, List.length_replicate] at hlength
  have hwhole : wholeOf d.digits = wholeOf d.trimmed.digits * 10 ^ k := by
    conv_lhs => rw [hk, wholeOf_append_zeros]
  have hne : 0 < d.trimmed.digits.length := by
    by_contra hnil
    rw [List.length_eq_zero_iff.mp (Nat.eq_zero_of_not_pos hnil)] at hlast
    exact hlast (dvd_zero 10)
  refine ⟨⟨fun j hj => hdigit j ?_, ?_, hlast⟩, ?_⟩
  · rw [hk]
    exact List.mem_append_left _ hj
  · rw [hlength, hwhole, show d.trimmed.digits.length + k - 1 = d.trimmed.digits.length - 1 + k by
      omega, pow_add] at hfirst
    exact Nat.le_of_mul_le_mul_right hfirst (by positivity)
  · have hpoint : d.trimmed.point - d.trimmed.digits.length =
        k + (d.point - d.digits.length) := by
      rw [hlength]
      show d.point - _ = _
      push_cast
      ring
    rw [value, value, hpoint, hwhole, zpow_add₀ (by norm_num)]
    push_cast
    rw [zpow_natCast, mul_assoc]

theorem length_digitsOf {n count : ℕ} (hlow : 10 ^ (count - 1) ≤ n) (hhigh : n < 10 ^ count) :
    (digitsOf n).length = count := by
  have hn : 0 < n := (Nat.pow_pos (by norm_num)).trans_le hlow
  obtain ⟨hlow', hhigh'⟩ := pow_length_toDigits hn
  have hlen : 0 < (Nat.toDigits 10 n).length := Nat.length_toDigits_pos
  have h₁ := (Nat.pow_lt_pow_iff_right (by norm_num)).mp (hlow'.trans_lt hhigh)
  have h₂ := (Nat.pow_lt_pow_iff_right (by norm_num)).mp (hlow.trans_lt hhigh')
  rw [digitsOf_eq hn, List.length_map]
  omega

/-- The mantissa of a fraction: so many digits, or the next power of ten. -/
theorem mantissa_bounds {num den count : ℕ} (hnum : 0 < num) (hden : 0 < den)
    (hcount : 0 < count) (h : den ≤ num * 10 ^ 400) :
    let m := quotientToEven (scaled num den (pointOf num den) count).1
      (scaled num den (pointOf num den) count).2
    10 ^ (count - 1) ≤ m ∧ m ≤ 10 ^ count ∧
      significant count ((num : ℚ) / den) = m * 10 ^ (pointOf num den - count) := by
  intro m
  have hq : (0 : ℚ) < num / den := div_pos (by exact_mod_cast hnum) (by exact_mod_cast hden)
  obtain ⟨hpos, hscaled⟩ := scaled_eq num hden (pointOf num den) count
  have hround : (m : ℤ) = roundEven ((num : ℚ) / den / 10 ^ (pointOf num den - count)) := by
    rw [← hscaled]
    exact quotientToEven_eq _ hpos
  rw [pointOf_eq hnum hden h] at hround ⊢
  generalize (num : ℚ) / den = r at hq hround ⊢
  have hlow : (10 ^ (count - 1) : ℕ) ≤ r / 10 ^ (Int.log 10 r + 1 - count) := by
    push_cast
    rw [le_div_iff₀ (by positivity), ← zpow_natCast, ← zpow_add₀ (by norm_num)]
    calc (10 : ℚ) ^ (((count - 1 : ℕ) : ℤ) + (Int.log 10 r + 1 - count)) ≤ 10 ^ Int.log 10 r :=
          zpow_le_zpow_right₀ (by norm_num) (by omega)
      _ ≤ r := by exact_mod_cast Int.zpow_log_le_self (b := 10) (by norm_num) hq
  have hhigh : r / 10 ^ (Int.log 10 r + 1 - count) ≤ (10 ^ count : ℕ) := by
    push_cast
    rw [div_le_iff₀ (by positivity), ← zpow_natCast, ← zpow_add₀ (by norm_num), add_sub_cancel]
    exact_mod_cast (Int.lt_zpow_succ_log_self (b := 10) (by norm_num) r).le
  refine ⟨?_, ?_, ?_⟩
  · have hle := le_roundEven_of_le (n := (10 ^ (count - 1) : ℕ)) (by exact_mod_cast hlow)
    rw [← hround] at hle
    exact_mod_cast hle
  · have hle := roundEven_le_of_le (n := (10 ^ count : ℕ)) (by exact_mod_cast hhigh)
    rw [← hround] at hle
    exact_mod_cast hle
  · rw [significant, abs_of_pos hq, roundTo, ← hround, Int.cast_natCast]

/-- The digits of a fraction stand for it with so many significant digits. -/
theorem rounded_proper {num den count : ℕ} (hnum : 0 < num) (hden : 0 < den) (hcount : 0 < count)
    (h : den ≤ num * 10 ^ 400) :
    (rounded num den count).Proper ∧
      (rounded num den count).value = significant count ((num : ℚ) / den) := by
  obtain ⟨hlow, hhigh, hvalue⟩ := mantissa_bounds hnum hden hcount h
  rw [hvalue]
  unfold rounded
  simp only [Nat.pow_eq, beq_iff_eq]
  generalize quotientToEven (scaled num den (pointOf num den) count).1
      (scaled num den (pointOf num den) count).2 = m at hlow hhigh
  split_ifs with hm
  · have hone : wholeOf [1] = 1 := rfl
    refine ⟨⟨by simp, by rw [hone]; rfl, by rw [hone]; norm_num⟩, ?_⟩
    rw [Digits.value, hone, hm]
    push_cast
    rw [one_mul, ← zpow_natCast, ← zpow_add₀ (by norm_num)]
    congr 1
    simp
  · have hlength := length_digitsOf hlow (lt_of_le_of_ne hhigh hm)
    have hpos : 0 < m := (Nat.pow_pos (by norm_num)).trans_le hlow
    obtain ⟨hproper, htrimmed⟩ := Digits.trimmed_proper (d := ⟨digitsOf m, pointOf num den⟩)
      (fun k hk => lt_of_mem_digitsOf hk) (by rwa [hlength, wholeOf_digitsOf hpos])
    refine ⟨hproper, htrimmed.trans ?_⟩
    rw [Digits.value, wholeOf_digitsOf hpos, hlength]

end Decimal

end SheetFill
