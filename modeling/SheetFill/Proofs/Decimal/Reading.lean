import SheetFill.Decimal.Reading
import SheetFill.Proofs.Binary64.Nearest

/-!
# Reading decimal numbers

The number that is read is the nearest one to the decimal fraction, also where the size of the
fraction decides before it is computed.
-/
namespace SheetFill

namespace Binary64

variable {negative : Bool} {q : ℚ}

theorem ofParts_of_lt (m : ℕ) {e : ℤ} (he : 971 < e) :
    ofParts negative m e = .infinite negative :=
  dif_neg fun h => absurd h.2.2.2 (by omega)

theorem ofMagnitude_of_le (h : 2 ^ (1024 : ℤ) ≤ q) :
    ofMagnitude negative q = .infinite negative := by
  have hq : 0 < q := (zpow_pos (two_pos (α := ℚ)) 1024).trans_le h
  have hlog : 1024 ≤ Int.log 2 q :=
    (Int.zpow_le_iff_le_log one_lt_two hq).mp (by rwa [Nat.cast_ofNat])
  have hunit : 971 < unitOf q := by
    unfold unitOf
    omega
  rw [ofMagnitude, if_neg hq.ne']
  simp only [ofParts_of_lt _ hunit, ofParts_of_lt _ (hunit.trans (lt_add_one _)), ite_self]

theorem ofMagnitude_of_lt (hq : 0 ≤ q) (h : q < 2 ^ (-1075 : ℤ)) :
    ofMagnitude negative q = zero negative := by
  rcases hq.eq_or_lt with rfl | hpos
  · rw [ofMagnitude, if_pos rfl]
  · have hlog := log_lt_of_lt hpos h
    have hunit : unitOf q = -1074 := by
      unfold unitOf
      omega
    have hhalf : q / 2 ^ (-1074 : ℤ) < 1 / 2 := by
      rw [div_lt_iff₀ (by positivity)]
      calc q < 2 ^ (-1075 : ℤ) := h
        _ = 1 / 2 * 2 ^ (-1074 : ℤ) := by
          rw [show (-1075 : ℤ) = -1 + -1074 by norm_num, zpow_add₀ two_ne_zero, zpow_neg_one,
            one_div]
    have hfloor : ⌊q / 2 ^ (-1074 : ℤ)⌋ = 0 :=
      Int.floor_eq_zero_iff.mpr ⟨by positivity, hhalf.trans (by norm_num)⟩
    have hround : roundEven (q / 2 ^ (-1074 : ℤ)) = 0 := by
      rw [roundEven, hfloor, if_pos (.inl (by rwa [Int.cast_zero, sub_zero]))]
    have hfits : Fits 0 (-1074) := by decide
    rw [ofMagnitude, if_neg hpos.ne', hunit, hround, zero]
    simp only [Int.toNat_zero, ofParts, dif_pos hfits]
    rfl

end Binary64

namespace Decimal

theorem natOfDigits_eq (cs : List Char) : natOfDigits cs = Nat.ofDigitChars 10 cs 0 := by
  rw [natOfDigits, Nat.ofDigitChars_eq_foldl]
  congr 1
  ext n c
  rw [digitValue, mul_comm]

theorem natOfDigits_append (xs ys : List Char) :
    natOfDigits (xs ++ ys) = natOfDigits xs * 10 ^ ys.length + natOfDigits ys := by
  rw [natOfDigits_eq, natOfDigits_eq, natOfDigits_eq, Nat.ofDigitChars_append,
    Nat.ofDigitChars_eq_ofDigitChars_zero, mul_comm]

theorem natOfDigits_toDigits (n : ℕ) : natOfDigits (Nat.toDigits 10 n) = n := by
  rw [natOfDigits_eq, Nat.ofDigitChars_ten_toDigits]

theorem pow_length_toDigits {n : ℕ} (hn : 0 < n) :
    10 ^ ((Nat.toDigits 10 n).length - 1) ≤ n ∧ n < 10 ^ (Nat.toDigits 10 n).length := by
  have hpos : 0 < (Nat.toDigits 10 n).length := Nat.length_toDigits_pos
  refine ⟨?_, (Nat.length_toDigits_le_iff (by decide) hpos).mp le_rfl⟩
  rcases Nat.eq_or_lt_of_le hpos with h | h
  · rw [← h]
    exact hn
  · by_contra hlt
    have hle := (Nat.length_toDigits_le_iff (b := 10) (by decide)
      (Nat.sub_pos_of_lt h)).mpr (not_le.mp hlt)
    omega

theorem two_pow_le (k : ℕ) : 2 ^ (3 * k) ≤ 10 ^ k := by
  rw [pow_mul]
  exact Nat.pow_le_pow_left (by norm_num) k

theorem two_zpow_le (k : ℕ) : (2 : ℚ) ^ (3 * k : ℤ) ≤ 10 ^ (k : ℤ) := by
  exact_mod_cast two_pow_le k

/-- What is read depends on the value of the decimal fraction alone. -/
theorem nearest_eq (negative : Bool) (m : ℕ) (e : ℤ) :
    nearest negative m e = Binary64.ofMagnitude negative (m * 10 ^ e) := by
  unfold nearest
  by_cases hm : m = 0
  · simp [hm, Binary64.ofMagnitude]
  have hm' : (0 : ℚ) < m := by exact_mod_cast Nat.pos_of_ne_zero hm
  obtain ⟨hlow, hhigh⟩ := pow_length_toDigits (Nat.pos_of_ne_zero hm)
  have hlen : 0 < (Nat.toDigits 10 m).length := Nat.length_toDigits_pos
  have hlow' : (10 : ℚ) ^ (((Nat.toDigits 10 m).length : ℤ) - 1) ≤ m := by
    rw [show ((Nat.toDigits 10 m).length : ℤ) - 1 = ((Nat.toDigits 10 m).length - 1 : ℕ) by omega,
      zpow_natCast]
    exact_mod_cast hlow
  have hhigh' : (m : ℚ) < 10 ^ ((Nat.toDigits 10 m).length : ℤ) := by
    rw [zpow_natCast]
    exact_mod_cast hhigh
  rw [if_neg (by simpa using hm)]
  simp only
  split_ifs with h₁ h₂ h₃
  · refine (Binary64.ofMagnitude_of_le ?_).symm
    calc (2 : ℚ) ^ (1024 : ℤ) ≤ 2 ^ (3 * (400 : ℕ) : ℤ) :=
          zpow_le_zpow_right₀ one_le_two (by norm_num)
      _ ≤ 10 ^ ((400 : ℕ) : ℤ) := two_zpow_le 400
      _ ≤ 10 ^ (((Nat.toDigits 10 m).length : ℤ) - 1 + e) :=
        zpow_le_zpow_right₀ (by norm_num) (by omega)
      _ = 10 ^ (((Nat.toDigits 10 m).length : ℤ) - 1) * 10 ^ e := zpow_add₀ (by norm_num) _ _
      _ ≤ m * 10 ^ e := by gcongr
  · refine (Binary64.ofMagnitude_of_lt (by positivity) ?_).symm
    calc (m : ℚ) * 10 ^ e < 10 ^ ((Nat.toDigits 10 m).length : ℤ) * 10 ^ e := by gcongr
      _ = 10 ^ (((Nat.toDigits 10 m).length : ℤ) + e) := (zpow_add₀ (by norm_num) _ _).symm
      _ ≤ 10 ^ (-(400 : ℕ) : ℤ) := zpow_le_zpow_right₀ (by norm_num) (by omega)
      _ ≤ 2 ^ (-(3 * (400 : ℕ)) : ℤ) := by
        rw [zpow_neg, zpow_neg]
        exact inv_anti₀ (by positivity) (two_zpow_le 400)
      _ < 2 ^ (-1075 : ℤ) := zpow_lt_zpow_right₀ one_lt_two (by norm_num)
  · obtain ⟨k, rfl⟩ := Int.eq_ofNat_of_zero_le h₃
    rw [Binary64.ofFraction_eq _ one_pos]
    simp
  · obtain ⟨k, rfl⟩ := Int.exists_eq_neg_ofNat (not_le.mp h₃).le
    rw [Nat.pow_eq, Binary64.ofFraction_eq _ (by positivity)]
    simp [div_eq_mul_inv]

theorem exists_nearest {k : ℤ} (hk : -1021 ≤ k ∧ k ≤ 1023) (negative : Bool) {m : ℕ} {e : ℤ}
    (h : (m : ℚ) * 10 ^ e < 2 ^ k) :
    ∃ r, (nearest negative m e).Is r ∧
      Binary64.RoundedBelow k (Binary64.withSign negative (m * 10 ^ e)) r := by
  have hpos : (0 : ℚ) ≤ m * 10 ^ e := by positivity
  have habs : |Binary64.withSign negative ((m : ℚ) * 10 ^ e)| = m * 10 ^ e := by
    rw [Binary64.abs_withSign, abs_of_nonneg hpos]
  refine ⟨_, ?_, Binary64.roundedBelow (by rwa [habs]) hk.1⟩
  rw [nearest_eq]
  exact Binary64.is_ofMagnitude _ hpos (h.trans_le (zpow_le_zpow_right₀ one_le_two hk.2))

end Decimal

end SheetFill
