import SheetFill.Calendar.Basic
import Mathlib.Tactic

/-!
# Numbers of days

The date that has the number of a date is that date.
-/
namespace SheetFill.Calendar

/-! ## Years -/

def daysInYear (y : ℕ) : ℕ := if isLeap y then 366 else 365

theorem daysBeforeYear_succ {y : ℕ} (hy : 1 ≤ y) :
    daysBeforeYear (y + 1) = daysBeforeYear y + daysInYear y := by
  obtain ⟨p, rfl⟩ := Nat.exists_eq_add_of_le' hy
  have hstep (k : ℕ) : (p + 1) / k = p / k + if (p + 1) % k = 0 then 1 else 0 := by
    simp only [Nat.succ_div, Nat.dvd_iff_mod_eq_zero]
  have h100 : p / 100 ≤ p / 4 := Nat.div_le_div_left (by norm_num) (by norm_num)
  have hdvd : (p + 1) % 400 = 0 → (p + 1) % 100 = 0 := by omega
  have hdvd' : (p + 1) % 100 = 0 → (p + 1) % 4 = 0 := by omega
  simp only [daysBeforeYear, Nat.add_sub_cancel, hstep, daysInYear, isLeap, Bool.and_eq_true,
    Bool.or_eq_true, beq_iff_eq, bne_iff_ne]
  generalize p / 4 = a at *
  generalize p / 100 = b at *
  generalize p / 400 = c at *
  by_cases h4 : (p + 1) % 4 = 0 <;> by_cases h100 : (p + 1) % 100 = 0 <;>
    by_cases h400 : (p + 1) % 400 = 0 <;> simp_all <;> omega

theorem daysBeforeYear_le {x y : ℕ} (hxy : x ≤ y) : daysBeforeYear x ≤ daysBeforeYear y := by
  refine monotone_nat_of_le_succ (fun y => ?_) hxy
  rcases Nat.eq_zero_or_pos y with rfl | hy
  · exact Nat.zero_le _
  · rw [daysBeforeYear_succ hy]
    exact Nat.le_add_right _ _

theorem find?_year {n y : ℕ} (hy : 1 ≤ y) (hlow : daysBeforeYear y < n)
    (hhigh : n ≤ daysBeforeYear (y + 1)) :
    [(n * 400 - 1) / 146097 + 2, (n * 400 - 1) / 146097 + 1, (n * 400 - 1) / 146097].find?
      (fun y => daysBeforeYear y < n) = some y := by
  have hguess : (n * 400 - 1) / 146097 ≤ y ∧ y ≤ (n * 400 - 1) / 146097 + 2 := by
    unfold daysBeforeYear at hlow hhigh
    simp only at hlow hhigh
    constructor <;> omega
  have hbehind {z : ℕ} (hz : y < z) : ¬ daysBeforeYear z < n := by
    have : daysBeforeYear (y + 1) ≤ daysBeforeYear z := daysBeforeYear_le hz
    omega
  generalize (n * 400 - 1) / 146097 = g at hguess
  obtain rfl | rfl | rfl : y = g + 2 ∨ y = g + 1 ∨ y = g := by omega
  · simp [hlow]
  · simp [hlow, hbehind]
  · simp [hlow, hbehind]

/-! ## Months -/

theorem daysBeforeMonth_succ (y : ℕ) {m : ℕ} (hm : 1 ≤ m) :
    daysBeforeMonth y (m + 1) = daysBeforeMonth y m + daysInMonth y m := by
  obtain ⟨k, rfl⟩ := Nat.exists_eq_add_of_le' hm
  rw [daysBeforeMonth, Nat.add_sub_cancel, List.range_succ, List.foldl_concat]
  rfl

theorem daysBeforeMonth_le (y : ℕ) {m k : ℕ} (hm : 1 ≤ m) (hmk : m ≤ k) :
    daysBeforeMonth y m ≤ daysBeforeMonth y k := by
  induction hmk with
  | refl => rfl
  | step hmk ih =>
    rw [daysBeforeMonth_succ y (hm.trans hmk)]
    omega

theorem daysBeforeMonth_thirteen (y : ℕ) : daysBeforeMonth y 13 = daysInYear y := by
  unfold daysInYear
  cases h : isLeap y <;> simp [daysBeforeMonth, daysInMonth, h, List.range, List.range.loop]

theorem monthAndDay_eq {y k day months m : ℕ} (hm : 1 ≤ m) (hmk : m ≤ k) (hk : k ≤ m + months)
    (hday : 1 ≤ day) (hlast : day ≤ daysInMonth y k) :
    monthAndDay y months m (daysBeforeMonth y k - daysBeforeMonth y m + day) = (k, day) := by
  induction months generalizing m with
  | zero =>
    obtain rfl : m = k := by omega
    simp [monthAndDay]
  | succ months ih =>
    rw [monthAndDay]
    rcases hmk.eq_or_lt with rfl | hlt
    · simp [hlast]
    · have hnext := daysBeforeMonth_succ y hm
      have hle : daysBeforeMonth y (m + 1) ≤ daysBeforeMonth y k :=
        daysBeforeMonth_le y (by omega) hlt
      have hrest := ih (m := m + 1) (by omega) hlt (by omega)
      rw [if_neg (by omega), ← hrest]
      congr 1
      omega

/-! ## Dates -/

theorem Date.fault?_eq_none {d : Date} (h : d.fault? = none) :
    (1 ≤ d.year ∧ d.year ≤ 9999) ∧ (1 ≤ d.month ∧ d.month ≤ 12) ∧
      1 ≤ d.day ∧ d.day ≤ daysInMonth d.year d.month := by
  unfold fault? at h
  split_ifs at h with hyear hmonth hday
  simp only [Bool.or_eq_true, decide_eq_true_eq] at hyear hmonth hday
  omega

theorem Date.number_bounds {d : Date} (h : d.fault? = none) :
    daysBeforeYear d.year < d.number ∧ d.number ≤ daysBeforeYear (d.year + 1) := by
  obtain ⟨⟨hyear, -⟩, ⟨hmonth, hmonth'⟩, hday, hday'⟩ := fault?_eq_none h
  have hle := daysBeforeMonth_le d.year (by omega) (show d.month + 1 ≤ 13 by omega)
  rw [daysBeforeMonth_thirteen, daysBeforeMonth_succ _ hmonth] at hle
  rw [daysBeforeYear_succ hyear, number]
  omega

theorem Date.number_le {d : Date} (h : d.fault? = none) : 1 ≤ d.number ∧ d.number ≤ 3652059 := by
  obtain ⟨hlow, hhigh⟩ := number_bounds h
  have hyear := (fault?_eq_none h).1.2
  have hlast : daysBeforeYear (d.year + 1) ≤ daysBeforeYear 10000 := daysBeforeYear_le (by omega)
  have : daysBeforeYear 10000 = 3652059 := rfl
  omega

theorem Date.ofNumber?_number {d : Date} (h : d.fault? = none) :
    ofNumber? d.number = some d := by
  obtain ⟨hlow, hhigh⟩ := number_bounds h
  obtain ⟨hfirst, hlast⟩ := number_le h
  obtain ⟨⟨hyear, -⟩, ⟨hmonth, hmonth'⟩, hday, hday'⟩ := fault?_eq_none h
  have hmonths : monthAndDay d.year 11 1
      (daysBeforeMonth d.year d.month - daysBeforeMonth d.year 1 + d.day) = (d.month, d.day) :=
    monthAndDay_eq le_rfl hmonth hmonth' hday hday'
  have hrest : d.number - daysBeforeYear d.year =
      daysBeforeMonth d.year d.month - daysBeforeMonth d.year 1 + d.day := by
    have : daysBeforeMonth d.year 1 = 0 := rfl
    rw [number]
    omega
  rw [ofNumber?, if_neg (by simp; omega)]
  simp only [Int.toNat_natCast, find?_year hyear hlow hhigh, Option.getD_some, hrest, hmonths]

end SheetFill.Calendar
