import SheetFill.Proofs.Calendar.Serials
import SheetFill.Proofs.Decimal.Stored

/-!
# Dates and times that are read back

A date is read back from its serial number as the same day at midnight. A date with a time and a
time of day come back within a millisecond, and exactly if they are whole milliseconds.
-/
namespace SheetFill.Calendar

open Binary64

/-! ## Serial numbers -/

def Serial.ofValue? : Value → Option Serial
  | .int n => some (ofInt n)
  | .real x => ofReal? x
  | _ => none

/-- The part of a day behind its number, in seconds and then in milliseconds. -/
theorem exists_millisOf {x : Binary64} {y : ℚ} {n : ℤ} (hx : x.Is y) (hn : |n| < 2 ^ 53)
    (hlow : n ≤ y) (hhigh : y < n + 1) :
    ∃ millis, ((x - Binary64.ofInt n) * Binary64.ofInt 86400 * Binary64.ofInt 1000).Is millis ∧
      0 ≤ millis ∧ |millis - (y - n) * 86400000| ≤ 1 / 2 ^ 20 := by
  have hsub := sub_nonneg.mpr hlow
  obtain ⟨part, hpart, hpart₁, hpart₀⟩ := hx.exists_sub (k := 0) (by norm_num)
    (is_ofInt_of_lt hn) (by
      rw [abs_of_nonneg hsub]
      norm_num
      linarith)
  norm_num [abs_le] at hpart₁
  have hproduct := mul_nonneg (hpart₀ hsub) (by norm_num : (0 : ℚ) ≤ (86400 : ℤ))
  obtain ⟨seconds, hseconds, hseconds₁, hseconds₀⟩ := hpart.exists_mul (k := 17) (by norm_num)
    (is_ofInt_of_lt (n := 86400) (by norm_num)) (by
      rw [abs_of_nonneg hproduct]
      norm_num
      linarith)
  norm_num [abs_le] at hseconds₁
  have hproduct' := mul_nonneg (hseconds₀ hproduct) (by norm_num : (0 : ℚ) ≤ (1000 : ℤ))
  obtain ⟨millis, hmillis, hmillis₁, hmillis₀⟩ := hseconds.exists_mul (k := 27) (by norm_num)
    (is_ofInt_of_lt (n := 1000) (by norm_num)) (by
      rw [abs_of_nonneg hproduct']
      norm_num
      linarith)
  norm_num [abs_le] at hmillis₁
  refine ⟨millis, hmillis, hmillis₀ hproduct', ?_⟩
  rw [abs_le]
  norm_num
  constructor <;> linarith

/-- The milliseconds of a time from those of a fraction of a day that is close to it. -/
theorem Serial.exists_millis {x : Binary64} {r f : ℚ} {n : ℤ} (hx : x.Is (rounded r))
    (hn : |n| ≤ 2958465) (hf : f * 86400000 ≤ 86399999) (hle : n ≤ r)
    (hclose : |r - (n + f)| ≤ 1 / 10 ^ 9) :
    ∃ millis : ℕ, ofReal? x = some ⟨n, millis⟩ ∧ |millis - f * 86400000| ≤ 5 / 8 := by
  have hn' := abs_le.mp ((by exact_mod_cast hn : |(n : ℚ)| ≤ 2958465))
  have hr := abs_le.mp hclose
  norm_num at hr
  have hrk : |r| < 2 ^ (22 : ℤ) := by
    rw [abs_lt]
    norm_num
    constructor <;> linarith
  have hy := abs_rounded_sub_le hrk (by norm_num)
  norm_num [abs_le] at hy
  have hlow : n ≤ rounded r := intCast_le_rounded (hrk.trans_le (by norm_num)) hle
  have hhigh : rounded r < n + 1 := by linarith
  obtain ⟨millis, ⟨m, hm, hmillis⟩, hmillis₀, hmillis₁⟩ :=
    exists_millisOf hx (hn.trans_lt (by norm_num)) hlow hhigh
  norm_num [abs_le] at hmillis₁
  obtain ⟨b, rfl, hb⟩ := hx
  have hfloor : b.floor = n := by
    rw [b.floor_eq, hb, Int.floor_eq_iff]
    exact ⟨hlow, hhigh⟩
  have hround := abs_le.mp (abs_roundEven_sub_le millis)
  have hround₀ : 0 ≤ roundEven millis := le_roundEven_of_le (by exact_mod_cast hmillis₀)
  refine ⟨(roundEven millis).toNat, ?_, ?_⟩
  · have hread : (Binary64.finite b - Binary64.ofInt n) * Binary64.ofInt secondsPerDay *
        Binary64.ofInt 1000 = .finite m := hm
    simp only [ofReal?, hfloor, hread, m.round_eq, hmillis]
  · have hcast : (((roundEven millis).toNat : ℕ) : ℚ) = (roundEven millis : ℤ) := by
      exact_mod_cast Int.toNat_of_nonneg hround₀
    rw [hcast, abs_le]
    norm_num at hround ⊢
    constructor <;> linarith

theorem Serial.exists_of_ofRat {r f : ℚ} {n : ℤ} (hn : |n| ≤ 2958465) (hf₀ : 0 ≤ f)
    (hf : f * 86400000 ≤ 86399999) (hle : n ≤ r) (hclose : |r - (n + f)| ≤ 1 / 10 ^ 9) :
    ∃ millis : ℕ, ofValue? (Value.ofRat r) = some ⟨n, millis⟩ ∧
      |millis - f * 86400000| ≤ 5 / 8 := by
  have hn' := abs_le.mp ((by exact_mod_cast hn : |(n : ℚ)| ≤ 2958465))
  have hr := abs_le.mp hclose
  norm_num at hr
  have hrk : |r| < 2 ^ (22 : ℤ) := by
    rw [abs_lt]
    norm_num
    constructor <;> linarith
  rcases Decimal.ofRat_cases (lt_of_lt_pow hrk (by norm_num)) with ⟨m, hm, hread⟩ | ⟨x, hx, hread⟩
  · obtain rfl : m = n := by
      rw [hm] at hle hr
      have hlt : (m : ℚ) < n + 1 := by linarith
      have h₁ : n ≤ m := by exact_mod_cast hle
      have h₂ : m < n + 1 := by exact_mod_cast hlt
      omega
    refine ⟨0, by rw [hread]; rfl, ?_⟩
    rw [abs_le]
    norm_num
    constructor <;> linarith
  · obtain ⟨millis, hserial, hmillis⟩ := exists_millis hx hn hf hle hclose
    exact ⟨millis, by rw [hread]; exact hserial, hmillis⟩

/-! ## Moments -/

theorem Serial.moment?_time {millis : ℕ} (h : millis < 86400000) :
    moment? ⟨0, millis⟩ = some (.time (timeOfMillis millis)) := by
  have hlt : millis < millisPerDay := h
  simp [moment?, hlt]

theorem Serial.moment?_date {d : Date} (hd : d.fault? = none) (hne : d.serialDay ≠ 0)
    {millis : ℕ} (h : millis < 86400000) :
    moment? ⟨d.serialDay, millis⟩ = some (.dateTime ⟨d, timeOfMillis millis⟩) := by
  have hlt : millis < millisPerDay := h
  have hnumber : (serialOrigin.number : ℤ) +
      (if 0 ≤ d.serialDay && d.serialDay < 60 then d.serialDay + 1 else d.serialDay) =
        d.number := by
    have horigin : serialOrigin.number = 693594 := by decide
    unfold Date.serialDay at hne ⊢
    simp only [horigin, Bool.and_eq_true, decide_eq_true_eq] at hne ⊢
    split_ifs at hne ⊢ <;> omega
  have hday : (millis : ℤ) / millisPerDay = 0 := by exact_mod_cast Nat.div_eq_of_lt hlt
  rw [moment?, if_neg (by simp [hne])]
  simp only [hnumber, hday, add_zero, Date.ofNumber?_number hd, Nat.mod_eq_of_lt hlt,
    Option.map_some]

/-- A time of day without an offset that is whole milliseconds. -/
structure Time.Whole (t : Time) : Prop where
  valid : t.fault? = none
  offset : t.offset = none
  micro : t.micro < 1000000 ∧ t.micro % 1000 = 0

/-- What a time of day is read back as: a time within a millisecond, and the same one if it is whole
milliseconds. -/
structure Time.Near (t u : Time) : Prop where
  close : |u.micros - t.micros| < 1000
  same : t.Whole → u = t

theorem Time.near_timeOfMillis {t : Time} {millis : ℕ}
    (h : |millis - t.fraction * 86400000| ≤ 5 / 8) : t.Near (timeOfMillis millis) := by
  have hmicros : (timeOfMillis millis).micros = millis * 1000 := by
    simp only [timeOfMillis, micros]
    push_cast
    omega
  have hclose : |(millis : ℤ) * 1000 - t.micros| ≤ 625 := by
    have hscaled : (((millis : ℤ) * 1000 - t.micros : ℤ) : ℚ) =
        1000 * (millis - t.fraction * 86400000) := by
      rw [fraction]
      push_cast
      ring
    have hcast : |(((millis : ℤ) * 1000 - t.micros : ℤ) : ℚ)| ≤ 625 := by
      rw [hscaled, abs_mul, abs_of_pos (by norm_num)]
      linarith
    exact_mod_cast hcast
  refine ⟨by rw [hmicros]; exact hclose.trans_lt (by norm_num), fun hwhole => ?_⟩
  obtain ⟨hvalid, hoffset, hmicro, hmod⟩ := hwhole
  have hmillis : (millis : ℤ) * 1000 = t.micros := by
    rw [abs_le] at hclose
    unfold micros at hclose ⊢
    omega
  unfold fault? at hvalid
  unfold micros at hmillis
  split_ifs at hvalid
  obtain ⟨hour, minute, second, micro, offset⟩ := t
  simp only at *
  rw [timeOfMillis, Time.mk.injEq]
  refine ⟨?_, ?_, ?_, ?_, hoffset.symm⟩ <;> omega

theorem Time.fraction_le {t : Time} (h : t.micros ≤ 86399999000) :
    t.fraction * 86400000 ≤ 86399999 := by
  have h' : (t.micros : ℚ) ≤ 86399999000 := by exact_mod_cast h
  rw [fraction]
  linarith

/-! ## Reading -/

def Moment.value : Moment → Value
  | .time t => .time t
  | .dateTime t => .dateTime t

section Reading

variable {format : String} (hformat : NumberFormat.showsDuration format = false)
include hformat

theorem readDate_of_moment {v : Value} {s : Serial} {m : Moment}
    (hs : Serial.ofValue? v = some s) (hm : s.moment? = some m) :
    SavedValue.readDate format v = (m.value, .date) := by
  unfold Serial.ofValue? at hs
  split at hs
  · cases hs
    cases m <;> simp [SavedValue.readDate, hformat, hm, Moment.value]
  · cases m <;> simp [SavedValue.readDate, hformat, hs, hm, Moment.value]
  · cases hs

theorem Date.readDate_serialDay {d : Date} (hd : d.fault? = none) (hne : d.serialDay ≠ 0) :
    SavedValue.readDate format (.int d.serialDay) = (.dateTime ⟨d, .midnight⟩, .date) :=
  readDate_of_moment hformat (s := ⟨d.serialDay, 0⟩) rfl
    (Serial.moment?_date hd hne (by norm_num))

/-- The serial number of a moment and its sixteen digits are close to the exact one. -/
theorem exists_readDate {q f : ℚ} {n : ℤ} (hn : |n| ≤ 2958465) (hf₀ : 0 ≤ f)
    (hf : f * 86400000 ≤ 86399999) (hle : n ≤ q) (hclose : |q - (n + f)| ≤ 1 / 2 ^ 31) :
    ∃ millis : ℕ, millis < 86400000 ∧ |millis - f * 86400000| ≤ 5 / 8 ∧
      ∀ m, Serial.moment? ⟨n, millis⟩ = some m →
        SavedValue.readDate format (Value.ofRat (significant 16 q)) = (m.value, .date) := by
  have hn' := abs_le.mp ((by exact_mod_cast hn : |(n : ℚ)| ≤ 2958465))
  norm_num [abs_le] at hclose
  have hq : |q| < 10 ^ (7 : ℤ) := by
    rw [abs_lt]
    norm_num
    constructor <;> linarith
  have hdigits := abs_significant_sub_le 16 hq
  norm_num [abs_le] at hdigits
  have hle' : n ≤ significant 16 q :=
    intCast_le_significant (hq.trans_le (by norm_num)) hle
  obtain ⟨millis, hserial, hmillis⟩ := Serial.exists_of_ofRat hn hf₀ hf hle' (by
    rw [abs_le]
    norm_num
    constructor <;> linarith)
  have hlt : (millis : ℚ) < 86400000 := by
    have := (abs_le.mp hmillis).2
    linarith
  exact ⟨millis, by exact_mod_cast hlt, hmillis, fun m => readDate_of_moment hformat hserial⟩

theorem DateTime.exists_readDate {t : DateTime} (hd : t.date.fault? = none)
    (hne : t.date.serialDay ≠ 0) (htime : t.time.micros ≤ 86399999000) :
    ∃ q u, t.serial.Is q ∧ t.time.Near u ∧
      SavedValue.readDate format (Value.ofRat (significant 16 q)) =
        (.dateTime ⟨t.date, u⟩, .date) := by
  have hday : t.time.micros < 86400000000 := by omega
  obtain ⟨q, hq, hle, hclose⟩ := DateTime.is_serial hd hday
  obtain ⟨millis, hlt, hmillis, hread⟩ := Calendar.exists_readDate hformat
    (Date.abs_serialDay_le hd) (Time.fraction_bounds hday).1 (Time.fraction_le htime) hle hclose
  exact ⟨q, timeOfMillis millis, hq, Time.near_timeOfMillis hmillis,
    hread _ (Serial.moment?_date hd hne hlt)⟩

theorem Time.exists_readDate {t : Time} (htime : t.micros ≤ 86399999000) :
    ∃ q u, t.serial.Is q ∧ t.Near u ∧
      SavedValue.readDate format (Value.ofRat (significant 16 q)) = (.time u, .date) := by
  have hday : t.micros < 86400000000 := by omega
  obtain ⟨q, hq, hle, hclose⟩ := Time.is_serial hday
  obtain ⟨millis, hlt, hmillis, hread⟩ := Calendar.exists_readDate hformat (n := 0) (by norm_num)
    (fraction_bounds hday).1 (fraction_le htime) (by exact_mod_cast hle) (by
      rw [Int.cast_zero, zero_add]
      exact hclose.trans (by norm_num))
  exact ⟨q, timeOfMillis millis, hq, near_timeOfMillis hmillis,
    hread _ (Serial.moment?_time hlt)⟩

end Reading

end SheetFill.Calendar
