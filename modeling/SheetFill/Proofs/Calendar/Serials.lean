import SheetFill.Calendar.Serial
import SheetFill.Proofs.Binary64.Arithmetic
import SheetFill.Proofs.Calendar.Days
import SheetFill.Proofs.Decimal.Reading

/-!
# Serial numbers of dates and times

The serial number of a date is exact. That of a time of day is off by the rounding of three
operations, and that of a date with a time by the rounding of one more.
-/
namespace SheetFill.Calendar

open Binary64

/-! ## Dates -/

theorem Date.abs_serialDay_le {d : Date} (h : d.fault? = none) : |d.serialDay| ≤ 2958465 := by
  obtain ⟨hlow, hhigh⟩ := Date.number_le h
  have horigin : serialOrigin.number = 693594 := by decide
  unfold serialDay
  simp only [horigin]
  split_ifs <;> (rw [abs_le]; omega)

theorem Date.abs_serialDay_lt {d : Date} (h : d.fault? = none) : |d.serialDay| < 2 ^ 53 :=
  (abs_serialDay_le h).trans_lt (by norm_num)

theorem Date.is_serial {d : Date} (h : d.fault? = none) : d.serial.Is d.serialDay :=
  is_ofInt_of_lt (abs_serialDay_lt h)

/-! ## Times of day -/

def Time.fraction (t : Time) : ℚ := t.micros / 86400000000

theorem Time.is_serial {t : Time} (h : t.micros < 86400000000) :
    ∃ q, t.serial.Is q ∧ 0 ≤ q ∧ |q - t.fraction| ≤ 1 / 2 ^ 50 := by
  set seconds : ℕ := (t.hour * 60 + t.minute) * 60 + t.second with hseconds
  have hmicros : t.micros = seconds * 1000000 + t.micro := by
    rw [micros, hseconds]
    push_cast
    ring
  set rest : ℚ := t.micro * 10 ^ (-6 : ℤ) with hrest
  have hfraction : t.fraction = (seconds + rest) / 86400 := by
    rw [fraction, hmicros, hrest]
    norm_num
    ring
  have hrest₀ : 0 ≤ rest := by positivity
  have hlimit : seconds + rest < 86400 := by
    rw [fraction] at hfraction
    have : (t.micros : ℚ) < 86400000000 := by exact_mod_cast h
    linarith
  have hseconds₀ : (0 : ℚ) ≤ seconds := by positivity
  -- the seconds are exact; the microseconds are rounded, and so are the sum and the quotient
  have hwhole : (ofInt seconds).Is seconds := by
    have hlt : |(seconds : ℤ)| < 2 ^ 53 := by
      have : (seconds : ℚ) < 2 ^ 53 := by norm_num; linarith
      rw [abs_of_nonneg (by positivity)]
      exact_mod_cast this
    simpa using is_ofInt_of_lt hlt
  obtain ⟨places, hplaces, hplaces₁, hplaces₀⟩ := Decimal.exists_nearest (k := 17) (by norm_num)
    false (m := t.micro) (e := -6) (by rw [← hrest]; norm_num; linarith)
  change |places - rest| ≤ _ at hplaces₁
  norm_num [abs_le] at hplaces₁
  have hsum := add_nonneg hseconds₀ (hplaces₀ hrest₀)
  obtain ⟨sum, hsum', hsum₁, hsum₀⟩ := hwhole.exists_add (k := 17) (by norm_num) hplaces (by
    rw [abs_of_nonneg hsum]
    norm_num
    linarith)
  norm_num [abs_le] at hsum₁
  have hday := div_nonneg (hsum₀ hsum) (Nat.cast_nonneg 86400)
  obtain ⟨day, hday', hday₁, hday₀⟩ := hsum'.exists_divNat (k := 1) (by norm_num)
    (n := 86400) (by norm_num) (by
    rw [abs_of_nonneg hday]
    norm_num
    linarith)
  norm_num [abs_le] at hday₁
  refine ⟨day, hday', hday₀ hday, ?_⟩
  rw [hfraction, abs_le]
  norm_num
  constructor <;> linarith

theorem Time.fraction_bounds {t : Time} (h : t.micros < 86400000000) :
    0 ≤ t.fraction ∧ t.fraction < 1 := by
  constructor
  · rw [fraction, micros]
    positivity
  · rw [fraction, div_lt_one (by norm_num)]
    exact_mod_cast h

theorem DateTime.is_serial {t : DateTime} (hdate : t.date.fault? = none)
    (htime : t.time.micros < 86400000000) :
    ∃ q, t.serial.Is q ∧ t.date.serialDay ≤ q ∧
      |q - (t.date.serialDay + t.time.fraction)| ≤ 1 / 2 ^ 31 := by
  have hday := Date.abs_serialDay_le hdate
  obtain ⟨q, hq, hq₀, hclose⟩ := Time.is_serial htime
  have hday' := abs_le.mp ((by exact_mod_cast hday : |(t.date.serialDay : ℚ)| ≤ 2958465))
  obtain ⟨hfraction₀, hfraction⟩ := Time.fraction_bounds htime
  norm_num [abs_le] at hclose
  have hsum : |(t.date.serialDay : ℚ) + q| < 2 ^ (22 : ℤ) := by
    rw [abs_lt]
    norm_num
    constructor <;> linarith
  have hsum' := abs_rounded_sub_le hsum (by norm_num)
  norm_num [abs_le] at hsum'
  refine ⟨_, (Date.is_serial hdate).add hq (lt_of_lt_pow hsum (by norm_num)),
    intCast_le_rounded (hsum.trans_le (by norm_num)) (by linarith), ?_⟩
  rw [abs_le]
  norm_num
  constructor <;> linarith

end SheetFill.Calendar
