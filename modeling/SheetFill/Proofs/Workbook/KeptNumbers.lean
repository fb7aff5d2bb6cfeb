import SheetFill.Proofs.Calendar.Durations
import SheetFill.Proofs.Workbook.Legibility

/-!
# What is left of a value

A number that is saved comes back as its sixteen digits, and in a cell whose format shows a date as
the date or the time that they stand for. Whole numbers below `2 ^ 53` and dates are not changed by
that, other numbers by one part in `10 ^ 15` at most and times by less than a millisecond.
-/
namespace SheetFill

/-! ## Numbers -/

/-- What is left of a number in a cell with a number format: its sixteen digits, or what they stand
for if the format shows a date. What is no finite number is not kept. -/
def NumberFormat.kept (format : String) : Binary64 → Value
  | .finite b =>
    let number := Value.ofRat (significant 16 b.toRat)
    if showsDate format then (SavedValue.readDate format number).1 else number
  | _ => .null

theorem SavedValue.read_ofReal (format : String) (x : Binary64) :
    ((ofReal x).read format).1 = NumberFormat.kept format x := by
  cases x with
  | finite b =>
    simp only [ofReal, read, NumberFormat.kept, Decimal.readNumber_storedChars]
    split_ifs <;> rfl
  | infinite negative => rfl
  | undefined => rfl

/-- What is left of the value of a cell when it is saved and read: numbers and dates are what the
stored number stands for in the number format of the cell, line ends are made one kind, and an empty
text is nothing. -/
def Cell.kept (c : Cell) : Value :=
  match c.value with
  | .bool b => .bool b
  | .text s => if s.isEmpty then .null else .text s.unified
  | v =>
    match v.stored? with
    | some x => NumberFormat.kept c.style.numberFormat x
    | none => .null

theorem Cell.kept_of_null {c : Cell} (h : c.value = .null) : c.kept = .null := by
  rw [kept, h]
  rfl

theorem Cell.kept_of_stored {c : Cell} {x : Binary64} (h : c.value.stored? = some x) :
    c.kept = NumberFormat.kept c.style.numberFormat x := by
  cases hv : c.value with
  | bool b => simp [hv, Value.stored?] at h
  | text s => simp [hv, Value.stored?] at h
  | _ =>
    rw [hv] at h
    simp only [kept, hv, h]

/-! ## Values that survive -/

def Value.number? : Value → Option ℚ
  | .int n => some n
  | .real (.finite b) => some b.toRat
  | _ => none

/-- What is certain about the value of a cell with a number format and what is left of it. Where the
format shows no date, a date or a time is left as its number of days. The first two days of the
count are read as times of day, and in the last millisecond of a day the next day may be read. -/
structure Value.Survives (format : String) (v kept : Value) : Prop where
  whole : ∀ n : ℤ, v = .int n → NumberFormat.showsDate format = false →
    |n| < 2 ^ 53 → kept = .int n
  real : ∀ b : Binary64.Finite, v = .real (.finite b) → NumberFormat.showsDate format = false →
    b.toRat = 0 ∨ 10 ^ (-300 : ℤ) ≤ |b.toRat| ∧ |b.toRat| ≤ 10 ^ (300 : ℤ) →
    ∃ q, kept.number? = some q ∧ |q - b.toRat| ≤ |b.toRat| / 10 ^ 15
  date : ∀ d, v = .date d → NumberFormat.showsDate format = true →
    NumberFormat.showsDuration format = false → d.fault? = none → d.serialDay ≠ 0 →
    kept = .dateTime ⟨d, .midnight⟩
  dateNumber : ∀ d, v = .date d → NumberFormat.showsDate format = false → d.fault? = none →
    kept = .int d.serialDay
  dateTime : ∀ t, v = .dateTime t → NumberFormat.showsDate format = true →
    NumberFormat.showsDuration format = false → t.date.fault? = none → t.date.serialDay ≠ 0 →
    t.time.micros ≤ 86399999000 → ∃ u, kept = .dateTime ⟨t.date, u⟩ ∧ t.time.Near u
  dateTimeNumber : ∀ t, v = .dateTime t → NumberFormat.showsDate format = false →
    t.date.fault? = none → t.time.micros < 86400000000 →
    ∃ q, kept.number? = some q ∧ |q - (t.date.serialDay + t.time.fraction)| ≤ 2 / 10 ^ 9
  time : ∀ t, v = .time t → NumberFormat.showsDate format = true →
    NumberFormat.showsDuration format = false → t.micros ≤ 86399999000 →
    ∃ u, kept = .time u ∧ t.Near u
  timeNumber : ∀ t, v = .time t → NumberFormat.showsDate format = false →
    t.micros < 86400000000 → ∃ q, kept.number? = some q ∧ |q - t.fraction| ≤ 2 / 10 ^ 9
  duration : ∀ d, v = .duration d → NumberFormat.showsDate format = true →
    NumberFormat.showsDuration format = true → d.Short → ∃ e, kept = .duration e ∧ d.Near e
  durationNumber : ∀ d, v = .duration d → NumberFormat.showsDate format = false → d.Short →
    ∃ q, kept.number? = some q ∧ |q - d.days| ≤ 2 / 10 ^ 9

section Survives

variable {format : String}

theorem NumberFormat.kept_of_is {x : Binary64} {q : ℚ} (hx : x.Is q) :
    kept format x = if showsDate format then
      (SavedValue.readDate format (Value.ofRat (significant 16 q))).1
      else Value.ofRat (significant 16 q) := by
  obtain ⟨b, rfl, rfl⟩ := hx
  rfl

theorem NumberFormat.kept_of_int {x : Binary64} {n : ℤ} (hx : x.Is n) (hn : |n| < 2 ^ 53) :
    kept format x = if showsDate format then (SavedValue.readDate format (.int n)).1
      else .int n := by
  have hlt : |n| < 10 ^ 16 := hn.trans (by norm_num)
  have hdigits : significant 16 (n : ℚ) = n :=
    significant_eq_self (n := n) (k := 0) hlt (by simp)
  have hread : Value.ofRat (n : ℚ) = .int n := by
    rw [Value.ofRat, if_pos ⟨Rat.den_intCast _, by exact_mod_cast hlt⟩, Rat.num_intCast]
  rw [kept_of_is hx, hdigits, hread]

theorem number?_ofRat {r : ℚ} (hr : |r| < 2 ^ (1023 : ℤ)) :
    (Value.ofRat r).number? = some r ∨ (Value.ofRat r).number? = some (Binary64.rounded r) := by
  rcases Decimal.ofRat_cases hr with ⟨n, hn, hread⟩ | ⟨x, ⟨b, rfl, hb⟩, hread⟩
  · exact .inl (by rw [hread, Value.number?, hn])
  · exact .inr (by rw [hread, Value.number?, hb])

theorem ten_zpow_le (k : ℕ) : (10 : ℚ) ^ (3 * k : ℤ) ≤ 2 ^ (10 * k : ℤ) := by
  calc (10 : ℚ) ^ (3 * k : ℤ) = (10 ^ 3) ^ k := by rw [zpow_mul, zpow_natCast]; norm_num
    _ ≤ (2 ^ 10) ^ k := by
      gcongr
      norm_num
    _ = 2 ^ (10 * k : ℤ) := by rw [zpow_mul, zpow_natCast]; norm_num

theorem exists_number?_ofRat {q : ℚ} (hlow : 10 ^ (-300 : ℤ) ≤ |q|)
    (hhigh : |q| ≤ 10 ^ (300 : ℤ)) :
    ∃ p, (Value.ofRat (significant 16 q)).number? = some p ∧ |p - q| ≤ |q| / 10 ^ 15 := by
  have hpos : 0 < |q| := lt_of_lt_of_le (by positivity) hlow
  set r := significant 16 q with hr
  have hdigits := abs_significant_sub_le_mul 16 q
  rw [← hr] at hdigits
  norm_num at hdigits
  have habs : |q| / 2 ≤ |r| ∧ |r| ≤ 2 * |q| := by
    have h₁ := abs_sub_abs_le_abs_sub q r
    have h₂ := abs_sub_abs_le_abs_sub r q
    rw [abs_sub_comm] at h₁
    constructor <;> linarith
  have hrk : |r| < 2 ^ (1023 : ℤ) := by
    calc |r| ≤ 2 * |q| := habs.2
      _ ≤ 2 * 10 ^ (3 * (100 : ℕ) : ℤ) := by gcongr; exact hhigh
      _ ≤ 2 * 2 ^ (10 * (100 : ℕ) : ℤ) := by gcongr; exact ten_zpow_le 100
      _ = 2 ^ (10 * (100 : ℕ) + 1 : ℤ) := by rw [zpow_add_one₀ two_ne_zero, mul_comm]
      _ < 2 ^ (1023 : ℤ) := zpow_lt_zpow_right₀ one_lt_two (by norm_num)
  have hrlow : 2 ^ (-1022 : ℤ) ≤ |r| := by
    calc (2 : ℚ) ^ (-1022 : ℤ) ≤ 2 ^ (-(10 * (100 : ℕ)) - 1 : ℤ) :=
          zpow_le_zpow_right₀ one_le_two (by norm_num)
      _ = (2 ^ (10 * (100 : ℕ) : ℤ))⁻¹ / 2 := by rw [zpow_sub_one₀ two_ne_zero, zpow_neg]; rfl
      _ ≤ (10 ^ (3 * (100 : ℕ) : ℤ))⁻¹ / 2 := by
        gcongr
        exact ten_zpow_le 100
      _ = 10 ^ (-300 : ℤ) / 2 := by rw [← zpow_neg]; rfl
      _ ≤ |q| / 2 := by gcongr
      _ ≤ |r| := habs.1
  rcases number?_ofRat hrk with hread | hread
  · refine ⟨r, hread, ?_⟩
    norm_num
    linarith
  · refine ⟨Binary64.rounded r, hread, ?_⟩
    have hround := Binary64.abs_rounded_sub_le_mul hrlow
    have hsum := abs_sub_le (Binary64.rounded r) r q
    norm_num at hround ⊢
    linarith

/-- A number of days within the calendar comes back to nine places. -/
theorem exists_number?_days {x : Binary64} {q exact : ℚ} (hx : x.Is q)
    (hformat : NumberFormat.showsDate format = false) (hexact : |exact| ≤ 2958466)
    (hclose : |q - exact| ≤ 1 / 2 ^ 31) :
    ∃ p, (NumberFormat.kept format x).number? = some p ∧ |p - exact| ≤ 2 / 10 ^ 9 := by
  rw [NumberFormat.kept_of_is hx, hformat, if_neg (by simp)]
  have hq : |q| < 10 ^ (7 : ℤ) := by
    rw [abs_le] at hexact hclose
    rw [abs_lt]
    norm_num at hclose ⊢
    constructor <;> linarith
  have hdigits := abs_significant_sub_le 16 hq
  have hr : |significant 16 q| < 2 ^ (22 : ℤ) := by
    rw [abs_le] at hexact hclose hdigits
    rw [abs_lt]
    norm_num at hclose hdigits ⊢
    constructor <;> linarith
  have hround := Binary64.abs_rounded_sub_le hr (by norm_num)
  rw [abs_le] at hclose hdigits hround
  norm_num at hclose hdigits hround
  rcases number?_ofRat (Binary64.lt_of_lt_pow hr (by norm_num)) with hread | hread
  · refine ⟨_, hread, ?_⟩
    rw [abs_le]
    norm_num
    constructor <;> linarith
  · refine ⟨_, hread, ?_⟩
    rw [abs_le]
    norm_num
    constructor <;> linarith

/-- Whatever is in a cell, what is certain about it holds of what is left of it. -/
theorem Cell.survives (c : Cell) : c.value.Survives c.style.numberFormat c.kept where
  whole n hv hformat hn := by
    rw [kept_of_stored (x := .ofInt n) (by rw [hv]; rfl),
      NumberFormat.kept_of_int (Binary64.is_ofInt_of_lt hn) hn, hformat]
    rfl
  real b hv hformat hsize := by
    rw [kept_of_stored (x := .finite b) (by rw [hv]; rfl), NumberFormat.kept_of_is ⟨b, rfl, rfl⟩,
      hformat, if_neg (by simp)]
    rcases hsize with hzero | ⟨hlow, hhigh⟩
    · refine ⟨0, ?_, by simp [hzero]⟩
      rw [hzero, significant_zero]
      rfl
    · exact exists_number?_ofRat hlow hhigh
  date d hv hdate hduration hd hne := by
    have hday := Calendar.Date.abs_serialDay_lt hd
    rw [kept_of_stored (x := d.serial) (by rw [hv]; rfl),
      NumberFormat.kept_of_int (Calendar.Date.is_serial hd) hday, hdate, if_pos rfl,
      Calendar.Date.readDate_serialDay hduration hd hne]
  dateNumber d hv hformat hd := by
    have hday := Calendar.Date.abs_serialDay_lt hd
    rw [kept_of_stored (x := d.serial) (by rw [hv]; rfl),
      NumberFormat.kept_of_int (Calendar.Date.is_serial hd) hday, hformat]
    rfl
  dateTime t hv hdate hduration hd hne htime := by
    obtain ⟨q, u, hq, hnear, hread⟩ :=
      Calendar.DateTime.exists_readDate hduration hd hne htime
    refine ⟨u, ?_, hnear⟩
    rw [kept_of_stored (x := t.serial) (by rw [hv]; rfl), NumberFormat.kept_of_is hq, hdate,
      if_pos rfl, hread]
  dateTimeNumber t hv hformat hd htime := by
    obtain ⟨q, hq, -, hclose⟩ := Calendar.DateTime.is_serial hd htime
    rw [kept_of_stored (x := t.serial) (by rw [hv]; rfl)]
    refine exists_number?_days hq hformat ?_ hclose
    have hday : |(t.date.serialDay : ℚ)| ≤ 2958465 := by
      exact_mod_cast Calendar.Date.abs_serialDay_le hd
    obtain ⟨hlow, hhigh⟩ := Calendar.Time.fraction_bounds htime
    rw [abs_le] at hday ⊢
    constructor <;> linarith
  time t hv hdate hduration htime := by
    obtain ⟨q, u, hq, hnear, hread⟩ := Calendar.Time.exists_readDate hduration htime
    refine ⟨u, ?_, hnear⟩
    rw [kept_of_stored (x := t.serial) (by rw [hv]; rfl), NumberFormat.kept_of_is hq, hdate,
      if_pos rfl, hread]
  timeNumber t hv hformat htime := by
    obtain ⟨q, hq, -, hclose⟩ := Calendar.Time.is_serial htime
    rw [kept_of_stored (x := t.serial) (by rw [hv]; rfl)]
    refine exists_number?_days hq hformat ?_ (hclose.trans (by norm_num))
    obtain ⟨hlow, hhigh⟩ := Calendar.Time.fraction_bounds htime
    rw [abs_of_nonneg hlow]
    linarith
  durationNumber d hv hformat hshort := by
    obtain ⟨q, hq, hclose⟩ := Calendar.Duration.is_serial hshort
    rw [kept_of_stored (x := d.serial) (by rw [hv]; rfl)]
    refine exists_number?_days hq hformat ?_ (hclose.trans (by norm_num))
    have hdays : |(d.micros : ℚ)| ≤ 90000 * 86400000000 := by exact_mod_cast hshort
    rw [Calendar.Duration.days, abs_div, div_le_iff₀ (by norm_num)]
    exact hdays.trans (by norm_num)
  duration d hv hdate hduration hshort := by
    obtain ⟨q, e, hq, hnear, hread⟩ := Calendar.Duration.exists_readDate hduration hshort
    refine ⟨e, ?_, hnear⟩
    rw [kept_of_stored (x := d.serial) (by rw [hv]; rfl), NumberFormat.kept_of_is hq, hdate,
      if_pos rfl, hread]

end Survives

end SheetFill
