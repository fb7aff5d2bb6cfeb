import SheetFill.Proofs.Calendar.Moments

/-!
# Durations that are read back

A duration of up to ninety thousand days is read back from its serial number within a millisecond,
and exactly if it is whole milliseconds. Longer ones lose more than that.
-/
namespace SheetFill.Calendar

open Binary64

namespace Duration

def days (d : Duration) : ℚ := d.micros / 86400000000

/-- A duration that its serial number tells to the millisecond. -/
def Short (d : Duration) : Prop := |d.micros| ≤ 90000 * 86400000000

theorem exists_seconds {d : Duration} (h : |d.micros| ≤ 90000 * 86400000000 + 3) :
    ∃ q, d.seconds.Is q ∧ |q - d.micros / 1000000| ≤ 1 / 2 ^ 21 := by
  have hvalue : withSign (decide (d.micros < 0)) (d.micros.natAbs * 10 ^ (-6 : ℤ)) =
      d.micros / 1000000 := by
    have habs : ((d.micros.natAbs : ℕ) : ℚ) = |(d.micros : ℚ)| := by
      rw [Nat.cast_natAbs, Int.cast_abs]
    rw [habs, withSign]
    split_ifs with hneg
    · rw [abs_of_neg (by exact_mod_cast of_decide_eq_true hneg)]
      norm_num
      ring
    · rw [abs_of_nonneg (by exact_mod_cast not_lt.mp fun hlt => hneg (decide_eq_true hlt))]
      norm_num
      ring
  rw [abs_le] at h
  have hlt : (d.micros.natAbs : ℚ) * 10 ^ (-6 : ℤ) < 2 ^ (33 : ℤ) := by
    have hle : (d.micros.natAbs : ℚ) ≤ 90000 * 86400000000 + 3 := by
      exact_mod_cast (by omega : d.micros.natAbs ≤ 90000 * 86400000000 + 3)
    norm_num at hle ⊢
    linarith
  obtain ⟨q, hq, hclose, -⟩ := Decimal.exists_nearest (k := 33) (by norm_num)
    (decide (d.micros < 0)) hlt
  rw [hvalue] at hclose
  exact ⟨q, hq, hclose.trans (by norm_num)⟩

theorem is_serial {d : Duration} (h : d.Short) :
    ∃ q, d.serial.Is q ∧ |q - d.days| ≤ 1 / 2 ^ 36 := by
  obtain ⟨seconds, hseconds, hclose⟩ := exists_seconds (h.trans (by norm_num))
  have hdays : d.days = d.micros / 1000000 / 86400 := by
    rw [days]
    ring
  have hbound := abs_le.mp ((by exact_mod_cast h : |(d.micros : ℚ)| ≤ 90000 * 86400000000))
  norm_num [abs_le] at hclose
  obtain ⟨q, hq, hq₁, -⟩ := hseconds.exists_divNat (k := 17) (by norm_num) (n := 86400)
    (by norm_num) (by
      rw [abs_lt]
      norm_num
      constructor <;> linarith)
  norm_num [abs_le] at hq₁
  refine ⟨q, hq, ?_⟩
  rw [hdays, abs_le]
  norm_num
  constructor <;> linarith

def ofValue? : Value → Option Duration
  | .int n => some ⟨n * (secondsPerDay * 1000000 : Nat)⟩
  | .real x => ofDays? x
  | _ => none

theorem exists_microsOf {x : Binary64} {y : ℚ} {n : ℤ} (hx : x.Is y) (hn : |n| < 2 ^ 53)
    (hy : |y - n| < 1) :
    ∃ micros, ((x - Binary64.ofInt n) * Binary64.ofInt 86400000000).Is micros ∧
      |micros - (y - n) * 86400000000| ≤ 1 / 2 ^ 15 := by
  obtain ⟨part, hpart, hpart₁, -⟩ := hx.exists_sub (k := 0) (by norm_num) (is_ofInt_of_lt hn)
    (hy.trans_le (by norm_num))
  norm_num [abs_le] at hpart₁
  have hproduct : |part * (86400000000 : ℤ)| < 2 ^ (37 : ℤ) := by
    rw [abs_lt] at hy ⊢
    norm_num
    constructor <;> linarith
  obtain ⟨micros, hmicros, hmicros₁, -⟩ := hpart.exists_mul (by norm_num)
    (is_ofInt_of_lt (n := 86400000000) (by norm_num)) hproduct
  norm_num [abs_le] at hmicros₁
  refine ⟨micros, hmicros, ?_⟩
  rw [abs_le]
  norm_num
  constructor <;> linarith

/-- A number of days is taken for a duration to the microsecond. -/
theorem exists_ofDays? {x : Binary64} {y : ℚ} (hx : x.Is y) (hy : |y| < 2 ^ (17 : ℤ)) :
    ∃ e : Duration, ofDays? x = some e ∧ |e.micros - y * 86400000000| ≤ 5 / 8 := by
  obtain ⟨b, rfl, rfl⟩ := hx
  have htruncate := b.abs_sub_truncate_lt
  have hsmall : |b.truncate| < 2 ^ 53 := by
    have hlt : |(b.truncate : ℚ)| < 2 ^ 53 := by
      rw [abs_lt] at hy htruncate ⊢
      norm_num at hy ⊢
      constructor <;> linarith
    exact_mod_cast hlt
  obtain ⟨micros, ⟨m, hm, hmicros⟩, hmicros₁⟩ := exists_microsOf ⟨b, rfl, rfl⟩ hsmall htruncate
  norm_num [abs_le] at hmicros₁
  have hround := abs_roundEven_sub_le micros
  norm_num [abs_le] at hround
  refine ⟨⟨b.truncate * (secondsPerDay * 1000000 : ℕ) + roundEven micros⟩, ?_, ?_⟩
  · have hofDays : (Binary64.finite b - Binary64.ofInt b.truncate) *
        Binary64.ofInt (secondsPerDay * 1000000 : ℕ) = .finite m := hm
    simp only [ofDays?, hofDays, m.round_eq, hmicros]
  · rw [abs_le]
    norm_num [secondsPerDay]
    constructor <;> linarith

theorem exists_of_ofRat {d : Duration} {r : ℚ} (h : d.Short) (hclose : |r - d.days| ≤ 1 / 2 ^ 35) :
    ∃ e : Duration, ofValue? (Value.ofRat r) = some e ∧ |e.micros - d.micros| ≤ 3 := by
  have hdays : d.days * 86400000000 = d.micros := by
    rw [days]
    ring
  have hbound := abs_le.mp ((by exact_mod_cast h : |(d.micros : ℚ)| ≤ 90000 * 86400000000))
  norm_num [abs_le] at hclose
  have hrk : |r| < 2 ^ (17 : ℤ) := by
    rw [abs_lt]
    norm_num
    constructor <;> linarith
  -- it is enough that the microseconds differ by less than four
  have hwhole {m : ℤ} (hm : |(m : ℚ) - d.micros| < 4) : |m - d.micros| ≤ 3 := by
    have : |m - d.micros| < 4 := by exact_mod_cast hm
    omega
  rcases Decimal.ofRat_cases (lt_of_lt_pow hrk (by norm_num)) with ⟨n, hn, hread⟩ | ⟨x, hx, hread⟩
  · refine ⟨⟨n * (secondsPerDay * 1000000 : ℕ)⟩, by rw [hread]; rfl, hwhole ?_⟩
    rw [hn] at hclose
    rw [abs_lt]
    norm_num [secondsPerDay]
    constructor <;> linarith
  · have hy := abs_rounded_sub_le hrk (by norm_num)
    norm_num [abs_le] at hy
    obtain ⟨e, he, hmicros⟩ := exists_ofDays? hx (by
      rw [abs_lt]
      norm_num
      constructor <;> linarith)
    rw [abs_le] at hmicros
    refine ⟨e, by rw [hread]; exact he, hwhole ?_⟩
    rw [abs_lt]
    constructor <;> linarith

theorem quotientToEven_thousand (n : ℕ) :
    |((Decimal.quotientToEven n 1000 * 1000 : ℕ) : ℤ) - n| ≤ 500 := by
  unfold Decimal.quotientToEven
  rw [abs_le]
  simp only
  split_ifs with h
  · simp only [Bool.or_eq_true, decide_eq_true_eq, Bool.and_eq_true, beq_iff_eq] at h
    omega
  · simp only [Bool.or_eq_true, decide_eq_true_eq, Bool.and_eq_true, beq_iff_eq] at h
    omega

theorem toMillis_near {d : Duration} (h : |d.micros| ≤ 90000 * 86400000000 + 3) :
    d.toMillis.micros % 1000 = 0 ∧ |d.toMillis.micros - d.micros| ≤ 500 := by
  obtain ⟨q, ⟨b, hb, hq⟩, hclose⟩ := exists_seconds h
  by_cases hmicro : (d.micros % 1000000).toNat = 0
  · have hsame : d.toMillis = d := by simp [toMillis, hmicro]
    rw [hsame]
    constructor
    · omega
    · simp
  · -- the rest of a second is a microsecond away from the whole seconds on either side
    have hfloor : b.floor = d.micros / 1000000 := by
      have hrest : 1 ≤ d.micros % 1000000 ∧ d.micros % 1000000 ≤ 999999 := by omega
      have hsplit : (d.micros : ℚ) =
          (d.micros / 1000000 : ℤ) * 1000000 + (d.micros % 1000000 : ℤ) := by
        exact_mod_cast (Int.ediv_mul_add_emod d.micros 1000000).symm
      have hrest₁ : (1 : ℚ) ≤ (d.micros % 1000000 : ℤ) := by exact_mod_cast hrest.1
      have hrest₂ : ((d.micros % 1000000 : ℤ) : ℚ) ≤ 999999 := by exact_mod_cast hrest.2
      rw [b.floor_eq, hq, Int.floor_eq_iff]
      rw [hsplit] at hclose
      norm_num [abs_le] at hclose
      constructor <;> linarith
    have hquotient := quotientToEven_thousand (d.micros % 1000000).toNat
    have hvalue : d.toMillis.micros = d.micros / 1000000 * 1000000 +
        (Decimal.quotientToEven (d.micros % 1000000).toNat 1000 * 1000 : ℕ) := by
      simp [toMillis, hmicro, hb, hfloor]
    rw [hvalue]
    rw [abs_le] at hquotient ⊢
    omega

theorem fault?_of_lt {d : Duration} (h : |d.micros| ≤ 90001 * 86400000000) : d.fault? = false := by
  rw [abs_le] at h
  have hdays : d.parts.1 = d.micros / 86400000000 :=
    Int.fdiv_eq_ediv_of_nonneg _ (by norm_num)
  rw [fault?, decide_eq_false_iff_not, hdays, maxDurationDays]
  omega

theorem readDate_of_duration {format : String}
    (hformat : NumberFormat.showsDuration format = true) {v : Value} {e : Duration}
    (hv : ofValue? v = some e) (he : e.fault? = false) (hmillis : e.toMillis.fault? = false) :
    SavedValue.readDate format v = (.duration e.toMillis, .date) := by
  unfold ofValue? at hv
  split at hv
  · cases hv
    simp only [SavedValue.readDate, hformat, if_true, ofSerial?, Option.bind_eq_bind,
      Option.bind_some, he, hmillis, Bool.or_self, Bool.false_eq_true, if_false]
  · simp [SavedValue.readDate, hformat, ofSerial?, hv, he, hmillis]
  · cases hv

/-- What a duration is read back as: a duration within a millisecond, and the same one if it is
whole milliseconds. -/
structure Near (d e : Duration) : Prop where
  close : |e.micros - d.micros| < 1000
  same : d.micros % 1000 = 0 → e = d

theorem exists_readDate {format : String} (hformat : NumberFormat.showsDuration format = true)
    {d : Duration} (h : d.Short) :
    ∃ q e, d.serial.Is q ∧ d.Near e ∧
      SavedValue.readDate format (Value.ofRat (significant 16 q)) = (.duration e, .date) := by
  obtain ⟨q, hq, hclose⟩ := is_serial h
  have hbound := abs_le.mp ((by exact_mod_cast h : |(d.micros : ℚ)| ≤ 90000 * 86400000000))
  have hdays : d.days * 86400000000 = d.micros := by
    rw [days]
    ring
  norm_num [abs_le] at hclose
  have hdigits := abs_significant_sub_le (q := q) 16 (k := 5) (by
    rw [abs_lt]
    norm_num
    constructor <;> linarith)
  norm_num [abs_le] at hdigits
  obtain ⟨e, hread, he⟩ := exists_of_ofRat (r := significant 16 q) h (by
    rw [abs_le]
    norm_num
    constructor <;> linarith)
  have hlimit : |e.micros| ≤ 90000 * 86400000000 + 3 := by
    rw [Short, abs_le] at h
    rw [abs_le] at he ⊢
    omega
  obtain ⟨hwhole, hmillis⟩ := toMillis_near hlimit
  refine ⟨q, e.toMillis, hq, ⟨?_, fun hd => ?_⟩, ?_⟩
  · rw [abs_le] at he hmillis
    rw [abs_lt]
    omega
  · rw [abs_le] at he hmillis
    have hmicros : e.toMillis.micros = d.micros := by omega
    exact congrArg Duration.mk hmicros
  · rw [abs_le] at hlimit hmillis
    exact readDate_of_duration hformat hread (fault?_of_lt (abs_le.mpr (by omega)))
      (fault?_of_lt (abs_le.mpr (by omega)))

end Duration

end SheetFill.Calendar
