import SheetFill.Proofs.Binary64.Arithmetic
import SheetFill.Proofs.Decimal.Significant
import SheetFill.Workbook.Saved

/-!
# Stored numbers

A finite number is stored with sixteen significant digits. Reading them gives the fraction that they
stand for: as a whole number if it is one below `10 ^ 16`, and otherwise the nearest binary64
number.
-/
namespace SheetFill

/-- What a decimal fraction in a saved workbook is read as. -/
def Value.ofRat (q : ℚ) : Value :=
  if q.den = 1 ∧ |q| < 10 ^ 16 then .int q.num
  else .real (Binary64.ofMagnitude (decide (q < 0)) |q|)

namespace Decimal

/-! ## Reading -/

section Reading

variable {ds : List ℕ} {negative : Bool}

theorem isDigit_digitChar {k : ℕ} (hk : k < 10) : isDigit k.digitChar = true := by
  interval_cases k <;> rfl

theorem isDigit_of_mem_digitChars (h : ∀ k ∈ ds, k < 10) :
    ∀ c ∈ digitChars ds, isDigit c = true := by
  intro c hc
  obtain ⟨k, hk, rfl⟩ := List.mem_map.mp hc
  exact isDigit_digitChar (h k hk)

theorem digitChars_append (xs ys : List ℕ) :
    digitChars (xs ++ ys) = digitChars xs ++ digitChars ys := List.map_append

theorem length_digitChars (ds : List ℕ) : (digitChars ds).length = ds.length := List.length_map _

theorem digitChars_zeros (k : ℕ) : digitChars (List.replicate k 0) = List.replicate k '0' := by
  rw [digitChars, List.map_replicate]
  rfl

theorem splitSign_signed {c : Char} (hc : isDigit c = true) (body : List Char) :
    splitSign (signed negative (c :: body)) = (negative, c :: body) := by
  cases negative
  · simp only [signed]
    unfold splitSign
    split
    · next heq => cases (List.cons.inj heq).1 ▸ hc
    · next heq => cases (List.cons.inj heq).1 ▸ hc
    · rfl
  · rfl

theorem span_digits {xs : List Char} (tail : List Char) (hxs : ∀ c ∈ xs, isDigit c = true)
    (htail : ∀ c ∈ tail.head?, isDigit c = false) :
    (xs ++ tail).takeWhile isDigit = xs ∧ (xs ++ tail).dropWhile isDigit = tail := by
  rw [List.takeWhile_append_of_pos hxs, List.dropWhile_append_of_pos hxs]
  cases tail with
  | nil => simp
  | cons c tail => simp [htail c rfl]

theorem isDigit_of_mem_toDigits {n : ℕ} : ∀ c ∈ Nat.toDigits 10 n, isDigit c = true := by
  intro c hc
  have h := Nat.isDigit_of_mem_toDigits (by norm_num) le_rfl hc
  simpa [Char.isDigit, isDigit, Char.le_def] using h

theorem exponent?_exponentChars (e : ℤ) : exponent? (exponentChars e) = some e := by
  obtain ⟨digits, hchars, hne, hdigit, hnat⟩ : ∃ digits,
      exponentChars e = 'e' :: (if e < 0 then '-' else '+') :: digits ∧ digits.isEmpty = false ∧
        digits.all isDigit = true ∧ natOfDigits digits = e.natAbs := by
    refine ⟨_, rfl, ?_⟩
    split_ifs
    · refine ⟨rfl, ?_, ?_⟩
      · rw [List.all_eq_true]
        exact List.forall_mem_cons.mpr ⟨rfl, isDigit_of_mem_toDigits⟩
      · rw [← List.singleton_append, natOfDigits_append, natOfDigits_toDigits]
        simp [natOfDigits, digitValue]
    · exact ⟨by simp, List.all_eq_true.mpr isDigit_of_mem_toDigits,
        natOfDigits_toDigits _⟩
  have hsign : splitSign ((if e < 0 then '-' else '+') :: digits) = (decide (e < 0), digits) := by
    split_ifs with he
    · rw [decide_eq_true he]
      rfl
    · rw [decide_eq_false he]
      rfl
  rw [hchars, exponent?, if_pos (by decide), hsign]
  simp only [hne, hdigit, hnat, Bool.not_true, Bool.or_self, Bool.false_eq_true, if_false,
    decide_eq_true_eq, Option.some.injEq]
  split_ifs <;> omega

variable (negative) in
theorem ofChars?_point {whole places : List Char} (tail : List Char) {e : ℤ}
    (hwhole : ∀ c ∈ whole, isDigit c = true) (hne : whole ≠ [])
    (hplaces : ∀ c ∈ places, isDigit c = true) (htail : ∀ c ∈ tail.head?, isDigit c = false)
    (he : exponent? tail = some e) :
    ofChars? (signed negative (whole ++ '.' :: (places ++ tail))) =
      some (nearest negative (natOfDigits (whole ++ places)) (e - places.length)) := by
  obtain ⟨c, whole, rfl⟩ := List.exists_cons_of_ne_nil hne
  obtain ⟨htake, hdrop⟩ := span_digits ('.' :: (places ++ tail)) hwhole (by simp; rfl)
  obtain ⟨htake', hdrop'⟩ := span_digits tail hplaces htail
  rw [List.cons_append] at htake hdrop
  rw [ofChars?, List.cons_append, splitSign_signed (hwhole c (by simp))]
  simp only [htake, hdrop, htake', hdrop', he]
  rfl

variable (negative) in
theorem ofChars?_plain {whole tail : List Char} {e : ℤ}
    (hwhole : ∀ c ∈ whole, isDigit c = true) (hne : whole ≠ [])
    (htail : ∀ c ∈ tail.head?, isDigit c = false ∧ c ≠ '.') (he : exponent? tail = some e) :
    ofChars? (signed negative (whole ++ tail)) = some (nearest negative (natOfDigits whole) e) := by
  obtain ⟨c, whole, rfl⟩ := List.exists_cons_of_ne_nil hne
  obtain ⟨htake, hdrop⟩ := span_digits tail hwhole fun d hd => (htail d hd).1
  rw [List.cons_append] at htake hdrop
  rw [ofChars?, List.cons_append, splitSign_signed (hwhole c (by simp))]
  simp only [htake, hdrop]
  split
  · exact absurd rfl (htail '.' rfl).2
  · simp [he]

/-! ## What is read -/

variable (negative) in
theorem readNumber_whole {body : List Char} (h : ∀ c ∈ body, isDigit c = true) (hne : body ≠ []) :
    SavedValue.readNumber (String.ofList (signed negative body)) =
      .int (if negative then -(natOfDigits body : ℤ) else natOfDigits body) := by
  obtain ⟨c, body, rfl⟩ := List.exists_cons_of_ne_nil hne
  have hplain (d : Char) (hd : isDigit d = false) (hminus : d ≠ '-') :
      (signed negative (c :: body)).contains d = false := by
    have hbody : d ∉ c :: body := fun hmem => by simp [h d hmem] at hd
    cases negative
    · simpa [signed] using hbody
    · simpa [signed, hminus] using hbody
  rw [SavedValue.readNumber, String.toList_ofList, hplain '.' rfl (by decide),
    hplain 'e' rfl (by decide), splitSign_signed (h c (by simp))]
  rfl

theorem readNumber_of_ofChars? {cs : List Char} {x : Binary64} (h : '.' ∈ cs ∨ 'e' ∈ cs)
    (hx : ofChars? cs = some x) : SavedValue.readNumber (String.ofList cs) = .real x := by
  have hmark : (cs.contains '.' || cs.contains 'e') = true := by simpa using h
  rw [SavedValue.readNumber, String.toList_ofList]
  simp only [hmark, hx]
  rfl

end Reading

/-! ## Fractions -/

section Fractions

variable {negative : Bool} {q : ℚ} {d : Digits}

theorem ofRat_int {n : ℕ} (hn : n < 10 ^ 16) :
    Value.ofRat (Binary64.withSign negative n) = .int (if negative then -(n : ℤ) else n) := by
  have hcast : Binary64.withSign negative n = ((if negative then -(n : ℤ) else n : ℤ) : ℚ) := by
    rw [Binary64.withSign]
    split_ifs <;> simp
  have hlt : |((if negative then -(n : ℤ) else n : ℤ) : ℚ)| < 10 ^ 16 := by
    rw [← hcast, Binary64.abs_withSign, Nat.abs_cast]
    exact_mod_cast hn
  rw [hcast, Value.ofRat, if_pos ⟨Rat.den_intCast _, hlt⟩, Rat.num_intCast]

theorem ofRat_real (hq : 0 < q) (h : q.den ≠ 1 ∨ 10 ^ 16 ≤ q) :
    Value.ofRat (Binary64.withSign negative q) = .real (Binary64.ofMagnitude negative q) := by
  have hnot : ¬ (q.den = 1 ∧ q < 10 ^ 16) := by
    rintro ⟨hden, hlt⟩
    rcases h with h | h
    · exact h hden
    · exact absurd hlt (not_lt.mpr h)
  cases negative
  · simp only [Binary64.withSign, Value.ofRat, abs_of_pos hq, if_neg hnot, Bool.false_eq_true,
      if_false, not_lt.mpr hq.le, decide_false]
  · simp only [Binary64.withSign, Value.ofRat, abs_neg, abs_of_pos hq, Rat.den_neg_eq_den,
      if_neg hnot, if_true, neg_lt_zero, hq, decide_true]

/-- A decimal fraction is read as itself or rounded once. -/
theorem ofRat_cases (hq : |q| < 2 ^ (1023 : ℤ)) :
    (∃ n : ℤ, q = n ∧ Value.ofRat q = .int n) ∨
      ∃ x : Binary64, x.Is (Binary64.rounded q) ∧ Value.ofRat q = .real x := by
  unfold Value.ofRat
  split_ifs with h
  · exact .inl ⟨q.num, ((Rat.den_eq_one_iff q).mp h.1).symm, rfl⟩
  · refine .inr ⟨_, ?_, rfl⟩
    have hsign : q = Binary64.withSign (decide (q < 0)) |q| := by
      rcases lt_or_ge q 0 with hneg | hpos
      · simp [Binary64.withSign, hneg, abs_of_neg hneg]
      · simp [Binary64.withSign, not_lt.mpr hpos, abs_of_nonneg hpos]
    have hvalue := Binary64.is_ofMagnitude (decide (q < 0)) (abs_nonneg q) hq
    rwa [← hsign] at hvalue

namespace Digits.Proper

theorem length_pos (h : d.Proper) : 0 < d.digits.length := by
  by_contra hnil
  refine h.last ?_
  rw [List.length_eq_zero_iff.mp (Nat.eq_zero_of_not_pos hnil)]
  exact dvd_zero 10

theorem le_value (h : d.Proper) : 10 ^ (d.point - 1) ≤ d.value := by
  have hpos := h.length_pos
  calc (10 : ℚ) ^ (d.point - 1) =
        10 ^ (d.digits.length - 1) * 10 ^ (d.point - d.digits.length) := by
        rw [← zpow_natCast, ← zpow_add₀ (by norm_num)]
        congr 1
        omega
    _ ≤ wholeOf d.digits * 10 ^ (d.point - d.digits.length) := by
        gcongr
        exact_mod_cast h.first

theorem value_pos (h : d.Proper) : 0 < d.value := lt_of_lt_of_le (by positivity) h.le_value

theorem den_ne_one (h : d.Proper) (hpoint : d.point < d.digits.length) : d.value.den ≠ 1 := by
  intro hden
  obtain ⟨k, hk⟩ := Int.eq_ofNat_of_zero_le (show 0 ≤ d.digits.length - d.point - 1 by omega)
  have hwhole : (wholeOf d.digits : ℚ) = d.value.num * 10 ^ (k + 1) := by
    rw [(Rat.den_eq_one_iff _).mp hden, value, mul_assoc, ← zpow_natCast,
      ← zpow_add₀ (by norm_num), show d.point - d.digits.length + ((k + 1 : ℕ) : ℤ) = 0 by omega,
      zpow_zero, mul_one]
  have hdvd : (10 : ℤ) ∣ wholeOf d.digits :=
    ⟨d.value.num * 10 ^ k, by
      have : (wholeOf d.digits : ℤ) = d.value.num * 10 ^ (k + 1) := by exact_mod_cast hwhole
      rw [this, pow_succ]
      ring⟩
  exact h.last (by exact_mod_cast hdvd)

end Digits.Proper

end Fractions

/-! ## Layouts -/

section Layouts

variable {negative : Bool} {d : Digits}

/-- Digits with a point among them. -/
theorem readNumber_point {xs ys : List ℕ} (hxs : ∀ k ∈ xs, k < 10) (hne : xs ≠ [])
    (hys : ∀ k ∈ ys, k < 10) :
    SavedValue.readNumber
        (String.ofList (signed negative (digitChars xs ++ '.' :: digitChars ys))) =
      .real (Binary64.ofMagnitude negative (wholeOf (xs ++ ys) * 10 ^ (-ys.length : ℤ))) := by
  have hread := ofChars?_point negative []
    (isDigit_of_mem_digitChars hxs) (by simpa [digitChars] using hne)
    (isDigit_of_mem_digitChars hys) (by simp) rfl
  rw [List.append_nil, nearest_eq, ← digitChars_append, length_digitChars, zero_sub] at hread
  refine readNumber_of_ofChars? (.inl ?_) hread
  cases negative <;> simp [signed]

theorem readNumber_exponent {k : ℕ} {ys : List ℕ} (hk : k < 10) (hys : ∀ k ∈ ys, k < 10) (e : ℤ) :
    SavedValue.readNumber (String.ofList (signed negative (digitChars [k] ++
        (if (digitChars ys).isEmpty then [] else '.' :: digitChars ys) ++ exponentChars e))) =
      .real (Binary64.ofMagnitude negative (wholeOf (k :: ys) * 10 ^ (e - ys.length))) := by
  have hmark : 'e' ∈ exponentChars e := by simp [exponentChars]
  have hfirst : ∀ c ∈ digitChars [k], isDigit c = true :=
    isDigit_of_mem_digitChars (by simpa using hk)
  have hstart : ∀ c ∈ (exponentChars e).head?, isDigit c = false ∧ c ≠ '.' := by
    simp [exponentChars]
    decide
  refine readNumber_of_ofChars? (.inr (by cases negative <;> simp [signed, hmark])) ?_
  cases ys with
  | nil =>
    have hread := ofChars?_plain negative hfirst (by simp [digitChars]) hstart
      (exponent?_exponentChars e)
    rw [nearest_eq] at hread
    simpa [digitChars, wholeOf] using hread
  | cons j ys =>
    have hread := ofChars?_point negative (exponentChars e) hfirst (by simp [digitChars])
      (isDigit_of_mem_digitChars hys) (fun c hc => (hstart c hc).1) (exponent?_exponentChars e)
    rw [nearest_eq, ← digitChars_append, List.singleton_append, length_digitChars] at hread
    rw [List.append_assoc]
    exact hread

section Chars

variable (hne : d.digits ≠ [])
include hne

theorem chars_of_plain (hlow : -3 ≤ d.point) (hhigh : d.point ≤ 16) : Layout.stored.chars d =
    if d.point ≤ 0 then
      '0' :: '.' :: List.replicate (-d.point).toNat '0' ++ digitChars d.digits
    else
      digitChars (d.digits.take d.point.toNat) ++
        List.replicate (d.point.toNat - (d.digits.take d.point.toNat).length) '0' ++
        (if (d.digits.drop d.point.toNat).isEmpty then []
          else '.' :: digitChars (d.digits.drop d.point.toNat)) := by
  have htest : (decide (Layout.stored.plainFrom ≤ d.point - 1) &&
      decide (d.point - 1 ≤ Layout.stored.plainTo)) = true := by
    rw [Bool.and_eq_true, decide_eq_true_iff, decide_eq_true_iff]
    show -4 ≤ d.point - 1 ∧ d.point - 1 ≤ 15
    omega
  rw [Layout.chars, if_neg (by simpa using hne)]
  simp only [htest, if_true]
  rfl

theorem chars_small (hlow : -3 ≤ d.point) (hhigh : d.point ≤ 0) : Layout.stored.chars d =
    digitChars [0] ++ '.' :: digitChars (List.replicate (-d.point).toNat 0 ++ d.digits) := by
  rw [chars_of_plain hne hlow (by omega), if_pos hhigh, digitChars_append, digitChars_zeros]
  rfl

theorem chars_between (hlow : 0 < d.point) (hhigh : d.point ≤ 16)
    (hlength : d.point < d.digits.length) :
    Layout.stored.chars d = digitChars (d.digits.take d.point.toNat) ++
      '.' :: digitChars (d.digits.drop d.point.toNat) := by
  have hdrop : (d.digits.drop d.point.toNat).isEmpty = false := by
    simp
    omega
  rw [chars_of_plain hne (by omega) hhigh, if_neg (by omega), hdrop, List.length_take,
    Nat.min_eq_left (by omega), Nat.sub_self]
  simp

theorem chars_whole (hhigh : d.point ≤ 16) (hlength : d.digits.length ≤ d.point) :
    Layout.stored.chars d =
      digitChars (d.digits ++ List.replicate (d.point - d.digits.length).toNat 0) := by
  have hpos := List.length_pos_iff.mpr hne
  have hle : d.digits.length ≤ d.point.toNat := by omega
  rw [chars_of_plain hne (by omega) hhigh, if_neg (by omega), List.take_of_length_le hle,
    List.drop_of_length_le hle, digitChars_append, digitChars_zeros,
    show d.point.toNat - d.digits.length = (d.point - d.digits.length).toNat by omega]
  simp

theorem chars_exponent (h : d.point < -3 ∨ 16 < d.point) : Layout.stored.chars d =
    digitChars [d.digits.head hne] ++ (if (digitChars d.digits.tail).isEmpty then []
      else '.' :: digitChars d.digits.tail) ++ exponentChars (d.point - 1) := by
  have htest : (decide (Layout.stored.plainFrom ≤ d.point - 1) &&
      decide (d.point - 1 ≤ Layout.stored.plainTo)) = false := by
    rw [Bool.and_eq_false_iff, decide_eq_false_iff_not, decide_eq_false_iff_not]
    show ¬ -4 ≤ d.point - 1 ∨ ¬ d.point - 1 ≤ 15
    omega
  rw [Layout.chars, if_neg (by simpa using hne)]
  simp only [htest, Bool.false_eq_true, if_false, List.drop_one, List.take_one]
  rw [List.head?_eq_some_head hne]
  rfl

end Chars

theorem wholeOf_zeros_append (k : ℕ) (ds : List ℕ) :
    wholeOf (List.replicate k 0 ++ ds) = wholeOf ds := by
  have hzeros : wholeOf (List.replicate k 0) = 0 := by
    simpa [wholeOf, digitChars, natOfDigits] using wholeOf_append_zeros [] k
  rw [wholeOf_append, hzeros, zero_mul, zero_add]

theorem lt_of_mem_zeros {k j : ℕ} (hj : j ∈ List.replicate k 0) : j < 10 := by
  rw [List.eq_of_mem_replicate hj]
  norm_num

section Proper

variable (h : d.Proper)
include h

theorem readNumber_of_exponent (hlarge : d.point < -3 ∨ 16 < d.point) :
    SavedValue.readNumber (String.ofList (signed negative (Layout.stored.chars d))) =
      Value.ofRat (Binary64.withSign negative d.value) := by
  have hpos := h.length_pos
  have hne := List.ne_nil_of_length_pos hpos
  have hvalue : (wholeOf d.digits : ℚ) * 10 ^ (d.point - 1 - d.digits.tail.length) = d.value := by
    rw [Digits.value, List.length_tail]
    congr 2
    omega
  have hreal : d.value.den ≠ 1 ∨ 10 ^ 16 ≤ d.value := by
    rcases hlarge with hlow | hhigh
    · exact .inl (h.den_ne_one (by omega))
    · right
      calc (10 : ℚ) ^ 16 = 10 ^ ((16 : ℕ) : ℤ) := (zpow_natCast _ _).symm
        _ ≤ 10 ^ (d.point - 1) := zpow_le_zpow_right₀ (by norm_num) (by omega)
        _ ≤ d.value := h.le_value
  rw [chars_exponent hne hlarge, readNumber_exponent (h.digit _ (List.head_mem hne))
    (fun k hk => h.digit k (List.mem_of_mem_tail hk)), List.cons_head_tail, hvalue,
    ofRat_real h.value_pos hreal]

theorem readNumber_of_places (hlow : -3 ≤ d.point) (hhigh : d.point ≤ 16)
    (hlength : d.point < d.digits.length) :
    SavedValue.readNumber (String.ofList (signed negative (Layout.stored.chars d))) =
      Value.ofRat (Binary64.withSign negative d.value) := by
  have hne := List.ne_nil_of_length_pos h.length_pos
  rw [ofRat_real h.value_pos (.inl (h.den_ne_one hlength)), Digits.value]
  by_cases hsmall : d.point ≤ 0
  · have hdigit : ∀ k ∈ List.replicate (-d.point).toNat 0 ++ d.digits, k < 10 :=
      List.forall_mem_append.mpr ⟨fun _ => lt_of_mem_zeros, h.digit⟩
    rw [chars_small hne hlow hsmall, readNumber_point (by simp) (by simp) hdigit,
      ← List.append_assoc, ← List.replicate_one, List.replicate_append_replicate,
      wholeOf_zeros_append, List.length_append, List.length_replicate]
    congr 4
    push_cast
    omega
  · rw [chars_between hne (by omega) hhigh hlength,
      readNumber_point (fun k hk => h.digit k (List.mem_of_mem_take hk)) (by simp [hne]; omega)
        (fun k hk => h.digit k (List.mem_of_mem_drop hk)),
      List.take_append_drop, List.length_drop]
    congr 4
    omega

theorem readNumber_of_whole (hhigh : d.point ≤ 16) (hlength : d.digits.length ≤ d.point) :
    SavedValue.readNumber (String.ofList (signed negative (Layout.stored.chars d))) =
      Value.ofRat (Binary64.withSign negative d.value) := by
  have hne := List.ne_nil_of_length_pos h.length_pos
  obtain ⟨k, hk⟩ := Int.eq_ofNat_of_zero_le (sub_nonneg.mpr hlength)
  have hdigit : ∀ j ∈ d.digits ++ List.replicate k 0, j < 10 :=
    List.forall_mem_append.mpr ⟨h.digit, fun _ => lt_of_mem_zeros⟩
  have hwhole : d.value = (wholeOf (d.digits ++ List.replicate k 0) : ℕ) := by
    rw [Digits.value, hk, wholeOf_append_zeros]
    push_cast
    rw [zpow_natCast]
  have hlt : wholeOf (d.digits ++ List.replicate k 0) < 10 ^ 16 := by
    refine (wholeOf_lt hdigit).trans_le (Nat.pow_le_pow_right (by norm_num) ?_)
    rw [List.length_append, List.length_replicate]
    omega
  rw [chars_whole hne hhigh hlength, hk, Int.toNat_natCast,
    readNumber_whole _ (isDigit_of_mem_digitChars hdigit) (by simp [digitChars, hne]), hwhole,
    ofRat_int hlt]
  rfl

/-- Stored digits are read as what they stand for. -/
theorem readNumber_stored :
    SavedValue.readNumber (String.ofList (signed negative (Layout.stored.chars d))) =
      Value.ofRat (Binary64.withSign negative d.value) := by
  by_cases hlarge : d.point < -3 ∨ 16 < d.point
  · exact readNumber_of_exponent h hlarge
  · obtain ⟨hlow, hhigh⟩ : -3 ≤ d.point ∧ d.point ≤ 16 := by omega
    rcases lt_or_ge d.point d.digits.length with hlength | hlength
    · exact readNumber_of_places h hlow hhigh hlength
    · exact readNumber_of_whole h hhigh hlength

end Proper

theorem significant_withSign (count : ℕ) (negative : Bool) (q : ℚ) :
    significant count (Binary64.withSign negative q) =
      Binary64.withSign negative (significant count q) := by
  cases negative
  · rfl
  · exact significant_neg count q

theorem fraction_le (b : Binary64.Finite) {k : ℕ} (hk : 1074 ≤ 3 * k) :
    b.fraction.2 ≤ 10 ^ k := by
  have hexponent := b.fits.2.2.1
  unfold Binary64.Finite.fraction
  by_cases h : 0 ≤ b.exponent
  · rw [if_pos h]
    exact Nat.pow_pos (by norm_num)
  · rw [if_neg h]
    exact (Nat.pow_le_pow_right two_pos (by omega)).trans (two_pow_le k)

/-- A finite number is read as its sixteen digits. -/
theorem readNumber_storedChars (b : Binary64.Finite) :
    SavedValue.readNumber (String.ofList (storedChars b)) =
      Value.ofRat (significant 16 b.toRat) := by
  rw [b.toRat_eq, significant_withSign, storedChars]
  by_cases hnum : b.fraction.1 = 0
  · have hdigit : ∀ c ∈ ['0'], isDigit c = true := by
      simp
      rfl
    have hzero := readNumber_whole b.negative hdigit (by simp)
    have hchars : Layout.stored.chars ⟨[], 0⟩ = ['0'] := rfl
    simp only [hnum, beq_self_eq_true, if_true, hchars, hzero, Nat.cast_zero, zero_div,
      significant_zero]
    exact (ofRat_int (n := 0) (by norm_num)).symm.trans (by rw [Nat.cast_zero])
  · have hpos := Nat.pos_of_ne_zero hnum
    obtain ⟨hproper, hvalue⟩ := rounded_proper hpos b.fraction_pos (by norm_num : 0 < 16)
      ((fraction_le b (by norm_num)).trans (Nat.le_mul_of_pos_left _ hpos))
    rw [← hvalue, ← readNumber_stored hproper]
    simp only [beq_iff_eq, if_neg hnum]

end Layouts

end Decimal

end SheetFill
