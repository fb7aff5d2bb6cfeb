import SheetFill.Proofs.Sheet.Covering
import SheetFill.Workbook.Saved

/-!
# Legible workbooks

A workbook that was saved can be opened again if each point of each text in its cells can be read.
Making line ends one kind changes nothing about that.
-/
namespace SheetFill

namespace Text

def Legible (t : Text) : Prop := ∀ p ∈ t.points, p.isLegible

section Newlines

variable {α : Type} [BEq α] [LawfulBEq α] {P : α → Prop} {cr lf : α}

theorem forall_unifyNewlines (hcr : P cr) (hlf : P lf) (cs : List α) :
    (∀ c ∈ unifyNewlines cr lf cs, P c) ↔ ∀ c ∈ cs, P c := by
  have hone (c : α) : P (if c == cr then lf else c) ↔ P c := by
    by_cases hc : c = cr
    · simp [hc, hcr, hlf]
    · simp [hc]
  fun_induction unifyNewlines cr lf cs with
  | case1 => simp
  | case2 c => simpa using hone c
  | case3 c d rest h ih =>
    obtain ⟨rfl, rfl⟩ : c = cr ∧ d = lf := by simpa using h
    simp [ih, hcr, hlf]
  | case4 c d rest _ ih =>
    rw [List.forall_mem_cons, hone, List.forall_mem_cons]
    exact and_congr_right fun _ => ih

end Newlines

theorem legible_unified (t : Text) : t.unified.Legible ↔ t.Legible :=
  forall_unifyNewlines (by decide) (by decide) t.points

end Text

def Value.Legible : Value → Prop
  | .text s => s.Legible
  | _ => True

def SavedCell.Legible (c : SavedCell) : Prop := (c.value.text?.getD "").Legible

def Sheet.Legible (s : Sheet) : Prop := ∀ col row, (s.valueAt col row).Legible

theorem forall_getD {α : Type} {P : α → Prop} {d : α} (hd : P d) (xs : List α) :
    (∀ i, P (xs.getD i d)) ↔ ∀ x ∈ xs, P x := by
  induction xs with
  | nil => simpa using hd
  | cons x xs ih =>
    rw [List.forall_mem_cons, ← ih]
    constructor
    · intro h
      exact ⟨h 0, fun i => h (i + 1)⟩
    · rintro ⟨hx, hxs⟩ (_ | i)
      · exact hx
      · exact hxs i

theorem Sheet.legible_iff {s : Sheet} :
    s.Legible ↔ ∀ r ∈ s.rows, ∀ c, some c ∈ r → c.value.Legible := by
  have hcell (r : Row) : (∀ i, ((r.getD i none).getD Cell.blank).value.Legible) ↔
      ∀ c, some c ∈ r → c.value.Legible := by
    rw [forall_getD (P := fun c? : Option Cell => (c?.getD Cell.blank).value.Legible)
      (by trivial)]
    exact ⟨fun h c hc => h _ hc, fun h c? hc => by cases c? with
      | none => trivial
      | some c => exact h c hc⟩
  have hrow : (∀ j i, (((s.rows.getD j []).getD i none).getD Cell.blank).value.Legible) ↔
      ∀ r ∈ s.rows, ∀ i, ((r.getD i none).getD Cell.blank).value.Legible :=
    forall_getD (P := fun r : Row => ∀ i, ((r.getD i none).getD Cell.blank).value.Legible)
      (fun i => by simp [Cell.blank, Value.Legible]) s.rows
  simp only [← hcell, ← hrow]
  constructor
  · intro h j i
    exact h (i + 1) (j + 1)
  · rintro h (_ | i) (_ | j)
    · trivial
    · trivial
    · trivial
    · exact h j i

theorem SavedSheet.illegible_eq_nil {s : SavedSheet} :
    s.illegible = [] ↔ ∀ r ∈ s.rows, ∀ c, some c ∈ r → c.Legible := by
  simp only [illegible, List.flatMap_eq_nil_iff, List.mem_filterMap, List.mem_flatten, id,
    List.filter_eq_nil_iff, SavedCell.Legible, Text.Legible]
  constructor
  · intro h r hr c hc p hp
    simpa using h c ⟨some c, ⟨r, hr, hc⟩, rfl⟩ p hp
  · rintro h c ⟨_, ⟨r, hr, hc⟩, rfl⟩ p hp
    simpa using h r hr c hc p hp

/-! ## Saving -/

/-- The number that stands for a value in a saved workbook. -/
def Value.stored? : Value → Option Binary64
  | .int n => some (.ofInt n)
  | .real x => some x
  | .date d => some d.serial
  | .dateTime t => some t.serial
  | .time t => some t.serial
  | .duration d => some d.serial
  | _ => none

namespace SavedValue

variable {c : Cell} {v : SavedValue}

theorem ofCell_cases (h : ofCell c = .ok v) :
    (∃ x, c.value.stored? = some x ∧ v = ofReal x) ∨
      (∃ s, c.value = .text s ∧ v = ofText c.kind s) ∨
      (∃ b, c.value = .bool b ∧ v = .boolean b) ∨
      (c.value.stored? = none ∧ (∀ s, c.value ≠ .text s) ∧ (∀ b, c.value ≠ .bool b) ∧
        v = .nothing) := by
  obtain ⟨value, kind, style⟩ := c
  cases value
  case text s => exact .inr (.inl ⟨s, rfl, (Except.ok.inj h).symm⟩)
  case bool b => exact .inr (.inr (.inl ⟨b, rfl, (Except.ok.inj h).symm⟩))
  case int n =>
    left
    simp only [ofCell, ofInt] at h
    split at h
    next b hb => exact ⟨_, rfl, by rw [hb, Except.ok.inj h]⟩
    · cases h
  case dateTime t =>
    left
    simp only [ofCell, ofTime] at h
    split_ifs at h
    exact ⟨_, rfl, (Except.ok.inj h).symm⟩
  case time t =>
    left
    simp only [ofCell, ofTime] at h
    split_ifs at h
    exact ⟨_, rfl, (Except.ok.inj h).symm⟩
  case real x => exact .inl ⟨_, rfl, (Except.ok.inj h).symm⟩
  case date d => exact .inl ⟨_, rfl, (Except.ok.inj h).symm⟩
  case duration d => exact .inl ⟨_, rfl, (Except.ok.inj h).symm⟩
  all_goals
    exact .inr (.inr (.inr ⟨rfl, nofun, nofun, (Except.ok.inj h).symm⟩))

theorem legible_ofReal (x : Binary64) : ((ofReal x).text?.getD "").Legible := by
  cases x <;> simp [ofReal, text?, Text.Legible, Text.ofString, Text.ofChars]

theorem legible_ofText (kind : CellKind) (s : Text) :
    ((ofText kind s).text?.getD "").Legible ↔ s.Legible := by
  unfold ofText
  split_ifs with h
  · have hs : s.points = [] := List.isEmpty_iff.mp h
    simp [text?, Text.Legible, Text.ofString, Text.ofChars, hs]
  · rw [← s.legible_unified]
    cases kind <;> rfl

theorem legible_of_ofCell (h : ofCell c = .ok v) :
    (v.text?.getD "").Legible ↔ c.value.Legible := by
  have hnone : (Text.Legible "") := by simp [Text.Legible, Text.ofString, Text.ofChars]
  rcases ofCell_cases h with ⟨x, hx, rfl⟩ | ⟨s, hs, rfl⟩ | ⟨b, hb, rfl⟩ | ⟨-, hs, -, rfl⟩
  · refine iff_of_true (legible_ofReal x) ?_
    cases hv : c.value with
    | text s => simp [hv, Value.stored?] at hx
    | _ => trivial
  · rw [hs]
    exact legible_ofText c.kind s
  · rw [hb]
    exact iff_of_true hnone trivial
  · refine iff_of_true hnone ?_
    cases hv : c.value with
    | text s => exact absurd hv (hs s)
    | _ => trivial

end SavedValue

variable {s : Sheet}

theorem Cell.saved?_of_ne_null {c : Cell} (h : c.value ≠ .null) :
    c.saved? = do return some ⟨← SavedValue.ofCell c, c.style.kept⟩ := by
  obtain ⟨value, kind, style⟩ := c
  cases value
  case null => exact absurd rfl h
  all_goals rfl

theorem Cell.legible_of_saved? {c : Cell} {o : Option SavedCell} (h : c.saved? = .ok o) :
    (∀ s, o = some s → s.Legible) ↔ c.value.Legible := by
  by_cases hnull : c.value = .null
  · rw [hnull]
    refine iff_of_true (fun s hs => ?_) trivial
    subst hs
    simp only [saved?, hnull] at h
    split_ifs at h
    · cases h
    obtain rfl := Option.some.inj (Except.ok.inj h)
    simp [SavedCell.Legible, SavedValue.text?, Text.Legible, Text.ofString, Text.ofChars]
  · rw [saved?_of_ne_null hnull] at h
    cases hv : SavedValue.ofCell c with
    | error e =>
      rw [hv] at h
      cases h
    | ok v =>
      rw [hv] at h
      cases h
      rw [← SavedValue.legible_of_ofCell hv]
      simp [SavedCell.Legible]

theorem forall₂_of_mapM {α β ε : Type} {f : α → Except ε β} {xs : List α} {ys : List β}
    (h : xs.mapM f = .ok ys) : List.Forall₂ (fun x y => f x = .ok y) xs ys := by
  induction xs generalizing ys with
  | nil =>
    cases h
    exact .nil
  | cons x xs ih =>
    rw [List.mapM_cons] at h
    cases hx : f x with
    | error e =>
      rw [hx] at h
      cases h
    | ok y =>
      cases hxs : xs.mapM f with
      | error e =>
        rw [hx, hxs] at h
        cases h
      | ok ys' =>
        rw [hx, hxs] at h
        cases h
        exact .cons hx (ih hxs)

theorem forall_mem_iff_of_forall₂ {α β : Type} {R : α → β → Prop} {P : α → Prop} {Q : β → Prop}
    {xs : List α} {ys : List β} (h : List.Forall₂ R xs ys) (hiff : ∀ x y, R x y → (P x ↔ Q y)) :
    (∀ x ∈ xs, P x) ↔ ∀ y ∈ ys, Q y := by
  induction h with
  | nil => simp
  | cons hxy _ ih => rw [List.forall_mem_cons, List.forall_mem_cons, ih, hiff _ _ hxy]

theorem Row.legible_of_saved {r : Row} {r' : List (Option SavedCell)} (h : r.saved = .ok r') :
    (∀ s, some s ∈ r' → s.Legible) ↔ ∀ c, some c ∈ r → c.value.Legible := by
  have hiff := forall_mem_iff_of_forall₂ (P := fun c? : Option Cell => ∀ c, c? = some c →
      c.value.Legible) (Q := fun s? : Option SavedCell => ∀ s, s? = some s → s.Legible)
    (forall₂_of_mapM h) fun c? s? hs => ?_
  · constructor
    · intro h c hc
      exact hiff.mpr (fun _ hs s heq => h s (heq ▸ hs)) _ hc c rfl
    · intro h s hs
      exact hiff.mp (fun _ hc c heq => h c (heq ▸ hc)) _ hs s rfl
  · cases c? with
    | none => simp [← Except.ok.inj hs]
    | some c => simp [Cell.legible_of_saved? hs]

theorem Sheet.saved_eq_ok {saved : SavedSheet} (h : s.saved = .ok saved) :
    saved.title = s.title ∧ s.rows.mapM Row.saved = .ok saved.rows ∧ saved.merged = s.merged := by
  unfold Sheet.saved at h
  cases hrows : s.rows.mapM Row.saved with
  | error e =>
    rw [hrows] at h
    cases h
  | ok rows =>
    rw [hrows] at h
    cases h
    exact ⟨rfl, rfl, rfl⟩

theorem Sheet.illegible_eq_nil_of_saved {saved : SavedSheet} (h : s.saved = .ok saved) :
    saved.illegible = [] ↔ s.Legible := by
  obtain ⟨-, hrows, -⟩ := saved_eq_ok h
  rw [SavedSheet.illegible_eq_nil, legible_iff]
  exact (forall_mem_iff_of_forall₂ (forall₂_of_mapM hrows)
    fun r r' hr => (Row.legible_of_saved hr).symm).symm

namespace Workbook

def Legible (w : Workbook) : Prop := ∀ s ∈ w, Sheet.Legible s

variable {w : Workbook} {saved : SavedWorkbook}

theorem illegible_eq_nil_of_saved (h : Workbook.saved w = .ok saved) :
    saved.flatMap SavedSheet.illegible = [] ↔ Legible w := by
  rw [List.flatMap_eq_nil_iff]
  exact (forall_mem_iff_of_forall₂ (forall₂_of_mapM h)
    fun s t ht => (Sheet.illegible_eq_nil_of_saved ht).symm).symm

/-- A workbook that was saved is opened again if its texts are legible. -/
theorem opened_of_saved (h : Workbook.saved w = .ok saved) (hw : Legible w) :
    SavedWorkbook.opened saved = .ok (saved.map SavedSheet.opened) := by
  rw [SavedWorkbook.opened, (illegible_eq_nil_of_saved h).mpr hw]

theorem opened_of_not_legible (h : Workbook.saved w = .ok saved) (hw : ¬ Legible w) :
    ∃ p, SavedWorkbook.opened saved = .error p := by
  cases hpoints : saved.flatMap SavedSheet.illegible with
  | nil => exact absurd ((illegible_eq_nil_of_saved h).mp hpoints) hw
  | cons p rest => exact ⟨p, by rw [SavedWorkbook.opened, hpoints]⟩

end Workbook

end SheetFill
