import SheetFill.Text.Basic
import Mathlib.Tactic

/-!
# Texts and strings

A string is a text without halves of pairs, and every text without them is the text of one string.
-/
namespace SheetFill.Text

theorem mapM_char?_eq_some {points : List Point} {cs : List Char} :
    points.mapM Point.char? = some cs ↔ points = cs.map .char := by
  induction points generalizing cs with
  | nil =>
    cases cs with
    | nil => simp
    | cons c cs => simp
  | cons p points ih =>
    rw [List.mapM_cons]
    cases p with
    | half d => simp [Point.char?, List.map_eq_cons_iff, eq_comm]
    | char c =>
      simp only [Point.char?, Option.pure_def, Option.bind_eq_bind, Option.bind_some,
        Option.bind_eq_some_iff, Option.some.injEq, ih]
      constructor
      · rintro ⟨cs, rfl, rfl⟩
        rfl
      · intro h
        obtain ⟨c', cs', rfl, hc, hpoints⟩ := List.map_eq_cons_iff.mp h.symm
        exact ⟨cs', hpoints.symm, by rw [Point.char.inj hc]⟩

theorem string?_eq_some {t : Text} {s : String} : t.string? = some s ↔ t = s := by
  obtain ⟨points⟩ := t
  simp only [string?, ofString, ofChars, Option.map_eq_some_iff, mapM_char?_eq_some, Text.mk.injEq]
  constructor
  · rintro ⟨cs, rfl, rfl⟩
    rw [String.toList_ofList]
  · rintro rfl
    exact ⟨s.toList, rfl, String.ofList_toList⟩

theorem string?_ofString (s : String) : (s : Text).string? = some s := string?_eq_some.mpr rfl

end SheetFill.Text
