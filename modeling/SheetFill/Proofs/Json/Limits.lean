import SheetFill.Json.Reader
import Mathlib.Data.List.TakeWhile
import Mathlib.Tactic

/-!
# Limits of JSON texts

Reading moves on through a text and never back, and the collections that it is in have all been
opened by brackets before. So a limit is met only in a text with too many digits in a row or with
too many opening brackets.
-/
namespace SheetFill.Json

variable {cs : List Char} {depth : Nat} {c c' : Cursor} {α : Type} {r : Result α}

/-- The number of brackets that open a list or a mapping. -/
def openings (cs : List Char) : Nat := cs.countP fun c => c == '[' || c == '{'

def Exceeds (cs : List Char) : Limit → Prop
  | .digits count => Decimal.maxDigits < count ∧
      ∃ run, run <:+: cs ∧ run.length = count ∧ ∀ c ∈ run, Decimal.isDigit c = true
  | .nestedLists => maxDepth < openings cs
  | .nestedMaps => maxDepth < openings cs

/-- A reading that begins at a cursor stops further on, and meets a limit only if the whole text
exceeds it. -/
structure Reads (cs : List Char) (c : Cursor) (r : Result α) : Prop where
  advances : ∀ {a c'}, r = .ok (a, c') → c'.rest <:+ c.rest
  limited : ∀ {l}, r = .error (.limit l) → Exceeds cs l

namespace Reads

theorem ok {a : α} (h : c'.rest <:+ c.rest) : Reads cs c (.ok (a, c')) :=
  ⟨fun ho => by cases ho; exact h, fun he => by cases he⟩

theorem malformed {problem : Problem} {index : Nat} :
    Reads cs c (.error (.malformed problem index) : Result α) :=
  ⟨fun ho => (by cases ho), fun he => by cases he⟩

theorem limit {l : Limit} (h : Exceeds cs l) : Reads cs c (.error (.limit l) : Result α) :=
  ⟨fun ho => (by cases ho), fun he => by cases he; exact h⟩

theorem error {β : Type} {x : Result β} {e : Error} (hx : Reads cs c' x) (he : x = .error e) :
    Reads cs c (.error e : Result α) := by
  cases e with
  | malformed problem index => exact malformed
  | limit l => exact limit (hx.limited he)

theorem of_suffix (hr : Reads cs c' r) (h : c'.rest <:+ c.rest) : Reads cs c r :=
  ⟨fun ho => (hr.advances ho).trans h, hr.limited⟩

end Reads

theorem advance_suffix (c : Cursor) (n : Nat) : (c.advance n).rest <:+ c.rest :=
  List.drop_suffix n c.rest

theorem skipSpace_suffix (c : Cursor) : c.skipSpace.rest <:+ c.rest := advance_suffix c _

theorem reads_readText (cs : List Char) (start fuel : Nat) : ∀ (c : Cursor) (done : List Point),
    Reads cs c (readText start fuel c done) := by
  induction fuel with
  | zero => exact fun c done => .malformed
  | succ fuel ih =>
    intro c done
    have hnext (n : Nat) (done : List Point) :
        Reads cs c (readText start fuel (c.advance n) done) :=
      (ih _ done).of_suffix (advance_suffix c n)
    unfold readText
    split
    · exact .malformed
    · exact .ok (advance_suffix c 1)
    · split
      · exact .malformed
      · split
        · exact hnext _ _
        · exact .malformed
      · split
        · exact hnext _ _
        · exact .malformed
    · split_ifs
      · exact .malformed
      · exact hnext _ _

theorem exceeds_of_whole {body : List Char} (h : body <:+ cs)
    (hlong : Decimal.maxDigits < (whole body).length) :
    Exceeds cs (.digits (whole body).length) := by
  refine ⟨hlong, ?_⟩
  unfold whole at hlong ⊢
  split at hlong
  · exact absurd hlong (by decide)
  · have hprefix : digitsOf body <+: body := List.takeWhile_prefix _
    exact ⟨digitsOf body, hprefix.isInfix.trans h.isInfix, rfl,
      fun c hc => List.mem_takeWhile_imp hc⟩

theorem reads_readNumber (h : c.rest <:+ cs) : Reads cs c (readNumber c) := by
  unfold readNumber
  dsimp only
  generalize hbody : (if (c.rest.head? == some '-') = true then c.rest.drop 1 else c.rest) = body
  have hsuffix : body <:+ c.rest := by
    rw [← hbody]
    split_ifs
    · exact List.drop_suffix 1 c.rest
    · exact List.suffix_rfl
  split
  · exact .malformed
  · split
    · split
      · exact .limit (exceeds_of_whole (hsuffix.trans h) ‹_›)
      · exact .ok (advance_suffix c _)
    · exact .ok (advance_suffix c _)

/-! ## Values -/

/-- A cursor within a text, before which as many brackets as the depth have been passed over. -/
structure Within (cs : List Char) (depth : Nat) (c : Cursor) : Prop where
  suffix : c.rest <:+ cs
  opened : depth + openings c.rest ≤ openings cs

namespace Within

theorem of_suffix (h : Within cs depth c) (hc : c'.rest <:+ c.rest) : Within cs depth c' :=
  ⟨hc.trans h.suffix, (Nat.add_le_add_left (hc.sublist.countP_le) depth).trans h.opened⟩

theorem enter (h : Within cs depth c) {bracket : Char} {rest : List Char}
    (hrest : c.rest = bracket :: rest) (hbracket : bracket = '[' ∨ bracket = '{') :
    Within cs (depth + 1) (c.advance 1) := by
  refine ⟨(advance_suffix c 1).trans h.suffix, ?_⟩
  have hopened := h.opened
  have hcount : openings c.rest = openings (c.advance 1).rest + 1 := by
    rw [Cursor.advance, hrest]
    rcases hbracket with rfl | rfl <;> simp [openings]
  omega

theorem lt_openings (h : Within cs (depth + 1) c) (hdepth : (depth == maxDepth) = true) :
    maxDepth < openings cs := by
  have hopened := h.opened
  rw [beq_iff_eq.mp hdepth] at hopened
  omega

end Within

structure Sound (cs : List Char) (fuel : Nat) : Prop where
  value : ∀ depth c, Within cs depth c → Reads cs c (readValue fuel depth c)
  items : ∀ depth c done, Within cs depth c → Reads cs c (readItems fuel depth c done)
  entries : ∀ depth c done, Within cs depth c → Reads cs c (readEntries fuel depth c done)

namespace Sound

variable {fuel : Nat}

theorem value_succ (ih : Sound cs fuel) (h : Within cs depth c) :
    Reads cs c (readValue (fuel + 1) depth c) := by
  have hback : (c.advance 1).skipSpace.rest <:+ c.rest :=
    (skipSpace_suffix _).trans (advance_suffix c 1)
  unfold readValue
  split
  · have htext := reads_readText cs c.index fuel (c.advance 1) []
    split
    · rename_i hread
      exact .ok ((htext.advances hread).trans (advance_suffix c 1))
    · rename_i hread
      exact htext.error hread
  · rename_i rest hrest
    have hwithin := (h.enter hrest (.inl rfl)).of_suffix (skipSpace_suffix _)
    dsimp only
    split_ifs with hdepth
    · exact .limit (hwithin.lt_openings hdepth)
    · exact .ok ((advance_suffix _ 1).trans hback)
    · exact (ih.items _ _ _ hwithin).of_suffix hback
  · rename_i rest hrest
    have hwithin := (h.enter hrest (.inr rfl)).of_suffix (skipSpace_suffix _)
    dsimp only
    split_ifs with hdepth
    · exact .limit (hwithin.lt_openings hdepth)
    · exact .ok ((advance_suffix _ 1).trans hback)
    · exact (ih.entries _ _ _ hwithin).of_suffix hback
  · split
    · exact .ok (advance_suffix c _)
    · exact reads_readNumber h.suffix

theorem items_succ (ih : Sound cs fuel) (h : Within cs depth c) (done : List Value) :
    Reads cs c (readItems (fuel + 1) depth c done) := by
  have hvalue := ih.value depth c h
  unfold readItems
  cases hread : readValue fuel depth c with
  | error e => exact hvalue.error hread
  | ok read =>
    obtain ⟨v, c₁⟩ := read
    have hback := (skipSpace_suffix c₁).trans (hvalue.advances hread)
    dsimp only
    split
    · exact .ok ((advance_suffix _ 1).trans hback)
    · have hnext := (skipSpace_suffix _).trans ((advance_suffix c₁.skipSpace 1).trans hback)
      exact (ih.items _ _ _ (h.of_suffix hnext)).of_suffix hnext
    · exact .malformed

theorem entries_succ (ih : Sound cs fuel) (h : Within cs depth c) (done : List (Value × Value)) :
    Reads cs c (readEntries (fuel + 1) depth c done) := by
  have hkey := reads_readText cs c.index fuel (c.advance 1) []
  unfold readEntries
  split
  · exact .malformed
  · cases hread : readText c.index fuel (c.advance 1) [] with
    | error e => exact hkey.error hread
    | ok read =>
      obtain ⟨key, c₁⟩ := read
      have hback := (skipSpace_suffix c₁).trans ((hkey.advances hread).trans (advance_suffix c 1))
      dsimp only
      split
      · exact .malformed
      · have hcolon := (skipSpace_suffix _).trans ((advance_suffix c₁.skipSpace 1).trans hback)
        have hvalue := ih.value depth _ (h.of_suffix hcolon)
        cases hread' : readValue fuel depth (c₁.skipSpace.advance 1).skipSpace with
        | error e => exact hvalue.error hread'
        | ok read =>
          obtain ⟨v, c₂⟩ := read
          have hback' := (skipSpace_suffix c₂).trans ((hvalue.advances hread').trans hcolon)
          dsimp only
          split
          · exact .ok ((advance_suffix _ 1).trans hback')
          · have hnext :=
              (skipSpace_suffix _).trans ((advance_suffix c₂.skipSpace 1).trans hback')
            exact (ih.entries _ _ _ (h.of_suffix hnext)).of_suffix hnext
          · exact .malformed

end Sound

theorem sound (cs : List Char) (fuel : Nat) : Sound cs fuel := by
  induction fuel with
  | zero =>
    exact ⟨fun _ _ _ => .malformed, fun _ _ _ _ => .malformed, fun _ _ _ _ => .malformed⟩
  | succ fuel ih =>
    exact ⟨fun _ _ => ih.value_succ, fun _ _ done h => ih.items_succ h done,
      fun _ _ done h => ih.entries_succ h done⟩

/-- Reading a text meets a limit only where the text exceeds it. -/
theorem exceeds_of_read {l : Limit} (h : read cs = .error (.limit l)) : Exceeds cs l := by
  unfold read at h
  dsimp only at h
  split_ifs at h
  · cases h
  · have hstart : Within cs 0 (Cursor.skipSpace ⟨cs, 0⟩) :=
      Within.of_suffix ⟨List.suffix_rfl, by simp⟩ (skipSpace_suffix _)
    have hvalue := (sound cs (2 * cs.length + 2)).value 0 _ hstart
    split at h
    · rename_i e hread
      cases h
      exact hvalue.limited hread
    · split_ifs at h
      cases h

end SheetFill.Json
