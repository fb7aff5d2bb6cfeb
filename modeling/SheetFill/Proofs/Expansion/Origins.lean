import SheetFill.Proofs.Expansion.Parts
import SheetFill.Proofs.Sheet.Covering

/-!
# Where the rows of a filled sheet come from

Each row of a filled sheet was drawn from a row of the template: a generated row from its template
row, any other row from itself. It is empty in all columns in which that row was empty.
-/
namespace SheetFill

/-- A line is empty in all columns in which another one is. -/
def Line.EmptyLike (line line' : Line) : Prop :=
  ∀ i, (line.getD i Cell.blank).value = .null → (line'.getD i Cell.blank).value = .null

/-- For each line that a part becomes, how many lines stand above the one that it is drawn from, if
`above` lines stand above the part. -/
def Part.origins (above : Nat) : Part → List Nat
  | .plain _ => [above]
  | .kept _ template? => above :: template?.toList.map fun _ => above + 1
  | .expanded _ template? items =>
    template?.toList.flatMap fun _ => List.replicate items.length (above + 1)

def Lines.origins : (above : Nat) → List Part → List Nat
  | _, [] => []
  | above, part :: rest => part.origins above ++ origins (above + part.source.length) rest

/-- The row of the template that a row is drawn from when the sheet of a run is filled. -/
def Run.origin? (run : Run) (record : Record) (row : Nat) : Option Nat :=
  (Lines.origins 0 (Lines.parts record run.streams run.sheet.lines))[row - 1]?.map (· + 1)

namespace Line

variable {record : Record}

theorem EmptyLike.refl (line : Line) : line.EmptyLike line := fun _ h => h

theorem emptyLike_of_filled {line line' : Line} (h : line.Filled record line') :
    line.EmptyLike line' := by
  induction h with
  | nil => exact .refl []
  | @cell c c' line line' hc hf h ih =>
    rintro (_ | i) hi
    · -- what holds nothing names no field, so that nothing was filled in
      rw [show c.value = .null from hi] at hf
      obtain ⟨rfl, -⟩ := Prod.mk.inj hf
      exact hi
    · exact ih i hi
  | block hc => exact .refl _

theorem emptyLike_drawn (template : Line) (child : Record) :
    template.EmptyLike (template.drawn child) := by
  intro i hi
  by_cases hlen : i < template.length
  · have hnull : template[i].value = .null := by simpa [hlen] using hi
    have hdrawn : (template[i].drawn child).value = .null := by
      rw [Cell.drawn, hnull]
      rfl
    simpa [drawn, hlen] using hdrawn
  · simp [drawn, hlen, Cell.blank]

end Line

theorem Part.emptyLike_of_becomes {record : Record} {part : Part} {out : List Line}
    (h : part.Becomes record out) (top below : List Line) :
    List.Forall₂ (fun o line =>
        Line.EmptyLike ((top ++ part.source ++ below).getD o []) line)
      (part.origins top.length) out := by
  cases h with
  | plain h =>
    refine .cons ?_ .nil
    simpa [source] using Line.emptyLike_of_filled h
  | @kept marker marker' template? h =>
    refine .cons (by simpa [source] using Line.emptyLike_of_filled h) ?_
    cases template? with
    | none => exact .nil
    | some template =>
      exact .cons (by simpa [source] using Line.EmptyLike.refl template) .nil
  | @expanded marker template? items =>
    cases template? with
    | none => exact .nil
    | some template =>
      simp only [origins, Option.toList_some, List.flatMap_singleton, Lines.children]
      induction items with
      | nil => exact .nil
      | cons item items ih =>
        exact .cons (by simpa [source] using Line.emptyLike_drawn template (.ofValue item)) ih

namespace Lines

variable {record : Record}

theorem emptyLike_of_becomes {ps : List Part} {outs : List (List Line)}
    (h : List.Forall₂ (Part.Becomes record) ps outs) (top : List Line) :
    List.Forall₂ (fun o line =>
        Line.EmptyLike ((top ++ ps.flatMap Part.source).getD o []) line)
      (origins top.length ps) outs.flatten := by
  induction h generalizing top with
  | nil => exact .nil
  | @cons part out ps outs hpart hrest ih =>
    rw [origins, List.flatten_cons, List.flatMap_cons, ← List.append_assoc]
    refine List.rel_append (Part.emptyLike_of_becomes hpart top _) ?_
    rw [← List.length_append]
    exact ih (top ++ part.source)

end Lines

/-- A filled sheet is empty where the template was empty in the row that the row is drawn from. -/
theorem Run.valueAt_fill_null (run : Run) (record : Record) {col row : Nat}
    (h : (run.fill record).failure? = none)
    (hnull : ∀ o, run.origin? record row = some o → run.sheet.valueAt col o = .null) :
    (run.fill record).run.sheet.valueAt col row = .null := by
  by_cases hzero : col = 0 ∨ row = 0
  · exact Sheet.valueAt_eq_null _ hzero
  · obtain ⟨i, rfl⟩ := Nat.exists_eq_succ_of_ne_zero (not_or.mp hzero).1
    obtain ⟨j, rfl⟩ := Nat.exists_eq_succ_of_ne_zero (not_or.mp hzero).2
    obtain ⟨outs, houts, hr, hk⟩ := run.becomes_fill record h
    rw [Sheet.valueAt_succ, hr.lines]
    split_ifs
    · rw [← Sheet.valueAt_succ]
      rfl
    · by_cases hj : j < outs.flatten.length
      · have hlike := Lines.emptyLike_of_becomes houts []
        rw [Lines.flatMap_source_parts, List.forall₂_iff_get] at hlike
        obtain ⟨hlen, hlike⟩ := hlike
        have hj' : j < (Lines.origins 0
            (Lines.parts record run.streams run.sheet.lines)).length := by
          rw [← List.length_nil, hlen]
          exact hj
        have hempty := hlike j hj' hj i
        rw [List.getD_eq_getElem _ _ hj]
        refine hempty ?_
        rw [List.nil_append, ← Sheet.valueAt_succ]
        exact hnull _ (by simp [Run.origin?, hj'])
      · rw [List.getD_eq_default _ _ (Nat.le_of_not_lt hj)]
        rfl

end SheetFill
