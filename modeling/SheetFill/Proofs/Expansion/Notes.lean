import SheetFill.Expansion
import SheetFill.Proofs.Steps

/-!
# How a step of an expansion ends

Beside the sheet an expansion keeps what is left of the streams, the edits so far and the edit that
will be refused. A step ends with these notes and a sheet, with an answer or with a failure.
-/
namespace SheetFill

/-- What an expansion keeps beside the sheet. -/
structure Notes where
  streams : Streams
  edits : List Edit
  refusal : Option (EditKind × Nat)

def Run.notes (run : Run) : Notes := ⟨run.streams, run.edits, run.refusal⟩

namespace Notes

def on (n : Notes) (s : Sheet) : Run := ⟨s, n.streams, n.edits, n.refusal⟩

/-- The notes after an edit was asked for, and whether it is refused. -/
def edit (n : Notes) (e : Edit) : Notes × Bool :=
  let noted := { n with edits := n.edits ++ [e] }
  match n.refusal with
  | none => (noted, false)
  | some (kind, count) =>
    if kind ≠ e.kind then (noted, false)
    else if count ≤ 1 then ({ noted with refusal := none }, true)
    else ({ noted with refusal := some (kind, count - 1) }, false)

/-- The notes after an edit was asked for, and why it was not carried out: it was refused, or else
there was an obstacle. -/
def attempt (n : Notes) (e : Edit) (obstacle : Option Failure) : Notes × Option Failure :=
  ((n.edit e).1, if (n.edit e).2 then some (.refused e.kind) else obstacle)

def leave (n : Notes) (source : Option Nat) (rest : List StreamItem) : Notes :=
  match source with
  | none => n
  | some id => { n with streams := n.streams.set id rest }

variable {n n' : Notes} {e : Edit} {obstacle f? : Option Failure}

theorem edit_fst (n : Notes) (e : Edit) :
    (n.edit e).1.streams = n.streams ∧ (n.edit e).1.edits = n.edits ++ [e] := by
  unfold Notes.edit
  split
  · exact ⟨rfl, rfl⟩
  · split_ifs <;> exact ⟨rfl, rfl⟩

theorem streams_attempt (h : n.attempt e obstacle = (n', f?)) : n'.streams = n.streams := by
  rw [← (Prod.mk.inj h).1]
  exact (n.edit_fst e).1

theorem edits_attempt (h : n.attempt e obstacle = (n', f?)) : n'.edits = n.edits ++ [e] := by
  rw [← (Prod.mk.inj h).1]
  exact (n.edit_fst e).2

theorem attempt_eq_none (h : n.attempt e obstacle = (n', none)) : obstacle = none := by
  have hf := (Prod.mk.inj h).2
  split_ifs at hf
  exact hf

theorem attempt_eq_some {f : Failure} (h : n.attempt e obstacle = (n', some f)) :
    f = .refused e.kind ∨ obstacle = some f := by
  have hf := (Prod.mk.inj h).2
  split_ifs at hf
  · exact .inl (Option.some.inj hf).symm
  · exact .inr hf

theorem attempt_of_refusal (hn : n.refusal = none) (e : Edit) :
    ∃ n', n.attempt e none = (n', none) ∧ n'.refusal = none :=
  ⟨{ n with edits := n.edits ++ [e] }, by simp [Notes.attempt, Notes.edit, hn], hn⟩

theorem refusal_leave (n : Notes) (source : Option Nat) (rest : List StreamItem) :
    (n.leave source rest).refusal = n.refusal := by
  cases source <;> rfl

end Notes

theorem Run.on_notes (run : Run) : run.notes.on run.sheet = run := rfl

namespace Expansion

variable {α β : Type}

/-- A step ended with the notes `n` and a sheet with the property `P`, and with the answer `a`
unless it failed. -/
def Ends (r : EStateM.Result Failure Run α) (failure? : Option Failure) (a : α) (n : Notes)
    (P : Sheet → Prop) : Prop :=
  ∃ s, P s ∧ r = match failure? with
    | none => .ok a (n.on s)
    | some e => .error e (n.on s)

namespace Ends

variable {x : Step α} {f : α → Step β} {run : Run} {a : α} {b : β} {n n' : Notes} {e : Failure}
  {e? : Option Failure} {P Q : Sheet → Prop}

theorem ok {s : Sheet} (h : P s) : Ends (.ok a (n.on s)) none a n P := ⟨s, h, rfl⟩

theorem error {s : Sheet} (h : P s) : Ends (.error e (n.on s)) (some e) a n P := ⟨s, h, rfl⟩

theorem bind (h : Ends (x run) none a n P) (hf : ∀ s, P s → Ends (f a (n.on s)) e? b n' Q) :
    Ends ((x >>= f) run) e? b n' Q := by
  obtain ⟨s, hs, hx⟩ := h
  rw [bind_apply, hx]
  exact hf s hs

theorem bind_error (h : Ends (x run) (some e) a n P) : Ends ((x >>= f) run) (some e) b n P := by
  obtain ⟨s, hs, hx⟩ := h
  exact ⟨s, hs, by rw [bind_apply, hx]⟩

theorem bind_pure (h : Ends (x run) e? a n P) (b : β) :
    Ends ((x >>= fun _ => pure b) run) e? b n P := by
  obtain ⟨s, hs, hx⟩ := h
  refine ⟨s, hs, ?_⟩
  rw [bind_apply, hx]
  cases e? <;> rfl

theorem mono (h : Ends (x run) e? a n P) (hPQ : ∀ s, P s → Q s) : Ends (x run) e? a n Q := by
  obtain ⟨s, hs, hx⟩ := h
  exact ⟨s, hPQ s hs, hx⟩

end Ends

theorem edit_apply (e : Edit) (action : SheetAction Unit) (run : Run) :
    Expansion.edit e action run =
      let noted := { run with edits := run.edits ++ [e] }
      match run.refusal with
      | none => onSheet action noted
      | some (kind, count) =>
        if kind != e.kind then onSheet action noted
        else if count ≤ 1 then .error (.refused kind) { noted with refusal := none }
        else onSheet action { noted with refusal := some (kind, count - 1) } := by
  obtain ⟨s, streams, edits, refusal⟩ := run
  rcases refusal with _ | ⟨kind, count⟩
  · rfl
  · show (if kind != e.kind then onSheet action else if count ≤ 1 then _ else _ : Step Unit) _ = _
    dsimp only
    split
    · rfl
    · split <;> rfl

theorem edit_eq (e : Edit) (action : SheetAction Unit) (n : Notes) (s : Sheet) :
    Expansion.edit e action (n.on s) =
      if (n.edit e).2 then .error (.refused e.kind) ((n.edit e).1.on s)
      else onSheet action ((n.edit e).1.on s) := by
  obtain ⟨streams, edits, refusal⟩ := n
  rw [edit_apply]
  rcases refusal with _ | ⟨kind, count⟩
  · rfl
  · by_cases hk : kind = e.kind
    · subst hk
      by_cases hc : count ≤ 1 <;> simp [Notes.edit, Notes.on, hc]
    · simp [Notes.edit, Notes.on, hk]

variable {e : Edit} {action : SheetAction Unit} {n n' : Notes} {s : Sheet} {P : Sheet → Prop}
  {obstacle : Option Failure} {f : Failure} {run run' : Run}

theorem onSheet_eq_ok {action : SheetAction α} {a : α} : onSheet action run = .ok a run' ↔
    ∃ s, action run.sheet = .ok a s ∧ run' = { run with sheet := s } := by
  unfold onSheet
  cases action run.sheet with
  | ok b s => simp [eq_comm]
  | error e s => simp

theorem edit_eq_ok (h : Expansion.edit e action run = .ok () run') :
    action run.sheet = .ok () run'.sheet ∧ run'.edits = run.edits ++ [e] := by
  rw [← run.on_notes, edit_eq] at h
  split_ifs at h
  obtain ⟨s, hs, rfl⟩ := onSheet_eq_ok.mp h
  exact ⟨hs, (run.notes.edit_fst e).2⟩

theorem ends_edit (h : n.attempt e obstacle = (n', none))
    (haction : obstacle = none → ∃ s', P s' ∧ action s = .ok () s') :
    Ends (Expansion.edit e action (n.on s)) none () n' P := by
  obtain ⟨rfl, hf⟩ := Prod.mk.inj h
  split_ifs at hf with hr
  obtain ⟨s', hs', ha⟩ := haction hf
  refine ⟨s', hs', ?_⟩
  rw [edit_eq, if_neg hr]
  simp [onSheet, Notes.on, ha]

theorem ends_edit_error (h : n.attempt e obstacle = (n', some f)) (hs : P s)
    (haction : ∀ f, obstacle = some f → ∃ e, f = .sheet e ∧ action s = .error e s) :
    Ends (Expansion.edit e action (n.on s)) (some f) () n' P := by
  obtain ⟨rfl, hf⟩ := Prod.mk.inj h
  refine ⟨s, hs, ?_⟩
  rw [edit_eq]
  split_ifs at hf ⊢ with hr
  · rw [← Option.some.inj hf]
  · obtain ⟨e, rfl, ha⟩ := haction f hf
    simp [onSheet, Notes.on, ha]

end Expansion
end SheetFill
