import Mathlib.Tactic

/-!
# Steps on a state

A step gives an answer or an error, and in either case the state that it came to. What a chain of
steps does is told from what each of them does.
-/
namespace SheetFill

variable {ε σ α β : Type} {x : EStateM ε σ α} {f : α → EStateM ε σ β} {s s' : σ} {a : α} {b : β}
  {e : ε}

theorem bind_apply (x : EStateM ε σ α) (f : α → EStateM ε σ β) (s : σ) : (x >>= f) s =
    match x s with
    | .ok a s => f a s
    | .error e s => .error e s := by
  show EStateM.bind x f s = _
  unfold EStateM.bind
  cases x s <;> rfl

theorem bind_of_ok (h : x s = .ok a s') (f : α → EStateM ε σ β) : (x >>= f) s = f a s' := by
  rw [bind_apply, h]

theorem bind_of_error (h : x s = .error e s') (f : α → EStateM ε σ β) :
    (x >>= f) s = .error e s' := by
  rw [bind_apply, h]

theorem bind_eq_ok :
    (x >>= f) s = .ok b s' ↔ ∃ a s₁, x s = .ok a s₁ ∧ f a s₁ = .ok b s' := by
  cases hx : x s with
  | ok a s₁ => simp [bind_of_ok hx]
  | error e s₁ => simp [bind_of_error hx]

theorem get_bind (f : σ → EStateM ε σ β) : (get >>= f) s = f s s := rfl

theorem modify_bind (g : σ → σ) (f : PUnit → EStateM ε σ β) : (modify g >>= f) s = f ⟨⟩ (g s) := rfl

theorem set_bind (s₁ : σ) (f : PUnit → EStateM ε σ β) : (set s₁ >>= f) s = f ⟨⟩ s₁ := rfl

theorem throw_ne_ok : (throw e : EStateM ε σ α) s ≠ .ok a s' := by
  intro h
  cases h

/-- Whatever a step comes to, its answer or its error and the state it leaves are as they should
be. -/
structure Meets (x : EStateM ε σ α) (s : σ) (answers : α → σ → Prop) (fails : ε → σ → Prop) :
    Prop where
  of_ok : ∀ {a s'}, x s = .ok a s' → answers a s'
  of_error : ∀ {e s'}, x s = .error e s' → fails e s'

namespace Meets

variable {answers answers' : α → σ → Prop} {after : β → σ → Prop} {fails fails' : ε → σ → Prop}

theorem ok (h : x s = .ok a s') (ha : answers a s') : Meets x s answers fails := by
  refine ⟨fun ho => ?_, fun he => ?_⟩
  · cases h.symm.trans ho
    exact ha
  · cases h.symm.trans he

theorem error (h : x s = .error e s') (he : fails e s') : Meets x s answers fails := by
  refine ⟨fun ho => ?_, fun he' => ?_⟩
  · cases h.symm.trans ho
  · cases h.symm.trans he'
    exact he

theorem pure (h : answers a s) : Meets (Pure.pure a) s answers fails := ok rfl h

theorem throw (h : fails e s) : Meets (MonadExcept.throw e) s answers fails := error rfl h

theorem bind (hx : Meets x s answers fails)
    (hf : ∀ a s', answers a s' → Meets (f a) s' after fails) : Meets (x >>= f) s after fails := by
  cases h : x s with
  | ok a s₁ =>
    have ha := hf a s₁ (hx.of_ok h)
    exact ⟨fun ho => ha.of_ok (bind_of_ok h f ▸ ho), fun he => ha.of_error (bind_of_ok h f ▸ he)⟩
  | error e s₁ => exact error (bind_of_error h f) (hx.of_error h)

theorem get_bind {f : σ → EStateM ε σ β} (h : Meets (f s) s after fails) :
    Meets (get >>= f) s after fails :=
  ⟨h.of_ok, h.of_error⟩

theorem modify_bind {g : σ → σ} {f : PUnit → EStateM ε σ β} (h : Meets (f ⟨⟩) (g s) after fails) :
    Meets (modify g >>= f) s after fails :=
  ⟨h.of_ok, h.of_error⟩

theorem mono (hx : Meets x s answers fails) (hanswers : ∀ a s', answers a s' → answers' a s')
    (hfails : ∀ e s', fails e s' → fails' e s') : Meets x s answers' fails' :=
  ⟨fun ho => hanswers _ _ (hx.of_ok ho), fun he => hfails _ _ (hx.of_error he)⟩

end Meets

/-- A step that keeps what holds of the state, whatever it comes to, and fails only in some ways. -/
def Keeps (holds : σ → Prop) (fails : ε → Prop) (x : EStateM ε σ α) : Prop :=
  ∀ s, holds s → Meets x s (fun _ s' => holds s') (fun e s' => holds s' ∧ fails e)

namespace Keeps

variable {holds : σ → Prop} {fails : ε → Prop}

theorem pure (a : α) : Keeps holds fails (Pure.pure a : EStateM ε σ α) := fun _ hs => Meets.pure hs

theorem throw (h : fails e) : Keeps holds fails (MonadExcept.throw e : EStateM ε σ α) :=
  fun _ hs => Meets.throw ⟨hs, h⟩

theorem bind (hx : Keeps holds fails x) (hf : ∀ a, Keeps holds fails (f a)) :
    Keeps holds fails (x >>= f) :=
  fun s hs => (hx s hs).bind fun a s' => hf a s'

theorem get_bind {f : σ → EStateM ε σ β} (h : ∀ s, holds s → Keeps holds fails (f s)) :
    Keeps holds fails (get >>= f) :=
  fun s hs => Meets.get_bind (h s hs s hs)

theorem modify {g : σ → σ} (h : ∀ s, holds s → holds (g s)) :
    Keeps holds fails (modify g : EStateM ε σ PUnit) :=
  fun s hs => Meets.ok rfl (h s hs)

theorem set (h : holds s') : Keeps holds fails (set s' : EStateM ε σ PUnit) :=
  fun _ _ => Meets.ok rfl h

theorem forM {f : α → EStateM ε σ PUnit} {as : List α} (h : ∀ a, Keeps holds fails (f a)) :
    Keeps holds fails (as.forM f) := by
  induction as with
  | nil => exact .pure _
  | cons a as ih => exact (h a).bind fun _ => ih

theorem mapM {as : List α} (h : ∀ a, Keeps holds fails (f a)) : Keeps holds fails (as.mapM f) := by
  induction as with
  | nil => exact .pure _
  | cons a as ih =>
    rw [List.mapM_cons]
    exact (h a).bind fun _ => ih.bind fun _ => .pure _

end Keeps

end SheetFill
