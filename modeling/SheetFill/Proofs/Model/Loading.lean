import SheetFill.Model
import SheetFill.Proofs.FileTree.Growth
import SheetFill.Proofs.Json.Limits
import SheetFill.Proofs.Yaml.Building

/-!
# What loading a model comes to

A file that can be read holds a model or there is a problem with it, which is reported of its path.
There is a third outcome only where a JSON text goes beyond a limit, or where YAML octets that are
no malformed text have no value.
-/
namespace SheetFill.Model

variable {files : Files} {path : String} {octets : List UInt8} {e : Error}
  {model : List (Value × Value)}

/-- Why octets that are read under a path neither hold a model nor make a problem that is
reported. -/
inductive Escapes (path : String) (octets : List UInt8) : Error → Prop
  | json {cs : List Char} {l : Json.Limit}
      (hformat : Format.ofExtension? (Text.lower (Path.extension path)) = some .json)
      (hdecode : Text.Utf8.decode octets = .ok cs)
      (hl : Json.Exceeds (Text.unifyNewlines '\r' '\n' cs) l) : Escapes path octets (.limit l)
  | yaml {e : Yaml.Error}
      (hformat : Format.ofExtension? (Text.lower (Path.extension path)) = some .yaml)
      (he : Yaml.Unread octets e) (hmalformed : e ≠ .malformed) (hencoding : ∀ f, e ≠ .encoding f) :
      Escapes path octets (.yaml e)

theorem readJson_eq_error (h : readJson path octets = .error e) :
    (∃ message, e = .problem path (.unreadable message)) ∨
      ∃ cs l, e = .limit l ∧ Text.Utf8.decode octets = .ok cs ∧
        Json.Exceeds (Text.unifyNewlines '\r' '\n' cs) l := by
  unfold readJson at h
  split at h
  · cases h
    exact .inl ⟨_, rfl⟩
  · rename_i cs hdecode
    dsimp only at h
    split at h
    · cases h
    · rename_i l hread
      cases h
      exact .inr ⟨cs, l, rfl, hdecode, Json.exceeds_of_read hread⟩
    · cases h
      exact .inl ⟨_, rfl⟩

theorem readYaml_eq_error (h : readYaml path octets = .error e) :
    (∃ message, e = .problem path (.unreadable message)) ∨
      ∃ e', e = .yaml e' ∧ Yaml.Unread octets e' ∧ e' ≠ .malformed ∧ ∀ f, e' ≠ .encoding f := by
  unfold readYaml at h
  split at h
  · cases h
  · cases h
    exact .inl ⟨_, rfl⟩
  · cases h
    exact .inl ⟨_, rfl⟩
  · rename_i e' hmalformed hencoding hread
    cases h
    have hne : e' ≠ .malformed := fun he => hmalformed he
    have hne' : ∀ f, e' ≠ .encoding f := fun f he => hencoding f he
    rcases Yaml.unread_of_read hread with he | ⟨f, he⟩ | hunread
    · exact absurd he hne
    · exact absurd he (hne' f)
    · exact .inr ⟨e', rfl, hunread, hne, hne'⟩

/-- A file that can be read holds a model, or there is a problem with it, or its reading stops at
what cannot be represented. -/
theorem load_of_read {content : Content} (h : files.read path = .ok content) :
    (∃ model, load files path = .ok model) ∨
    (∃ p, p ≠ .notFound ∧ load files path = .error (.problem path p)) ∨
    ∃ e, load files path = .error e ∧ Escapes path content.octets e := by
  unfold load
  rw [if_neg (by simp [FileTree.contains_of_read h]), h]
  dsimp only
  cases hformat : Format.ofExtension? (Text.lower (Path.extension path)) with
  | none => exact .inr (.inl ⟨.unsupported _, by simp, rfl⟩)
  | some format =>
    cases format with
    | json =>
      dsimp only
      cases hvalue : readJson path content.octets with
      | error e =>
        rcases readJson_eq_error hvalue with ⟨message, rfl⟩ | ⟨cs, l, rfl, hdecode, hl⟩
        · exact .inr (.inl ⟨.unreadable message, by simp, rfl⟩)
        · exact .inr (.inr ⟨.limit l, rfl, .json hformat hdecode hl⟩)
      | ok v =>
        dsimp only
        split
        · exact .inl ⟨_, rfl⟩
        · exact .inr (.inl ⟨.noMapping _, by simp, rfl⟩)
    | yaml =>
      dsimp only
      cases hvalue : readYaml path content.octets with
      | error e =>
        rcases readYaml_eq_error hvalue with
          ⟨message, rfl⟩ | ⟨e', rfl, he, hmalformed, hencoding⟩
        · exact .inr (.inl ⟨.unreadable message, by simp, rfl⟩)
        · exact .inr (.inr ⟨.yaml e', rfl, .yaml hformat he hmalformed hencoding⟩)
      | ok v =>
        dsimp only
        split
        · exact .inl ⟨_, rfl⟩
        · exact .inr (.inl ⟨.noMapping _, by simp, rfl⟩)

theorem path_of_problem {path' : String} {p : Problem}
    (h : load files path = .error (.problem path' p)) : path' = path := by
  cases hread : files.read path with
  | ok content =>
    rcases load_of_read hread with ⟨model, hok⟩ | ⟨p', -, hproblem⟩ | ⟨e, he, hescapes⟩
    · cases h.symm.trans hok
    · cases h.symm.trans hproblem
      rfl
    · cases h.symm.trans he
      cases hescapes
  | error e =>
    unfold load at h
    split_ifs at h
    · cases h
      rfl
    · rw [hread] at h
      cases h

theorem format_of_load (h : load files path = .ok model) :
    Format.ofExtension? (Text.lower (Path.extension path)) ≠ none := by
  intro hnone
  unfold load at h
  split_ifs at h
  cases hread : files.read path with
  | error e =>
    rw [hread] at h
    cases h
  | ok content =>
    rw [hread] at h
    dsimp only at h
    rw [hnone] at h
    cases h

end SheetFill.Model
