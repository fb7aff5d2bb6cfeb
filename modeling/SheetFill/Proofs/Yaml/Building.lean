import SheetFill.Yaml.Value
import SheetFill.Proofs.Steps

/-!
# Values that cannot be built

Where a document has no value although it is no malformed one, the text of one of its scalars is
refused under a tag, or a mapping that should give a text has none. Taking in the entries of others
changes no text and no tag that a text could be refused under, so that this is told from the
document as it was composed.
-/
namespace SheetFill.Yaml

theorem exists_of_bind_eq_ok {α β : Type} {x : Except BuildError α} {f : α → Except BuildError β}
    {b : β} (h : x >>= f = .ok b) : ∃ a, x = .ok a ∧ f a = .ok b := by
  cases x with
  | error e => cases h
  | ok a => exact ⟨a, rfl, h⟩

theorem of_bind_eq_error {α β : Type} {x : Except BuildError α} {f : α → Except BuildError β}
    {e : BuildError} (h : x >>= f = .error e) : x = .error e ∨ ∃ a, x = .ok a ∧ f a = .error e := by
  cases x with
  | error e' =>
    cases h
    exact .inl rfl
  | ok a => exact .inr ⟨a, rfl, h⟩

/-! ## Nodes that are alike -/

def Node.text? : Node → Option Text
  | .scalar _ text => some text
  | _ => none

/-- A node that is as another but for its entries; the tag of a default entry may be that of a
text. -/
structure Node.Alike (a b : Node) : Prop where
  text : b.text? = a.text?
  isMapping : b.isMapping = a.isMapping
  tag : b.tag = a.tag ∨ a.tag = .value ∧ b.tag = .text

namespace Node.Alike

variable {a b c : Node}

theorem refl (a : Node) : Alike a a := ⟨rfl, rfl, .inl rfl⟩

theorem trans (hab : Alike a b) (hbc : Alike b c) : Alike a c := by
  refine ⟨hbc.text.trans hab.text, hbc.isMapping.trans hab.isMapping, ?_⟩
  rcases hbc.tag with h | ⟨hvalue, htext⟩
  · rw [h]
    exact hab.tag
  · rcases hab.tag with h | ⟨-, h⟩
    · exact .inr ⟨h ▸ hvalue, htext⟩
    · cases h.symm.trans hvalue

end Node.Alike

def Graph.Alike (g g' : Graph) : Prop := ∀ n, (g.node n).Alike (g'.node n)

namespace Graph

variable {g g' g'' : Graph} {n : Nat} {node : Node} {e : BuildError}

theorem Alike.refl (g : Graph) : g.Alike g := fun _ => .refl _

theorem Alike.trans (h : g.Alike g') (h' : g'.Alike g'') : g.Alike g'' :=
  fun n => (h n).trans (h' n)

theorem alike_put (h : (g.node n).Alike node) : g.Alike (g.put n node) := by
  intro k
  unfold Graph.node Graph.put at *
  by_cases hk : k = n
  · subst hk
    by_cases hlt : k < g.size
    · simpa [hlt] using h
    · simpa [hlt] using Node.Alike.refl _
  · have hput : (g.setIfInBounds n node).getD k .nothing = g.getD k .nothing := by
      simp [Array.getD_eq_getD_getElem?, Ne.symm hk]
    rw [hput]
    exact .refl _

theorem alike_keyAsText (g : Graph) (key : Nat) : g.Alike (g.keyAsText key) := by
  unfold keyAsText
  dsimp only
  split_ifs with hvalue
  · apply alike_put
    have htag := beq_iff_eq.mp hvalue
    cases hnode : g.node key <;> rw [hnode] at htag <;> exact ⟨rfl, rfl, .inr ⟨htag, rfl⟩⟩
  · exact .refl g

theorem alike_keysAsText (entries : List Entry) : ∀ g : Graph,
    g.Alike (entries.foldl (fun g (key, _) => g.keyAsText key) g) := by
  induction entries with
  | nil => exact .refl
  | cons entry entries ih => exact fun g => (alike_keyAsText g entry.1).trans (ih _)

theorem alike_prepend (g : Graph) (n : Nat) (merged : List Entry) :
    g.Alike (g.prepend n merged) := by
  unfold prepend
  split_ifs
  · exact .refl g
  · split
    · rename_i hnode
      apply alike_put
      rw [hnode]
      exact ⟨rfl, rfl, .inl rfl⟩
    · exact .refl g

theorem alike_takeMerge? {value : Nat} (h : g.takeMerge? n = some (value, g')) : g.Alike g' := by
  unfold takeMerge? at h
  split at h
  · rename_i hnode
    split at h
    · cases h
    · obtain ⟨entry, -, hentry⟩ := Option.map_eq_some_iff.mp h
      cases hentry
      apply alike_put
      rw [hnode]
      exact ⟨rfl, rfl, .inl rfl⟩
  · cases h

theorem alike_foldlM {α : Type} {f : Graph × α → Nat → Except BuildError (Graph × α)}
    (hf : ∀ s n s', f s n = .ok s' → s.1.Alike s'.1) (items : List Nat) :
    ∀ {s s' : Graph × α}, items.foldlM f s = .ok s' → s.1.Alike s'.1 := by
  induction items with
  | nil =>
    intro s s' h
    cases h
    exact .refl _
  | cons item items ih =>
    intro s s' h
    rw [List.foldlM_cons] at h
    obtain ⟨s₁, hs, hrest⟩ := exists_of_bind_eq_ok h
    exact (hf _ _ _ hs).trans (ih hrest)

/-- Taking in the entries of other mappings leaves all nodes alike. -/
theorem alike_flatten (fuel : Nat) : ∀ {n : Nat} {merged : List Entry} {g g' : Graph},
    flatten fuel n merged g = .ok g' → g.Alike g' := by
  induction fuel with
  | zero =>
    intro n merged g g' h
    cases h
  | succ fuel ih =>
    intro n merged g g' h
    unfold flatten at h
    split at h
    · cases h
      exact (alike_keysAsText _ g).trans (alike_prepend _ n merged)
    · rename_i value g₁ htake
      have htaken := alike_takeMerge? htake
      refine htaken.trans ?_
      dsimp only at h
      split at h
      · cases h
      · obtain ⟨g₂, hvalue, hrest⟩ := exists_of_bind_eq_ok h
        exact (ih hvalue).trans (ih hrest)
      · obtain ⟨⟨g₂, more⟩, hitems, hrest⟩ := exists_of_bind_eq_ok h
        refine Alike.trans (alike_foldlM (fun s item s' hs => ?_) _ hitems) (ih hrest)
        obtain ⟨g, later⟩ := s
        dsimp only at hs
        split_ifs at hs
        · cases hs
        · obtain ⟨g₃, hitem, hpure⟩ := exists_of_bind_eq_ok hs
          cases hpure
          exact ih hitem

theorem malformed_of_foldlM {α : Type} {f : α → Nat → Except BuildError α}
    (hf : ∀ s n, f s n = .error e → e = .malformed) (items : List Nat) :
    ∀ {s : α}, items.foldlM f s = .error e → e = .malformed := by
  induction items with
  | nil =>
    intro s h
    cases h
  | cons item items ih =>
    intro s h
    rw [List.foldlM_cons] at h
    rcases of_bind_eq_error h with hs | ⟨s₁, -, hrest⟩
    · exact hf _ _ hs
    · exact ih hrest

/-- Taking in the entries of other mappings fails over nothing but a rule. -/
theorem malformed_of_flatten (fuel : Nat) : ∀ {n : Nat} {merged : List Entry} {g : Graph},
    flatten fuel n merged g = .error e → e = .malformed := by
  induction fuel with
  | zero =>
    intro n merged g h
    cases h
    rfl
  | succ fuel ih =>
    intro n merged g h
    unfold flatten at h
    split at h
    · cases h
    · dsimp only at h
      split at h
      · cases h
        rfl
      · rcases of_bind_eq_error h with hvalue | ⟨g₂, -, hrest⟩
        · exact ih hvalue
        · exact ih hrest
      · rcases of_bind_eq_error h with hitems | ⟨⟨g₂, more⟩, -, hrest⟩
        · refine malformed_of_foldlM (fun s item hs => ?_) _ hitems
          obtain ⟨g, later⟩ := s
          dsimp only at hs
          split_ifs at hs
          · cases hs
            rfl
          · rcases of_bind_eq_error hs with hitem | ⟨g₃, -, hpure⟩
            · exact ih hitem
            · cases hpure
        · exact ih hrest

end Graph

/-! ## Texts that are refused -/

/-- The value of a text under a tag; `id` is the number that a number without a value goes by. -/
def Scalar.valueUnder (id : Nat) (text : Text) : Tag → Except BuildError Value
  | .null => .ok .null
  | .bool => .bool <$> Scalar.bool text.chars
  | .int => .int <$> Scalar.int text.chars
  | .float => Scalar.float id text.chars
  | .binary => .bytes <$> Scalar.binary text.chars
  | .timestamp => Scalar.timestamp text.chars
  | .text => .ok (.text text)
  | _ => .error .malformed

/-- Why a node of a graph has no value: its text is refused under its tag, where a mapping takes the
text of another node for its own; a mapping is no timestamp whatever its text; or the search for
the text of a mapping does not end. -/
inductive Graph.Refuses (g : Graph) : BuildError → Prop
  | text {n m text e} (hn : m = n ∨ (g.node n).isMapping = true)
      (hm : (g.node m).text? = some text)
      (he : Scalar.valueUnder (n + 1) text (g.node n).tag = .error e) : Refuses g e
  | noText {n} (hn : (g.node n).isMapping = true) (htag : (g.node n).tag = .timestamp) :
      Refuses g .noText
  | endless {n} (hn : (g.node n).isMapping = true)
      (htag : isCollectionTag (g.node n).tag = false) : Refuses g .tooDeep

namespace Graph

variable {g g' : Graph} {n : Nat} {e : BuildError}

theorem refuses_of_alike (h : g.Alike g') (he : g'.Refuses e) : g.Refuses e := by
  have htag {n : Nat} (hne : (g'.node n).tag ≠ .text) : (g.node n).tag = (g'.node n).tag := by
    rcases (h n).tag with htag | ⟨-, htext⟩
    · exact htag.symm
    · exact absurd htext hne
  cases he with
  | @text n m text e hn hm he =>
    have hne : (g'.node n).tag ≠ .text := by
      intro htext
      rw [htext] at he
      cases he
    exact .text (hn.imp_right ((h n).isMapping ▸ ·)) ((h m).text ▸ hm) ((htag hne).symm ▸ he)
  | @noText n hn hstamp =>
    exact .noText ((h n).isMapping ▸ hn) ((htag (by simp [hstamp])).trans hstamp)
  | @endless n hn hcollection =>
    refine .endless ((h n).isMapping ▸ hn) ?_
    rcases (h n).tag with htag | ⟨hvalue, -⟩
    · exact htag ▸ hcollection
    · rw [hvalue]
      rfl

theorem text_eq_ok {text : Text} (fuel : Nat) : ∀ {n : Nat}, g.text fuel n = .ok text →
    ∃ m, (g.node m).text? = some text ∧ (m = n ∨ (g.node n).isMapping = true) := by
  induction fuel with
  | zero =>
    intro n h
    cases h
  | succ fuel ih =>
    intro n h
    unfold Graph.text at h
    cases hnode : g.node n with
    | scalar tag text' =>
      rw [hnode] at h
      cases h
      exact ⟨n, by rw [hnode]; rfl, .inl rfl⟩
    | sequence tag items =>
      rw [hnode] at h
      cases h
    | mapping tag entries =>
      rw [hnode] at h
      dsimp only at h
      split at h
      · obtain ⟨m, hm, -⟩ := ih h
        exact ⟨m, hm, .inr rfl⟩
      · cases h

/-- The search for a text fails over a node that can have none, or it goes on within mappings. -/
theorem text_eq_error (fuel : Nat) : ∀ {n : Nat}, g.text fuel n = .error e →
    e = .malformed ∨ e = .tooDeep ∧ (0 < fuel → (g.node n).isMapping = true) := by
  induction fuel with
  | zero =>
    intro n h
    cases h
    exact .inr ⟨rfl, fun h => absurd h (Nat.lt_irrefl 0)⟩
  | succ fuel ih =>
    intro n h
    unfold Graph.text at h
    cases hnode : g.node n with
    | scalar tag text =>
      rw [hnode] at h
      cases h
    | sequence tag items =>
      rw [hnode] at h
      cases h
      exact .inl rfl
    | mapping tag entries =>
      rw [hnode] at h
      dsimp only at h
      split at h
      · exact (ih h).imp_right (And.imp_right fun _ _ => rfl)
      · cases h
        exact .inl rfl

theorem refuses_of_scalarValue (htag : isCollectionTag (g.node n).tag = false)
    (h : g.scalarValue n = .error e) : e = .malformed ∨ g.Refuses e := by
  unfold scalarValue at h
  cases htext : g.text (g.size + 1) n with
  | error e' =>
    rw [htext] at h
    cases h
    rcases text_eq_error _ htext with hmalformed | ⟨rfl, hmapping⟩
    · exact .inl hmalformed
    · exact .inr (.endless (hmapping (Nat.succ_pos _)) htag)
  | ok text =>
    rw [htext] at h
    obtain ⟨m, hm, hn⟩ := text_eq_ok _ htext
    have hrefused : Scalar.valueUnder (n + 1) text (g.node n).tag = .error e → g.Refuses e :=
      .text hn hm
    dsimp only [bind, Except.bind] at h
    cases hstamp : (g.node n).tag <;> rw [hstamp] at h hrefused
    case timestamp =>
      dsimp only at h
      split_ifs at h with hmapping
      · cases h
        exact .inr (.noText hmapping hstamp)
      · exact .inr (hrefused h)
    all_goals exact .inr (hrefused h)

end Graph

/-! ## Going through a document -/

namespace Survey

variable {g : Graph}

/-- A step that leaves the nodes alike those of the document, and that fails only over a rule or
over a text that is refused there. -/
abbrev Faithful (g : Graph) {α : Type} (x : Step α) : Prop :=
  Keeps (fun s : Survey => g.Alike s.nodes) (fun e => e = .malformed ∨ g.Refuses e) x

theorem faithful_note (n : Nat) (c : Content) : Faithful g (note n c) := .modify fun _ h => h

theorem faithful_meet (n : Nat) : Faithful g (meet n) := by
  refine .get_bind fun s hs => ?_
  split_ifs with hnew hcollection
  · exact (faithful_note n .unread).bind fun _ => .modify fun _ h => h
  · cases hv : s.nodes.scalarValue n with
    | ok v => exact faithful_note n (.scalar v)
    | error e =>
      refine .throw ?_
      have htag : isCollectionTag (s.nodes.node n).tag = false := by simpa using hcollection
      exact (s.nodes.refuses_of_scalarValue htag hv).imp_right (Graph.refuses_of_alike hs)
  · exact .pure _

theorem faithful_meetPair (e : Entry) : Faithful g (meetPair e) :=
  (faithful_meet e.1).bind fun _ => faithful_meet e.2

theorem faithful_pair (n : Nat) : Faithful g (pair n) := by
  refine .get_bind fun s _ => ?_
  split
  · exact (faithful_meetPair _).bind fun _ => .pure _
  · exact .throw (.inl rfl)

theorem faithful_entry (e : Entry) : Faithful g (entry e) := by
  refine (faithful_meet e.1).bind fun _ => .get_bind fun s _ => ?_
  split
  · exact (faithful_meet e.2).bind fun _ => .pure _
  · exact .throw (.inl rfl)

theorem faithful_entries (n : Nat) : Faithful g (entries n) := by
  refine .get_bind fun s hs => ?_
  cases hflatten : s.nodes.flatten (s.merges + 1) n [] with
  | error e => exact .throw (.inl (Graph.malformed_of_flatten _ hflatten))
  | ok nodes =>
    refine (Keeps.set ?_).bind fun _ => (Keeps.mapM faithful_entry).bind fun _ => .pure _
    exact hs.trans (Graph.alike_flatten _ hflatten)

theorem faithful_read (n : Nat) : Faithful g (read n) := by
  refine .get_bind fun s _ => ?_
  dsimp only
  split
  · exact (Keeps.forM faithful_meet).bind fun _ => faithful_note n _
  · exact (Keeps.mapM faithful_pair).bind fun _ => faithful_note n _
  · exact (Keeps.mapM faithful_pair).bind fun _ => faithful_note n _
  · exact (faithful_entries n).bind fun _ => faithful_note n _
  · exact (faithful_entries n).bind fun _ => faithful_note n _
  · exact .throw (.inl rfl)

theorem faithful_readLevels (fuel : Nat) : Faithful g (readLevels fuel) := by
  induction fuel with
  | zero => exact .pure _
  | succ fuel ih =>
    refine .get_bind fun s _ => ?_
    dsimp only
    split_ifs
    · exact Keeps.bind (.modify fun _ h => h) fun _ => (Keeps.forM faithful_read).bind fun _ => ih
    · exact .pure _

theorem faithful_readFrom (root : Nat) : Faithful g (readFrom root) :=
  (faithful_meet root).bind fun _ => .get_bind fun _ _ => faithful_readLevels _

theorem refuses_of_run {root : Nat} {e : BuildError} (h : run g root = .error e) :
    e = .malformed ∨ g.Refuses e := by
  unfold run at h
  split at h
  · cases h
  · rename_i e' s hread
    cases h
    exact ((faithful_readFrom (g := g) root _ (.refl g)).of_error hread).2

end Survey

theorem Document.refuses_of_value {d : Document} {e : BuildError} (h : d.value = .error e) :
    e = .malformed ∨ d.nodes.Refuses e := by
  unfold Document.value at h
  rcases of_bind_eq_error h with hrun | ⟨contents, -, hrest⟩
  · exact Survey.refuses_of_run hrun
  · dsimp only at hrest
    split at hrest <;> cases hrest

/-! ## Reading octets -/

/-- Why octets that are YAML all the same have no value: a token is beyond what can be represented,
collections are nested too deeply, or the document has a text that is refused. -/
inductive Unread (octets : List UInt8) : Error → Prop
  | token {input t} (hinput : Input.ofOctets octets = .ok input)
      (ht : (tokens input).2 = some t) : Unread octets (.ofToken t)
  | deep {input} (hinput : Input.ofOctets octets = .ok input)
      (hdeep : document? input = .error .tooDeep) : Unread octets (.build .tooDeep)
  | refused {input d e} (hinput : Input.ofOctets octets = .ok input)
      (hdocument : document? input = .ok (some d)) (he : d.nodes.Refuses e) :
      Unread octets (.build e)

theorem token_of_document? {input : Input} {t : TokenError}
    (h : document? input = .error (.token t)) : (tokens input).2 = some t := by
  unfold document? at h
  rcases htokens : tokens input with ⟨ts, failure?⟩
  rw [htokens] at h
  dsimp only at h
  split at h
  · split at h <;> cases h
    rfl
  · cases h
  · cases h
  · split at h <;> cases h
    rfl

theorem ofOctets_eq_error {octets : List UInt8} {t : TokenError}
    (h : Input.ofOctets octets = .error t) : t = .malformed ∨ ∃ f, t = .encoding f := by
  unfold Input.ofOctets at h
  dsimp only at h
  split at h
  · split_ifs at h <;> cases h
    · exact .inr ⟨_, rfl⟩
    · exact .inl rfl
  · split_ifs at h
    cases h
    exact .inl rfl

theorem unread_of_read {octets : List UInt8} {e : Error} (h : read octets = .error e) :
    e = .malformed ∨ (∃ f, e = .encoding f) ∨ Unread octets e := by
  unfold read at h
  cases hinput : Input.ofOctets octets with
  | error t =>
    rw [hinput] at h
    cases h
    rcases ofOctets_eq_error hinput with rfl | ⟨f, rfl⟩
    · exact .inl rfl
    · exact .inr (.inl ⟨f, rfl⟩)
  | ok input =>
    rw [hinput] at h
    dsimp only at h
    cases hdocument : document? input with
    | error e' =>
      rw [hdocument] at h
      cases h
      cases e' with
      | malformed => exact .inl rfl
      | token t => exact .inr (.inr (.token hinput (token_of_document? hdocument)))
      | tooDeep => exact .inr (.inr (.deep hinput hdocument))
    | ok d? =>
      rw [hdocument] at h
      cases d? with
      | none => cases h
      | some d =>
        dsimp only at h
        split at h
        · cases h
        · rename_i e' hvalue
          cases h
          rcases Document.refuses_of_value hvalue with rfl | hrefuses
          · exact .inl rfl
          · cases e'
            case malformed => exact .inl rfl
            all_goals exact .inr (.inr (.refused hinput hdocument hrefuses))

end SheetFill.Yaml
