import SheetFill.Proofs.Expansion.Scanning

/-!
# Runs that agree

Two records agree on some names where cells take what they hold there alike and collections have
items that agree in turn. Lines in which no other name stands are then filled alike: the same lines
come out, the same edits are asked for, and one run fails where the other does, with a failure that
is the same but for the value that no cell can hold.
-/
namespace SheetFill

/-- Failures that are the same, or name different values that no cell can hold. -/
inductive Failure.Alike : Failure → Failure → Prop
  | refl (e : Failure) : Alike e e
  | notStorable (v w : Value) : Alike (.cell (.notStorable v)) (.cell (.notStorable w))

theorem Failure.alike_self (f? : Option Failure) : Option.Rel Alike f? f? := by
  cases f? with
  | none => exact .none
  | some f => exact .some (.refl f)

inductive Value.FieldAlike (value : Value → Value → Prop) :
    Except Record.Error (Option Value) → Except Record.Error (Option Value) → Prop
  | error (e : Record.Error) : FieldAlike value (.error e) (.error e)
  | absent : FieldAlike value (.ok none) (.ok none)
  | present {v w : Value} (h : value v w) : FieldAlike value (.ok (some v)) (.ok (some w))

theorem Value.FieldAlike.self {value : Value → Value → Prop} (h : ∀ v, value v v)
    (x : Except Record.Error (Option Value)) : FieldAlike value x x := by
  rcases x with e | _ | v
  · exact .error e
  · exact .absent
  · exact .present (h v)

/-- Values that are the same, or that no cell can hold. -/
inductive Value.StoredAlike : Value → Value → Prop
  | refl (v : Value) : StoredAlike v v
  | refused {v w : Value} (hv : Cell.content v = .error (.notStorable v))
      (hw : Cell.content w = .error (.notStorable w)) : StoredAlike v w

/-- Values that are the same, or collections that no cell can hold and whose items are related. -/
inductive Value.CollectionAlike (item : Value → Value → Prop) : Value → Value → Prop
  | refl (v : Value) : CollectionAlike item v v
  | items {v w : Value} {as bs : List Value} (hv : Cell.content v = .error (.notStorable v))
      (hw : Cell.content w = .error (.notStorable w)) (htrue : v.isTrue = w.isTrue)
      (has : v.items = .all as) (hbs : w.items = .all bs) (h : List.Forall₂ item as bs) :
      CollectionAlike item v w

theorem Value.CollectionAlike.stored {item : Value → Value → Prop} {v w : Value}
    (h : CollectionAlike item v w) : StoredAlike v w := by
  cases h with
  | refl => exact .refl v
  | items hv hw => exact .refused hv hw

namespace Value

variable {item : Value → Value → Prop} {v w : Value}

theorem facts_of_untied {items : List Value}
    (h : v.untied = .list items ∨ v.untied = .tuple items) :
    Cell.content v = .error (.notStorable v) ∧ v.items = .all items ∧
      v.isTrue = !items.isEmpty := by
  refine ⟨?_, ?_, ?_⟩
  · cases v with
    | list _ | tuple _ | knot _ _ => rfl
    | _ => simp [untied] at h
  · rcases h with h | h <;> simp [Value.items, h]
  · rcases h with h | h <;> simp [isTrue, h]

theorem alike_of_untied {as bs : List Value} (hv : v.untied = .list as ∨ v.untied = .tuple as)
    (hw : w.untied = .list bs ∨ w.untied = .tuple bs) (h : List.Forall₂ item as bs) :
    v.CollectionAlike item w := by
  obtain ⟨hcv, hiv, htv⟩ := facts_of_untied hv
  obtain ⟨hcw, hiw, htw⟩ := facts_of_untied hw
  refine .items hcv hcw ?_ hiv hiw h
  rw [htv, htw]
  cases h <;> rfl

end Value

variable {named : Text → Prop} {item : Value → Value → Prop} {record record' : Record}

theorem Record.field?_mapping (entries : List (Value × Value)) (name : Text) :
    (Record.mapping entries).field? name = .ok (Value.lookup? entries name) := by
  simp only [Record.field?, Record.hasField, Record.getField]
  cases Value.lookup? entries name <;> rfl

/-- Records that hold related values in all fields with the names `named`. -/
def Record.Agrees (named : Text → Prop) (value : Value → Value → Prop) (r r' : Record) : Prop :=
  ∀ name, named name → Value.FieldAlike value (r.field? name) (r'.field? name)

theorem Record.Agrees.stored (h : record.Agrees named (Value.CollectionAlike item) record') :
    record.Agrees named Value.StoredAlike record' := by
  intro name hname
  have hx := h name hname
  generalize record.field? name = x at hx
  generalize record'.field? name = y at hx
  cases hx with
  | error e => exact .error e
  | absent => exact .absent
  | present hv => exact .present hv.stored

inductive StreamItem.Alike (item : Value → Value → Prop) : StreamItem → StreamItem → Prop
  | value {a b : Value} (h : item a b) : Alike item (.value a) (.value b)
  | fails : Alike item .fails .fails

structure Notes.Alike (item : Value → Value → Prop) (n n' : Notes) : Prop where
  streams : List.Forall₂ (List.Forall₂ (StreamItem.Alike item)) n.streams n'.streams
  edits : n.edits = n'.edits
  refusal : n.refusal = n'.refusal

structure Drawn.Alike {α : Type} (item : Value → Value → Prop) (d d' : Drawn α) : Prop where
  content : d.content = d'.content
  notes : d.notes.Alike item d'.notes
  failure : Option.Rel Failure.Alike d.failure? d'.failure?

def Marker.Among (named : Text → Prop) : Marker → Prop
  | .plain => True
  | .field name => named name
  | .each name _ => named name

instance {named : Text → Prop} [DecidablePred named] : (m : Marker) → Decidable (m.Among named)
  | .plain => .isTrue trivial
  | .field name => inferInstanceAs (Decidable (named name))
  | .each name _ => inferInstanceAs (Decidable (named name))

def Line.Among (named : Text → Prop) (line : Line) : Prop :=
  ∀ c ∈ line, (Marker.ofValue c.value).Among named

theorem Sheet.among_lines {s : Sheet}
    (h : ∀ col row c, s.get? col row = some c → (Marker.ofValue c.value).Among named) :
    ∀ line ∈ s.lines, line.Among named := by
  intro line hline c hc
  obtain ⟨j, -, rfl⟩ := List.mem_map.mp hline
  obtain ⟨i, -, rfl⟩ := List.mem_map.mp hc
  cases hg : s.get? (i + 1) (j + 1) with
  | none => trivial
  | some c => exact h _ _ c hg

theorem Sheet.among_ofTexts {named : Text → Prop} {rows : List (List String)}
    (h : ∀ texts ∈ rows, ∀ text ∈ texts, (Marker.ofText text).Among named) (col row : Nat)
    (c : Cell) (hc : (ofTexts rows).get? col row = some c) :
    (Marker.ofValue c.value).Among named := by
  obtain ⟨texts, htexts, text, htext, rfl⟩ := exists_of_get?_ofTexts hc
  exact h texts htexts text htext

/-! ## Cells and rows -/

namespace Cell

theorem assign_alike {v w : Value} (h : v.StoredAlike w) (c : Cell) :
    (c.assign v).1 = (c.assign w).1 ∧
      Option.Rel Failure.Alike ((c.assign v).2.map .cell) ((c.assign w).2.map .cell) := by
  cases h with
  | refl => exact ⟨rfl, Failure.alike_self _⟩
  | refused hv hw =>
    unfold assign
    split_ifs
    · exact ⟨rfl, Failure.alike_self _⟩
    · simp only [hv, hw]
      exact ⟨rfl, .some (.notStorable _ _)⟩

theorem filled_alike {name : Text}
    (h : Value.FieldAlike Value.StoredAlike (record.field? name) (record'.field? name)) (c : Cell) :
    (c.filled (.field name) record).1 = (c.filled (.field name) record').1 ∧
      Option.Rel Failure.Alike (c.filled (.field name) record).2
        (c.filled (.field name) record').2 := by
  generalize hx : record.field? name = x at h
  generalize hy : record'.field? name = y at h
  simp only [filled, hx, hy]
  cases h with
  | error e => exact ⟨rfl, Failure.alike_self _⟩
  | absent => exact ⟨rfl, Failure.alike_self _⟩
  | present h => exact assign_alike h c

theorem filled_template_alike (h : record.Agrees named Value.StoredAlike record') {v : Value}
    (hv : (Marker.ofValue v).Among named) (c : Cell) :
    (c.filled (Marker.ofValue v).inTemplateRow record).1 =
        (c.filled (Marker.ofValue v).inTemplateRow record').1 ∧
      Option.Rel Failure.Alike (c.filled (Marker.ofValue v).inTemplateRow record).2
        (c.filled (Marker.ofValue v).inTemplateRow record').2 := by
  cases hm : Marker.ofValue v with
  | field name =>
    rw [hm] at hv
    exact filled_alike (h name hv) c
  | plain => exact ⟨rfl, Failure.alike_self _⟩
  | each name columns => exact ⟨rfl, Failure.alike_self _⟩

end Cell

inductive Scanned.Alike (named : Text → Prop) : Scanned → Scanned → Prop
  | plain (line : Line) : Alike named (.plain line) (.plain line)
  | block (line : Line) {name : Text} (h : named name) :
      Alike named (.block line name) (.block line name)
  | stopped (line : Line) {e e' : Failure} (h : e.Alike e') :
      Alike named (.stopped line e) (.stopped line e')

theorem Scanned.Alike.behind {scanned scanned' : Scanned} (h : scanned.Alike named scanned')
    (c : Cell) : (scanned.behind c).Alike named (scanned'.behind c) := by
  cases h with
  | plain line => exact .plain _
  | block line h => exact .block _ h
  | stopped line h => exact .stopped _ h

section Inversion

variable {scanned : Scanned} {line : Line} {name : Text} {e : Failure}

theorem Scanned.Alike.of_plain (h : Scanned.Alike named (.plain line) scanned) :
    scanned = .plain line := by
  cases h with
  | plain => rfl

theorem Scanned.Alike.of_block (h : Scanned.Alike named (.block line name) scanned) :
    scanned = .block line name ∧ named name := by
  cases h with
  | block _ hname => exact ⟨rfl, hname⟩

theorem Scanned.Alike.of_stopped (h : Scanned.Alike named (.stopped line e) scanned) :
    ∃ e', scanned = .stopped line e' ∧ e.Alike e' := by
  cases h with
  | stopped _ he => exact ⟨_, rfl, he⟩

end Inversion

namespace Line

theorem Among.tail {c : Cell} {line : Line} (h : Among named (c :: line)) : line.Among named :=
  fun d hd => h d (List.mem_cons_of_mem c hd)

theorem scan_alike (h : record.Agrees named Value.StoredAlike record') (line : Line)
    (hline : line.Among named) : (scan record line).Alike named (scan record' line) := by
  induction line with
  | nil => exact .plain []
  | cons c line ih =>
    have hrest := ih hline.tail
    have hc := hline c (by simp)
    cases hm : Marker.ofValue c.value with
    | plain =>
      simp only [scan, hm]
      exact hrest.behind c
    | each name columns =>
      rw [hm] at hc
      simp only [scan, hm]
      exact .block _ hc
    | field name =>
      rw [hm] at hc
      obtain ⟨hcell, hfail⟩ := Cell.filled_alike (h name hc) c
      rcases hf : c.filled (.field name) record with ⟨c', f?⟩
      rcases hf' : c.filled (.field name) record' with ⟨c'', f?'⟩
      rw [hf, hf'] at hcell hfail
      obtain rfl : c' = c'' := hcell
      simp only [scan, hm, hf, hf']
      cases hfail with
      | none => exact hrest.behind c'
      | some h => exact .stopped _ h

end Line

namespace Notes

variable {n n' : Notes}

theorem Alike.attempt (h : n.Alike item n') (e : Edit) (obstacle : Option Failure) :
    (n.attempt e obstacle).1.Alike item (n'.attempt e obstacle).1 ∧
      (n.attempt e obstacle).2 = (n'.attempt e obstacle).2 := by
  obtain ⟨streams, edits, refusal⟩ := n
  obtain ⟨streams', edits', refusal'⟩ := n'
  obtain ⟨hs, rfl, rfl⟩ := h
  unfold Notes.attempt Notes.edit
  rcases refusal with _ | ⟨kind, count⟩
  · exact ⟨⟨hs, rfl, rfl⟩, rfl⟩
  · simp only
    split_ifs <;> exact ⟨⟨hs, rfl, rfl⟩, rfl⟩

theorem alike_set {streams streams' : Streams} {rest rest' : List StreamItem}
    (h : List.Forall₂ (List.Forall₂ (StreamItem.Alike item)) streams streams')
    (hrest : List.Forall₂ (StreamItem.Alike item) rest rest') (id : Nat) :
    List.Forall₂ (List.Forall₂ (StreamItem.Alike item)) (streams.set id rest)
      (streams'.set id rest') := by
  induction h generalizing id with
  | nil => exact .nil
  | cons hx hxs ih =>
    cases id with
    | zero => exact .cons hrest hxs
    | succ id => exact .cons hx (ih id)

theorem alike_getD {streams streams' : Streams}
    (h : List.Forall₂ (List.Forall₂ (StreamItem.Alike item)) streams streams') (id : Nat) :
    List.Forall₂ (StreamItem.Alike item) (streams.getD id []) (streams'.getD id []) := by
  induction h generalizing id with
  | nil => exact .nil
  | cons hx hxs ih =>
    cases id with
    | zero => exact hx
    | succ id => exact ih id

theorem Alike.leave (h : n.Alike item n') (source : Option Nat) {rest rest' : List StreamItem}
    (hrest : List.Forall₂ (StreamItem.Alike item) rest rest') :
    (n.leave source rest).Alike item (n'.leave source rest') := by
  cases source with
  | none => exact h
  | some id =>
    exact ⟨alike_set h.streams hrest id, h.edits, h.refusal⟩

end Notes

namespace Line

variable {n n' : Notes}

theorem restyled_alike (h : n.Alike item n') (col row : Nat) :
    (restyled col row n).1.Alike item (restyled col row n').1 ∧
      (restyled col row n).2 = (restyled col row n').2 := by
  unfold restyled
  split_ifs
  · exact ⟨h, rfl⟩
  · split
    · exact h.attempt _ _
    · exact ⟨h, rfl⟩

theorem draw_alike (h : record.Agrees named Value.StoredAlike record') (row : Nat)
    (template : Line) : ∀ (col : Nat) (n n' : Notes), template.Among named → n.Alike item n' →
    (draw record row col template n).Alike item (draw record' row col template n') := by
  induction template with
  | nil =>
    intro col n n' _ hn
    exact ⟨rfl, hn, .none⟩
  | cons t template ih =>
    intro col n n' ht hn
    obtain ⟨hcell, hfail⟩ := Cell.filled_template_alike h (ht t (by simp)) Cell.blank
    rcases hf : Cell.blank.filled (Marker.ofValue t.value).inTemplateRow record with ⟨c, f?⟩
    rcases hf' : Cell.blank.filled (Marker.ofValue t.value).inTemplateRow record' with ⟨c', f?'⟩
    rw [hf, hf'] at hcell hfail
    obtain rfl : c = c' := hcell
    simp only [draw, hf, hf']
    cases hfail with
    | some h => exact ⟨rfl, hn, .some h⟩
    | none =>
      obtain ⟨hn₁, hr⟩ := restyled_alike hn col row
      rcases hs : restyled col row n with ⟨n₁, g?⟩
      rcases hs' : restyled col row n' with ⟨n₁', g?'⟩
      rw [hs, hs'] at hn₁ hr
      obtain rfl : g? = g?' := hr
      cases g? with
      | some e => exact ⟨rfl, hn₁, .some (.refl e)⟩
      | none =>
        obtain ⟨hc, hn₂, hf⟩ := ih (col + 1) n₁ n₁' ht.tail hn₁
        exact ⟨by simp only [hc], hn₂, hf⟩

end Line

/-! ## Blocks and sheets -/

namespace Lines

variable {n n' : Notes} {below : List Line} {source : Option Nat}

def ItemsAgree (named : Text → Prop) (item : Value → Value → Prop) : Prop :=
  ∀ a b, item a b → (Record.ofValue a).Agrees named Value.StoredAlike (Record.ofValue b)

theorem draw_alike (source : Option Nat) (hitem : ItemsAgree named item)
    (hbelow : ∀ line ∈ below, line.Among named)
    {items items' : List StreamItem} (h : List.Forall₂ (StreamItem.Alike item) items items') :
    ∀ (row : Nat) (n n' : Notes), n.Alike item n' →
    (draw source below row items n).Alike item (draw source below row items' n') := by
  induction h with
  | nil =>
    intro row n n' hn
    exact ⟨rfl, hn, .none⟩
  | @cons x y items items' hx hrest ih =>
    intro row n n' hn
    have hleft := hn.leave source hrest
    cases hx with
    | fails => exact ⟨rfl, hleft, .some (.refl _)⟩
    | @value a b hab =>
      obtain ⟨hn₁, hr⟩ := hleft.attempt (.insertRow row 1) (obstacle (row - 1 + below.length) row)
      rcases hs : (n.leave source items).attempt (.insertRow row 1)
        (obstacle (row - 1 + below.length) row) with ⟨n₁, f?⟩
      rcases hs' : (n'.leave source items').attempt (.insertRow row 1)
        (obstacle (row - 1 + below.length) row) with ⟨n₁', f?'⟩
      rw [hs, hs'] at hn₁ hr
      obtain rfl : f? = f?' := hr
      cases f? with
      | some e =>
        simp only [draw, hs, hs']
        exact ⟨rfl, hn₁, .some (.refl e)⟩
      | none =>
        cases below with
        | nil =>
          simp only [draw, hs, hs']
          exact ih _ _ _ hn₁
        | cons template below =>
          obtain ⟨hc, hn₂, hf⟩ := Line.draw_alike (hitem a b hab) row template 1 n₁ n₁'
            (hbelow template (by simp)) hn₁
          simp only [draw, hs, hs']
          generalize (Line.draw (Record.ofValue a) row 1 template n₁).failure? = g? at hf
          generalize (Line.draw (Record.ofValue b) row 1 template n₁').failure? = g?' at hf
          cases hf with
          | some h => exact ⟨by rw [hc], hn₂, .some h⟩
          | none =>
            obtain ⟨hc', hn₃, hf⟩ := ih (row + 1) _ _ hn₂
            exact ⟨by rw [hc, hc'], hn₃, hf⟩

theorem expandItems_alike (hitem : ItemsAgree named item)
    (hbelow : ∀ line ∈ below, line.Among named) {items items' : List StreamItem}
    (h : List.Forall₂ (StreamItem.Alike item) items items') (hn : n.Alike item n') (row : Nat)
    (line : Line) :
    (expandItems row line source items below n).Alike item
      (expandItems row line source items' below n') := by
  obtain ⟨hc, hn₁, hf⟩ := draw_alike source hitem hbelow h (row + 1) n n' hn
  rcases hd : draw source below (row + 1) items n with ⟨ls, n₁, f?⟩
  rcases hd' : draw source below (row + 1) items' n' with ⟨ls', n₁', f?'⟩
  rw [hd, hd'] at hc hn₁ hf
  obtain rfl : ls = ls' := hc
  cases hf with
  | some h =>
    rw [expandItems_of_stopped hd, expandItems_of_stopped hd']
    exact ⟨rfl, hn₁, .some h⟩
  | none =>
    obtain ⟨hn₂, hr⟩ := Notes.Alike.attempt (n := n₁) hn₁ (.removeRow row)
      (obstacle (row + ls.length + below.length) (row + 1))
    rcases hs : n₁.attempt (.removeRow row) (obstacle (row + ls.length + below.length) (row + 1))
      with ⟨n₂, g?⟩
    rcases hs' : n₁'.attempt (.removeRow row) (obstacle (row + ls.length + below.length) (row + 1))
      with ⟨n₂', g?'⟩
    rw [hs, hs'] at hn₂ hr
    obtain rfl : g? = g?' := hr
    cases g? with
    | some e =>
      rw [expandItems_of_kept hd hs, expandItems_of_kept hd' hs']
      exact ⟨rfl, hn₂, .some (.refl e)⟩
    | none =>
      obtain ⟨hn₃, hr⟩ := Notes.Alike.attempt (n := n₂) hn₂ (.removeRow (row + items.length))
        (obstacle (row + ls.length + below.length - 1) (row + items.length + 1))
      rcases hm : n₂.attempt (.removeRow (row + items.length))
        (obstacle (row + ls.length + below.length - 1) (row + items.length + 1)) with ⟨n₃, e?⟩
      rcases hm' : n₂'.attempt (.removeRow (row + items.length))
        (obstacle (row + ls.length + below.length - 1) (row + items.length + 1)) with ⟨n₃', e?'⟩
      rw [hm, hm'] at hn₃ hr
      obtain rfl : e? = e?' := hr
      rw [expandItems_of_drawn hd hs hm, expandItems_of_drawn hd' hs' (h.length_eq ▸ hm')]
      exact ⟨rfl, hn₃, Failure.alike_self e?⟩

/-- What is known about the collection that two records have under the same name. -/
inductive BlockAlike (item : Value → Value → Prop) :
    Except Failure (Option (Option Nat × List StreamItem)) →
    Except Failure (Option (Option Nat × List StreamItem)) → Prop
  | error (e : Failure) : BlockAlike item (.error e) (.error e)
  | absent : BlockAlike item (.ok none) (.ok none)
  | items (source : Option Nat) {items items' : List StreamItem}
      (h : List.Forall₂ (StreamItem.Alike item) items items') :
      BlockAlike item (.ok (some (source, items))) (.ok (some (source, items')))

theorem collection_alike (hrefl : ∀ a, item a a) {streams streams' : Streams}
    (hs : List.Forall₂ (List.Forall₂ (StreamItem.Alike item)) streams streams') {v w : Value}
    (h : v.CollectionAlike item w) :
    BlockAlike item ((collection streams v).map some) ((collection streams' w).map some) := by
  cases h with
  | refl =>
    unfold collection
    split_ifs
    · exact .items none .nil
    · cases v.items with
      | all items =>
        refine .items none (List.forall₂_same.mpr fun x hx => ?_)
        obtain ⟨a, -, rfl⟩ := List.mem_map.mp hx
        exact .value (hrefl a)
      | stream id => exact .items (some id) (Notes.alike_getD hs id)
      | none => exact .error _
  | items hv hw htrue has hbs h =>
    unfold collection
    rw [htrue, has, hbs]
    split_ifs
    · exact .items none .nil
    · refine .items none ?_
      rw [List.forall₂_map_left_iff, List.forall₂_map_right_iff]
      exact h.imp fun _ _ => .value

theorem blockItems_alike (hrefl : ∀ a, item a a) {name : Text} {streams streams' : Streams}
    (hs : List.Forall₂ (List.Forall₂ (StreamItem.Alike item)) streams streams')
    (h : Value.FieldAlike (Value.CollectionAlike item) (record.field? name) (record'.field? name)) :
    BlockAlike item (blockItems record name streams) (blockItems record' name streams') := by
  generalize hx : record.field? name = x at h
  generalize hy : record'.field? name = y at h
  simp only [blockItems, hx, hy]
  cases h with
  | error e => exact .error _
  | absent => exact .absent
  | present h => exact collection_alike hrefl hs h

theorem block_alike (hitem : ItemsAgree named item) (hrefl : ∀ a, item a a) {name : Text}
    (h : Value.FieldAlike (Value.CollectionAlike item) (record.field? name) (record'.field? name))
    (hbelow : ∀ line ∈ below, line.Among named) (hn : n.Alike item n') (row : Nat) (line : Line) :
    (block record row line name below n).Alike item (block record' row line name below n') := by
  unfold block expand
  split_ifs
  · exact ⟨rfl, hn, .some (.refl _)⟩
  · have hi := blockItems_alike hrefl hn.streams h
    generalize blockItems record name n.streams = x at hi
    generalize blockItems record' name n'.streams = y at hi
    cases hi with
    | error e => exact ⟨rfl, hn, .some (.refl e)⟩
    | absent => exact ⟨rfl, hn, .none⟩
    | items source h => exact expandItems_alike hitem hbelow h hn row line

theorem fill_alike (hitem : ItemsAgree named item) (hrefl : ∀ a, item a a)
    (h : record.Agrees named (Value.CollectionAlike item) record') (ls : List Line) (row : Nat)
    (n n' : Notes) (hls : ∀ line ∈ ls, line.Among named) (hn : n.Alike item n') :
    (fill record row ls n).Alike item (fill record' row ls n') := by
  induction row, ls, n using fill_induction record generalizing n' with
  | nil row n => exact ⟨rfl, hn, .none⟩
  | past row line below n hlast =>
    rw [fill_past hlast, fill_past hlast]
    exact ⟨rfl, hn, .some (.refl _)⟩
  | stopped row line below n line' e hrow hs =>
    have hscan := Line.scan_alike h.stored line (hls line (by simp))
    obtain ⟨e', hs', he⟩ := (hs ▸ hscan).of_stopped
    rw [fill_stopped hrow hs, fill_stopped hrow hs']
    exact ⟨rfl, hn, .some he⟩
  | plain row line below n line' hrow hs ih =>
    have hscan := Line.scan_alike h.stored line (hls line (by simp))
    have hs' := (hs ▸ hscan).of_plain
    obtain ⟨hc, hn', hf⟩ := ih n' (List.forall_mem_of_forall_mem_cons hls) hn
    rw [fill_plain hrow hs, fill_plain hrow hs']
    exact ⟨by rw [hc], hn', hf⟩
  | failed row line below n line' name out n₁ e hrow hs hb =>
    have hscan := Line.scan_alike h.stored line (hls line (by simp))
    obtain ⟨hs', hname⟩ := (hs ▸ hscan).of_block
    have hblock := block_alike hitem hrefl (h name hname) (List.forall_mem_of_forall_mem_cons hls)
      hn row line'
    rcases hb' : block record' row line' name below n' with ⟨out', n₁', f?'⟩
    rw [hb, hb'] at hblock
    obtain ⟨rfl, hn₁, hf⟩ := hblock
    cases hf with
    | some he =>
      rw [fill_block_stopped hrow hs hb rfl, fill_block_stopped hrow hs' hb' rfl]
      exact ⟨rfl, hn₁, .some he⟩
  | passed row line below n line' name out n₁ hrow hs hb ih =>
    have hscan := Line.scan_alike h.stored line (hls line (by simp))
    obtain ⟨hs', hname⟩ := (hs ▸ hscan).of_block
    have hbelow := List.forall_mem_of_forall_mem_cons hls
    have hblock := block_alike hitem hrefl (h name hname) hbelow hn row line'
    rcases hb' : block record' row line' name below n' with ⟨out', n₁', f?'⟩
    rw [hb, hb'] at hblock
    obtain ⟨rfl, hn₁, hf⟩ := hblock
    cases hf with
    | none =>
      obtain ⟨hc, hn₂, hf⟩ := ih n₁' (fun l hl => hbelow l (List.mem_of_mem_drop hl)) hn₁
      rw [fill_block hrow hs hb rfl rfl, fill_block hrow hs' hb' rfl rfl]
      exact ⟨by simp only [hc], hn₂, hf⟩

end Lines

/-- Two runs end in the same way: both complete or both fail alike, and the sheets they leave read
the same. -/
structure Outcome.Alike (o o' : Outcome) : Prop where
  failure : Option.Rel Failure.Alike o.failure? o'.failure?
  lines : o'.run.sheet.lines = o.run.sheet.lines
  maxRow : o'.run.sheet.maxRow = o.run.sheet.maxRow
  maxCol : o'.run.sheet.maxCol = o.run.sheet.maxCol

theorem Run.outcome_alike {run run' : Run} (hsheet : run'.sheet = run.sheet)
    (hcontent : (Lines.fill record 1 run.sheet.lines run.notes).content =
      (Lines.fill record' 1 run.sheet.lines run'.notes).content)
    (hfail : Option.Rel Failure.Alike (Lines.fill record 1 run.sheet.lines run.notes).failure?
      (Lines.fill record' 1 run.sheet.lines run'.notes).failure?) :
    (run.fill record).Alike (run'.fill record') := by
  obtain ⟨s, hs, hr, hk⟩ := run.fill_eq record
  obtain ⟨s', hs', hr', hk'⟩ := run'.fill_eq record'
  rw [hsheet] at hs' hr' hk'
  rw [← hcontent] at hr'
  obtain ⟨hlines, hrow, hcol⟩ := hr.congr hr' (hk'.above.trans hk.above.symm)
  rw [hs, hs']
  exact ⟨hfail, hlines, hrow, hcol⟩

/-- Runs on the same sheet, from records that agree on the names that stand in its markers. -/
theorem Run.fill_alike (hitem : Lines.ItemsAgree named item) (hrefl : ∀ a, item a a)
    (h : record.Agrees named (Value.CollectionAlike item) record') {run run' : Run}
    (hsheet : run'.sheet = run.sheet) (hn : run.notes.Alike item run'.notes)
    (hnamed : ∀ line ∈ run.sheet.lines, line.Among named) :
    (run.fill record).Alike (run'.fill record') := by
  obtain ⟨hcontent, -, hfail⟩ :=
    Lines.fill_alike hitem hrefl h run.sheet.lines 1 run.notes run'.notes hnamed hn
  exact Run.outcome_alike hsheet hcontent hfail

end SheetFill
