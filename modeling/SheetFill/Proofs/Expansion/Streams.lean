import SheetFill.Proofs.Expansion.Parts

/-!
# Streams

A block goes through its collection once, and takes all items of a stream if that is its collection.
Where several blocks go through a stream, only the first of them finds items in it. A block that is
not expanded takes nothing.
-/
namespace SheetFill

def Value.stream? (v : Value) : Option Nat :=
  match v.items with
  | .stream id => some id
  | _ => none

namespace Record

def stream? (record : Record) (name : Text) : Option Nat :=
  match record.field? name with
  | .ok (some v) => v.stream?
  | _ => none

def holds (record : Record) (name : Text) : Bool :=
  match record.field? name with
  | .ok (some _) => true
  | _ => false

end Record

def Part.stream? (record : Record) : Part → Option Nat
  | .expanded marker _ _ => (Rows.block? marker.values).bind record.stream?
  | _ => none

def Part.items : Part → List Value
  | .expanded _ _ items => items
  | _ => []

namespace Lines

/-- The name of the collection that a block goes through, if the record has one and the template row
is in reach. -/
def opens (record : Record) (row : Nat) (name : Text) (below : List Line) : List Text :=
  if record.holds name ∧ row + (below.take 1).length ≤ Sheet.lastRow then [name] else []

/-- The names of the collections that filling goes through, block by block, as far as it comes. -/
def opened (record : Record) : (row : Nat) → List Line → Notes → List Text
  | _, [], _ => []
  | row, line :: below, n =>
    if Sheet.lastRow < row then []
    else
      match Line.scan record line with
      | .stopped _ _ => []
      | .plain _ => opened record (row + 1) below n
      | .block line name =>
        let b := block record row line name below n
        opens record row name below ++
          match b.failure?, below with
          | none, _ :: below => opened record (row + b.content.length) below b.notes
          | _, _ => []

def taken (record : Record) (id : Nat) (parts : List Part) : List (List Value) :=
  (parts.filter fun part => part.stream? record = some id).map Part.items

end Lines

/-- The streams of which one may have been read. -/
structure Streams.Kept (source : Option Nat) (streams streams' : Streams) : Prop where
  length : streams'.length = streams.length
  others : ∀ id, source ≠ some id → streams'.getD id [] = streams.getD id []

/-! ## What a block reads -/

namespace Streams.Kept

variable {source : Option Nat} {streams streams' streams'' : Streams}

theorem refl (source : Option Nat) (streams : Streams) : Kept source streams streams :=
  ⟨rfl, fun _ _ => rfl⟩

theorem trans (h : Kept source streams streams') (h' : Kept source streams' streams'') :
    Kept source streams streams'' := by
  constructor
  · rw [h'.length, h.length]
  · intro id hid
    rw [h'.others id hid, h.others id hid]

theorem of_eq (h : streams' = streams) : Kept source streams streams' := h ▸ refl source streams

theorem set (id : Nat) (rest : List StreamItem) (streams : Streams) :
    Kept (some id) streams (streams.set id rest) := by
  constructor
  · exact List.length_set ..
  · intro id' hid
    have hne : id ≠ id' := fun h => hid (congrArg some h)
    simp [List.getElem?_set_ne hne]

theorem leave (n : Notes) (source : Option Nat) (rest : List StreamItem) :
    Kept source n.streams (n.leave source rest).streams := by
  cases source with
  | none => exact refl none _
  | some id => exact set id rest _

theorem drained (source : Option Nat) (streams : Streams) :
    Kept source streams (Streams.drained source streams) := by
  cases source with
  | none => exact refl none _
  | some id => exact set id [] _

theorem attempt {n n' : Notes} {e : Edit} {obstacle f? : Option Failure}
    (h : n.attempt e obstacle = (n', f?)) : Kept source n.streams n'.streams :=
  of_eq (Notes.streams_attempt h)

end Streams.Kept

theorem Streams.getD_drained (id : Nat) (streams : Streams) :
    (drained (some id) streams).getD id [] = [] := by
  by_cases hid : id < streams.length <;> simp [drained, hid]

namespace Lines

variable {record : Record} {source : Option Nat} {below : List Line} {row : Nat} {n : Notes}
  {line : Line} {name : Text}

theorem kept_draw (source : Option Nat) (below : List Line) (items : List StreamItem) :
    ∀ (row : Nat) (n : Notes),
      Streams.Kept source n.streams (draw source below row items n).notes.streams := by
  induction items with
  | nil => exact fun row n => .refl source _
  | cons item items ih =>
    intro row n
    have hstep := drawStep_draw source below row item items n
    have hleave := Streams.Kept.leave n source items
    generalize draw source below row (item :: items) n = d at hstep
    cases hstep with
    | fails => exact hleave
    | refused hn => exact hleave.trans (.attempt hn)
    | @stopped item n₁ n₂ template line e hn ht hl =>
      have hline := Line.streams_draw (Record.ofValue item) row template 1 n₁
      rw [hl] at hline
      exact (hleave.trans (.attempt hn)).trans (.of_eq hline)
    | @drawn item n₁ n₂ n₃ line ls f? hn hl hd =>
      have hline := Line.streams_draw (Record.ofValue item) row (below.headD []) 1 n₁
      have hrest := ih (row + 1) n₂
      rw [hl] at hline
      rw [hd] at hrest
      exact ((hleave.trans (.attempt hn)).trans (.of_eq hline)).trans hrest

theorem kept_expandItems (items : List StreamItem) :
    Streams.Kept source n.streams
      (expandItems row line source items below n).notes.streams := by
  have hstep := expandStep_expandItems row line source items below n
  have hdraw := kept_draw source below items (row + 1) n
  generalize expandItems row line source items below n = d at hstep
  cases hstep with
  | stopped hd =>
    rw [hd] at hdraw
    exact hdraw
  | kept hd hn =>
    rw [hd] at hdraw
    exact hdraw.trans (.attempt hn)
  | removed hd hn hm =>
    rw [hd] at hdraw
    exact (hdraw.trans (.attempt hn)).trans (.attempt hm)

end Lines

theorem Value.isTrue_of_stream? {v : Value} {id : Nat} (h : v.stream? = some id) :
    v.isTrue = true := by
  unfold stream? items at h
  unfold isTrue
  cases hv : v.untied <;> simp [hv] at h ⊢

namespace Lines

theorem blockItems_source {streams : Streams} {items : List StreamItem}
    (h : blockItems record name streams = .ok (some (source, items))) :
    record.holds name ∧ source = record.stream? name ∧
      ∀ id, source = some id → items = streams.getD id [] := by
  unfold blockItems at h
  split at h
  · simp at h
  · simp at h
  · rename_i v hf
    refine ⟨by simp [Record.holds, hf], ?_⟩
    simp only [Record.stream?, hf]
    unfold collection at h
    split_ifs at h with htrue
    · obtain ⟨rfl, rfl⟩ : none = source ∧ [] = items := by simpa [Except.map] using h
      refine ⟨?_, by simp⟩
      cases hs : v.stream? with
      | none => rfl
      | some id => simp [Value.isTrue_of_stream? hs] at htrue
    · cases hi : v.items with
      | all vs =>
        obtain ⟨rfl, rfl⟩ : none = source ∧ vs.map .value = items := by
          simpa [hi, Except.map] using h
        simp [Value.stream?, hi]
      | stream id =>
        obtain ⟨rfl, rfl⟩ : some id = source ∧ streams.getD id [] = items := by
          simpa [hi, Except.map] using h
        simp [Value.stream?, hi]
      | none => simp [hi, Except.map] at h

/-- A block that fails before it comes to its collection, or that has none, reads nothing. -/
theorem kept_block (record : Record) (hrow : row ≤ Sheet.lastRow) (line : Line) (name : Text)
    (below : List Line) (n : Notes) :
    ∃ source, (∀ id, source = some id →
        opens record row name below = [name] ∧ record.stream? name = some id) ∧
      Streams.Kept source n.streams (block record row line name below n).notes.streams := by
  by_cases hreach : row + (below.take 1).length ≤ Sheet.lastRow
  · rw [block_eq_expand hreach, expand]
    split
    · exact ⟨none, by simp, .refl none _⟩
    · exact ⟨none, by simp, .refl none _⟩
    · rename_i source items hi
      obtain ⟨hholds, hsource, -⟩ := blockItems_source hi
      refine ⟨source, fun id hid => ⟨?_, hsource ▸ hid⟩, kept_expandItems items⟩
      rw [opens, if_pos ⟨hholds, hreach⟩]
  · rw [block_of_past hrow (Nat.lt_of_not_le hreach)]
    exact ⟨none, by simp, .refl none _⟩

theorem unread_block {id : Nat} {out : List Line} {n₁ : Notes} {f? : Option Failure}
    (hrow : row ≤ Sheet.lastRow) (hb : block record row line name below n = ⟨out, n₁, f?⟩)
    (h : ∀ name' ∈ opens record row name below, record.stream? name' ≠ some id) :
    n₁.streams.getD id [] = n.streams.getD id [] := by
  obtain ⟨source, hsource, hkept⟩ := kept_block record hrow line name below n
  rw [hb] at hkept
  apply hkept.others
  intro hid
  obtain ⟨hname, hstream⟩ := hsource id hid
  exact h name (by simp [hname]) hstream

/-! ## What a run reads -/

section Opened

variable {line' : Line} {b : Drawn (List Line)}

theorem opened_plain (h : row ≤ Sheet.lastRow) (hs : Line.scan record line = .plain line') :
    opened record row (line :: below) n = opened record (row + 1) below n := by
  rw [opened, if_neg (Nat.not_lt.mpr h), hs]

theorem opened_block (h : row ≤ Sheet.lastRow) (hs : Line.scan record line = .block line' name)
    (hb : block record row line' name below n = b) (hf : b.failure? = none) :
    opened record row (line :: below) n =
      opens record row name below ++
        opened record (row + b.content.length) (below.drop 1) b.notes := by
  rw [opened, if_neg (Nat.not_lt.mpr h), hs]
  simp only [hb, hf]
  cases below <;> rfl

theorem opened_block_stopped (h : row ≤ Sheet.lastRow)
    (hs : Line.scan record line = .block line' name)
    (hb : block record row line' name below n = b) {e : Failure} (hf : b.failure? = some e) :
    opened record row (line :: below) n = opens record row name below := by
  rw [opened, if_neg (Nat.not_lt.mpr h), hs]
  simp only [hb, hf]
  cases below <;> simp

end Opened

/-- A stream that is under none of the names is left as it was. -/
theorem unread_fill {id : Nat} (ls : List Line) (row : Nat) (n : Notes)
    (h : ∀ name ∈ opened record row ls n, record.stream? name ≠ some id) :
    (fill record row ls n).notes.streams.getD id [] = n.streams.getD id [] := by
  induction row, ls, n using fill_induction record with
  | nil row n => rfl
  | past row line below n hlast => rw [fill_past hlast]
  | stopped row line below n line' e hrow hs => rw [fill_stopped hrow hs]
  | plain row line below n line' hrow hs ih =>
    rw [opened_plain hrow hs] at h
    rw [fill_plain hrow hs]
    exact ih h
  | failed row line below n line' name out n₁ e hrow hs hb =>
    rw [opened_block_stopped hrow hs hb rfl] at h
    rw [fill_block_stopped hrow hs hb rfl]
    exact unread_block hrow hb h
  | passed row line below n line' name out n₁ hrow hs hb ih =>
    rw [opened_block hrow hs hb rfl, List.forall_mem_append] at h
    rw [fill_block hrow hs hb rfl rfl]
    exact (ih h.2).trans (unread_block hrow hb h.1)

section Taken

variable {id : Nat} {part : Part} {parts : List Part}

theorem taken_cons_of_ne (h : part.stream? record ≠ some id) :
    taken record id (part :: parts) = taken record id parts := by
  simp [taken, h]

theorem taken_cons (h : part.stream? record = some id) :
    taken record id (part :: parts) = part.items :: taken record id parts := by
  simp [taken, h]

end Taken

/-- One part has all that a stream still had, those behind it have nothing. -/
theorem taken_of_passes {n n' : Notes} {ls out rest : List Line} (id : Nat)
    (h : Passes record row n ls out n' rest) (hrest : rest = []) :
    taken record id (parts record n.streams ls) = [] ∨
      ∃ (items : List Value) (k : Nat), items.map .value = n.streams.getD id [] ∧
        taken record id (parts record n.streams ls) = items :: List.replicate k [] := by
  induction h with
  | here =>
    subst hrest
    exact .inl rfl
  | @plain row n line line' below out n' rest hrow hs h ih =>
    have hb := Line.block?_of_plain hs
    rw [parts_plain hb, taken_cons_of_ne (by simp [Part.stream?])]
    exact ih hrest
  | @kept row n line line' name below out n' rest hrow hs hf h ih =>
    have hb := Line.block?_of_block hs
    rw [parts_kept hb (by simp [hf]), taken_cons_of_ne (by simp [Part.stream?])]
    exact ih hrest
  | @expanded row n line line' name source items below n₁ out n' rest hrow hs hi hd hn hlast h ih =>
    have hb := Line.block?_of_block hs
    obtain ⟨v, hf, hitems⟩ := items_of_blockItems hi
    obtain ⟨-, hsource, hstream⟩ := blockItems_source hi
    have hpart : (Part.expanded line below.head? items).stream? record = source := by
      simp [Part.stream?, hb, hsource]
    rw [parts_expanded hb hf, hitems, ← hn]
    by_cases hid : source = some id
    · right
      rw [taken_cons (hpart.trans hid)]
      have hdrained : n₁.streams.getD id [] = [] := by
        rw [hn, hid, Streams.getD_drained]
      rcases ih hrest with hlater | ⟨later, k, hlater, htaken⟩
      · exact ⟨items, 0, hstream id hid, by rw [hlater]; rfl⟩
      · obtain rfl : later = [] := by
          rwa [hdrained, List.map_eq_nil_iff] at hlater
        exact ⟨items, k + 1, hstream id hid, by rw [htaken]; rfl⟩
    · rw [taken_cons_of_ne fun h => hid (hpart.symm.trans h)]
      have hkept : n₁.streams.getD id [] = n.streams.getD id [] := by
        rw [hn, (Streams.Kept.drained source n.streams).others id hid]
      rw [← hkept]
      exact ih hrest

end Lines

end SheetFill
