import SheetFill.Proofs.Expansion.Agreement
import SheetFill.Proofs.Expansion.Streams

/-!
# Kinds of collections

From a list or a tuple every block gets the same items, from a stream only the first block that goes
through it. So a tuple is as good as a list, and a stream is too where no second block goes through
it. The two runs then differ in nothing but one more stream, which is met at one place only.
-/
namespace SheetFill

/-! ## A list turned into a stream -/

def Notes.plus (n : Notes) (stream : List StreamItem) : Notes :=
  { n with streams := n.streams ++ [stream] }

def Drawn.plus {α : Type} (d : Drawn α) (stream : List StreamItem) : Drawn α :=
  { d with notes := d.notes.plus stream }

/-- The same items are taken from the same source, or from the stream `id` instead of none. -/
inductive Streams.Swapped (id : Nat) : Option Nat → Option Nat → Prop
  | same {source : Option Nat} (h : source ≠ some id) : Swapped id source source
  | stream : Swapped id none (some id)

namespace Notes

theorem attempt_plus (n : Notes) (stream : List StreamItem) (e : Edit)
    (obstacle : Option Failure) :
    (n.plus stream).attempt e obstacle =
      ((n.attempt e obstacle).1.plus stream, (n.attempt e obstacle).2) := by
  obtain ⟨streams, edits, refusal⟩ := n
  rcases refusal with _ | ⟨kind, count⟩
  · rfl
  · simp only [attempt, Notes.edit, plus]
    split_ifs <;> rfl

theorem leave_plus {source source' : Option Nat} (n : Notes)
    (h : Streams.Swapped n.streams.length source source') (stream rest : List StreamItem) :
    ∃ stream', (source' = source → stream' = stream) ∧
      (n.plus stream).leave source' rest = (n.leave source rest).plus stream' := by
  cases h with
  | same hne =>
    refine ⟨stream, fun _ => rfl, ?_⟩
    cases source with
    | none => rfl
    | some id =>
      have hid : id ≠ n.streams.length := fun h => hne (congrArg some h)
      simp only [leave, plus]
      congr 1
      rcases Nat.lt_or_gt_of_ne hid with hlt | hgt
      · exact List.set_append_left _ _ hlt
      · rw [List.set_eq_of_length_le hgt.le, List.set_eq_of_length_le]
        simpa using hgt
  | stream =>
    refine ⟨rest, by simp, ?_⟩
    simp [leave, plus]

end Notes

namespace Line

theorem restyled_plus (col row : Nat) (n : Notes) (stream : List StreamItem) :
    restyled col row (n.plus stream) =
      ((restyled col row n).1.plus stream, (restyled col row n).2) := by
  unfold restyled
  split_ifs
  · rfl
  · split
    · exact n.attempt_plus stream _ none
    · rfl

theorem draw_plus (child : Record) (row : Nat) (template : Line) (stream : List StreamItem) :
    ∀ (col : Nat) (n : Notes), draw child row col template (n.plus stream) =
      (draw child row col template n).plus stream := by
  induction template with
  | nil => exact fun col n => rfl
  | cons t template ih =>
    intro col n
    rcases hc : Cell.blank.filled (Marker.ofValue t.value).inTemplateRow child with ⟨c, _ | e⟩
    · rcases hs : restyled col row n with ⟨n₁, _ | e⟩
      · simp only [draw, hc, restyled_plus, hs, ih]
        rfl
      · simp only [draw, hc, restyled_plus, hs]
        rfl
    · simp only [draw, hc]
      rfl

end Line

namespace Lines

variable {record record' : Record} {source source' : Option Nat} {below : List Line} {n : Notes}

theorem draw_plus {id : Nat} (h : Streams.Swapped id source source') (below : List Line)
    (items : List StreamItem) :
    ∀ (row : Nat) (n : Notes) (stream : List StreamItem), n.streams.length = id →
      ∃ stream', (source' = source → stream' = stream) ∧
        draw source' below row items (n.plus stream) =
          (draw source below row items n).plus stream' := by
  induction items with
  | nil => exact fun row n stream _ => ⟨stream, fun _ => rfl, rfl⟩
  | cons item items ih =>
    intro row n stream hid
    obtain ⟨stream₁, hsame₁, hleave⟩ := n.leave_plus (hid ▸ h) stream items
    have hlength := (Streams.Kept.leave n source items).length
    cases item with
    | fails =>
      refine ⟨stream₁, hsame₁, ?_⟩
      simp only [draw, hleave]
      rfl
    | value item =>
      rcases hn : (n.leave source items).attempt (.insertRow row 1)
        (obstacle (row - 1 + below.length) row) with ⟨n₁, _ | e⟩
      · have hid₁ : n₁.streams.length = id := by
          rw [Notes.streams_attempt hn, hlength, hid]
        cases below with
        | nil =>
          obtain ⟨stream₂, hsame₂, hrest⟩ := ih (row + 1) n₁ stream₁ hid₁
          refine ⟨stream₂, fun heq => (hsame₂ heq).trans (hsame₁ heq), ?_⟩
          simp only [draw, hleave, Notes.attempt_plus, hn, hrest]
        | cons template below =>
          rcases hl : Line.draw (Record.ofValue item) row 1 template n₁ with ⟨line, n₂, _ | e⟩
          · have hid₂ : n₂.streams.length = id := by
              have hline := Line.streams_draw (Record.ofValue item) row template 1 n₁
              rw [hl] at hline
              rw [hline, hid₁]
            obtain ⟨stream₂, hsame₂, hrest⟩ := ih (row + 1) n₂ stream₁ hid₂
            refine ⟨stream₂, fun heq => (hsame₂ heq).trans (hsame₁ heq), ?_⟩
            simp only [draw, hleave, Notes.attempt_plus, hn, Line.draw_plus, hl, Drawn.plus]
            simp only [hrest, Drawn.plus]
          · refine ⟨stream₁, hsame₁, ?_⟩
            simp only [draw, hleave, Notes.attempt_plus, hn, Line.draw_plus, hl, Drawn.plus]
      · refine ⟨stream₁, hsame₁, ?_⟩
        simp only [draw, hleave, Notes.attempt_plus, hn]
        rfl

theorem expandItems_plus (h : Streams.Swapped n.streams.length source source') (row : Nat)
    (line : Line) (items : List StreamItem) (below : List Line) (stream : List StreamItem) :
    ∃ stream', (source' = source → stream' = stream) ∧
      expandItems row line source' items below (n.plus stream) =
        (expandItems row line source items below n).plus stream' := by
  obtain ⟨stream', hsame, hdraw⟩ := draw_plus h below items (row + 1) n stream rfl
  refine ⟨stream', hsame, ?_⟩
  rcases hd : draw source below (row + 1) items n with ⟨ls, n₁, _ | e⟩
  · rw [hd] at hdraw
    rcases hn : n₁.attempt (.removeRow row) (obstacle (row + ls.length + below.length) (row + 1))
      with ⟨n₂, _ | e⟩
    · simp only [expandItems, hd, hdraw, Drawn.plus, Notes.attempt_plus, hn]
    · simp only [expandItems, hd, hdraw, Drawn.plus, Notes.attempt_plus, hn]
  · rw [hd] at hdraw
    simp only [expandItems, hd, hdraw, Drawn.plus]

theorem collection_plus {v : Value} {streams : Streams} (h : v.stream? ≠ some streams.length)
    (stream : List StreamItem) : collection (streams ++ [stream]) v = collection streams v := by
  unfold collection
  cases hi : v.items with
  | all items => rfl
  | none => rfl
  | stream id =>
    have hid : id ≠ streams.length := by simpa [Value.stream?, hi] using h
    have hget : (streams ++ [stream]).getD id [] = streams.getD id [] := by
      rcases Nat.lt_or_gt_of_ne hid with hlt | hgt
      · simp [List.getElem?_append_left hlt]
      · simp [List.getElem?_eq_none, hgt.le, Nat.succ_le_of_lt hgt]
    simp only [hget]

end Lines

/-- Records that are the same but for some names, under which one holds `v` and the other `w`. -/
structure Record.Swapped (names : List Text) (v w : Value) (r r' : Record) : Prop where
  swapped : ∀ name ∈ names, r.field? name = .ok (some v) ∧ r'.field? name = .ok (some w)
  others : ∀ name ∉ names, r'.field? name = r.field? name

theorem Record.Swapped.agrees {names : List Text} {v w : Value} {r r' : Record}
    {value : Value → Value → Prop} (h : r.Swapped names v w r') (hvw : value v w)
    (hself : ∀ v, value v v) : r.Agrees (fun _ => True) value r' := by
  intro name _
  by_cases hname : name ∈ names
  · obtain ⟨hv, hw⟩ := h.swapped name hname
    rw [hv, hw]
    exact .present hvw
  · rw [h.others name hname]
    exact .self hself _

namespace Lines

variable {record record' : Record} {below : List Line} {n : Notes} {names : List Text}
  {v : Value} {items : List Value}

/-- What a list gives when it is gone through. -/
theorem collection_of_list (hv : v.untied = .list items) (streams : Streams) :
    collection streams v = .ok (none, items.map .value) := by
  obtain ⟨-, hitems, htrue⟩ := Value.facts_of_untied (.inl hv)
  rw [collection, htrue, hitems]
  cases items <;> rfl

/-- A block fares alike on both records, as long as the stream still has the items of the list when
it is needed. -/
theorem block_plus (hv : v.untied = .list items)
    (h : record.Swapped names v (.stream n.streams.length) record')
    (hfresh : ∀ name, record.stream? name ≠ some n.streams.length) {row : Nat}
    (hrow : row ≤ Sheet.lastRow) (line : Line) {name : Text} {stream : List StreamItem}
    (hstream : name ∈ names → opens record row name below ≠ [] → stream = items.map .value) :
    ∃ stream', ((name ∉ names ∨ opens record row name below = []) → stream' = stream) ∧
      block record' row line name below (n.plus stream) =
        (block record row line name below n).plus stream' := by
  by_cases hreach : row + (below.take 1).length ≤ Sheet.lastRow
  · rw [block_eq_expand hreach, block_eq_expand hreach, expand, expand]
    by_cases hname : name ∈ names
    · obtain ⟨hf, hf'⟩ := h.swapped name hname
      have hopens : opens record row name below = [name] := by
        rw [opens, if_pos ⟨by simp [Record.holds, hf], hreach⟩]
      have hitems : blockItems record name n.streams = .ok (some (none, items.map .value)) := by
        simp only [blockItems, hf, collection_of_list hv]
        rfl
      have hitems' : blockItems record' name (n.plus stream).streams =
          .ok (some (some n.streams.length, items.map .value)) := by
        rw [hstream hname (by simp [hopens]), blockItems, hf']
        simp [collection, Value.isTrue, Value.items, Value.untied, Notes.plus, Except.map]
      rw [hitems, hitems']
      obtain ⟨stream', -, hexpand⟩ :=
        expandItems_plus .stream row line (items.map .value) below stream
      refine ⟨stream', ?_, hexpand⟩
      rintro (hnot | hnil)
      · exact absurd hname hnot
      · simp [hopens] at hnil
    · have hsame : blockItems record' name (n.plus stream).streams =
          blockItems record name n.streams := by
        have hne := hfresh name
        rw [blockItems, blockItems, h.others name hname]
        rcases hf : record.field? name with e | _ | u
        · rfl
        · rfl
        · simp only [Record.stream?, hf] at hne
          simp only [Notes.plus, collection_plus hne]
      rw [hsame]
      rcases hi : blockItems record name n.streams with e | _ | ⟨source, vs⟩
      · exact ⟨stream, fun _ => rfl, rfl⟩
      · exact ⟨stream, fun _ => rfl, rfl⟩
      · obtain ⟨-, hsource, -⟩ := blockItems_source hi
        obtain ⟨stream', hsame, hexpand⟩ := expandItems_plus
          (.same (hsource ▸ hfresh name)) row line vs below stream
        exact ⟨stream', fun _ => hsame rfl, hexpand⟩
  · rw [block_of_past hrow (Nat.lt_of_not_le hreach), block_of_past hrow (Nat.lt_of_not_le hreach)]
    exact ⟨stream, fun _ => rfl, rfl⟩

/-- A block goes through its collection once. -/
theorem countP_opens {row : Nat} {name : Text} (hname : name ∈ names)
    (hopens : opens record row name below ≠ []) :
    (opens record row name below).countP (· ∈ names) = 1 := by
  unfold opens at hopens ⊢
  split_ifs at hopens ⊢
  · simp [hname]
  · exact absurd rfl hopens

/-- Lines are filled alike from both records, if the list is gone through once at most. -/
theorem fill_plus {id : Nat} (hv : v.untied = .list items)
    (h : record.Swapped names v (.stream id) record')
    (hfresh : ∀ name, record.stream? name ≠ some id) (row : Nat) (ls : List Line) (n : Notes)
    (stream : List StreamItem) (hid : n.streams.length = id)
    (honce : (opened record row ls n).countP (· ∈ names) ≤ 1)
    (hstream : (opened record row ls n).countP (· ∈ names) ≠ 0 → stream = items.map .value) :
    (fill record row ls n).content = (fill record' row ls (n.plus stream)).content ∧
      Option.Rel Failure.Alike (fill record row ls n).failure?
        (fill record' row ls (n.plus stream)).failure? := by
  have hscan (line : Line) : (Line.scan record line).Alike (fun _ => True)
      (Line.scan record' line) := by
    apply Line.scan_alike (h.agrees (.refused (Value.facts_of_untied (.inl hv)).1 rfl) .refl)
    intro c _
    cases Marker.ofValue c.value <;> trivial
  induction row, ls, n using fill_induction record generalizing stream with
  | nil row n => exact ⟨rfl, .none⟩
  | past row line below n hlast =>
    rw [fill_past hlast, fill_past hlast]
    exact ⟨rfl, .some (.refl _)⟩
  | stopped row line below n line' e hrow hs =>
    obtain ⟨e', hs', he⟩ := (hs ▸ hscan line).of_stopped
    rw [fill_stopped hrow hs, fill_stopped hrow hs']
    exact ⟨rfl, .some he⟩
  | plain row line below n line' hrow hs ih =>
    have hs' := (hs ▸ hscan line).of_plain
    rw [opened_plain hrow hs] at honce hstream
    obtain ⟨hc, hf⟩ := ih stream hid honce hstream
    rw [fill_plain hrow hs, fill_plain hrow hs']
    exact ⟨by simp only [hc], hf⟩
  | failed row line below n line' name out n₁ e hrow hs hb =>
    obtain ⟨hs', -⟩ := (hs ▸ hscan line).of_block
    rw [opened_block_stopped hrow hs hb rfl] at hstream
    obtain ⟨stream', -, hb'⟩ := block_plus hv (hid ▸ h) (hid ▸ hfresh) hrow line'
      fun hname hopens => hstream (by rw [countP_opens hname hopens]; exact one_ne_zero)
    rw [hb] at hb'
    rw [fill_block_stopped hrow hs hb rfl, fill_block_stopped hrow hs' hb' rfl]
    exact ⟨rfl, .some (.refl e)⟩
  | passed row line below n line' name out n₁ hrow hs hb ih =>
    obtain ⟨hs', -⟩ := (hs ▸ hscan line).of_block
    rw [opened_block hrow hs hb rfl, List.countP_append] at honce hstream
    dsimp only at honce hstream
    obtain ⟨stream', hsame, hb'⟩ := block_plus hv (hid ▸ h) (hid ▸ hfresh) hrow line'
      fun hname hopens => hstream (by rw [countP_opens hname hopens]; omega)
    obtain ⟨source, -, hkept⟩ := kept_block record hrow line' name below n
    rw [hb] at hb' hkept
    have hlater : (opened record (row + out.length) (below.drop 1) n₁).countP (· ∈ names) ≠ 0 →
        stream' = items.map .value := by
      intro hlater
      -- a later block goes through the list, so this one does not
      have hnot : name ∉ names ∨ opens record row name below = [] := by
        by_contra hboth
        obtain ⟨hname, hopens⟩ := not_or.mp hboth
        have hone := countP_opens (not_not.mp hname) hopens
        omega
      rw [hsame hnot]
      exact hstream (by omega)
    obtain ⟨hc, hf⟩ := ih stream' (hkept.length.trans hid)
      (le_trans (Nat.le_add_left _ _) honce) hlater
    rw [fill_block hrow hs hb rfl rfl, fill_block hrow hs' hb' rfl rfl]
    exact ⟨by simp only [hc]; rfl, hf⟩

end Lines

/-- The names of the collections that a run goes through, block by block, as far as it comes. -/
def Run.opened (run : Run) (record : Record) : List Text :=
  Lines.opened record 1 run.sheet.lines run.notes

def Run.plus (run : Run) (items : List Value) : Run :=
  { run with streams := run.streams ++ [items.map .value] }

/-- How a run goes through the collections of its record. -/
structure Run.GoesThrough (run : Run) (record : Record) : Prop where
  tuple : ∀ (record' : Record) (names : List Text) (v w : Value) (items : List Value),
    v.untied = .list items → w.untied = .tuple items → record.Swapped names v w record' →
      (run.fill record).Alike (run.fill record')
  /-- A stream that is known under no other name is as good as a list of which at most one block is
  made. -/
  stream : ∀ (record' : Record) (names : List Text) (v : Value) (items : List Value),
    v.untied = .list items → record.Swapped names v (.stream run.streams.length) record' →
      (∀ name, record.stream? name ≠ some run.streams.length) →
      (run.opened record).countP (· ∈ names) ≤ 1 →
      (run.fill record).Alike ((run.plus items).fill record')
  /-- Of the parts that the sheet was made of, the first one that takes its items from a stream has
  all of them, and those behind it have none. -/
  once : (run.fill record).failure? = none →
    (∃ outs, List.Forall₂ (Part.Becomes record)
        (Lines.parts record run.streams run.sheet.lines) outs ∧
      (run.fill record).run.sheet.Reads run.sheet.maxCol outs.flatten) ∧
    ∀ id, Lines.taken record id (Lines.parts record run.streams run.sheet.lines) = [] ∨
      ∃ (items : List Value) (later : Nat), items.map .value = run.streams.getD id [] ∧
        Lines.taken record id (Lines.parts record run.streams run.sheet.lines) =
          items :: List.replicate later []
  /-- A stream that no block goes through keeps all of its items. -/
  untouched : ∀ id, (∀ name ∈ run.opened record, record.stream? name ≠ some id) →
    (run.fill record).run.streams.getD id [] = run.streams.getD id []

theorem Record.Swapped.collections {names : List Text} {v w : Value} {items : List Value}
    {r r' : Record} (h : r.Swapped names v w r') (hv : v.untied = .list items)
    (hw : w.untied = .tuple items) :
    r.Agrees (fun _ => True) (Value.CollectionAlike Eq) r' := by
  apply h.agrees
  · apply Value.alike_of_untied (.inl hv) (.inr hw)
    exact List.forall₂_same.mpr fun _ _ => rfl
  · exact .refl

theorem Notes.alike_self (n : Notes) : n.Alike Eq n := by
  refine ⟨List.forall₂_same.mpr fun stream _ => List.forall₂_same.mpr fun item _ => ?_, rfl, rfl⟩
  cases item with
  | value v => exact .value rfl
  | fails => exact .fails

theorem Run.goesThrough_fill (run : Run) (record : Record) : run.GoesThrough record := by
  constructor
  · intro record' names v w items hv hw h
    have hitem : Lines.ItemsAgree (fun _ => True) Eq := by
      rintro a _ rfl name _
      exact .self .refl _
    apply Run.fill_alike hitem (fun _ => rfl) (h.collections hv hw) rfl (Notes.alike_self _)
    intro line _ c _
    cases Marker.ofValue c.value <;> trivial
  · intro record' names v items hv h hfresh honce
    obtain ⟨hcontent, hfail⟩ := Lines.fill_plus hv h hfresh 1 run.sheet.lines run.notes
      (items.map .value) rfl honce fun _ => rfl
    exact Run.outcome_alike rfl hcontent hfail
  · intro h
    obtain ⟨out, n', hp, hr⟩ := run.passes_fill record h
    obtain ⟨outs, houts, rfl⟩ := Lines.becomes_of_passes hp rfl
    constructor
    · exact ⟨outs, houts, hr⟩
    · intro id
      exact Lines.taken_of_passes id hp rfl
  · intro id h
    obtain ⟨s, hfill, -, -⟩ := run.fill_eq record
    rw [hfill]
    exact Lines.unread_fill run.sheet.lines 1 run.notes h

def Run.shifts : Run where
  sheet := .ofTexts [["$Each{day}", "$Each{night}"], ["$F{name}", "$Each{night}"],
    ["$Each{again}", "$F{night}"], ["$F{name}", "again"], ["$Each{more}", ""], ["$F{name}", ""]]
  streams := [[.value (.map [(.text "name", .text "Ann")]), .value (.map [])],
    [.value (.map [(.text "name", .text "Bob")])]]
  edits := []
  refusal := none

def Record.shifts (more : Value) : Record :=
  .mapping [(.text "day", .stream 0), (.text "again", .stream 0), (.text "night", .stream 1),
    (.text "more", more)]

theorem Record.stream?_mapping_ne {id : Nat} {entries : List (Value × Value)}
    (h : ∀ entry ∈ entries, entry.2.stream? ≠ some id) (name : Text) :
    (mapping entries).stream? name ≠ some id := by
  rw [stream?, field?_mapping]
  cases hv : Value.lookup? entries name with
  | none => simp
  | some v =>
    obtain ⟨entry, hentry, rfl⟩ := Option.map_eq_some_iff.mp hv
    exact h entry (List.mem_of_find?_eq_some hentry)

theorem Record.swapped_shifts (v w : Value) : (shifts v).Swapped ["more"] v w (shifts w) := by
  constructor
  · intro name hname
    obtain rfl := List.mem_singleton.mp hname
    exact ⟨rfl, rfl⟩
  · intro name hname
    have hne : "more" ≠ name := fun h => hname (by simp [h])
    simp [shifts, field?_mapping, Value.lookup?, List.find?_cons, hne]

theorem Run.goesThrough_shifts :
    (Run.shifts.fill (.shifts (.list [.map []]))).Alike
        (Run.shifts.fill (.shifts (.tuple [.map []]))) ∧
      (Run.shifts.fill (.shifts (.list [.map []]))).Alike
        ((Run.shifts.plus [.map []]).fill (.shifts (.stream 2))) ∧
      (∃ items : List Value, items.map .value = Run.shifts.streams.getD 0 [] ∧
        Lines.taken (.shifts (.list [.map []])) 0 (Lines.parts (.shifts (.list [.map []]))
          Run.shifts.streams Run.shifts.sheet.lines) = [items, []]) ∧
      (Run.shifts.fill (.shifts (.list [.map []]))).run.streams.getD 1 [] =
        Run.shifts.streams.getD 1 [] := by
  have hrun := Run.goesThrough_fill Run.shifts (.shifts (.list [.map []]))
  refine ⟨?_, ?_, ?_, ?_⟩
  · exact hrun.tuple _ ["more"] _ _ [.map []] rfl rfl (Record.swapped_shifts _ _)
  · apply hrun.stream _ ["more"] _ [.map []] rfl (Record.swapped_shifts _ _)
    · apply Record.stream?_mapping_ne
      decide
    · decide +kernel
  · have h : (Run.shifts.fill (.shifts (.list [.map []]))).failure? = none := by
      decide +kernel
    have hlength : (Lines.taken (.shifts (.list [.map []])) 0 (Lines.parts
        (.shifts (.list [.map []])) Run.shifts.streams Run.shifts.sheet.lines)).length = 2 := by
      decide +kernel
    rcases (hrun.once h).2 0 with hnone | ⟨items, later, hitems, htaken⟩
    · rw [hnone] at hlength
      cases hlength
    · rw [htaken, List.length_cons, List.length_replicate] at hlength
      obtain rfl : later = 1 := Nat.succ.inj hlength
      exact ⟨items, hitems, htaken⟩
  · apply hrun.untouched
    decide +kernel

end SheetFill
