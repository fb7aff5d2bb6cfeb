import SheetFill.Proofs.Expansion.Scanning
import SheetFill.Proofs.Expansion.Progress

/-!
# The values of a filled sheet

Read as rows of values, a sheet that could be filled shows what a plain recursion on its rows gives.
Rows without a block marker keep their place. The rows of a block give way to one row for each item
where the record has the collection, and stay where it does not.
-/
namespace SheetFill

/-- The values of a sheet in all columns of all rows up to its bounds, null where no cell exists. -/
def Sheet.values (s : Sheet) : List (List Value) := s.lines.map (·.map Cell.value)

/-- What a cell stores for the field that a marker names, if the record has it. -/
def Record.stored? (record : Record) : CellMarker → Option Value
  | .plain => none
  | .field name =>
    match record.field? name with
    | .ok (some v) => (Cell.content v).toOption.map (·.1)
    | _ => none

def StreamItem.value? : StreamItem → Option Value
  | .value v => some v
  | .fails => none

namespace Rows

def block? : List Value → Option Text
  | [] => none
  | x :: rest =>
    match Marker.ofValue x with
    | .each name _ => some name
    | _ => block? rest

def filled (record : Record) : List Value → List Value
  | [] => []
  | x :: rest =>
    match Marker.ofValue x with
    | .plain => x :: filled record rest
    | .field name => (record.stored? (.field name)).getD x :: filled record rest
    | .each _ _ => x :: rest

def drawn (template : List Value) (item : Value) : List Value :=
  template.map fun t =>
    ((Record.ofValue item).stored? (Marker.ofValue t).inTemplateRow).getD .null

/-- The items of a collection, and the streams when they were taken. What counts as false has
none. -/
def items (streams : Streams) (v : Value) : List Value × Streams :=
  if !v.isTrue then ([], streams)
  else
    match v.items with
    | .all items => (items, streams)
    | .stream id => ((streams.getD id []).filterMap StreamItem.value?, streams.set id [])
    | .none => ([], streams)

/-- The rows that filling gives. -/
def render (record : Record) : Streams → List (List Value) → List (List Value)
  | _, [] => []
  | streams, row :: rest =>
    match block? row with
    | none => filled record row :: render record streams rest
    | some name =>
      match record.field? name with
      | .ok (some v) =>
        match rest with
        | [] => []
        | template :: rest =>
          (items streams v).1.map (drawn template) ++ render record (items streams v).2 rest
      | _ =>
        match rest with
        | [] => [filled record row]
        | template :: rest => filled record row :: template :: render record streams rest

section Render

variable {record : Record} {streams : Streams} {row : List Value} {rest : List (List Value)}
  {name : Text} {v : Value}

theorem render_plain (h : block? row = none) : render record streams (row :: rest) =
    filled record row :: render record streams rest := by
  cases rest <;> simp [render, h]

theorem render_kept (h : block? row = some name) (hf : record.field? name = .ok none) :
    render record streams (row :: rest) =
      filled record row :: (rest.take 1 ++ render record streams (rest.drop 1)) := by
  cases rest <;> simp [render, h, hf]

theorem render_expanded (h : block? row = some name) (hf : record.field? name = .ok (some v)) :
    render record streams (row :: rest) =
      (rest.take 1).flatMap (fun template => (items streams v).1.map (drawn template)) ++
        render record (items streams v).2 (rest.drop 1) := by
  cases rest <;> simp [render, h, hf]

end Render

end Rows

namespace Cell

variable {c c' : Cell} {v : Value} {marker : CellMarker} {record : Record}

theorem value_assign (h : c.kind ≠ .covered) :
    (c.assign v).1.value = ((content v).toOption.map (·.1)).getD c.value := by
  have hk : (c.kind == .covered) = false := by simpa using h
  simp only [assign, hk, Bool.false_eq_true, if_false]
  cases content v <;> rfl

theorem value_filled (h : c.kind ≠ .covered) :
    (c.filled marker record).1.value = (record.stored? marker).getD c.value := by
  cases marker with
  | plain => rfl
  | field name =>
    rcases hf : record.field? name with e | _ | v
    · simp [filled, Record.stored?, hf]
    · simp [filled, Record.stored?, hf]
    · simp [filled, Record.stored?, hf, value_assign h]

/-- A covered cell can only be filled where there is nothing to be stored. -/
theorem value_eq_of_filled (h : c.filled marker record = (c', none)) :
    c'.value = (record.stored? marker).getD c.value := by
  by_cases hk : c.kind = .covered
  · cases marker with
    | plain =>
      obtain ⟨rfl, -⟩ := Prod.mk.inj h
      rfl
    | field name =>
      rcases hf : record.field? name with e | _ | v
      · simp [filled, hf] at h
      · obtain ⟨rfl, -⟩ : c = c' ∧ True := by simpa [filled, hf] using h
        simp [Record.stored?, hf]
      · simp [filled, hf, assign, hk] at h
  · rw [← value_filled hk, h]

theorem value_drawn (template : Cell) (child : Record) : (template.drawn child).value =
    (child.stored? (Marker.ofValue template.value).inTemplateRow).getD .null :=
  value_filled (c := blank) (by simp [blank])

end Cell

def Line.values (line : Line) : List Value := line.map Cell.value

def Scanned.Shows (record : Record) (row : List Value) : Scanned → Prop
  | .plain line => Rows.block? row = none ∧ line.values = Rows.filled record row
  | .block line name => Rows.block? row = some name ∧ line.values = Rows.filled record row
  | .stopped _ _ => True

namespace Line

variable {record : Record}

theorem values_drawn (template : Line) (item : Value) :
    (template.drawn (Record.ofValue item)).values = Rows.drawn template.values item := by
  simp [values, drawn, Rows.drawn, Cell.value_drawn]

theorem shows_behind {scanned : Scanned} {x : Value} {row : List Value} {c : Cell}
    (h : scanned.Shows record row) (hb : Rows.block? (x :: row) = Rows.block? row)
    (hv : Rows.filled record (x :: row) = c.value :: Rows.filled record row) :
    (scanned.behind c).Shows record (x :: row) := by
  cases scanned with
  | plain line => exact ⟨hb.trans h.1, by rw [hv, ← h.2]; rfl⟩
  | block line name => exact ⟨hb.trans h.1, by rw [hv, ← h.2]; rfl⟩
  | stopped line e => trivial

theorem shows_scan (line : Line) : (scan record line).Shows record line.values := by
  induction line with
  | nil => exact ⟨rfl, rfl⟩
  | cons c line ih =>
    cases hm : Marker.ofValue c.value with
    | plain =>
      simp only [scan, hm]
      exact shows_behind ih (by simp [Rows.block?, hm]) (by simp [Rows.filled, hm])
    | field name =>
      rcases hf : c.filled (.field name) record with ⟨c', _ | e⟩
      · simp only [scan, hm, hf]
        exact shows_behind ih (by simp [Rows.block?, hm])
          (by simp [Rows.filled, hm, Cell.value_eq_of_filled hf])
      · simp only [scan, hm, hf, Scanned.Shows]
    | each name columns =>
      simp [scan, hm, Scanned.Shows, values, Rows.block?, Rows.filled]

theorem block?_of_plain {line line' : Line} (hs : scan record line = .plain line') :
    Rows.block? line.values = none := by
  have h : Scanned.Shows record line.values (.plain line') := hs ▸ shows_scan line
  exact h.1

theorem block?_of_block {line line' : Line} {name : Text}
    (hs : scan record line = .block line' name) : Rows.block? line.values = some name := by
  have h : Scanned.Shows record line.values (.block line' name) := hs ▸ shows_scan line
  exact h.1

end Line

namespace Lines

variable {record : Record} {name : Text} {source : Option Nat} {streams : Streams}

theorem items_of_blockItems {vs : List Value}
    (h : blockItems record name streams = .ok (some (source, vs.map .value))) :
    ∃ v, record.field? name = .ok (some v) ∧
      Rows.items streams v = (vs, Streams.drained source streams) := by
  have hvs : (vs.map StreamItem.value).filterMap StreamItem.value? = vs := by
    rw [List.filterMap_map]
    exact List.filterMap_some
  unfold blockItems at h
  rcases hf : record.field? name with e | _ | v
  · simp [hf] at h
  · simp [hf] at h
  · refine ⟨v, rfl, ?_⟩
    simp only [hf, collection] at h
    unfold Rows.items
    split_ifs at h ⊢
    · obtain ⟨rfl, rfl⟩ : none = source ∧ vs = [] := by simpa [Except.map, eq_comm] using h
      rfl
    · cases hi : v.items with
      | all items =>
        rw [hi] at h
        obtain ⟨rfl, hitems⟩ : none = source ∧ items.map StreamItem.value = vs.map .value := by
          simpa [Except.map] using h
        rw [← hvs, ← hitems, List.filterMap_map]
        simp only [Streams.drained, Prod.mk.injEq, and_true]
        exact List.filterMap_some.symm
      | stream id =>
        rw [hi] at h
        obtain ⟨rfl, hitems⟩ : some id = source ∧ streams.getD id [] = vs.map .value := by
          simpa [Except.map] using h
        simp only [hitems, hvs, Streams.drained]
      | none =>
        rw [hi] at h
        simp [Except.map] at h

theorem values_children (below : List Line) (items : List Value) :
    (children below items).map Line.values =
      ((below.map Line.values).take 1).flatMap fun template => items.map (Rows.drawn template) := by
  cases below with
  | nil => rfl
  | cons template below => simp [children, Function.comp_def, Line.values_drawn]

/-- What was left behind is what the recursion gives before it goes on with the rest. -/
theorem render_of_passes {row : Nat} {n n' : Notes} {ls out rest : List Line}
    (h : Passes record row n ls out n' rest) :
    Rows.render record n.streams (ls.map Line.values) =
      out.map Line.values ++ Rows.render record n'.streams (rest.map Line.values) := by
  induction h with
  | here => rfl
  | @plain row n line line' below out n' rest hrow hs h ih =>
    obtain ⟨hb, hv⟩ : Scanned.Shows record line.values (.plain line') := hs ▸ Line.shows_scan line
    rw [List.map_cons, List.map_cons, Rows.render_plain hb, hv, ih, List.cons_append]
  | @kept row n line line' name below out n' rest hrow hs hf h ih =>
    obtain ⟨hb, hv⟩ : Scanned.Shows record line.values (.block line' name) :=
      hs ▸ Line.shows_scan line
    rw [List.map_drop] at ih
    rw [List.map_cons, List.map_cons, Rows.render_kept hb hf, hv, List.map_append, ih,
      List.map_take, List.cons_append, List.append_assoc]
  | @expanded row n line line' name source items below n₁ out n' rest hrow hs hi hd hn hlast h ih =>
    obtain ⟨hb, hv⟩ : Scanned.Shows record line.values (.block line' name) :=
      hs ▸ Line.shows_scan line
    obtain ⟨v, hf, hitems⟩ := items_of_blockItems hi
    rw [hn, List.map_drop] at ih
    rw [List.map_cons, Rows.render_expanded hb hf, hitems, List.map_append, ih, values_children,
      List.append_assoc]

end Lines

/-- A sheet that could be filled shows the rows of the recursion. Where these are none it reads like
a sheet without cells. -/
theorem Run.values_fill (run : Run) (record : Record) (h : (run.fill record).failure? = none) :
    (run.fill record).run.sheet.values =
      if Rows.render record run.streams run.sheet.values = [] then run.sheet.cleared.values
      else Rows.render record run.streams run.sheet.values := by
  obtain ⟨s, hfill, hr, hk⟩ := run.fill_eq record
  rw [hfill] at h ⊢
  rcases hd : Lines.fill record 1 run.sheet.lines run.notes with ⟨out, n', f?⟩
  rw [hd] at h hr
  obtain rfl : f? = none := h
  have hv : Rows.render record run.streams run.sheet.values = out.map Line.values :=
    (Lines.render_of_passes (Lines.passes_of_fill hd)).trans (List.append_nil _)
  simp only [hv, List.map_eq_nil_iff]
  show s.values = _
  rw [Sheet.values, hr.lines]
  split_ifs
  · rw [Sheet.cleared_lines_congr hk.above]
    rfl
  · rfl

def Run.order : Run where
  sheet := .ofTexts [["No. $F{number}", "$F{customer}"], ["$Each{lines}", "$F{customer}"],
    ["$F{price}", "each"], ["$F{customer}", "$F{number}"]]
  streams := [[.value (.map [(.text "price", .int 3)]), .value (.map [(.text "count", .int 5)])]]
  edits := []
  refusal := none

def Record.order : Record := .mapping [(.text "number", .int 7), (.text "lines", .stream 0)]

theorem Run.values_fill_order :
    (Run.order.fill .order).failure? = none ∧
      (Run.order.fill .order).run.sheet.values =
        [[.int 7, .text "$F{customer}"], [.int 3, .null], [.null, .null],
          [.text "$F{customer}", .int 7]] := by
  have h : (Run.order.fill .order).failure? = none := by
    decide +kernel
  exact ⟨h, (Run.values_fill _ _ h).trans (by rfl)⟩

end SheetFill
