import SheetFill.Proofs.Sheet.Reading
import SheetFill.Proofs.Expansion.Notes

/-!
# Filling lines in one pass

The same expansion on a plain list of lines. Every line is looked at once, from the top: a line
without a block marker is filled where it stands, and a block is replaced by the lines that are
drawn for its items. No line moves, and no number of a row but those of the edits is ever computed.
Where it stops, the lines are what the sheet shows then.
-/
namespace SheetFill

/-- What a part of an expansion gives, and why it stopped if it did. -/
structure Drawn (α : Type) where
  content : α
  notes : Notes
  failure? : Option Failure

/-- A cell in which the field that a marker names was written, if the record has it, and why that
failed if it did. -/
def Cell.filled (c : Cell) (marker : CellMarker) (record : Record) : Cell × Option Failure :=
  match marker with
  | .plain => (c, none)
  | .field name =>
    match record.field? name with
    | .error e => (c, some (.record e))
    | .ok none => (c, none)
    | .ok (some v) => ((c.assign v).1, (c.assign v).2.map .cell)

/-- How far a line could be filled: to its end, up to its first block marker, or not even so far. -/
inductive Scanned where
  | plain (line : Line)
  | block (line : Line) (name : Text)
  | stopped (line : Line) (e : Failure)

def Scanned.behind (c : Cell) : Scanned → Scanned
  | .plain line => .plain (c :: line)
  | .block line name => .block (c :: line) name
  | .stopped line e => .stopped (c :: line) e

namespace Line

/-- Fills a line from the left, up to its first block marker. -/
def scan (record : Record) : Line → Scanned
  | [] => .plain []
  | c :: rest =>
    match Marker.ofValue c.value with
    | .plain => (scan record rest).behind c
    | .field name =>
      match c.filled (.field name) record with
      | (c, none) => (scan record rest).behind c
      | (c, some e) => .stopped (c :: rest) e
    | .each name _ => .block (c :: rest) name

def restyled (col row : Nat) (n : Notes) : Notes × Option Failure :=
  if Sheet.lastRow < row + 1 then (n, some (.sheet (.noSuchRow (row + 1))))
  else
    match Address.text? col (row + 1), Address.text? col row with
    | some source, some target => n.attempt (.cloneStyle source target) none
    | _, _ => (n, some (.sheet (.noColumnLetters col)))

/-- Draws row `row` for an item from the template row below it: each cell holds the field that the
template names, and has the style of the template. -/
def draw (child : Record) (row : Nat) : (col : Nat) → Line → Notes → Drawn Line
  | _, [], n => ⟨[], n, none⟩
  | col, t :: rest, n =>
    match Cell.blank.filled (Marker.ofValue t.value).inTemplateRow child with
    | (c, some e) => ⟨c :: Line.blank rest.length, n, some e⟩
    | (c, none) =>
      match restyled col row n with
      | (n, some e) => ⟨c :: Line.blank rest.length, n, some e⟩
      | (n, none) =>
        let d := draw child row (col + 1) rest n
        ⟨{ c with style := t.style } :: d.content, d.notes, d.failure?⟩

end Line

namespace Lines

/-- Rows cannot be moved where the sheet reaches beyond the last row; `count` is the number of its
rows, of which those from `row` on would move. -/
def obstacle (count row : Nat) : Option Failure :=
  if row ≤ count ∧ Sheet.lastRow < count then
    some (.sheet (.noSuchRow (max row (Sheet.lastRow + 1))))
  else none

/-- Draws a row for each item, the first of them as row `row`, above the lines `below`, of which the
first is the template row. With no template row there is nothing to draw. -/
def draw (source : Option Nat) (below : List Line) :
    (row : Nat) → List StreamItem → Notes → Drawn (List Line)
  | _, [], n => ⟨[], n, none⟩
  | _, .fails :: rest, n => ⟨[], n.leave source rest, some .streamFailed⟩
  | row, .value item :: rest, n =>
    match (n.leave source rest).attempt (.insertRow row 1)
        (obstacle (row - 1 + below.length) row) with
    | (n, some e) => ⟨[], n, some e⟩
    | (n, none) =>
      match below with
      | [] => draw source below (row + 1) rest n
      | template :: _ =>
        let line := Line.draw (Record.ofValue item) row 1 template n
        match line.failure? with
        | some e => ⟨[line.content], line.notes, some e⟩
        | none =>
          let d := draw source below (row + 1) rest line.notes
          ⟨line.content :: d.content, d.notes, d.failure?⟩

def collection (streams : Streams) (v : Value) :
    Except Failure (Option Nat × List StreamItem) :=
  if !v.isTrue then .ok (none, [])
  else
    match v.items with
    | .all items => .ok (none, items.map .value)
    | .stream id => .ok (some id, streams.getD id [])
    | .none => .error (.notIterable v.kindName)

def blockItems (record : Record) (name : Text) (streams : Streams) :
    Except Failure (Option (Option Nat × List StreamItem)) :=
  match record.field? name with
  | .error e => .error (.record e)
  | .ok none => .ok none
  | .ok (some v) => (collection streams v).map some

/-- Draws the items of a block with its marker in row `row` and takes the marker row and the
template row out. Where that stops the marker row is still there, unless the template row was to go
next. -/
def expandItems (row : Nat) (line : Line) (source : Option Nat) (items : List StreamItem)
    (below : List Line) (n : Notes) : Drawn (List Line) :=
  let d := draw source below (row + 1) items n
  match d.failure? with
  | some e => ⟨line :: d.content, d.notes, some e⟩
  | none =>
    let count := row + d.content.length + below.length
    match d.notes.attempt (.removeRow row) (obstacle count (row + 1)) with
    | (n, some e) => ⟨line :: d.content, n, some e⟩
    | (n, none) =>
      let last := row + items.length
      let (n, e?) := n.attempt (.removeRow last) (obstacle (count - 1) (last + 1))
      ⟨d.content, n, e?⟩

/-- Expands the block whose marker stands in row `row`; its line was filled up to the marker. Gives
the lines for the block; the template row is among them only where the block stays as it is. After a
failure they stand above all of the lines `below`. -/
def expand (record : Record) (row : Nat) (line : Line) (name : Text) (below : List Line)
    (n : Notes) : Drawn (List Line) :=
  match blockItems record name n.streams with
  | .error e => ⟨[line], n, some e⟩
  | .ok none => ⟨line :: below.take 1, n, none⟩
  | .ok (some (source, items)) => expandItems row line source items below n

def block (record : Record) (row : Nat) (line : Line) (name : Text) (below : List Line)
    (n : Notes) : Drawn (List Line) :=
  if below ≠ [] ∧ Sheet.lastRow < row + 1 then
    ⟨[line], n, some (.sheet (.noSuchRow (row + 1)))⟩
  else expand record row line name below n

def fill (record : Record) : (row : Nat) → List Line → Notes → Drawn (List Line)
  | _, [], n => ⟨[], n, none⟩
  | row, line :: below, n =>
    if Sheet.lastRow < row then ⟨line :: below, n, some (.sheet (.noSuchRow row))⟩
    else
      match Line.scan record line with
      | .stopped line e => ⟨line :: below, n, some e⟩
      | .plain line =>
        let d := fill record (row + 1) below n
        ⟨line :: d.content, d.notes, d.failure?⟩
      | .block line name =>
        let b := block record row line name below n
        match b.failure? with
        | some e => ⟨b.content ++ below, b.notes, some e⟩
        | none =>
          match below with
          | [] => ⟨b.content, b.notes, none⟩
          | _ :: below =>
            let d := fill record (row + b.content.length) below b.notes
            ⟨b.content ++ d.content, d.notes, d.failure?⟩

theorem obstacle_eq_some {count row : Nat} {f : Failure} (h : obstacle count row = some f) :
    row ≤ count ∧ Sheet.lastRow < count ∧
      f = .sheet (.noSuchRow (max row (Sheet.lastRow + 1))) := by
  unfold obstacle at h
  split_ifs at h with hc
  exact ⟨hc.1, hc.2, (Option.some.inj h).symm⟩

theorem le_of_obstacle_eq_none {count row : Nat} (h : obstacle count row = none) :
    row ≤ count → count ≤ Sheet.lastRow := by
  intro hrow
  by_contra hlast
  simp [obstacle, hrow, Nat.lt_of_not_le hlast] at h

theorem obstacle_of_le {count row : Nat} (h : count ≤ Sheet.lastRow) :
    obstacle count row = none := by
  rw [obstacle, if_neg (by omega)]

section Fill

variable {record : Record} {row : Nat} {line line' : Line} {below : List Line} {n : Notes}
  {name : Text} {e : Failure}

theorem fill_past (h : Sheet.lastRow < row) :
    fill record row (line :: below) n =
      ⟨line :: below, n, some (.sheet (.noSuchRow row))⟩ := by
  rw [fill, if_pos h]

theorem fill_stopped (h : row ≤ Sheet.lastRow) (hs : Line.scan record line = .stopped line' e) :
    fill record row (line :: below) n = ⟨line' :: below, n, some e⟩ := by
  rw [fill, if_neg (Nat.not_lt.mpr h), hs]

theorem fill_plain (h : row ≤ Sheet.lastRow) (hs : Line.scan record line = .plain line') :
    fill record row (line :: below) n =
      ⟨line' :: (fill record (row + 1) below n).content, (fill record (row + 1) below n).notes,
        (fill record (row + 1) below n).failure?⟩ := by
  rw [fill, if_neg (Nat.not_lt.mpr h), hs]

theorem fill_block_stopped (h : row ≤ Sheet.lastRow)
    (hs : Line.scan record line = .block line' name) {b : Drawn (List Line)}
    (hb : block record row line' name below n = b) (hf : b.failure? = some e) :
    fill record row (line :: below) n = ⟨b.content ++ below, b.notes, some e⟩ := by
  rw [fill, if_neg (Nat.not_lt.mpr h), hs]
  simp only [hb, hf]

theorem block_eq_expand (h : row + (below.take 1).length ≤ Sheet.lastRow) :
    block record row line name below n = expand record row line name below n := by
  have hin : ¬ (below ≠ [] ∧ Sheet.lastRow < row + 1) := by
    rintro ⟨hne, hlast⟩
    obtain ⟨template, below, rfl⟩ := List.exists_cons_of_ne_nil hne
    rw [List.take_succ_cons, List.take_zero, List.length_singleton] at h
    omega
  rw [block, if_neg hin]

theorem block_of_past (hrow : row ≤ Sheet.lastRow)
    (h : Sheet.lastRow < row + (below.take 1).length) :
    block record row line name below n =
      ⟨[line], n, some (.sheet (.noSuchRow (row + 1)))⟩ := by
  cases below with
  | nil =>
    rw [List.take_nil, List.length_nil] at h
    omega
  | cons template below =>
    rw [List.take_succ_cons, List.take_zero, List.length_singleton] at h
    rw [block, if_pos ⟨List.cons_ne_nil _ _, h⟩]

theorem block_of_absent (h : row + (below.take 1).length ≤ Sheet.lastRow)
    (hf : record.field? name = .ok none) :
    block record row line name below n = ⟨line :: below.take 1, n, none⟩ := by
  rw [block_eq_expand h, expand, blockItems, hf]

theorem block_of_items (h : row + (below.take 1).length ≤ Sheet.lastRow) {source : Option Nat}
    {items : List StreamItem}
    (hi : blockItems record name n.streams = .ok (some (source, items))) :
    block record row line name below n = expandItems row line source items below n := by
  rw [block_eq_expand h, expand, hi]

theorem fill_block (h : row ≤ Sheet.lastRow) (hs : Line.scan record line = .block line' name)
    {b d : Drawn (List Line)} (hb : block record row line' name below n = b)
    (hf : b.failure? = none)
    (hd : fill record (row + b.content.length) (below.drop 1) b.notes = d) :
    fill record row (line :: below) n = ⟨b.content ++ d.content, d.notes, d.failure?⟩ := by
  rw [fill, if_neg (Nat.not_lt.mpr h), hs]
  simp only [hb, hf]
  cases below with
  | nil =>
    subst hd
    simp [fill]
  | cons template below =>
    simp only [← hd, List.drop_succ_cons, List.drop_zero]

/-- Induction along a filling: it comes to the end, it stops at a line or in a block, or it goes on
behind a plain line or a block. -/
@[elab_as_elim]
theorem fill_induction (record : Record) {motive : Nat → List Line → Notes → Prop}
    (nil : ∀ row n, motive row [] n)
    (past : ∀ row line below n, Sheet.lastRow < row → motive row (line :: below) n)
    (stopped : ∀ row line below n line' e, row ≤ Sheet.lastRow →
      Line.scan record line = .stopped line' e → motive row (line :: below) n)
    (plain : ∀ row line below n line', row ≤ Sheet.lastRow →
      Line.scan record line = .plain line' → motive (row + 1) below n →
      motive row (line :: below) n)
    (failed : ∀ row line below n line' name out n₁ e, row ≤ Sheet.lastRow →
      Line.scan record line = .block line' name →
      block record row line' name below n = ⟨out, n₁, some e⟩ → motive row (line :: below) n)
    (passed : ∀ row line below n line' name out n₁, row ≤ Sheet.lastRow →
      Line.scan record line = .block line' name →
      block record row line' name below n = ⟨out, n₁, none⟩ →
      motive (row + out.length) (below.drop 1) n₁ → motive row (line :: below) n)
    (row : Nat) (ls : List Line) (n : Notes) : motive row ls n := by
  induction hk : ls.length using Nat.strong_induction_on generalizing row ls n with
  | _ k ih =>
    cases ls with
    | nil => exact nil row n
    | cons line below =>
      rw [List.length_cons] at hk
      by_cases hlast : Sheet.lastRow < row
      · exact past row line below n hlast
      · have hrow : row ≤ Sheet.lastRow := Nat.le_of_not_lt hlast
        cases hs : Line.scan record line with
        | stopped line' e => exact stopped row line below n line' e hrow hs
        | plain line' =>
          exact plain row line below n line' hrow hs (ih below.length (by omega) _ below n rfl)
        | block line' name =>
          rcases hb : block record row line' name below n with ⟨out, n₁, _ | e⟩
          · apply passed row line below n line' name out n₁ hrow hs hb
            exact ih (below.drop 1).length (by rw [List.length_drop]; omega) _ _ n₁ rfl
          · exact failed row line below n line' name out n₁ e hrow hs hb

end Fill

end Lines
end SheetFill
