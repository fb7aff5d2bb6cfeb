import SheetFill.Proofs.Expansion.RowSemantics

/-!
# What a failure leaves behind

Whatever stops the filling of a sheet, nothing of the template is lost. Above the row or block that
failed all is finished, and below it all is as it was. Of the row itself the cells to the left are
filled. Of a block the rows of the items before are complete, the row in progress is drawn up to
some column, and the marker row and the template row are there: it takes the removal of the template
row, the very last call, to fail for the marker row to be gone.
-/
namespace SheetFill

/-- The failure of a call that changes rows or styles: it was refused, or met a limit of the
sheet. -/
def Failure.OfEdit (kind : EditKind) (e : Failure) : Prop :=
  e = .refused kind ∨ ∃ limit, e = .sheet limit

namespace Cell

variable {c c' : Cell} {v : Value} {marker : CellMarker} {record : Record} {e : Failure}

theorem assign_refused {r : Cell.Error} (h : c.assign v = (c', some r)) :
    c'.value = c.value ∧ c'.style = c.style := by
  unfold assign at h
  split_ifs at h
  · obtain ⟨rfl, -⟩ := Prod.mk.inj h
    exact ⟨rfl, rfl⟩
  · split at h
    · simp at h
    · obtain ⟨rfl, -⟩ := Prod.mk.inj h
      exact ⟨rfl, rfl⟩

theorem filled_refused (h : c.filled marker record = (c', some e)) :
    c'.value = c.value ∧ c'.style = c.style := by
  unfold filled at h
  split at h
  · simp at h
  · split at h
    · obtain ⟨rfl, -⟩ := Prod.mk.inj h
      exact ⟨rfl, rfl⟩
    · simp at h
    · rename_i v _
      obtain ⟨rfl, he⟩ := Prod.mk.inj h
      obtain ⟨r, hr, -⟩ := Option.map_eq_some_iff.mp he
      exact assign_refused (Prod.ext rfl hr)

end Cell

theorem Lines.obstacle_ofEdit {n n' : Notes} {edit : Edit} {e : Failure} {count row : Nat}
    (h : n.attempt edit (obstacle count row) = (n', some e)) : e.OfEdit edit.kind := by
  rcases Notes.attempt_eq_some h with he | ho
  · exact .inl he
  · obtain ⟨-, -, he⟩ := obstacle_eq_some ho
    exact .inr ⟨_, he⟩

/-- A row that was drawn for a record up to some column, where `e` stopped it. The cell there is
empty, or has its value but not its style yet. -/
inductive Line.PartlyDrawn (template : Line) (child : Record) (e : Failure) : Line → Prop
  | value (left : Line) {t right c} (ht : template = left ++ t :: right)
      (hc : Cell.blank.filled (Marker.ofValue t.value).inTemplateRow child = (c, some e))
      (hempty : c.value = .null ∧ c.style = .plain) :
      PartlyDrawn template child e (Line.drawn left child ++ c :: Line.blank right.length)
  | style (left : Line) {t right c} (ht : template = left ++ t :: right)
      (hc : Cell.blank.filled (Marker.ofValue t.value).inTemplateRow child = (c, none))
      (he : e.OfEdit .cloneStyle) :
      PartlyDrawn template child e (Line.drawn left child ++ c :: Line.blank right.length)

/-- The rows that were drawn for some items before `e` stopped it. -/
inductive Lines.PartlyDrawn (below : List Line) : List StreamItem → Failure → List Line → Prop
  | stream (done : List Value) {rest} :
      PartlyDrawn below (done.map .value ++ .fails :: rest) .streamFailed (children below done)
  | insertion (done : List Value) {item rest e} (he : e.OfEdit .insertRow) :
      PartlyDrawn below (done.map .value ++ .value item :: rest) e (children below done)
  | row (done : List Value) {item rest e template line} (ht : below.head? = some template)
      (hl : Line.PartlyDrawn template (Record.ofValue item) e line) :
      PartlyDrawn below (done.map .value ++ .value item :: rest) e (children below done ++ [line])

/-- What stands between the marker row and the template row of a block when `e` stops it. `edits`
has all changes that were asked for up to then. -/
inductive Lines.PartlyExpanded (record : Record) (streams : Streams) (edits : List Edit) (row : Nat)
    (name : Text) (below : List Line) : Failure → List Line → Prop
  | collection {e} (hi : blockItems record name streams = .error e) :
      PartlyExpanded record streams edits row name below e []
  | outOfReach (hbelow : below ≠ []) (hlast : Sheet.lastRow < row + 1) :
      PartlyExpanded record streams edits row name below (.sheet (.noSuchRow (row + 1))) []
  | drawing {source items e ls} (hi : blockItems record name streams = .ok (some (source, items)))
      (h : PartlyDrawn below items e ls) :
      PartlyExpanded record streams edits row name below e ls
  | markerRow {source items e}
      (hi : blockItems record name streams = .ok (some (source, items.map .value)))
      (he : e.OfEdit .removeRow) (hedits : ∃ before, edits = before ++ [.removeRow row]) :
      PartlyExpanded record streams edits row name below e (children below items)

/-- What is left of a row and of the rows below it when `e` stops filling there. -/
inductive Lines.Left (record : Record) (streams : Streams) (edits : List Edit) (row : Nat) :
    Line → List Line → Failure → List Line → Prop
  | outOfReach {line below} (hlast : Sheet.lastRow < row) :
      Left record streams edits row line below (.sheet (.noSuchRow row)) (line :: below)
  | cell {left left' right : Line} {c c' name below e}
      (hleft : Line.scan record left = .plain left') (hc : Marker.ofValue c.value = .field name)
      (he : c.filled (.field name) record = (c', some e))
      (hsame : c'.value = c.value ∧ c'.style = c.style) :
      Left record streams edits row (left ++ c :: right) below e ((left' ++ c' :: right) :: below)
  | block {left left' right : Line} {c name columns below e ls}
      (hleft : Line.scan record left = .plain left')
      (hc : Marker.ofValue c.value = .each name columns)
      (h : PartlyExpanded record streams edits row name below e ls) :
      Left record streams edits row (left ++ c :: right) below e
        ((left' ++ c :: right) :: (ls ++ below))
  | templateRow {left left' right : Line} {c name columns source items below e}
      (hleft : Line.scan record left = .plain left')
      (hc : Marker.ofValue c.value = .each name columns)
      (hi : blockItems record name streams = .ok (some (source, items.map .value)))
      (he : e.OfEdit .removeRow)
      (hedits : ∃ before, edits = before ++ [.removeRow row, .removeRow (row + items.length)]) :
      Left record streams edits row (left ++ c :: right) below e (children below items ++ below)

/-! ## Rows -/

namespace Line

variable {record child : Record} {e : Failure}

theorem restyled_ofEdit {col row : Nat} {n n' : Notes} (h : restyled col row n = (n', some e)) :
    e.OfEdit .cloneStyle := by
  unfold restyled at h
  split_ifs at h
  · exact .inr ⟨_, (Option.some.inj (Prod.mk.inj h).2).symm⟩
  · split at h
    · exact (Notes.attempt_eq_some h).imp id fun hf => by simp at hf
    · exact .inr ⟨_, (Option.some.inj (Prod.mk.inj h).2).symm⟩

theorem PartlyDrawn.cons {t : Cell} {template line : Line} (h : template.PartlyDrawn child e line) :
    PartlyDrawn (t :: template) child e (t.drawn child :: line) := by
  cases h with
  | @value left t' right c ht hc hempty =>
    exact .value (t :: left) (by rw [ht]; rfl) hc hempty
  | @style left t' right c ht hc he =>
    exact .style (t :: left) (by rw [ht]; rfl) hc he

theorem partlyDrawn_of_draw (row : Nat) (template : Line) : ∀ (col : Nat) (n n' : Notes)
    (line : Line), draw child row col template n = ⟨line, n', some e⟩ →
    template.PartlyDrawn child e line := by
  induction template with
  | nil =>
    intro col n n' line h
    simp [draw] at h
  | cons t template ih =>
    intro col n n' line h
    rcases hc : Cell.blank.filled (Marker.ofValue t.value).inTemplateRow child with ⟨c, _ | e'⟩
    · rcases hn : restyled col row n with ⟨n₁, _ | e'⟩
      · simp only [draw, hc, hn] at h
        rcases hd : draw child row (col + 1) template n₁ with ⟨line₁, n₂, f?⟩
        rw [hd] at h
        obtain ⟨rfl, -, rfl⟩ := Drawn.mk.inj h
        have hdrawn : ({ c with style := t.style } : Cell) = t.drawn child := by
          rw [Cell.drawn, hc]
        exact hdrawn ▸ (ih _ _ _ _ hd).cons
      · simp only [draw, hc, hn] at h
        obtain ⟨rfl, -, he⟩ := Drawn.mk.inj h
        obtain rfl := Option.some.inj he
        exact .style [] rfl hc (restyled_ofEdit hn)
    · simp only [draw, hc] at h
      obtain ⟨rfl, -, he⟩ := Drawn.mk.inj h
      obtain rfl := Option.some.inj he
      exact .value [] rfl hc (Cell.filled_refused hc)

end Line

/-- Where a line was left: at a block marker, or at a field that could not be filled. -/
def Scanned.Splits (record : Record) (line : Line) : Scanned → Prop
  | .plain _ => True
  | .block line' name => ∃ left left' c right columns, line = left ++ c :: right ∧
      Line.scan record left = .plain left' ∧ Marker.ofValue c.value = .each name columns ∧
      line' = left' ++ c :: right
  | .stopped line' e => ∃ left left' c c' right name, line = left ++ c :: right ∧
      Line.scan record left = .plain left' ∧ Marker.ofValue c.value = .field name ∧
      c.filled (.field name) record = (c', some e) ∧ line' = left' ++ c' :: right

namespace Line

variable {record : Record}

theorem splits_behind {scanned : Scanned} {line : Line} {c c' : Cell}
    (h : scanned.Splits record line)
    (hc : ∀ left, scan record (c :: left) = (scan record left).behind c') :
    (scanned.behind c').Splits record (c :: line) := by
  have hleft {left left' : Line} (hs : scan record left = .plain left') :
      scan record (c :: left) = .plain (c' :: left') := by
    rw [hc, hs]
    rfl
  cases scanned with
  | plain line' => trivial
  | block line' name =>
    obtain ⟨left, left', d, right, columns, rfl, hs, hd, rfl⟩ := h
    exact ⟨c :: left, c' :: left', d, right, columns, rfl, hleft hs, hd, rfl⟩
  | stopped line' e =>
    obtain ⟨left, left', d, d', right, name, rfl, hs, hd, he, rfl⟩ := h
    exact ⟨c :: left, c' :: left', d, d', right, name, rfl, hleft hs, hd, he, rfl⟩

theorem splits_scan (line : Line) : (scan record line).Splits record line := by
  induction line with
  | nil => trivial
  | cons c line ih =>
    cases hm : Marker.ofValue c.value with
    | plain =>
      simp only [scan, hm]
      exact splits_behind ih fun left => by simp only [scan, hm]
    | field name =>
      rcases hf : c.filled (.field name) record with ⟨c', _ | e⟩
      · simp only [scan, hm, hf]
        exact splits_behind ih fun left => by simp only [scan, hm, hf]
      · simp only [scan, hm, hf]
        exact ⟨[], [], c, c', line, name, rfl, rfl, hm, hf, rfl⟩
    | each name columns =>
      simp only [scan, hm]
      exact ⟨[], [], c, line, columns, rfl, rfl, hm, rfl⟩

end Line

/-! ## Blocks -/

namespace Lines

variable {record : Record} {row : Nat} {source : Option Nat} {below : List Line} {n n' : Notes}
  {name : Text} {line : Line} {items : List StreamItem} {ls : List Line} {e : Failure}

theorem PartlyDrawn.cons (item : Value) (h : PartlyDrawn below items e ls) :
    PartlyDrawn below (.value item :: items) e (children below [item] ++ ls) := by
  cases h with
  | @stream done rest =>
    rw [← children_cons]
    exact .stream (item :: done)
  | @insertion done next rest _ he =>
    rw [← children_cons]
    exact .insertion (item :: done) he
  | @row done next rest _ template line ht hl =>
    rw [← List.append_assoc, ← children_cons]
    exact .row (item :: done) ht hl

theorem partlyDrawn_of_draw (items : List StreamItem) : ∀ (row : Nat) (n n' : Notes)
    (ls : List Line), draw source below row items n = ⟨ls, n', some e⟩ →
    PartlyDrawn below items e ls := by
  induction items with
  | nil =>
    intro row n n' ls h
    simp [draw] at h
  | cons item items ih =>
    intro row n n' ls h
    have hstep := drawStep_draw source below row item items n
    rw [h] at hstep
    cases hstep with
    | fails => exact children_nil below ▸ .stream []
    | refused hn => exact children_nil below ▸ .insertion [] (obstacle_ofEdit hn)
    | @stopped item n₁ _ template line _ hn ht hl =>
      have hline := Line.partlyDrawn_of_draw row template 1 n₁ n' line hl
      have hrow : PartlyDrawn below (.value item :: items) e (children below [] ++ [line]) :=
        .row [] ht hline
      rwa [children_nil] at hrow
    | drawn hn hl hd => exact (ih _ _ _ _ hd).cons _

/-- Only when its last call fails a block has lost its marker row. -/
theorem partlyExpanded_of_expandItems
    (hi : blockItems record name n.streams = .ok (some (source, items)))
    (h : expandItems row line source items below n = ⟨ls, n', some e⟩) :
    (∃ ls', ls = line :: ls' ∧
      PartlyExpanded record n.streams n'.edits row name below e ls') ∨
    ∃ vs : List Value, items = vs.map .value ∧ ls = children below vs ∧ e.OfEdit .removeRow ∧
      ∃ before, n'.edits = before ++ [.removeRow row, .removeRow (row + vs.length)] := by
  have hstep := expandStep_expandItems row line source items below n
  rw [h] at hstep
  cases hstep with
  | stopped hd => exact .inl ⟨_, rfl, .drawing hi (partlyDrawn_of_draw items _ _ _ _ hd)⟩
  | kept hd hn =>
    obtain ⟨vs, rfl, rfl, -⟩ := draw_eq_children items _ _ _ _ hd
    exact .inl ⟨_, rfl, .markerRow hi (obstacle_ofEdit hn) ⟨_, Notes.edits_attempt hn⟩⟩
  | @removed ls n₁ n₂ _ _ hd hn hm =>
    obtain ⟨vs, rfl, rfl, -⟩ := draw_eq_children items _ _ _ _ hd
    refine .inr ⟨vs, rfl, rfl, obstacle_ofEdit hm, n₁.edits, ?_⟩
    rw [Notes.edits_attempt hm, Notes.edits_attempt hn, List.length_map]
    simp

/-- Where filling stops at a line no template content is lost. -/
theorem left_of_stops {rest : List Line} (h : Stops record row n line below rest n' e) :
    Left record n.streams n'.edits row line below e rest := by
  cases h with
  | outOfReach hrow => exact .outOfReach hrow
  | cell hrow hs =>
    obtain ⟨left, left', c, c', right, name, rfl, hleft, hc, he, rfl⟩ :
      Scanned.Splits record line (.stopped _ e) := hs ▸ Line.splits_scan line
    exact .cell hleft hc he (Cell.filled_refused he)
  | @block _ name _ _ _ hrow hs hb =>
    obtain ⟨left, left', c, right, columns, rfl, hleft, hc, rfl⟩ :
      Scanned.Splits record line (.block _ name) := hs ▸ Line.splits_scan line
    have hkept {ls : List Line} (h : PartlyExpanded record n.streams n'.edits row name below e ls) :
        Left record n.streams n'.edits row (left ++ c :: right) below e
          ((left' ++ c :: right) :: ls ++ below) :=
      .block hleft hc h
    unfold block at hb
    split_ifs at hb with hlast
    · obtain ⟨rfl, rfl, he⟩ := Drawn.mk.inj hb
      obtain rfl := Option.some.inj he
      exact hkept (.outOfReach hlast.1 hlast.2)
    · unfold expand at hb
      split at hb
      · rename_i e' hi
        obtain ⟨rfl, rfl, he⟩ := Drawn.mk.inj hb
        obtain rfl := Option.some.inj he
        exact hkept (.collection hi)
      · simp at hb
      · rename_i source items hi
        rcases partlyExpanded_of_expandItems hi hb with
          ⟨ls', rfl, hpart⟩ | ⟨vs, rfl, rfl, he, hedits⟩
        · exact hkept hpart
        · exact .templateRow hleft hc hi he hedits

end Lines

/-- A run that fails has finished the lines above some row, and leaves that row and all below it as
`Left` says. -/
theorem Run.fill_left (run : Run) (record : Record) {e : Failure}
    (h : (run.fill record).failure? = some e) :
    ∃ out n line below rest,
      Lines.Passes record 1 run.notes run.sheet.lines out n (line :: below) ∧
      Lines.Left record n.streams (run.fill record).run.edits (out.length + 1) line below e rest ∧
      (run.fill record).run.sheet.Reads run.sheet.maxCol (out ++ rest) := by
  obtain ⟨s, hfill, hr, -⟩ := run.fill_eq record
  rw [hfill] at h ⊢
  rcases hd : Lines.fill record 1 run.sheet.lines run.notes with ⟨ls, n', f?⟩
  rw [hd] at h hr
  obtain rfl : f? = some e := h
  obtain ⟨out, n, line, below, rest, hp, hstop, rfl⟩ := Lines.stops_of_fill hd
  rw [Nat.add_comm] at hstop
  exact ⟨out, n, line, below, rest, hp, Lines.left_of_stops hstop, hr⟩

def Run.brokenOrder : Run where
  sheet := .ofTexts [["$F{number}"], ["$Each{lines}"], ["$F{price}"], ["$F{number}"]]
  streams := [[.value (.map [(.text "price", .int 3)]), .fails]]
  edits := []
  refusal := none

def Record.brokenOrder : Record := .mapping [(.text "lines", .stream 0)]

theorem Run.fill_left_brokenOrder :
    ∃ out n line below rest,
      Lines.Passes .brokenOrder 1 Run.brokenOrder.notes Run.brokenOrder.sheet.lines out n
        (line :: below) ∧
      Lines.Left .brokenOrder n.streams (Run.brokenOrder.fill .brokenOrder).run.edits
        (out.length + 1) line below .streamFailed rest ∧
      (Run.brokenOrder.fill .brokenOrder).run.sheet.Reads Run.brokenOrder.sheet.maxCol
        (out ++ rest) := by
  have h : (Run.brokenOrder.fill .brokenOrder).failure? = some .streamFailed := by
    rfl
  exact Run.fill_left _ _ h

end SheetFill
