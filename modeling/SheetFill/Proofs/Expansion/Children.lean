import SheetFill.Proofs.Expansion.Lines

/-!
# The rows for the items of a block

Drawing takes one item after the other. Where nothing stops it all items were taken, and each has
its row. No row is drawn out of reach.
-/
namespace SheetFill

def Streams.drained (source : Option Nat) (streams : Streams) : Streams :=
  match source with
  | none => streams
  | some id => streams.set id []

/-- The cell for a record: it holds the field that the template names, and has the style of the
template. -/
def Cell.drawn (template : Cell) (child : Record) : Cell :=
  { (Cell.blank.filled (Marker.ofValue template.value).inTemplateRow child).1 with
    style := template.style }

def Line.drawn (template : Line) (child : Record) : Line := template.map (·.drawn child)

namespace Notes

variable {source : Option Nat}

theorem streams_leave (n : Notes) (rest : List StreamItem) :
    Streams.drained source (n.leave source rest).streams = Streams.drained source n.streams := by
  cases source with
  | none => rfl
  | some id => exact List.set_set ..

end Notes

theorem Streams.drained_eq_self {id : Nat} {streams : Streams} (h : streams.getD id [] = []) :
    Streams.drained (some id) streams = streams := by
  apply List.ext_getElem?
  intro k
  simp only [drained, List.getElem?_set]
  split_ifs with hk hlen
  · subst hk
    simpa [hlen] using h.symm
  · subst hk
    simp [hlen]
  · rfl

namespace Line

variable {n n' : Notes} {col row : Nat} {f? : Option Failure}

theorem streams_restyled (h : restyled col row n = (n', f?)) : n'.streams = n.streams := by
  unfold restyled at h
  split_ifs at h
  · rw [← (Prod.mk.inj h).1]
  · split at h
    · exact Notes.streams_attempt h
    · rw [← (Prod.mk.inj h).1]

theorem streams_draw (child : Record) (row : Nat) (template : Line) : ∀ (col : Nat) (n : Notes),
    (draw child row col template n).notes.streams = n.streams := by
  induction template with
  | nil => intro col n; rfl
  | cons t template ih =>
    intro col n
    rw [draw]
    split
    · rfl
    · split
      · exact streams_restyled ‹_›
      · exact (ih _ _).trans (streams_restyled ‹_›)

theorem draw_eq_drawn (child : Record) (row : Nat) (template : Line) : ∀ (col : Nat) (n : Notes),
    (draw child row col template n).failure? = none →
    (draw child row col template n).content = template.drawn child := by
  induction template with
  | nil => intro col n _; rfl
  | cons t template ih =>
    intro col n h
    rcases hc : Cell.blank.filled (Marker.ofValue t.value).inTemplateRow child with ⟨c, _ | e⟩
    · rcases hn : restyled col row n with ⟨n₁, _ | e⟩
      · simp only [draw, hc, hn] at h ⊢
        rw [ih _ _ h, drawn, drawn, List.map_cons, Cell.drawn, hc]
      · simp only [draw, hc, hn, reduceCtorEq] at h
    · simp only [draw, hc, reduceCtorEq] at h

end Line

namespace Lines

variable {row : Nat} {source : Option Nat} {below : List Line} {n n' : Notes}

/-- The rows for the items of a block; with no template row there are none. -/
def children (below : List Line) (items : List Value) : List Line :=
  match below with
  | [] => []
  | template :: _ => items.map fun item => template.drawn (Record.ofValue item)

theorem children_nil (below : List Line) : children below [] = [] := by
  cases below <;> rfl

theorem children_cons (below : List Line) (item : Value) (items : List Value) :
    children below (item :: items) = children below [item] ++ children below items := by
  cases below <;> rfl

theorem length_children (template : Line) (below : List Line) (items : List Value) :
    (children (template :: below) items).length = items.length := by
  rw [children, List.length_map]

inductive DrawStep (source : Option Nat) (below : List Line) (row : Nat) (rest : List StreamItem)
    (n : Notes) : StreamItem → Drawn (List Line) → Prop
  | fails : DrawStep source below row rest n .fails ⟨[], n.leave source rest, some .streamFailed⟩
  | refused {item n₁ e} (hn : (n.leave source rest).attempt (.insertRow row 1)
        (obstacle (row - 1 + below.length) row) = (n₁, some e)) :
      DrawStep source below row rest n (.value item) ⟨[], n₁, some e⟩
  | stopped {item n₁ n₂ template line e} (hn : (n.leave source rest).attempt (.insertRow row 1)
        (obstacle (row - 1 + below.length) row) = (n₁, none))
      (ht : below.head? = some template)
      (hl : Line.draw (Record.ofValue item) row 1 template n₁ = ⟨line, n₂, some e⟩) :
      DrawStep source below row rest n (.value item) ⟨[line], n₂, some e⟩
  | drawn {item n₁ n₂ n₃ line ls f?} (hn : (n.leave source rest).attempt (.insertRow row 1)
        (obstacle (row - 1 + below.length) row) = (n₁, none))
      (hl : Line.draw (Record.ofValue item) row 1 (below.headD []) n₁ = ⟨line, n₂, none⟩)
      (hd : draw source below (row + 1) rest n₂ = ⟨ls, n₃, f?⟩) :
      DrawStep source below row rest n (.value item) ⟨children below [item] ++ ls, n₃, f?⟩

theorem drawStep_draw (source : Option Nat) (below : List Line) (row : Nat) (item : StreamItem)
    (rest : List StreamItem) (n : Notes) :
    DrawStep source below row rest n item (draw source below row (item :: rest) n) := by
  cases item with
  | fails => exact .fails
  | value item =>
    rcases hn : (n.leave source rest).attempt (.insertRow row 1)
      (obstacle (row - 1 + below.length) row) with ⟨n₁, _ | e⟩
    · cases below with
      | nil =>
        simp only [draw, hn]
        exact .drawn hn rfl rfl
      | cons template below =>
        rcases hl : Line.draw (Record.ofValue item) row 1 template n₁ with ⟨line, n₂, _ | e⟩
        · have hline : line = template.drawn (Record.ofValue item) := by
            have hdrawn := Line.draw_eq_drawn (Record.ofValue item) row template 1 n₁
            rw [hl] at hdrawn
            exact hdrawn rfl
          simp only [draw, hn, hl, hline]
          exact .drawn hn hl rfl
        · simp only [draw, hn, hl]
          exact .stopped hn rfl hl
    · simp only [draw, hn]
      exact .refused hn

theorem draw_nil (source : Option Nat) (items : List StreamItem) : ∀ (row : Nat) (n : Notes),
    (draw source [] row items n).content = [] := by
  induction items with
  | nil => intro row n; rfl
  | cons item items ih =>
    intro row n
    have hstep := drawStep_draw source [] row item items n
    generalize draw source [] row (item :: items) n = d at hstep
    cases hstep with
    | fails => rfl
    | refused hn => rfl
    | stopped hn ht hl => simp at ht
    | @drawn item n₁ n₂ n₃ line ls f? hn hl hd =>
      have hrest := ih (row + 1) n₂
      rw [hd] at hrest
      exact hrest

/-- Where drawing does not stop all items were taken and each has its row. -/
theorem draw_eq_children (items : List StreamItem) : ∀ (row : Nat) (n n' : Notes) (ls : List Line),
    draw source below row items n = ⟨ls, n', none⟩ →
    ∃ vs : List Value, items = vs.map .value ∧ ls = children below vs ∧
      (items ≠ [] → n'.streams = Streams.drained source n.streams) := by
  induction items with
  | nil =>
    intro row n n' ls h
    obtain ⟨rfl, rfl, -⟩ := Drawn.mk.inj h
    exact ⟨[], rfl, (children_nil below).symm, fun hf => absurd rfl hf⟩
  | cons item items ih =>
    intro row n n' ls h
    have hstep := drawStep_draw source below row item items n
    rw [h] at hstep
    cases hstep with
    | @drawn item n₁ n₂ _ line ls _ hn hl hd =>
      have hs₁ := Notes.streams_attempt hn
      have hs₂ := Line.streams_draw (Record.ofValue item) row (below.headD []) 1 n₁
      rw [hl, hs₁] at hs₂
      obtain ⟨vs, rfl, rfl, hn'⟩ := ih _ _ _ _ hd
      refine ⟨item :: vs, rfl, (children_cons below item vs).symm, fun _ => ?_⟩
      by_cases hnil : vs = []
      · -- with the last item taken nothing is left in the stream
        subst hnil
        rw [← (Drawn.mk.inj hd).2.1, hs₂]
        cases source <;> rfl
      · rw [hn' (by simpa using hnil), hs₂, Notes.streams_leave]

theorem length_draw (source : Option Nat) (template : Line) (below : List Line)
    (items : List StreamItem) (row : Nat) (n : Notes)
    (h : (draw source (template :: below) row items n).failure? = none) :
    (draw source (template :: below) row items n).content.length = items.length := by
  rcases hd : draw source (template :: below) row items n with ⟨ls, n', f?⟩
  rw [hd] at h
  obtain rfl : f? = none := h
  obtain ⟨vs, rfl, rfl, -⟩ := draw_eq_children items _ _ _ _ hd
  rw [length_children, List.length_map]

/-- Rows are only drawn where they can be moved. -/
theorem draw_le_lastRow {template : Line} (items : List StreamItem) : ∀ (row : Nat) (n n' : Notes)
    (ls : List Line), draw source (template :: below) row items n = ⟨ls, n', none⟩ →
    items ≠ [] → row + items.length ≤ Sheet.lastRow + 1 := by
  induction items with
  | nil =>
    intro row n n' ls _ hne
    exact absurd rfl hne
  | cons item items ih =>
    intro row n n' ls h _
    have hstep := drawStep_draw source (template :: below) row item items n
    rw [h] at hstep
    cases hstep with
    | drawn hn hl hd =>
      have hrow := le_of_obstacle_eq_none (Notes.attempt_eq_none hn)
      rw [List.length_cons] at hrow ⊢
      by_cases hnil : items = []
      · rw [hnil, List.length_nil]
        omega
      · have hnext := ih _ _ _ _ hd hnil
        omega

theorem children_le_lastRow (hrow : row ≤ Sheet.lastRow) {vs : List Value} {ls : List Line}
    (hd : draw source below (row + 1) (vs.map .value) n = ⟨ls, n', none⟩) :
    row + (children below vs).length ≤ Sheet.lastRow + 1 := by
  cases below with
  | nil =>
    simp only [children, List.length_nil]
    omega
  | cons template below =>
    rw [children, List.length_map]
    by_cases hnil : vs = []
    · rw [hnil, List.length_nil]
      omega
    · have hlast := draw_le_lastRow _ _ _ _ _ hd (by simpa using hnil)
      rw [List.length_map] at hlast
      omega

end Lines
end SheetFill
