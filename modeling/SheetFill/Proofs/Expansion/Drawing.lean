import SheetFill.Proofs.Sheet.AddressText
import SheetFill.Proofs.Expansion.Lines

/-!
# Drawing rows on a sheet

Steps that fill single cells and draw rows leave the sheet with exactly the lines that are drawn by
the same steps on lines, whether they fail or not.
-/
namespace SheetFill.Expansion

open Sheet (Reads Keeps lastRow)

variable {α : Type} {s : Sheet} {w : Nat} {n : Notes} {top below : List Line}
  {left right : Line} {c : Cell}

/-! ## Single steps -/

theorem onSheet_ok {action : SheetAction α} {a : α} {s' : Sheet} (h : action s = .ok a s') :
    onSheet action (n.on s) = .ok a (n.on s') := by
  simp [onSheet, Notes.on, h]

theorem onSheet_error {action : SheetAction α} {e : Sheet.Error} {s' : Sheet}
    (h : action s = .error e s') : onSheet action (n.on s) = .error (.sheet e) (n.on s') := by
  simp [onSheet, Notes.on, h]

theorem ends_cell (h : s.Reads w (top ++ (left ++ c :: right) :: below))
    (hrow : top.length + 1 ≤ lastRow) :
    Ends (onSheet (Sheet.cell (left.length + 1) (top.length + 1)) (n.on s)) none c n fun s' =>
      s'.Reads w (top ++ (left ++ c :: right) :: below) ∧ (∀ k, s.Keeps k s') ∧
        s'.get? (left.length + 1) (top.length + 1) = some c := by
  obtain ⟨s', hs', hr, hk, hc⟩ := h.access hrow
  refine ⟨s', ⟨hr, hk, hc⟩, ?_⟩
  apply onSheet_ok
  simp [Sheet.cell, hs']

theorem ends_assign (h : s.Reads w (top ++ (left ++ c :: right) :: below))
    (hrow : top.length + 1 ≤ lastRow) (v : Value) :
    Ends (assign (left.length + 1) (top.length + 1) v (n.on s)) ((c.assign v).2.map .cell) () n
      fun s' => s'.Reads w (top ++ (left ++ (c.assign v).1 :: right) :: below) ∧
        ∀ k, s.Keeps k s' := by
  refine (ends_cell h hrow).bind ?_
  rintro s' ⟨hr, hk, -⟩
  refine ⟨s'.put (left.length + 1) (top.length + 1) (c.assign v).1,
    ⟨hr.put _, fun k => (hk k).trans (s'.keeps_put k _ _ _)⟩, ?_⟩
  rcases c.assign v with ⟨c', _ | e⟩ <;> rfl

theorem ends_fillCell (h : s.Reads w (top ++ (left ++ c :: right) :: below))
    (hrow : top.length + 1 ≤ lastRow) (marker : CellMarker) (record : Record) :
    Ends (fillCell (left.length + 1) (top.length + 1) marker record (n.on s))
      (c.filled marker record).2 () n fun s' =>
        s'.Reads w (top ++ (left ++ (c.filled marker record).1 :: right) :: below) ∧
          ∀ k, s.Keeps k s' := by
  refine (ends_cell h hrow).bind ?_
  rintro s' ⟨hr, hk, -⟩
  cases marker with
  | plain => exact ⟨s', ⟨hr, hk⟩, rfl⟩
  | field name =>
    cases hf : record.field? name with
    | error e =>
      refine ⟨s', ⟨by simpa [Cell.filled, hf] using hr, hk⟩, ?_⟩
      simp only [Cell.filled, hf]
      rfl
    | ok v? =>
      have hof : ofRecord (Except.ok v?) (n.on s') = .ok v? (n.on s') := rfl
      cases v? with
      | none =>
        refine ⟨s', ⟨by simpa [Cell.filled, hf] using hr, hk⟩, ?_⟩
        simp only [Cell.filled, hf]
        rfl
      | some v =>
        obtain ⟨s'', ⟨hr', hk'⟩, heq⟩ := ends_assign (n := n) hr hrow v
        refine ⟨s'', ⟨by simpa [Cell.filled, hf] using hr', fun k => (hk k).trans (hk' k)⟩, ?_⟩
        simp only [Cell.filled, hf]
        exact heq

/-! ## Styles -/

theorem lastRow_lt : lastRow < 10 ^ Decimal.maxDigits :=
  lt_of_lt_of_le (by decide : lastRow < 10 ^ 7) (Nat.pow_le_pow_right (by decide) (by decide))

theorem restyleAt_of_text? {text : String} {col row : Nat} (style : Style)
    (h : Address.text? col row = some text) (hpos : 1 ≤ row) (hrow : row < 10 ^ Decimal.maxDigits) :
    restyleAt text style s = act (fun s => s.restyle col row fun _ => style) s := by
  have hp := Address.parse?_text? h hrow
  have hone : ¬ row < 1 := Nat.not_lt.mpr hpos
  simp [restyleAt, hp, act, hone]

section CloneStyle

variable {tl tr : Line} {t : Cell}

theorem reads_below (h : s.Reads w (top ++ left :: right :: below)) :
    s.Reads w ((top ++ [left]) ++ right :: below) := by
  simpa using h

theorem ends_cell_below (h : s.Reads w (top ++ (left ++ c :: right) :: (tl ++ t :: tr) :: below))
    (hlen : tl.length = left.length) (hrow : top.length + 2 ≤ lastRow) :
    Ends (onSheet (Sheet.cell (left.length + 1) (top.length + 2)) (n.on s)) none t n fun s' =>
      s'.Reads w (top ++ (left ++ c :: right) :: (tl ++ t :: tr) :: below) ∧
        ∀ k, s.Keeps k s' := by
  have hb := ends_cell (n := n) (reads_below h) (by simp; omega)
  simp only [List.length_append, List.length_singleton, hlen] at hb
  refine hb.mono ?_
  rintro s' ⟨hr, hk, -⟩
  exact ⟨by simpa using hr, hk⟩

/-- A cell takes the style of the one below, if it comes to that. -/
theorem ends_cloneStyle (h : s.Reads w (top ++ (left ++ c :: right) :: (tl ++ t :: tr) :: below))
    (hlen : tl.length = left.length) (hrow : top.length + 1 ≤ lastRow) {n' : Notes}
    (hn : Line.restyled (left.length + 1) (top.length + 1) n = (n', none)) :
    Ends (cloneStyleFromBelow (left.length + 1) (top.length + 1) (n.on s)) none () n' fun s' =>
      s'.Reads w (top ++ (left ++ { c with style := t.style } :: right) ::
        (tl ++ t :: tr) :: below) ∧ ∀ k, s.Keeps k s' := by
  unfold Line.restyled at hn
  split_ifs at hn with hlast
  · simp at hn
  · refine (ends_cell_below h hlen (by omega)).bind ?_
    rintro s₁ ⟨hr, hk⟩
    cases hsource : Address.text? (left.length + 1) (top.length + 1 + 1) with
    | none => simp [hsource] at hn
    | some source =>
      cases htarget : Address.text? (left.length + 1) (top.length + 1) with
      | none => simp [htarget] at hn
      | some target =>
        simp only [hsource, htarget] at hn
        apply ends_edit hn
        intro _
        obtain ⟨s₂, hs₂, hr₂, hk₂⟩ := hr.restyle hrow fun _ => t.style
        refine ⟨s₂, ⟨hr₂, fun k => (hk k).trans (hk₂ k)⟩, ?_⟩
        rw [restyleAt_of_text? _ htarget (Nat.le_add_left 1 _) (hrow.trans_lt lastRow_lt), act, hs₂]

theorem ends_cloneStyle_error
    (h : s.Reads w (top ++ (left ++ c :: right) :: (tl ++ t :: tr) :: below))
    (hlen : tl.length = left.length) {n' : Notes} {e : Failure}
    (hn : Line.restyled (left.length + 1) (top.length + 1) n = (n', some e)) :
    Ends (cloneStyleFromBelow (left.length + 1) (top.length + 1) (n.on s)) (some e) () n' fun s' =>
      s'.Reads w (top ++ (left ++ c :: right) :: (tl ++ t :: tr) :: below) ∧
        ∀ k, s.Keeps k s' := by
  unfold Line.restyled at hn
  split_ifs at hn with hlast
  · obtain ⟨rfl, he⟩ := Prod.mk.inj hn
    have hcell : onSheet (Sheet.cell (left.length + 1) (top.length + 1 + 1)) (n.on s) =
        .error e (n.on s) := by
      rw [← Option.some.inj he]
      apply onSheet_error
      simp [Sheet.cell, Sheet.access_of_lastRow_lt s _ hlast]
    exact Ends.bind_error (a := t) ⟨s, ⟨h, fun k => .refl k s⟩, hcell⟩
  · refine (ends_cell_below h hlen (by omega)).bind ?_
    rintro s₁ ⟨hr, hk⟩
    cases hsource : Address.text? (left.length + 1) (top.length + 1 + 1) with
    | none =>
      simp only [hsource, Prod.mk.injEq, Option.some.injEq] at hn
      obtain ⟨rfl, rfl⟩ := hn
      exact ⟨s₁, ⟨hr, hk⟩, rfl⟩
    | some source =>
      cases htarget : Address.text? (left.length + 1) (top.length + 1) with
      | none =>
        simp only [hsource, htarget, Prod.mk.injEq, Option.some.injEq] at hn
        obtain ⟨rfl, rfl⟩ := hn
        exact ⟨s₁, ⟨hr, hk⟩, rfl⟩
      | some target =>
        simp only [hsource, htarget] at hn
        exact ends_edit_error hn ⟨hr, hk⟩ fun f hf => by simp at hf

end CloneStyle

/-! ## Rows -/

/-- The row above its template row is drawn as a line is: the induction is on what is left of the
template, whose beginning `tl` is as long as what is drawn already. -/
theorem ends_fillRow (child : Record) (tr : Line) : ∀ (tl left : Line) (n : Notes) (s : Sheet),
    s.Reads w (top ++ (left ++ Line.blank tr.length) :: (tl ++ tr) :: below) →
    tl.length = left.length → top.length + 1 ≤ lastRow →
    Ends (fillRow (top.length + 1) child (Line.columns (left.length + 1) tr) (n.on s))
      (Line.draw child (top.length + 1) (left.length + 1) tr n).failure? ()
      (Line.draw child (top.length + 1) (left.length + 1) tr n).notes fun s' =>
        s'.Reads w (top ++
          (left ++ (Line.draw child (top.length + 1) (left.length + 1) tr n).content) ::
            (tl ++ tr) :: below) ∧ ∀ k, s.Keeps k s' := by
  induction tr with
  | nil =>
    intro tl left n s h _ _
    exact ⟨s, ⟨h, fun k => .refl k s⟩, rfl⟩
  | cons t tr ih =>
    intro tl left n s h hlen hrow
    rw [List.length_cons, Line.blank, List.replicate_succ] at h
    have hfill := ends_fillCell (n := n) h hrow (Marker.ofValue t.value).inTemplateRow child
    rw [Line.columns, fillRow]
    cases hc : Cell.blank.filled (Marker.ofValue t.value).inTemplateRow child with
    | mk c e? =>
      rw [hc] at hfill
      cases e? with
      | some e =>
        simp only [Line.draw, hc]
        exact hfill.bind_error
      | none =>
        refine hfill.bind ?_
        rintro s₁ ⟨hr₁, hk₁⟩
        cases hn : Line.restyled (left.length + 1) (top.length + 1) n with
        | mk n₁ e? =>
          cases e? with
          | some e =>
            simp only [Line.draw, hc, hn]
            refine ((ends_cloneStyle_error hr₁ hlen hn).mono ?_).bind_error
            rintro s₂ ⟨hr₂, hk₂⟩
            exact ⟨hr₂, fun k => (hk₁ k).trans (hk₂ k)⟩
          | none =>
            simp only [Line.draw, hc, hn]
            refine (ends_cloneStyle hr₁ hlen hrow hn).bind ?_
            rintro s₂ ⟨hr₂, hk₂⟩
            have hnext := ih (tl ++ [t]) (left ++ [{ c with style := t.style }]) n₁ s₂
              (by simpa [Line.blank] using hr₂) (by simp [hlen]) hrow
            simp only [List.length_append, List.length_singleton] at hnext
            refine hnext.mono ?_
            rintro s₃ ⟨hr₃, hk₃⟩
            refine ⟨by simpa using hr₃, fun k => ((hk₁ k).trans (hk₂ k)).trans (hk₃ k)⟩

theorem ends_leave (source : Option Nat) (rest : List StreamItem) :
    Ends (leave source rest (n.on s)) none () (n.leave source rest) (· = s) := by
  cases source <;> exact ⟨s, rfl, rfl⟩

section Rows

variable {template : Line} {row : Nat} {n' : Notes} {e : Failure}

/-- A row is inserted above the template row, or nothing happens. -/
theorem ends_insertRow (h : s.Reads w (top ++ template :: below))
    (hn : n.attempt (.insertRow (top.length + 1) 1)
      (Lines.obstacle (top.length + (below.length + 1)) (top.length + 1)) = (n', none)) :
    Ends (insertRow (top.length + 1) (n.on s)) none () n' fun s' =>
      s'.Reads w (top ++ Line.blank w :: template :: below) ∧ s.Keeps top.length s' ∧
        top.length + 1 ≤ lastRow := by
  apply ends_edit hn
  intro hnone
  have hlast := Lines.le_of_obstacle_eq_none hnone (by omega)
  obtain ⟨s', hs', hr, hk⟩ := h.insertRows (by simpa using hlast)
  exact ⟨s', ⟨hr, hk, by omega⟩, by simp [act, hs']⟩

theorem ends_insertRow_error (h : s.Reads w (top ++ template :: below))
    (hn : n.attempt (.insertRow (top.length + 1) 1)
      (Lines.obstacle (top.length + (below.length + 1)) (top.length + 1)) = (n', some e)) :
    Ends (insertRow (top.length + 1) (n.on s)) (some e) () n' (· = s) := by
  refine ends_edit_error hn rfl fun f hf => ?_
  obtain ⟨-, hlast, rfl⟩ := Lines.obstacle_eq_some hf
  refine ⟨_, rfl, ?_⟩
  simp [act, h.insertRows_error (by simpa using hlast)]

theorem ends_insertRow_past (hmax : s.maxRow < row) {count : Nat} (hcount : count < row)
    {e? : Option Failure}
    (hn : n.attempt (.insertRow row 1) (Lines.obstacle count row) = (n', e?)) :
    Ends (insertRow row (n.on s)) e? () n' fun s' =>
      (∀ w ls, s.Reads w ls → s'.Reads w ls) ∧ ∀ k, s.Keeps k s' := by
  have hnone : Lines.obstacle count row = none := by
    simp [Lines.obstacle, Nat.not_le.mpr hcount]
  cases e? with
  | some e =>
    apply ends_edit_error hn ⟨fun _ _ h => h, fun k => .refl k s⟩
    intro f hf
    simp [hnone] at hf
  | none =>
    apply ends_edit hn
    intro _
    obtain ⟨s', hs', hr, hk⟩ := Reads.insertRows_past s hmax
    exact ⟨s', ⟨hr, hk⟩, by simp [act, hs']⟩

/-- Rows are drawn above the template row as lines are: what was drawn so far stands in `top`. -/
theorem ends_generate (source : Option Nat) (items : List StreamItem) :
    ∀ (top : List Line) (n : Notes) (s : Sheet), s.Reads w (top ++ template :: below) →
    Ends (generate source (Line.columns 1 template) (top.length + 1) items (n.on s))
      (Lines.draw source (template :: below) (top.length + 1) items n).failure?
      (top.length + 1 + items.length)
      (Lines.draw source (template :: below) (top.length + 1) items n).notes fun s' =>
        s'.Reads w (top ++
          (Lines.draw source (template :: below) (top.length + 1) items n).content ++
            template :: below) ∧ s.Keeps top.length s' := by
  induction items with
  | nil =>
    intro top n s h
    exact ⟨s, ⟨by simpa [Lines.draw] using h, .refl _ s⟩, rfl⟩
  | cons item items ih =>
    intro top n s h
    cases item with
    | fails =>
      refine (ends_leave source items).bind ?_
      rintro _ rfl
      exact ⟨_, ⟨by simpa [Lines.draw] using h, .refl _ _⟩, rfl⟩
    | value item =>
      refine (ends_leave source items).bind ?_
      rintro _ rfl
      cases hn : (n.leave source items).attempt (.insertRow (top.length + 1) 1)
          (Lines.obstacle (top.length + 1 - 1 + (below.length + 1)) (top.length + 1)) with
      | mk n₁ e? =>
        cases e? with
        | some e =>
          simp only [Lines.draw, List.length_cons, hn]
          refine ((ends_insertRow_error h hn).mono ?_).bind_error
          rintro _ rfl
          exact ⟨by simpa using h, .refl _ _⟩
        | none =>
          simp only [Lines.draw, List.length_cons, hn]
          refine (ends_insertRow h hn).bind ?_
          rintro s₁ ⟨hr₁, hk₁, hrow⟩
          have hw : w = template.length := by
            rw [Sheet.length_line (h.lines_eq (by simp)), h.maxCol (by simp)]
          have hfill := ends_fillRow (Record.ofValue item) template [] [] n₁ s₁
            (by rw [← hw]; exact hr₁) rfl hrow
          simp only [List.length_nil, Nat.zero_add, List.nil_append] at hfill
          cases hd : (Line.draw (Record.ofValue item) (top.length + 1) 1 template n₁).failure? with
          | some e =>
            rw [hd] at hfill
            refine (hfill.mono ?_).bind_error
            rintro s₂ ⟨hr₂, hk₂⟩
            exact ⟨by simpa using hr₂, hk₁.trans (hk₂ _)⟩
          | none =>
            rw [hd] at hfill
            refine hfill.bind ?_
            rintro s₂ ⟨hr₂, hk₂⟩
            have hnext := ih (top ++ [(Line.draw (Record.ofValue item) (top.length + 1) 1 template
              n₁).content]) (Line.draw (Record.ofValue item) (top.length + 1) 1 template n₁).notes
              s₂ (by simpa using hr₂)
            simp only [List.length_append, List.length_singleton] at hnext
            have hbehind : top.length + 1 + (items.length + 1) =
                top.length + 1 + 1 + items.length := by
              omega
            rw [hbehind]
            refine hnext.mono ?_
            rintro s₃ ⟨hr₃, hk₃⟩
            refine ⟨by simpa using hr₃, (hk₁.trans (hk₂ _)).trans (hk₃.mono (by omega))⟩

/-- With no template row the items are gone through and nothing is drawn. -/
theorem ends_generate_past (source : Option Nat) (items : List StreamItem) :
    ∀ (row : Nat) (n : Notes) (s : Sheet), s.Reads w top → top ≠ [] → top.length < row →
    Ends (generate source [] row items (n.on s)) (Lines.draw source [] row items n).failure?
      (row + items.length) (Lines.draw source [] row items n).notes fun s' =>
        s'.Reads w (top ++ (Lines.draw source [] row items n).content) ∧ ∀ k, s.Keeps k s' := by
  induction items with
  | nil =>
    intro row n s h _ _
    exact ⟨s, ⟨by simpa [Lines.draw] using h, fun k => .refl k s⟩, rfl⟩
  | cons item items ih =>
    intro row n s h hne hrow
    cases item with
    | fails =>
      refine (ends_leave source items).bind ?_
      rintro _ rfl
      exact ⟨_, ⟨by simpa [Lines.draw] using h, fun k => .refl k _⟩, rfl⟩
    | value item =>
      refine (ends_leave source items).bind ?_
      rintro _ rfl
      have hmax := hrow
      rw [← h.maxRow_eq_length hne] at hmax
      cases hn : (n.leave source items).attempt (.insertRow row 1)
          (Lines.obstacle (row - 1 + ([] : List Line).length) row) with
      | mk n₁ e? =>
        have hins := ends_insertRow_past hmax (by rw [List.length_nil]; omega) hn
        simp only [Lines.draw, hn]
        cases e? with
        | some e =>
          refine (hins.mono ?_).bind_error
          rintro s₁ ⟨hr₁, hk₁⟩
          exact ⟨by simpa using hr₁ w top h, hk₁⟩
        | none =>
          refine hins.bind ?_
          rintro s₁ ⟨hr₁, hk₁⟩
          have hnext := ih (row + 1) n₁ s₁ (hr₁ w top h) hne (by omega)
          rw [List.length_cons, show row + (items.length + 1) = row + 1 + items.length by omega]
          refine Ends.bind (x := fillRow row (Record.ofValue item) []) (a := ()) ⟨s₁, rfl, rfl⟩ ?_
          rintro _ rfl
          refine hnext.mono ?_
          rintro s₂ ⟨hr₂, hk₂⟩
          exact ⟨hr₂, fun k => (hk₁ k).trans (hk₂ k)⟩

end Rows

end SheetFill.Expansion
