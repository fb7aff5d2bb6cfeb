import SheetFill.Proofs.Expansion.Children
import SheetFill.Proofs.Expansion.Drawing

/-!
# Expanding blocks

A block goes through its items, drawing a row for each above the template row, and then takes out
the marker row and the template row. With no template row nothing is drawn. Either way the sheet is
left with the lines that the block leaves when it is expanded on lines.
-/
namespace SheetFill

namespace Lines

/-- How a block ends whose items were found: drawing their rows stopped it, or the marker row could
not be taken out, or it was, and only the removal of the template row may have failed. -/
inductive ExpandStep (row : Nat) (line : Line) (source : Option Nat) (items : List StreamItem)
    (below : List Line) (n : Notes) : Drawn (List Line) → Prop
  | stopped {ls n₁ e} (hd : draw source below (row + 1) items n = ⟨ls, n₁, some e⟩) :
      ExpandStep row line source items below n ⟨line :: ls, n₁, some e⟩
  | kept {ls n₁ n₂ e} (hd : draw source below (row + 1) items n = ⟨ls, n₁, none⟩)
      (hn : n₁.attempt (.removeRow row) (obstacle (row + ls.length + below.length) (row + 1)) =
        (n₂, some e)) :
      ExpandStep row line source items below n ⟨line :: ls, n₂, some e⟩
  | removed {ls n₁ n₂ n₃ e?} (hd : draw source below (row + 1) items n = ⟨ls, n₁, none⟩)
      (hn : n₁.attempt (.removeRow row) (obstacle (row + ls.length + below.length) (row + 1)) =
        (n₂, none))
      (hm : n₂.attempt (.removeRow (row + items.length))
        (obstacle (row + ls.length + below.length - 1) (row + items.length + 1)) = (n₃, e?)) :
      ExpandStep row line source items below n ⟨ls, n₃, e?⟩

section ExpandItems

variable {source : Option Nat} {below : List Line} {row : Nat} {line : Line}
  {items : List StreamItem} {n n₁ n₂ n₃ : Notes} {e : Failure} {e? : Option Failure}
  {ls : List Line}

theorem expandItems_of_stopped (hd : draw source below (row + 1) items n = ⟨ls, n₁, some e⟩) :
    expandItems row line source items below n = ⟨line :: ls, n₁, some e⟩ := by
  simp only [expandItems, hd]

theorem expandItems_of_kept (hd : draw source below (row + 1) items n = ⟨ls, n₁, none⟩)
    (hn : n₁.attempt (.removeRow row) (obstacle (row + ls.length + below.length) (row + 1)) =
      (n₂, some e)) :
    expandItems row line source items below n = ⟨line :: ls, n₂, some e⟩ := by
  simp only [expandItems, hd, hn]

theorem expandItems_of_drawn (hd : draw source below (row + 1) items n = ⟨ls, n₁, none⟩)
    (hn : n₁.attempt (.removeRow row) (obstacle (row + ls.length + below.length) (row + 1)) =
      (n₂, none))
    (hm : n₂.attempt (.removeRow (row + items.length))
      (obstacle (row + ls.length + below.length - 1) (row + items.length + 1)) = (n₃, e?)) :
    expandItems row line source items below n = ⟨ls, n₃, e?⟩ := by
  simp only [expandItems, hd, hn, hm]

theorem expandStep_expandItems (row : Nat) (line : Line) (source : Option Nat)
    (items : List StreamItem) (below : List Line) (n : Notes) :
    ExpandStep row line source items below n (expandItems row line source items below n) := by
  rcases hd : draw source below (row + 1) items n with ⟨ls, n₁, _ | e⟩
  · rcases hn : n₁.attempt (.removeRow row) (obstacle (row + ls.length + below.length)
      (row + 1)) with ⟨n₂, _ | e⟩
    · rw [expandItems_of_drawn hd hn rfl]
      exact .removed hd hn rfl
    · rw [expandItems_of_kept hd hn]
      exact .kept hd hn
  · rw [expandItems_of_stopped hd]
    exact .stopped hd

theorem content_expandItems
    (h : (expandItems row line source items below n).failure? = none) :
    (draw source below (row + 1) items n).failure? = none ∧
      (expandItems row line source items below n).content =
        (draw source below (row + 1) items n).content := by
  have hstep := expandStep_expandItems row line source items below n
  generalize expandItems row line source items below n = b at hstep h
  cases hstep with
  | stopped hd => simp at h
  | kept hd hn => simp at h
  | removed hd hn hm =>
    rw [hd]
    exact ⟨rfl, rfl⟩

end ExpandItems

end Lines

namespace Expansion

open Sheet (Reads Keeps lastRow)

variable {s : Sheet} {w : Nat} {n n' : Notes} {top below : List Line} {line : Line}
  {record : Record} {e : Failure}

/-! ## Taking out rows -/

theorem ends_removeRow (h : s.Reads w (top ++ line :: below))
    (hspans : below = [] → top = [] ∨ s.Spans w top.length)
    (hn : n.attempt (.removeRow (top.length + 1))
      (Lines.obstacle (top.length + (below.length + 1)) (top.length + 2)) = (n', none)) :
    Ends (removeRow (top.length + 1) (n.on s)) none () n' fun s' =>
      s'.Reads w (top ++ below) ∧ s.Keeps top.length s' ∧
        ∀ k, top.length < k → k ≤ (top ++ below).length → s'.Spans w k := by
  apply ends_edit hn
  intro hnone
  have hlast := Lines.le_of_obstacle_eq_none hnone
  have hlimit : below = [] ∨ (top ++ line :: below).length ≤ lastRow := by
    cases below with
    | nil => exact .inl rfl
    | cons l below =>
      right
      simp only [List.length_append, List.length_cons] at hlast ⊢
      exact hlast (by omega)
  obtain ⟨s', hs', hr, hk, hspans'⟩ := h.removeRow hlimit hspans
  exact ⟨s', ⟨hr, hk, hspans'⟩, by simp [act, hs']⟩

theorem ends_removeRow_error (h : s.Reads w (top ++ line :: below))
    (hn : n.attempt (.removeRow (top.length + 1))
      (Lines.obstacle (top.length + (below.length + 1)) (top.length + 2)) = (n', some e)) :
    Ends (removeRow (top.length + 1) (n.on s)) (some e) () n' (· = s) := by
  refine ends_edit_error hn rfl fun f hf => ?_
  obtain ⟨hrow, hlast, rfl⟩ := Lines.obstacle_eq_some hf
  refine ⟨_, rfl, ?_⟩
  have hbelow : below ≠ [] := by
    rintro rfl
    simp at hrow
  simp only [act, h.removeRow_error hbelow (by simpa using hlast)]
  norm_cast

theorem ends_removeRow_past (h : s.Reads w top) {row count : Nat} (hrow : top.length < row)
    (hcount : count ≤ row) {e? : Option Failure}
    (hn : n.attempt (.removeRow row) (Lines.obstacle count (row + 1)) = (n', e?)) :
    Ends (removeRow row (n.on s)) e? () n' fun s' => s'.Reads w top ∧ s.Keeps top.length s' := by
  have hnone : Lines.obstacle count (row + 1) = none := by
    simp [Lines.obstacle, Nat.not_le.mpr (Nat.lt_succ_of_le hcount)]
  cases e? with
  | some e =>
    apply ends_edit_error hn ⟨h, .refl _ s⟩
    intro f hf
    simp [hnone] at hf
  | none =>
    apply ends_edit hn
    intro _
    obtain ⟨s', hs', hr, hk⟩ := h.removeRow_past hrow
    exact ⟨s', ⟨hr, hk⟩, by simp [act, hs']⟩

/-! ## Blocks -/

theorem collection_eq (v : Value) (n : Notes) (s : Sheet) : collection v (n.on s) =
    match Lines.collection n.streams v with
    | .ok items => .ok items (n.on s)
    | .error e => .error e (n.on s) := by
  unfold collection Lines.collection
  by_cases hv : v.isTrue
  · simp only [hv]
    cases hi : v.items <;> rfl
  · simp only [hv]
    rfl

def expandItems (row : Nat) (columns : List (Nat × CellMarker)) (source : Option Nat)
    (items : List StreamItem) : Step Nat := do
  let behind ← generate source columns (row + 1) items
  removeRow row
  removeRow (behind - 1)
  return behind - 1

theorem expandBlock_eq (row : Nat) (name : Text) (columns : List (Nat × CellMarker))
    (record : Record) (n : Notes) (s : Sheet) : expandBlock row name columns record (n.on s) =
    match Lines.blockItems record name n.streams with
    | .error e => .error e (n.on s)
    | .ok none => .ok (row + 2) (n.on s)
    | .ok (some (source, items)) => expandItems row columns source items (n.on s) := by
  unfold expandBlock Lines.blockItems Record.field?
  rcases hh : record.hasField name with e | has
  · rfl
  · cases has with
    | false => rfl
    | true =>
      show (ofRecord (record.getField name) >>= fun v => collection v >>= fun found =>
        expandItems row columns found.1 found.2) (n.on s) = _
      rcases hg : record.getField name with e | v
      · rfl
      · show (collection v >>= fun found => expandItems row columns found.1 found.2) (n.on s) = _
        rw [bind_apply, collection_eq]
        cases hc : Lines.collection n.streams v <;> simp [hc, Except.map]

/-- What a block leaves on the sheet: its lines, and a last row that reaches the last column where
there was a template row. -/
structure AfterBlock (w : Nat) (top below : List Line) (b : Drawn (List Line)) (s s' : Sheet) :
    Prop where
  reads : s'.Reads w (top ++ b.content ++ if b.failure? = none then below.drop 1 else below)
  keeps : s.Keeps 0 s'
  spans : b.failure? = none → below ≠ [] →
    top ++ b.content = [] ∨ s'.Spans w (top ++ b.content).length

section TakeOut

variable {template : Line} {ls : List Line} {n₁ n₂ n₃ : Notes} {e? : Option Failure}

/-- The marker row is taken out, and the row above the template row still reaches the last column:
it is one that moved, or the one above the block. -/
theorem ends_takeOut_marker (h : s.Reads w (top ++ line :: (ls ++ template :: below)))
    (hspans : top = [] ∨ s.Spans w top.length)
    (hn : n.attempt (.removeRow (top.length + 1))
      (Lines.obstacle (top.length + ((ls ++ template :: below).length + 1)) (top.length + 2)) =
        (n₁, none)) :
    Ends (removeRow (top.length + 1) (n.on s)) none () n₁ fun s' =>
      s'.Reads w ((top ++ ls) ++ template :: below) ∧ s.Keeps 0 s' ∧
        (top ++ ls = [] ∨ s'.Spans w (top ++ ls).length) := by
  refine (ends_removeRow h (by simp) hn).mono ?_
  rintro s' ⟨hr, hk, hmoved⟩
  refine ⟨by simpa using hr, hk.mono (Nat.zero_le _), ?_⟩
  rcases List.eq_nil_or_concat ls with rfl | ⟨ls, l, rfl⟩
  · rw [List.append_nil]
    exact hspans.imp_right (hk.spans le_rfl)
  · right
    apply hmoved <;> simp

/-- The marker row and the template row are taken out from around the rows that were drawn. -/
theorem ends_takeOut (h : s.Reads w (top ++ line :: (ls ++ template :: below)))
    (hspans : top = [] ∨ s.Spans w top.length)
    (hn : n.attempt (.removeRow (top.length + 1))
      (Lines.obstacle (top.length + ((ls ++ template :: below).length + 1)) (top.length + 2)) =
        (n₁, none))
    (hm : n₁.attempt (.removeRow ((top ++ ls).length + 1))
      (Lines.obstacle ((top ++ ls).length + (below.length + 1)) ((top ++ ls).length + 2)) =
        (n₂, e?)) (next : Nat) :
    Ends ((removeRow (top.length + 1) >>= fun _ => removeRow ((top ++ ls).length + 1) >>= fun _ =>
      pure next) (n.on s)) e? next n₂ (AfterBlock w top (template :: below) ⟨ls, n₂, e?⟩ s) := by
  refine (ends_takeOut_marker h hspans hn).bind ?_
  rintro s₁ ⟨hr₁, hk₁, hreach⟩
  refine Ends.bind_pure (a := ()) ?_ next
  cases e? with
  | none =>
    refine (ends_removeRow hr₁ (fun _ => hreach) hm).mono ?_
    rintro s₂ ⟨hr₂, hk₂, -⟩
    constructor
    · simpa using hr₂
    · exact hk₁.trans (hk₂.mono (Nat.zero_le _))
    · intro _ _
      exact hreach.imp_right (hk₂.spans le_rfl)
  | some e =>
    refine (ends_removeRow_error hr₁ hm).mono ?_
    rintro _ rfl
    exact ⟨by simpa using hr₁, hk₁, by simp⟩

end TakeOut

theorem AfterBlock.of_keeps {b : Drawn (List Line)} {s₁ s' : Sheet} (hk : s.Keeps 0 s₁)
    (h : AfterBlock w top below b s₁ s') : AfterBlock w top below b s s' :=
  ⟨h.reads, hk.trans h.keeps, h.spans⟩

theorem ends_expandItems {template : Line} (source : Option Nat) (items : List StreamItem)
    (h : s.Reads w (top ++ line :: template :: below))
    (hspans : top = [] ∨ s.Spans w top.length) {b : Drawn (List Line)}
    (hb : Lines.expandItems (top.length + 1) line source items (template :: below) n = b) :
    Ends (expandItems (top.length + 1) (Line.columns 1 template) source items (n.on s)) b.failure?
      (top.length + 1 + items.length) b.notes (AfterBlock w top (template :: below) b s) := by
  have hdraw := ends_generate source items (top ++ [line]) n s (by simpa using h)
  have hlen := Lines.length_draw source template below items (top.length + 1 + 1) n
  rw [List.length_append, List.length_singleton] at hdraw
  have hcount (ls : List Line) : top.length + 1 + ls.length + (template :: below).length =
      top.length + ((ls ++ template :: below).length + 1) := by
    rw [List.length_append]
    omega
  have hstep :=
    Lines.expandStep_expandItems (top.length + 1) line source items (template :: below) n
  rw [hb] at hstep
  cases hstep with
  | stopped hd =>
    rw [hd] at hdraw
    refine (hdraw.mono ?_).bind_error
    rintro s₁ ⟨hr₁, hk₁⟩
    exact ⟨by simpa using hr₁, hk₁.mono (Nat.zero_le _), by simp⟩
  | @kept ls n₁ n₂ e hd hn =>
    rw [hd] at hdraw
    rw [hcount] at hn
    refine hdraw.bind ?_
    rintro s₁ ⟨hr₁, hk₁⟩
    refine ((ends_removeRow_error (by simpa using hr₁) hn).mono ?_).bind_error
    rintro _ rfl
    exact ⟨by simpa using hr₁, hk₁.mono (Nat.zero_le _), by simp⟩
  | @removed ls n₁ n₂ n₃ e? hd hn hm =>
    rw [hd] at hdraw hlen
    have hitems : ls.length = items.length := hlen rfl
    -- the row behind the last one that was drawn is the template row, now that the marker is gone
    have hlast : top.length + 1 + items.length = (top ++ ls).length + 1 := by
      rw [List.length_append]
      omega
    have hrest : top.length + 1 + ls.length + (template :: below).length - 1 =
        (top ++ ls).length + (below.length + 1) := by
      simp only [List.length_append, List.length_cons]
      omega
    rw [hcount] at hn
    rw [hlast, hrest] at hm
    refine hdraw.bind ?_
    rintro s₁ ⟨hr₁, hk₁⟩
    have hspans₁ : top = [] ∨ s₁.Spans w top.length := hspans.imp_right (hk₁.spans (by simp))
    obtain ⟨s₂, hs₂, heq⟩ :=
      ends_takeOut (by simpa using hr₁) hspans₁ hn hm ((top ++ ls).length + 1)
    have hbehind : top.length + 1 + 1 + items.length - 1 = (top ++ ls).length + 1 := by omega
    refine ⟨s₂, hs₂.of_keeps (hk₁.mono (Nat.zero_le _)), ?_⟩
    rw [hlast, ← heq, hbehind]

/-- With no template row nothing is drawn, and only the marker row goes. -/
theorem ends_expandItems_past (source : Option Nat) (items : List StreamItem)
    (h : s.Reads w (top ++ [line])) (hspans : top = [] ∨ s.Spans w top.length)
    {b : Drawn (List Line)} (hb : Lines.expandItems (top.length + 1) line source items [] n = b) :
    Ends (expandItems (top.length + 1) [] source items (n.on s)) b.failure?
      (top.length + 1 + items.length) b.notes (AfterBlock w top [] b s) := by
  have hdraw := ends_generate_past source items (top.length + 1 + 1) n s h (by simp) (by simp)
  have hnil := Lines.draw_nil source items (top.length + 1 + 1) n
  have hstep := Lines.expandStep_expandItems (top.length + 1) line source items [] n
  rw [hb] at hstep
  cases hstep with
  | stopped hd =>
    rw [hd] at hdraw hnil
    obtain rfl := hnil
    refine (hdraw.mono ?_).bind_error
    rintro s₁ ⟨hr₁, hk₁⟩
    exact ⟨by simpa using hr₁, hk₁ 0, by simp⟩
  | kept hd hn =>
    rw [hd] at hdraw hnil
    obtain rfl := hnil
    refine hdraw.bind ?_
    rintro s₁ ⟨hr₁, hk₁⟩
    refine ((ends_removeRow_error (by simpa using hr₁) hn).mono ?_).bind_error
    rintro _ rfl
    exact ⟨by simpa using hr₁, hk₁ 0, by simp⟩
  | @removed ls n₁ n₂ n₃ e? hd hn hm =>
    rw [hd] at hdraw hnil
    obtain rfl : ls = [] := hnil
    refine hdraw.bind ?_
    rintro s₁ ⟨hr₁, hk₁⟩
    replace hr₁ : s₁.Reads w (top ++ [line]) := by simpa using hr₁
    refine (ends_removeRow hr₁ (fun _ => hspans.imp_right ((hk₁ _).spans le_rfl)) hn).bind ?_
    rintro s₂ ⟨hr₂, hk₂, -⟩
    replace hr₂ : s₂.Reads w top := by simpa using hr₂
    have hkeeps : s.Keeps 0 s₂ := (hk₁ 0).trans (hk₂.mono (Nat.zero_le _))
    have hbehind : top.length + 1 + 1 + items.length - 1 = top.length + 1 + items.length := by omega
    have hlast := ends_removeRow_past hr₂ (by omega) (by simp; omega) hm
    rw [hbehind]
    refine (hlast.bind_pure _).mono ?_
    rintro s₃ ⟨hr₃, hk₃⟩
    exact ⟨by simpa using hr₃, hkeeps.trans (hk₃.mono (Nat.zero_le _)), by simp⟩

/-- The row to be scanned after a block is the first one below its lines, if there is one. -/
structure NextRow (top below : List Line) (b : Drawn (List Line)) (next : Nat) : Prop where
  le : top.length + b.content.length < next
  eq : below ≠ [] → next = top.length + b.content.length + 1

theorem ends_expandBlock (record : Record) (name : Text) (h : s.Reads w (top ++ line :: below))
    (hspans : top = [] ∨ s.Spans w top.length)
    (hbelow : below ≠ [] → s.Spans w (top.length + 2)) {b : Drawn (List Line)}
    (hb : Lines.expand record (top.length + 1) line name below n = b) :
    ∃ next, (b.failure? = none → NextRow top below b next) ∧
      Ends (expandBlock (top.length + 1) name (Line.columns 1 (below.headD [])) record (n.on s))
        b.failure? next b.notes (AfterBlock w top below b s) := by
  rw [expandBlock_eq]
  unfold Lines.expand at hb
  cases hi : Lines.blockItems record name n.streams with
  | error e =>
    rw [hi] at hb
    subst hb
    exact ⟨0, by simp, s, ⟨by simpa using h, .refl 0 s, by simp⟩, rfl⟩
  | ok found? =>
    rw [hi] at hb
    cases found? with
    | none =>
      subst hb
      refine ⟨top.length + 1 + 2, fun _ => ⟨?_, fun hne => ?_⟩, s, ⟨?_, .refl 0 s, ?_⟩, rfl⟩
      · simp
        omega
      · obtain ⟨template, below, rfl⟩ := List.exists_cons_of_ne_nil hne
        simp
      · rw [if_pos rfl, List.append_assoc, List.cons_append, List.take_append_drop]
        exact h
      · intro _ hne
        obtain ⟨template, below, rfl⟩ := List.exists_cons_of_ne_nil hne
        right
        simpa using hbelow hne
    | some found =>
      obtain ⟨source, items⟩ := found
      simp only at hb
      cases below with
      | nil =>
        refine ⟨top.length + 1 + items.length, fun hf => ⟨?_, by simp⟩,
          ends_expandItems_past source items h hspans hb⟩
        subst hb
        rw [(Lines.content_expandItems hf).2, Lines.draw_nil]
        simp
        omega
      | cons template below =>
        refine ⟨top.length + 1 + items.length, fun hf => ?_,
          ends_expandItems source items h hspans hb⟩
        have hlen : b.content.length = items.length := by
          subst hb
          rw [(Lines.content_expandItems hf).2]
          exact Lines.length_draw _ _ _ items _ _ (Lines.content_expandItems hf).1
        exact ⟨by omega, fun _ => by omega⟩

end Expansion
end SheetFill
