import SheetFill.Proofs.Expansion.Parts

/-!
# The calls of a filling

Rows and styles are changed block by block, and nowhere else. For each item a row is inserted above
the template row and takes its styles from there, column by column. Then the marker row goes, and
behind the generated rows the template row. What the sheet shows at the moment of a call is seen by
having that call refused, which leaves the sheet as it is then.
-/
namespace SheetFill

/-- A change that is asked for, and the lines that the sheet shows at that moment. It is about one
row: the one that is moved down, the one whose style is taken, or the one that is removed, and
`line?` is to be the line there. In a column without letters no change can be asked for. -/
structure Call where
  edit? : Option Edit
  lines : List Line
  row : Nat
  line? : Option Line

def Call.Located (call : Call) : Prop := call.lines[call.row - 1]? = call.line?

def Call.kind? (call : Call) : Option EditKind := call.edit?.map Edit.kind

def Calls.ofKind (kind : EditKind) (calls : List Call) : List Call :=
  calls.filter fun call => call.kind? = some kind

def Edit.clonesBelow? (col row : Nat) : Option Edit := do
  return .cloneStyle (← Address.text? col (row + 1)) (← Address.text? col row)

def Scanned.line : Scanned → Line
  | .plain line => line
  | .block line _ => line
  | .stopped line _ => line

/-- A row that is being drawn: the first `j` cells are done, and the next one has its value but not
its style. -/
def Line.drawing (template : Line) (child : Record) (j : Nat) : Line :=
  Line.drawn (template.take j) child ++
    match template.drop j with
    | [] => []
    | t :: rest =>
      (Cell.blank.filled (Marker.ofValue t.value).inTemplateRow child).1 :: Line.blank rest.length

namespace Part

def lines (record : Record) : Part → List Line
  | .plain line => [(Line.scan record line).line]
  | .kept marker template? => (Line.scan record marker).line :: template?.toList
  | .expanded _ template? items => Lines.children template?.toList items

/-- The calls for one item, whose row is to be row `row` of a sheet of `w` columns, between the
lines `above` and the template row. -/
def itemCalls (w : Nat) (above : List Line) (template? : Option Line) (below : List Line)
    (row : Nat) (item : Value) : List Call :=
  ⟨some (.insertRow row 1), above ++ (template?.toList ++ below), row, template?⟩ ::
    template?.toList.flatMap fun template =>
      (List.range w).map fun j =>
        ⟨Edit.clonesBelow? (j + 1) row,
          above ++ template.drawing (.ofValue item) j :: template :: below, row + 1, some template⟩

/-- The calls for a part between the lines `above` and `below`. -/
def calls (record : Record) (w : Nat) (above below : List Line) : Part → List Call
  | .expanded marker template? items =>
    let line := (Line.scan record marker).line
    let row := above.length + 1
    let rest := template?.toList ++ below
    (items.zipIdx.flatMap fun (item, k) =>
      itemCalls w (above ++ line :: Lines.children template?.toList (items.take k)) template? below
        (row + 1 + k) item) ++
      [⟨some (.removeRow row), above ++ line :: (Lines.children template?.toList items ++ rest),
          row, some line⟩,
        ⟨some (.removeRow (row + items.length)),
          above ++ (Lines.children template?.toList items ++ rest), row + items.length, template?⟩]
  | _ => []

end Part

def Lines.calls (record : Record) (w : Nat) : (above : List Line) → List Part → List Call
  | _, [] => []
  | above, part :: rest =>
    part.calls record w above (rest.flatMap Part.source) ++
      calls record w (above ++ part.lines record) rest

/-! ## Notes behind some calls -/

namespace Notes

/-- Of some calls `call`, which is of kind `kind`, is the one that will be refused. -/
def Refuses (n : Notes) (calls : List Call) (kind : EditKind) (call : Call) : Prop :=
  ∃ count, n.refusal = some (kind, count) ∧ (Calls.ofKind kind calls)[count - 1]? = some call

/-- Notes behind some calls, none of which was refused. -/
structure Past (n : Notes) (calls : List Call) (n' : Notes) : Prop where
  edits : n'.edits.map some = n.edits.map some ++ calls.map (·.edit?)
  refusal : n'.refusal =
    n.refusal.map fun (kind, count) => (kind, count - (Calls.ofKind kind calls).length)
  none_refused : ∀ kind call, ¬ n.Refuses calls kind call

variable {n n₁ n' : Notes} {calls calls' : List Call} {kind : EditKind} {call : Call} {count : Nat}

theorem ofKind_append (kind : EditKind) (calls calls' : List Call) :
    Calls.ofKind kind (calls ++ calls') = Calls.ofKind kind calls ++ Calls.ofKind kind calls' :=
  List.filter_append ..

theorem Refuses.append (h : n.Refuses calls kind call) (calls' : List Call) :
    n.Refuses (calls ++ calls') kind call := by
  obtain ⟨count, hr, hc⟩ := h
  obtain ⟨hlt, -⟩ := List.getElem?_eq_some_iff.mp hc
  refine ⟨count, hr, ?_⟩
  rw [ofKind_append, List.getElem?_append_left hlt, hc]

/-- Which of some later calls is refused depends on how many of its kind there were before. -/
theorem Past.getElem?_append (h : n.Past calls n₁) (hr : n.refusal = some (kind, count)) :
    (Calls.ofKind kind (calls ++ calls'))[count - 1]? =
      (Calls.ofKind kind calls')[count - (Calls.ofKind kind calls).length - 1]? := by
  have hle : (Calls.ofKind kind calls).length ≤ count - 1 := by
    by_contra hlt
    exact h.none_refused kind _ ⟨count, hr, List.getElem?_eq_getElem (Nat.lt_of_not_le hlt)⟩
  rw [ofKind_append, List.getElem?_append_right hle, Nat.sub_right_comm]

theorem Past.refuses_append (h : n.Past calls n₁) :
    n.Refuses (calls ++ calls') kind call ↔ n₁.Refuses calls' kind call := by
  constructor
  · rintro ⟨count, hr, hc⟩
    rw [h.getElem?_append hr] at hc
    exact ⟨_, by rw [h.refusal, hr]; rfl, hc⟩
  · rintro ⟨count, hr, hc⟩
    rw [h.refusal] at hr
    obtain ⟨⟨kind', count'⟩, hr', heq⟩ := Option.map_eq_some_iff.mp hr
    obtain ⟨rfl, rfl⟩ := Prod.mk.inj heq
    exact ⟨count', hr', by rwa [h.getElem?_append hr']⟩

theorem Past.refl (n : Notes) : n.Past [] n := by
  refine ⟨by simp, ?_, ?_⟩
  · cases n.refusal <;> rfl
  · rintro kind call ⟨count, -, hc⟩
    simp [Calls.ofKind] at hc

theorem Past.trans (h : n.Past calls n₁) (h' : n₁.Past calls' n') :
    n.Past (calls ++ calls') n' := by
  constructor
  · rw [h'.edits, h.edits, List.map_append, List.append_assoc]
  · rw [h'.refusal, h.refusal]
    cases n.refusal with
    | none => rfl
    | some r => simp [ofKind_append, Nat.sub_sub]
  · intro kind call hr
    exact h'.none_refused kind call (h.refuses_append.mp hr)

theorem Refuses.unique {kind' : EditKind} {call' : Call} (h : n.Refuses calls kind call)
    (h' : n.Refuses calls kind' call') : kind = kind' ∧ call = call' := by
  obtain ⟨count, hr, hc⟩ := h
  obtain ⟨count', hr', hc'⟩ := h'
  obtain ⟨rfl, rfl⟩ := Prod.mk.inj (Option.some.inj (hr.symm.trans hr'))
  exact ⟨rfl, Option.some.inj (hc.symm.trans hc')⟩

theorem refuses_leave {source : Option Nat} {rest : List StreamItem} :
    (n.leave source rest).Refuses calls kind call ↔ n.Refuses calls kind call := by
  cases source <;> rfl

theorem Past.of_leave {source : Option Nat} {rest : List StreamItem}
    (h : (n.leave source rest).Past calls n') : n.Past calls n' := by
  refine ⟨?_, n.refusal_leave source rest ▸ h.refusal, fun kind call hr =>
    h.none_refused kind call (refuses_leave.mpr hr)⟩
  cases source <;> exact h.edits

/-- A single call is carried out or refused. -/
theorem attempt_cases (n : Notes) (call : Call) {e : Edit} (he : call.edit? = some e) :
    (∃ n', n.attempt e none = (n', none) ∧ n.Past [call] n') ∨
      ∃ n', n.attempt e none = (n', some (.refused e.kind)) ∧ n.Refuses [call] e.kind call := by
  obtain ⟨streams, edits, refusal⟩ := n
  have hkind (kind : EditKind) :
      Calls.ofKind kind [call] = if e.kind = kind then [call] else [] := by
    simp [Calls.ofKind, Call.kind?, he, List.filter_cons]
  have hcarried {refusal' : Option (EditKind × Nat)}
      (h : refusal' = refusal.map fun (kind, count) =>
        (kind, count - (Calls.ofKind kind [call]).length))
      (hnone : ∀ kind c, ¬ Refuses ⟨streams, edits, refusal⟩ [call] kind c) :
      Past ⟨streams, edits, refusal⟩ [call] ⟨streams, edits ++ [e], refusal'⟩ :=
    ⟨by simp [he], h, hnone⟩
  rcases refusal with _ | ⟨kind, count⟩
  · exact .inl ⟨_, rfl, hcarried rfl (by simp [Refuses])⟩
  · by_cases hk : kind = e.kind
    · subst hk
      by_cases hcount : count ≤ 1
      · refine .inr ⟨⟨streams, edits ++ [e], none⟩, ?_, count, rfl, ?_⟩
        · simp [attempt, Notes.edit, hcount]
        · simp [hkind, Nat.sub_eq_zero_of_le hcount]
      · refine .inl ⟨⟨streams, edits ++ [e], some (e.kind, count - 1)⟩, ?_, hcarried ?_ ?_⟩
        · simp [attempt, Notes.edit, hcount]
        · simp [hkind]
        · rintro kind c ⟨count', hr, hc⟩
          obtain ⟨rfl, rfl⟩ := Prod.mk.inj (Option.some.inj hr)
          obtain ⟨hlt, -⟩ := List.getElem?_eq_some_iff.mp hc
          simp only [hkind, if_true, List.length_singleton] at hlt
          omega
    · refine .inl ⟨⟨streams, edits ++ [e], some (kind, count)⟩, ?_, hcarried ?_ ?_⟩
      · simp [attempt, Notes.edit, hk]
      · simp [hkind, Ne.symm hk]
      · rintro kind' c ⟨count', hr, hc⟩
        obtain ⟨rfl, rfl⟩ := Prod.mk.inj (Option.some.inj hr)
        simp [hkind, Ne.symm hk] at hc

end Notes

/-- Something that makes some calls: it gives `content` in the end, unless one of them is refused,
and then what is there by that time shows the lines of that call. -/
inductive Drawn.Follows {α : Type} (n : Notes) (calls : List Call) (content : α)
    (shows : α → List Line) : Drawn α → Prop
  | ends {n'} (hn : n.Past calls n') : Follows n calls content shows ⟨content, n', none⟩
  | refused {kind call d} (hr : n.Refuses calls kind call)
      (hf : d.failure? = some (.refused kind)) (hl : shows d.content = call.lines) :
      Follows n calls content shows d

namespace Drawn.Follows

variable {α β : Type} {n n₁ : Notes} {calls calls' : List Call} {content : α}
  {shows : α → List Line} {d : Drawn α}

theorem of_leave {source : Option Nat} {rest : List StreamItem}
    (h : d.Follows (n.leave source rest) calls content shows) :
    d.Follows n calls content shows := by
  cases h with
  | ends hn => exact .ends hn.of_leave
  | refused hr hf hl => exact .refused (Notes.refuses_leave.mp hr) hf hl

/-- Behind some calls others are made. -/
theorem after (hp : n.Past calls n₁) (h : d.Follows n₁ calls' content shows) :
    d.Follows n (calls ++ calls') content shows := by
  cases h with
  | ends hn => exact .ends (hp.trans hn)
  | refused hr hf hl => exact .refused (hp.refuses_append.mpr hr) hf hl

theorem map {f : α → β} {shows' : β → List Line} (h : d.Follows n calls content shows)
    (hf : ∀ a, shows' (f a) = shows a) :
    (Drawn.mk (f d.content) d.notes d.failure?).Follows n calls (f content) shows' := by
  cases h with
  | ends hn => exact .ends hn
  | refused hr hfail hl => exact .refused hr hfail ((hf _).trans hl)

end Drawn.Follows

/-! ## Rows -/

namespace Line

variable {child : Record} {row : Nat} {above below : List Line}

/-- A style that was asked for once is asked for in the same way at any other time. -/
theorem exists_of_restyled {col : Nat} {n n' : Notes} (h : restyled col row n = (n', none)) :
    ∃ e, Edit.clonesBelow? col row = some e ∧ ∀ n, restyled col row n = n.attempt e none := by
  unfold restyled at h
  split_ifs at h with hlast
  · simp at h
  · split at h
    · rename_i source target hsource htarget
      refine ⟨.cloneStyle source target, by simp [Edit.clonesBelow?, hsource, htarget], fun n => ?_⟩
      simp [restyled, hlast, hsource, htarget]
    · simp at h

theorem drawing_append (tl : Line) (t : Cell) (tr : Line) :
    (tl ++ t :: tr).drawing child tl.length = tl.drawn child ++
      (Cell.blank.filled (Marker.ofValue t.value).inTemplateRow child).1 :: blank tr.length := by
  simp [drawing]

/-- A row that could be drawn once: the induction is on what is left of the template, whose
beginning `tl` is done. -/
theorem follows_draw (above below : List Line) {template : Line} (tr : Line) :
    ∀ (tl : Line) (n n' m : Notes) (line : Line),
    template = tl ++ tr → draw child row (tl.length + 1) tr n = ⟨line, n', none⟩ →
    (draw child row (tl.length + 1) tr m).Follows m
      ((List.range' tl.length tr.length).map fun j =>
        ⟨Edit.clonesBelow? (j + 1) row, above ++ template.drawing child j :: below, row + 1,
          some template⟩)
      (tr.drawn child) fun line => above ++ (tl.drawn child ++ line) :: below := by
  induction tr with
  | nil =>
    intro tl n n' m line _ _
    exact .ends (.refl m)
  | cons t tr ih =>
    intro tl n n' m line htemplate h
    rcases hc : Cell.blank.filled (Marker.ofValue t.value).inTemplateRow child with ⟨c, _ | e⟩
    · rcases hn : restyled (tl.length + 1) row n with ⟨n₁, _ | e⟩
      · obtain ⟨e, he, hm⟩ := exists_of_restyled hn
        simp only [draw, hc, hn] at h
        rcases hd : draw child row (tl.length + 1 + 1) tr n₁ with ⟨line₁, n₂, f?⟩
        rw [hd] at h
        obtain ⟨-, -, rfl⟩ := Drawn.mk.inj h
        have hrow : above ++ (tl.drawn child ++ c :: blank tr.length) :: below =
            above ++ template.drawing child tl.length :: below := by
          rw [htemplate, drawing_append, hc]
        rw [List.length_cons, List.range'_succ, List.map_cons, ← List.singleton_append, he]
        simp only [draw, hc, hm m]
        rcases m.attempt_cases ⟨some e, _, _, _⟩ rfl with
          ⟨m₁, hm₁, hp⟩ | ⟨m₁, hm₁, hr⟩
        · have hnext := ih (tl ++ [t]) n₁ n₂ m₁ line₁ (by simpa using htemplate) (by simpa using hd)
          rw [List.length_append, List.length_singleton] at hnext
          have hdrawn : ({ c with style := t.style } : Cell) = t.drawn child := by
            rw [Cell.drawn, hc]
          rw [hm₁, hdrawn]
          refine .after hp (hnext.map fun line => ?_)
          simp [drawn]
        · rw [hm₁]
          exact .refused (hr.append _) rfl hrow
      · simp [draw, hc, hn] at h
    · simp [draw, hc] at h

end Line

/-! ## Blocks -/

namespace Lines

variable {record : Record} {source : Option Nat} {above below : List Line} {row : Nat}
  {items : List Value} {n n' : Notes} {ls : List Line}

theorem children_append (below : List Line) (items items' : List Value) :
    children below (items ++ items') = children below items ++ children below items' := by
  cases below with
  | nil => rfl
  | cons template below => exact List.map_append ..

theorem draw_cases (source : Option Nat) (above : List Line) {w : Nat}
    (hw : ∀ template ∈ below.head?, template.length = w) {item : Value} {line : Line}
    (hnone : obstacle (row - 1 + below.length) row = none)
    (hl : Line.draw (.ofValue item) row 1 (below.headD []) n = ⟨line, n', none⟩)
    (rest : List StreamItem) (m : Notes) :
    (∃ m', m.Past (Part.itemCalls w above below.head? (below.drop 1) row item) m' ∧
      draw source below row (.value item :: rest) m =
        ⟨children below [item] ++ (draw source below (row + 1) rest m').content,
          (draw source below (row + 1) rest m').notes,
          (draw source below (row + 1) rest m').failure?⟩) ∨
    ∃ kind call, m.Refuses (Part.itemCalls w above below.head? (below.drop 1) row item) kind call ∧
      (draw source below row (.value item :: rest) m).failure? = some (.refused kind) ∧
      above ++ (draw source below row (.value item :: rest) m).content ++ below = call.lines := by
  rw [Part.itemCalls, head_append_drop, ← List.singleton_append]
  rcases (m.leave source rest).attempt_cases ⟨some (.insertRow row 1), above ++ below, row,
    below.head?⟩ rfl with ⟨m₁, hm₁, hp⟩ | ⟨m₁, hm₁, hr⟩
  · replace hp := hp.of_leave
    cases below with
    | nil =>
      left
      refine ⟨m₁, by simpa using hp, ?_⟩
      simp only [draw, hnone, hm₁]
      rfl
    | cons template below =>
      have hw : template.length = w := hw template rfl
      have hrow := Line.follows_draw above (template :: below) template [] n n' m₁ line rfl hl
      rw [List.length_nil, Nat.zero_add, ← List.range_eq_range', hw] at hrow
      simp only [List.head?_cons, Option.toList_some, List.flatMap_singleton]
      rcases hd : Line.draw (.ofValue item) row 1 template m₁ with ⟨line', m₂, f?⟩
      rw [hd] at hrow
      cases hrow with
      | ends hn =>
        left
        refine ⟨m₂, hp.trans hn, ?_⟩
        simp only [draw, hnone, hm₁, hd]
        rfl
      | @refused kind call _ hr hf hl' =>
        right
        obtain rfl : f? = some (.refused kind) := hf
        refine ⟨kind, call, hp.refuses_append.mpr hr, ?_, ?_⟩
        · simp only [draw, hnone, hm₁, hd]
        · simp only [draw, hnone, hm₁, hd, ← hl']
          simp [Line.drawn]
  · right
    refine ⟨.insertRow, _, (Notes.refuses_leave.mp hr).append _, ?_, ?_⟩
    · simp only [draw, hnone, hm₁]
      rfl
    · simp only [draw, hnone, hm₁]
      rw [List.append_nil]

/-- The rows for the items of a block that could be drawn once: the induction is on the items that
are left. -/
theorem follows_draw (above : List Line) (row : Nat) {w : Nat}
    (hw : ∀ template ∈ below.head?, template.length = w) (items : List Value) :
    ∀ (done : List Value) (n n' m : Notes) (ls : List Line),
    draw source below (row + done.length) (items.map .value) n = ⟨ls, n', none⟩ →
    (draw source below (row + done.length) (items.map .value) m).Follows m
      ((items.zipIdx done.length).flatMap fun (item, k) =>
        Part.itemCalls w (above ++ children below ((done ++ items).take k)) below.head?
          (below.drop 1) (row + k) item)
      (children below items) fun ls => above ++ (children below done ++ ls) ++ below := by
  induction items with
  | nil =>
    intro done n n' m ls _
    rw [children_nil]
    exact .ends (.refl m)
  | cons item items ih =>
    intro done n n' m ls h
    have hstep := drawStep_draw source below (row + done.length) (.value item)
      (items.map .value) n
    rw [List.map_cons] at h
    rw [h] at hstep
    cases hstep with
    | @drawn _ n₁ n₂ _ line ls' _ hn hl hd =>
      rw [List.map_cons, List.zipIdx_cons, List.flatMap_cons]
      simp only [List.take_left]
      rcases draw_cases source (above ++ children below done) hw
        (Notes.attempt_eq_none hn) hl (items.map .value) m with
        ⟨m₁, hp, heq⟩ | ⟨kind, call, hr, hf, hl⟩
      · rw [heq]
        have hnext := ih (done ++ [item]) n₂ n' m₁ ls' (by simpa [Nat.add_assoc] using hd)
        simp only [List.length_append, List.length_singleton, ← Nat.add_assoc, children_append,
          List.append_assoc, List.singleton_append] at hnext
        rw [children_cons]
        refine .after hp (hnext.map fun ls => ?_)
        simp only [List.append_assoc]
      · refine .refused (hr.append _) hf ?_
        rw [← hl]
        simp only [List.append_assoc]

theorem follows_expandItems (above : List Line) {w : Nat}
    (hw : ∀ template ∈ below.head?, template.length = w) {line : Line}
    (h : expandItems row line source (items.map .value) below n = ⟨ls, n', none⟩)
    (m : Notes) :
    (expandItems row line source (items.map .value) below m).Follows m
      ((items.zipIdx.flatMap fun (item, k) =>
        Part.itemCalls w (above ++ line :: children below (items.take k)) below.head?
          (below.drop 1) (row + 1 + k) item) ++
        [⟨some (.removeRow row), above ++ line :: (children below items ++ below), row, some line⟩,
          ⟨some (.removeRow (row + items.length)), above ++ (children below items ++ below),
            row + items.length, below.head?⟩])
      (children below items) fun ls => above ++ ls ++ below := by
  have hstep := expandStep_expandItems row line source (items.map .value) below n
  rw [h] at hstep
  cases hstep with
  | @removed ls n₁ n₂ _ _ hd hn hm =>
    obtain rfl : ls = children below items := by
      obtain ⟨vs, hvs, rfl, -⟩ := draw_eq_children _ _ _ _ _ hd
      rw [List.map_injective_iff.mpr (fun _ _ => StreamItem.value.inj) hvs]
    have hmarker := Notes.attempt_eq_none hn
    have htemplate := Notes.attempt_eq_none hm
    have hdraw := follows_draw (above ++ [line]) (row + 1) hw items [] n n₁ m _ hd
    simp only [List.length_nil, Nat.add_zero, children_nil, List.nil_append, List.append_assoc,
      List.singleton_append] at hdraw
    rcases hdm : draw source below (row + 1) (items.map .value) m with ⟨ls', m₁, f?⟩
    rw [hdm] at hdraw
    cases hdraw with
    | ends hp =>
      refine .after hp ?_
      rcases m₁.attempt_cases ⟨some (.removeRow row),
        above ++ line :: (children below items ++ below), row, some line⟩ rfl with
        ⟨m₂, hm₂, hp₂⟩ | ⟨m₂, hm₂, hr⟩
      · rw [← List.singleton_append]
        refine .after hp₂ ?_
        rcases m₂.attempt_cases ⟨some (.removeRow (row + items.length)),
          above ++ (children below items ++ below), row + items.length, below.head?⟩ rfl with
          ⟨m₃, hm₃, hp₃⟩ | ⟨m₃, hm₃, hr⟩
        · rw [expandItems_of_drawn hdm (by rw [hmarker, hm₂])
            (by rw [htemplate, List.length_map, hm₃])]
          exact .ends hp₃
        · rw [expandItems_of_drawn hdm (by rw [hmarker, hm₂])
            (by rw [htemplate, List.length_map, hm₃])]
          exact .refused hr rfl (List.append_assoc ..)
      · rw [expandItems_of_kept hdm (by rw [hmarker, hm₂]), ← List.singleton_append]
        exact .refused (hr.append _) rfl (by simp)
    | refused hr hf hl =>
      obtain rfl : f? = some _ := hf
      rw [expandItems_of_stopped hdm]
      exact .refused (hr.append _) rfl (by rw [← hl]; simp)

/-! ## Sheets -/

/-- The calls for an item, of which the row is the one behind the lines `above`; with no template
row it may be any further row. -/
theorem located_itemCalls {w : Nat} {template? : Option Line} {item : Value}
    (hrow : above.length + 1 ≤ row) (htemplate : template?.isSome → above.length + 1 = row)
    (hbelow : template? = none → below = []) :
    ∀ call ∈ Part.itemCalls w above template? below row item, call.Located := by
  intro call hcall
  rw [Part.itemCalls] at hcall
  cases template? with
  | none =>
    obtain rfl := hbelow rfl
    obtain rfl : call = ⟨some (.insertRow row 1), above, row, none⟩ := by simpa using hcall
    apply List.getElem?_eq_none
    show above.length ≤ row - 1
    omega
  | some template =>
    obtain rfl := htemplate rfl
    simp only [Option.toList_some, List.singleton_append, List.flatMap_singleton, List.mem_cons,
      List.mem_map, List.mem_range] at hcall
    rcases hcall with rfl | ⟨j, -, rfl⟩
    · simp [Call.Located]
    · rw [Call.Located, List.append_cons]
      simp

theorem length_children_toList (template? : Option Line) (items : List Value) :
    (children template?.toList items).length = if template?.isSome then items.length else 0 := by
  cases template? with
  | none => rfl
  | some template => exact length_children template [] items

theorem located_calls_part {w : Nat} {part : Part}
    (hbelow : ∀ marker items, part = .expanded marker none items → below = []) :
    ∀ call ∈ part.calls record w above below, call.Located := by
  intro call hcall
  cases part with
  | plain line => simp [Part.calls] at hcall
  | kept marker template? => simp [Part.calls] at hcall
  | expanded marker template? items =>
    simp only [Part.calls, List.mem_append, List.mem_flatMap, List.mem_cons,
      List.not_mem_nil, or_false] at hcall
    have hnone : template? = none → below = [] := by
      rintro rfl
      exact hbelow _ _ rfl
    rcases hcall with ⟨⟨item, k⟩, hk, hcall⟩ | rfl | rfl
    · have hlt : k < items.length := List.snd_lt_of_mem_zipIdx hk
      have hlength : (children template?.toList (items.take k)).length ≤ k ∧
          (template?.isSome → (children template?.toList (items.take k)).length = k) := by
        rw [length_children_toList, List.length_take, Nat.min_eq_left hlt.le]
        split_ifs <;> simp [*]
      refine located_itemCalls ?_ (fun ht => ?_) hnone call hcall
      · simp only [List.length_append, List.length_cons]
        omega
      · simp only [List.length_append, List.length_cons, hlength.2 ht]
        omega
    · simp [Call.Located]
    · cases template? with
      | none =>
        obtain rfl := hnone rfl
        simp [Call.Located, children]
      | some template =>
        have hlength := length_children template [] items
        simp only [Call.Located, Option.toList_some, List.singleton_append]
        rw [← List.append_assoc, List.getElem?_append_right (by simp [hlength])]
        simp [hlength]

theorem located_calls (record : Record) (w : Nat) (streams : Streams) (ls : List Line) :
    ∀ above : List Line, ∀ call ∈ calls record w above (parts record streams ls), call.Located := by
  induction streams, ls using parts_induction record with
  | nil streams => simp [parts, calls]
  | plain streams line below hb ih =>
    intro above call hcall
    rw [parts_plain hb, calls, List.mem_append] at hcall
    rcases hcall with hcall | hcall
    · exact located_calls_part (by simp) call hcall
    · exact ih _ call hcall
  | kept streams line below name hb hf ih =>
    intro above call hcall
    rw [parts_kept hb hf, calls, List.mem_append] at hcall
    rcases hcall with hcall | hcall
    · exact located_calls_part (by simp) call hcall
    · exact ih _ call hcall
  | expanded streams line below name v hb hf ih =>
    intro above call hcall
    rw [parts_expanded hb hf, calls, List.mem_append] at hcall
    rcases hcall with hcall | hcall
    · apply located_calls_part _ call hcall
      -- only the last row has no template row below it
      intro marker items heq
      obtain ⟨-, hnone, -⟩ := Part.expanded.inj heq
      rw [flatMap_source_parts, List.head?_eq_none_iff.mp hnone, List.drop_nil]
    · exact ih _ call hcall

/-- Lines that could be filled once. -/
theorem follows_fill {w : Nat} {out rest : List Line} (h : Passes record row n ls out n' rest)
    (hrest : rest = []) : ∀ (above : List Line) (m : Notes), above.length + 1 = row →
    m.streams = n.streams → (∀ line ∈ ls, line.length = w) →
    (fill record row ls m).Follows m (calls record w above (parts record n.streams ls)) out
      (above ++ ·) := by
  induction h with
  | here =>
    subst hrest
    intro above m _ _ _
    exact .ends (.refl m)
  | @plain row n line line' below out n' rest hrow hs h ih =>
    intro above m habove hm hw
    have hb := Line.block?_of_plain hs
    have hnext := ih hrest (above ++ [line']) m (by simp [habove]) hm
      fun l hl => hw l (by simp [hl])
    rw [parts_plain hb, fill_plain hrow hs]
    simp only [calls, Part.calls, Part.lines, hs, Scanned.line, List.nil_append]
    exact hnext.map fun ls => by simp
  | @kept row n line line' name below out n' rest hrow hs hf h ih =>
    intro above m habove hm hw
    have hb := Line.block?_of_block hs
    have hnext := ih hrest (above ++ line' :: below.take 1) m
      (by simp only [List.length_append, List.length_cons, ← habove]; omega) hm
      fun l hl => hw l (by simp [List.mem_of_mem_drop hl])
    have hnumber : row + (line' :: below.take 1).length = row + 1 + (below.take 1).length := by
      rw [List.length_cons, ← Nat.add_assoc, Nat.add_right_comm]
    rw [parts_kept hb (by simp [hf]),
      fill_block (by omega) hs (block_of_absent hrow hf) rfl (by rw [hnumber])]
    simp only [calls, Part.calls, Part.lines, hs, Scanned.line, List.nil_append, ← take_one_eq]
    exact hnext.map (f := (line' :: below.take 1 ++ ·)) fun ls => by
      simp only [List.append_assoc]
  | @expanded row n line line' name source items below n₁ out n' rest hrow hs hi hd hn hlast h ih =>
    intro above m habove hm hw
    have hb := Line.block?_of_block hs
    obtain ⟨v, hf, hitems⟩ := items_of_blockItems hi
    have hi' : blockItems record name m.streams = .ok (some (source, items.map .value)) := hm ▸ hi
    have hblock := follows_expandItems above (w := w)
      (fun template ht => hw template (by simp [List.mem_of_mem_head? ht])) hd m
    rw [parts_expanded hb hf, hitems]
    simp only [calls, Part.calls, Part.lines, hs, Scanned.line, habove, flatMap_source_parts,
      head_append_drop, ← children_take_one]
    rcases hdm : expandItems row line' source (items.map .value) below m with ⟨ls, m₁, f?⟩
    rw [hdm] at hblock
    cases hblock with
    | ends hp =>
      obtain ⟨-, -, -, hm₁, -⟩ := expandItems_eq_children (by omega) hi' hdm
      rw [fill_block (by omega) hs ((block_of_items hrow hi').trans hdm) rfl rfl]
      have hnext := ih hrest (above ++ children below items) m₁
        (by simp [← habove, Nat.add_right_comm]) (by rw [hm₁, hm, hn])
        fun l hl => hw l (by simp [List.mem_of_mem_drop hl])
      rw [hn] at hnext
      refine .after hp (hnext.map (f := (children below items ++ ·)) fun ls => ?_)
      simp only [List.append_assoc]
    | refused hr hf' hl =>
      obtain rfl : f? = some _ := hf'
      rw [fill_block_stopped (by omega) hs ((block_of_items hrow hi').trans hdm) rfl]
      exact .refused (hr.append _) rfl (by rw [← hl, List.append_assoc])

end Lines

def Run.calls (run : Run) (record : Record) : List Call :=
  Lines.calls record run.sheet.maxCol [] (Lines.parts record run.streams run.sheet.lines)

def Run.refusing (run : Run) (kind : EditKind) (count : Nat) : Run :=
  { run with refusal := some (kind, count) }

/-- Where a sheet could be filled once, its filling always makes the same calls up to the one that
is refused. -/
theorem Run.follows_calls {run : Run} {record : Record} (run' : Run)
    (h : (run.fill record).failure? = none) (hsheet : run'.sheet = run.sheet)
    (hstreams : run'.streams = run.streams) :
    ∃ (d : Drawn (List Line)) (out : List Line) (s : Sheet),
      d.Follows run'.notes (run.calls record) out id ∧
      run'.fill record = ⟨d.notes.on s, d.failure?⟩ ∧ s.Reads run.sheet.maxCol d.content := by
  obtain ⟨out, n', hp, -⟩ := run.passes_fill record h
  obtain ⟨s, hfill, hreads, -⟩ := run'.fill_eq record
  rw [hsheet] at hfill hreads
  refine ⟨_, out, s, ?_, hfill, hreads⟩
  exact Lines.follows_fill hp rfl [] run'.notes rfl hstreams fun line => Sheet.length_of_mem_lines

/-- A filling that completes has asked for its calls in their order and for nothing else. Each of
them was about the line in its row, and had it been refused, then the sheet would have been left
with the lines of that moment. -/
theorem Run.calls_fill (run : Run) (record : Record) (h : (run.fill record).failure? = none) :
    (run.fill record).run.edits.map some =
        run.edits.map some ++ (run.calls record).map (·.edit?) ∧
      (∀ call ∈ run.calls record, call.Located) ∧
      ∀ kind i call, (Calls.ofKind kind (run.calls record))[i]? = some call →
        ((run.refusing kind (i + 1)).fill record).failure? = some (.refused kind) ∧
          ((run.refusing kind (i + 1)).fill record).run.sheet.Reads run.sheet.maxCol
            call.lines := by
  refine ⟨?_, ?_, ?_⟩
  · obtain ⟨d, out, s, hcalls, hfill, -⟩ := Run.follows_calls run h rfl rfl
    rw [hfill] at h ⊢
    cases hcalls with
    | ends hn => exact hn.edits
    | refused hr hf hl => exact absurd (hf.symm.trans h) (by simp)
  · exact Lines.located_calls record run.sheet.maxCol run.streams run.sheet.lines []
  · intro kind i call hi
    have hrefuses : (run.refusing kind (i + 1)).notes.Refuses (run.calls record) kind call :=
      ⟨i + 1, rfl, hi⟩
    obtain ⟨d, out, s, hcalls, hfill, hreads⟩ :=
      Run.follows_calls (run.refusing kind (i + 1)) h rfl rfl
    rw [hfill]
    cases hcalls with
    | ends hn => exact absurd hrefuses (hn.none_refused kind call)
    | refused hr hf hl =>
      obtain ⟨rfl, rfl⟩ := hr.unique hrefuses
      exact ⟨hf, hl ▸ hreads⟩

def Run.roster : Run where
  sheet := .ofTexts [["$Each{teams}", "of"], ["$F{name}", "$F{size}"], ["$Each{guests}"]]
  streams := [[.value (.text "Ann")]]
  edits := []
  refusal := none

def Record.roster : Record :=
  .mapping [(.text "teams", .list [.map [(.text "name", .text "Red"), (.text "size", .int 4)],
    .map [(.text "name", .text "Blue")]]), (.text "guests", .stream 0)]

theorem Run.calls_fill_roster :
    (Run.roster.fill .roster).failure? = none ∧
      (Run.roster.fill .roster).run.edits.map some =
        [.insertRow 2 1, .cloneStyle "A3" "A2", .cloneStyle "B3" "B2", .insertRow 3 1,
          .cloneStyle "A4" "A3", .cloneStyle "B4" "B3", .removeRow 1, .removeRow 3,
          .insertRow 4 1, .removeRow 3, .removeRow 4].map some ∧
      ((Run.roster.refusing .removeRow 2).fill .roster).failure? = some (.refused .removeRow) := by
  have h : (Run.roster.fill .roster).failure? = none := by
    decide +kernel
  obtain ⟨hedits, -, hmoments⟩ := Run.calls_fill _ _ h
  have hcall : (Calls.ofKind .removeRow (Run.roster.calls .roster))[1]?.isSome := by
    decide +kernel
  obtain ⟨call, hi⟩ := Option.isSome_iff_exists.mp hcall
  exact ⟨h, hedits.trans (by decide +kernel), (hmoments _ _ _ hi).1⟩

end SheetFill
