import SheetFill.Proofs.Expansion.Blocks

/-!
# How far filling comes

Filling goes from the top in steps: past a plain line, past a block that is kept with its template
row, past a block that is expanded. Where it does not reach the end there is a line at which it
stops, and all below that line is untouched.
-/
namespace SheetFill

namespace Lines

variable {record : Record} {row : Nat} {source : Option Nat} {below : List Line} {n n' : Notes}

theorem blockItems_stream {name : Text} {streams : Streams} {items : List StreamItem}
    (h : blockItems record name streams = .ok (some (source, items))) (hnil : items = []) :
    Streams.drained source streams = streams := by
  unfold blockItems at h
  split at h
  · simp at h
  · simp at h
  · unfold collection at h
    split_ifs at h
    · obtain ⟨rfl, -⟩ : none = source ∧ [] = items := by simpa [Except.map] using h
      rfl
    · split at h
      · obtain ⟨rfl, -⟩ : none = source ∧ _ = items := by simpa [Except.map] using h
        rfl
      · rename_i id _
        obtain ⟨rfl, hitems⟩ : some id = source ∧ streams.getD id [] = items := by
          simpa [Except.map] using h
        exact Streams.drained_eq_self (hitems.trans hnil)
      · simp [Except.map] at h

/-- A block that was expanded is replaced by the rows for its items, all of which were taken. -/
theorem expandItems_eq_children {name : Text} {line : Line} {items : List StreamItem}
    {ls : List Line} (hrow : row ≤ Sheet.lastRow)
    (hi : blockItems record name n.streams = .ok (some (source, items)))
    (h : expandItems row line source items below n = ⟨ls, n', none⟩) :
    ∃ vs : List Value, items = vs.map .value ∧ ls = children below vs ∧
      n'.streams = Streams.drained source n.streams ∧
      row + (children below vs).length ≤ Sheet.lastRow + 1 := by
  have hstep := expandStep_expandItems row line source items below n
  rw [h] at hstep
  cases hstep with
  | removed hd hn hm =>
    obtain ⟨vs, rfl, rfl, hs⟩ := draw_eq_children items _ _ _ _ hd
    refine ⟨vs, rfl, rfl, ?_, children_le_lastRow hrow hd⟩
    rw [Notes.streams_attempt hm, Notes.streams_attempt hn]
    by_cases hnil : vs.map StreamItem.value = []
    · rw [hnil] at hd
      rw [← (Drawn.mk.inj hd).2.1, blockItems_stream hi hnil]
    · exact hs hnil

/-- From some lines, the first of which is row `row`, filling comes to the lines `rest` and leaves
`out` in the place of those before. -/
inductive Passes (record : Record) :
    Nat → Notes → List Line → List Line → Notes → List Line → Prop
  | here {row n ls} : Passes record row n ls [] n ls
  | plain {row n line line' below out n' rest} (hrow : row ≤ Sheet.lastRow)
      (hs : Line.scan record line = .plain line')
      (h : Passes record (row + 1) n below out n' rest) :
      Passes record row n (line :: below) (line' :: out) n' rest
  | kept {row n line line' name below out n' rest}
      (hrow : row + (below.take 1).length ≤ Sheet.lastRow)
      (hs : Line.scan record line = .block line' name) (hf : record.field? name = .ok none)
      (h : Passes record (row + 1 + (below.take 1).length) n (below.drop 1) out n' rest) :
      Passes record row n (line :: below) (line' :: (below.take 1 ++ out)) n' rest
  | expanded {row n line line' name source items below n₁ out n' rest}
      (hrow : row + (below.take 1).length ≤ Sheet.lastRow)
      (hs : Line.scan record line = .block line' name)
      (hi : blockItems record name n.streams = .ok (some (source, items.map .value)))
      (hb : expandItems row line' source (items.map .value) below n =
        ⟨children below items, n₁, none⟩)
      (hn : n₁.streams = Streams.drained source n.streams)
      (hlast : row + (children below items).length ≤ Sheet.lastRow + 1)
      (h : Passes record (row + (children below items).length) n₁ (below.drop 1) out n' rest) :
      Passes record row n (line :: below) (children below items ++ out) n' rest

theorem suffix_of_passes {ls out rest : List Line} (h : Passes record row n ls out n' rest) :
    rest <:+ ls := by
  induction h with
  | here => exact List.suffix_refl _
  | plain hrow hs h ih => exact ih.trans (List.suffix_cons _ _)
  | kept hrow hs hf h ih => exact (ih.trans (List.drop_suffix 1 _)).trans (List.suffix_cons _ _)
  | expanded hrow hs hi hb hn hlast h ih =>
    exact (ih.trans (List.drop_suffix 1 _)).trans (List.suffix_cons _ _)

/-- How filling stops at a line: what it leaves of this line and of those below it. -/
inductive Stops (record : Record) (row : Nat) (n : Notes) :
    Line → List Line → List Line → Notes → Failure → Prop
  | outOfReach {line below} (hrow : Sheet.lastRow < row) :
      Stops record row n line below (line :: below) n (.sheet (.noSuchRow row))
  | cell {line below line' e} (hrow : row ≤ Sheet.lastRow)
      (hs : Line.scan record line = .stopped line' e) :
      Stops record row n line below (line' :: below) n e
  | block {line below line' name ls n' e} (hrow : row ≤ Sheet.lastRow)
      (hs : Line.scan record line = .block line' name)
      (hb : block record row line' name below n = ⟨ls, n', some e⟩) :
      Stops record row n line below (ls ++ below) n' e

/-- A block that does not fail is kept or expanded. -/
theorem passes_of_block {line line' : Line} {name : Text} {ls out rest : List Line} {n₁ : Notes}
    (hrow : row ≤ Sheet.lastRow) (hs : Line.scan record line = .block line' name)
    (hb : block record row line' name below n = ⟨ls, n₁, none⟩)
    (h : Passes record (row + ls.length) n₁ (below.drop 1) out n' rest) :
    Passes record row n (line :: below) (ls ++ out) n' rest := by
  unfold block at hb
  split_ifs at hb with hlast
  · simp at hb
  have hrow' : row + (below.take 1).length ≤ Sheet.lastRow := by
    cases below with
    | nil => simpa using hrow
    | cons template below =>
      simp only [ne_eq, reduceCtorEq, not_false_eq_true, true_and] at hlast
      simp only [List.take_succ_cons, List.take_zero, List.length_singleton]
      omega
  unfold expand at hb
  split at hb
  · simp at hb
  · rename_i hi
    obtain ⟨rfl, rfl, -⟩ := Drawn.mk.inj hb
    have hf : record.field? name = .ok none := by
      unfold blockItems at hi
      split at hi
      · simp at hi
      · assumption
      · rename_i v hv
        cases hc : collection n.streams v <;> simp [hc, Except.map] at hi
    refine .kept hrow' hs hf ?_
    rw [List.length_cons] at h
    rwa [Nat.add_right_comm, Nat.add_assoc]
  · rename_i source items hi
    obtain ⟨vs, rfl, rfl, hn, hlast⟩ := expandItems_eq_children hrow hi hb
    exact .expanded hrow' hs hi hb hn hlast h

/-- Filling passes lines up to the end, or up to a line at which it stops. -/
theorem fill_passes (record : Record) (ls : List Line) (row : Nat) (n : Notes) :
    ∃ out n₁ rest, Passes record row n ls out n₁ rest ∧
      (rest = [] ∧ fill record row ls n = ⟨out, n₁, none⟩ ∨
        ∃ line below ls' n' e, rest = line :: below ∧
          Stops record (row + out.length) n₁ line below ls' n' e ∧
          fill record row ls n = ⟨out ++ ls', n', some e⟩) := by
  induction row, ls, n using fill_induction record with
  | nil row n => exact ⟨[], n, [], .here, .inl ⟨rfl, rfl⟩⟩
  | past row line below n hlast =>
    exact ⟨[], n, line :: below, .here, .inr ⟨line, below, _, _, _, rfl, .outOfReach hlast,
      fill_past hlast⟩⟩
  | stopped row line below n line' e hrow hs =>
    exact ⟨[], n, line :: below, .here, .inr ⟨line, below, _, _, _, rfl, .cell hrow hs,
      fill_stopped hrow hs⟩⟩
  | plain row line below n line' hrow hs ih =>
    obtain ⟨out, n₁, rest, hp, hend⟩ := ih
    refine ⟨line' :: out, n₁, rest, .plain hrow hs hp, ?_⟩
    rw [fill_plain hrow hs]
    rcases hend with ⟨hrest, hfill⟩ | ⟨line, below', ls', n', e, hrest, hstop, hfill⟩
    · exact .inl ⟨hrest, by rw [hfill]⟩
    · refine .inr ⟨line, below', ls', n', e, hrest, ?_, by rw [hfill]; rfl⟩
      rwa [List.length_cons, Nat.add_comm out.length, ← Nat.add_assoc]
  | failed row line below n line' name ls n₁ e hrow hs hb =>
    exact ⟨[], n, line :: below, .here, .inr ⟨line, below, _, _, _, rfl, .block hrow hs hb,
      fill_block_stopped hrow hs hb rfl⟩⟩
  | passed row line below n line' name ls n₁ hrow hs hb ih =>
    obtain ⟨out, n₂, rest, hp, hend⟩ := ih
    refine ⟨ls ++ out, n₂, rest, passes_of_block hrow hs hb hp, ?_⟩
    rw [fill_block hrow hs hb rfl rfl]
    rcases hend with ⟨hrest, hfill⟩ | ⟨line, below', ls', n', e, hrest, hstop, hfill⟩
    · exact .inl ⟨hrest, by rw [hfill]⟩
    · refine .inr ⟨line, below', ls', n', e, hrest, ?_, ?_⟩
      · rwa [List.length_append, ← Nat.add_assoc]
      · rw [hfill, List.append_assoc]

theorem passes_of_fill {ls out : List Line} (h : fill record row ls n = ⟨out, n', none⟩) :
    Passes record row n ls out n' [] := by
  obtain ⟨out, n₁, rest, hp, ⟨rfl, hfill⟩ | ⟨line, below, ls', n₂, e, -, -, hfill⟩⟩ :=
    fill_passes record ls row n
  · obtain ⟨rfl, rfl, -⟩ := Drawn.mk.inj (hfill.symm.trans h)
    exact hp
  · simp [hfill] at h

theorem stops_of_fill {ls ls' : List Line} {e : Failure}
    (h : fill record row ls n = ⟨ls', n', some e⟩) :
    ∃ out n₁ line below rest, Passes record row n ls out n₁ (line :: below) ∧
      Stops record (row + out.length) n₁ line below rest n' e ∧ ls' = out ++ rest := by
  obtain ⟨out, n₁, rest, hp, ⟨-, hfill⟩ | ⟨line, below, ls', n₂, e, rfl, hstop, hfill⟩⟩ :=
    fill_passes record ls row n
  · simp [hfill] at h
  · obtain ⟨rfl, rfl, he⟩ := Drawn.mk.inj (hfill.symm.trans h)
    obtain rfl := Option.some.inj he
    exact ⟨out, n₁, line, below, ls', hp, hstop, rfl⟩

end Lines
end SheetFill
