import SheetFill.Proofs.Expansion.Blocks

/-!
# Filling a sheet is filling its lines

The scan keeps three parts apart: the lines above the cursor are finished, the rest is the untouched
template, and the last finished row reaches the last column, so that the bounds stay what they are
when all rows below it go away. Filling a sheet then ends as filling its lines does, with the same
failure if there is one.
-/
namespace SheetFill

namespace Line

theorem scan_of_plain {record : Record} (line : Line)
    (h : ∀ c ∈ line, Marker.ofValue c.value = .plain) : scan record line = .plain line := by
  induction line with
  | nil => rfl
  | cons c line ih =>
    simp only [scan, h c (by simp), ih fun d hd => h d (List.mem_cons_of_mem c hd)]
    rfl

theorem scan_blank (record : Record) (k : Nat) : scan record (blank k) = .plain (blank k) := by
  apply scan_of_plain
  intro c hc
  rw [List.eq_of_mem_replicate hc]
  rfl

end Line

namespace Expansion

open Sheet (Reads Keeps lastRow)

variable {s : Sheet} {w : Nat} {n : Notes} {top below : List Line} {left right : Line}
  {record : Record}

/-! ## Rows -/

section Rows

variable {c : Cell} {name : Text} {columns : List (Nat × CellMarker)}

theorem ends_classify (h : s.Reads w (top ++ (left ++ c :: right) :: below))
    (hrow : top.length + 1 ≤ lastRow)
    (hc : ∀ name columns, Marker.ofValue c.value ≠ .each name columns) :
    Ends (onSheet (Sheet.classify (left.length + 1) (top.length + 1)) (n.on s)) none
      (Marker.ofValue c.value) n fun s' =>
        s'.Reads w (top ++ (left ++ c :: right) :: below) ∧ (∀ k, s.Keeps k s') ∧
          s'.get? (left.length + 1) (top.length + 1) = some c := by
  obtain ⟨s', hs', hr, hk, hg⟩ := h.access hrow
  refine ⟨s', ⟨hr, hk, hg⟩, onSheet_ok ?_⟩
  simp only [Sheet.classify, bind, EStateM.bind, Sheet.cell_eq_of_access hs']
  cases hm : Marker.ofValue c.value with
  | plain => rfl
  | field name => rfl
  | each name columns => exact absurd hm (hc name columns)

theorem ends_classify_each (h : s.Reads w (top ++ (left ++ c :: right) :: below))
    (hrow : top.length + 1 ≤ lastRow) (hc : Marker.ofValue c.value = .each name columns)
    (hbelow : below = [] ∨ top.length + 2 ≤ lastRow) :
    Ends (onSheet (Sheet.classify (left.length + 1) (top.length + 1)) (n.on s)) none
      (.each name (Line.columns 1 (below.headD []))) n fun s' =>
        s'.Reads w (top ++ (left ++ c :: right) :: below) ∧ (∀ k, s.Keeps k s') ∧
          (below ≠ [] → s'.Spans w (top.length + 2)) := by
  obtain ⟨s₁, hs₁, hr₁, hk₁, -⟩ := h.access hrow
  cases below with
  | nil =>
    refine ⟨s₁, ⟨hr₁, hk₁, by simp⟩, onSheet_ok ?_⟩
    simp only [Sheet.classify, bind, EStateM.bind, Sheet.cell_eq_of_access hs₁, hc,
      Sheet.readTemplateRow_past hr₁]
    rfl
  | cons template below =>
    obtain ⟨s₂, hs₂, hr₂, hk₂, hspans⟩ := Sheet.readTemplateRow_eq hr₁ (by simpa using hbelow)
    refine ⟨s₂, ⟨hr₂, fun k => (hk₁ k).trans (hk₂ k), fun _ => hspans⟩, onSheet_ok ?_⟩
    simp only [Sheet.classify, bind, EStateM.bind, Sheet.cell_eq_of_access hs₁, hc, hs₂]
    rfl

theorem ends_classify_each_error (h : s.Reads w (top ++ (left ++ c :: right) :: below))
    (hrow : top.length + 1 ≤ lastRow) (hc : Marker.ofValue c.value = .each name columns)
    (hbelow : below ≠ []) (hlast : lastRow < top.length + 2) :
    Ends (onSheet (Sheet.classify (left.length + 1) (top.length + 1)) (n.on s))
      (some (.sheet (.noSuchRow (top.length + 2 : Nat)))) .plain n fun s' =>
        s'.Reads w (top ++ (left ++ c :: right) :: below) ∧ ∀ k, s.Keeps k s' := by
  obtain ⟨s₁, hs₁, hr₁, hk₁, -⟩ := h.access hrow
  obtain ⟨template, below, rfl⟩ := List.exists_cons_of_ne_nil hbelow
  refine ⟨s₁, ⟨hr₁, hk₁⟩, onSheet_error ?_⟩
  simp only [Sheet.classify, bind, EStateM.bind, Sheet.cell_eq_of_access hs₁, hc,
    Sheet.readTemplateRow_error hr₁ hlast]

/-- What scanning a row from some column on leads to, where the line up to there is `left`. -/
def AfterRow (record : Record) (w : Nat) (top : List Line) (left : Line) (below : List Line)
    (n : Notes) (s : Sheet) (r : EStateM.Result Failure Run Nat) : Scanned → Prop
  | .plain line => Ends r none (top.length + 2) n fun s' =>
      s'.Reads w (top ++ (left ++ line) :: below) ∧ s.Keeps 0 s' ∧ s'.Spans w (top.length + 1)
  | .stopped line e => Ends r (some e) 0 n fun s' =>
      s'.Reads w (top ++ (left ++ line) :: below) ∧ s.Keeps 0 s'
  | .block line name =>
      ∃ next,
        ((Lines.block record (top.length + 1) (left ++ line) name below n).failure? = none →
          NextRow top below (Lines.block record (top.length + 1) (left ++ line) name below n)
            next) ∧
        Ends r (Lines.block record (top.length + 1) (left ++ line) name below n).failure? next
          (Lines.block record (top.length + 1) (left ++ line) name below n).notes
          (AfterBlock w top below
            (Lines.block record (top.length + 1) (left ++ line) name below n) s)

theorem AfterRow.behind {r : EStateM.Result Failure Run Nat} {scanned : Scanned}
    (h : AfterRow record w top (left ++ [c]) below n s r scanned) :
    AfterRow record w top left below n s r (scanned.behind c) := by
  cases scanned <;> simpa [AfterRow, Scanned.behind] using h

theorem AfterRow.of_keeps {r : EStateM.Result Failure Run Nat} {scanned : Scanned} {s₁ : Sheet}
    (hk : s.Keeps 0 s₁) (h : AfterRow record w top left below n s₁ r scanned) :
    AfterRow record w top left below n s r scanned := by
  cases scanned with
  | plain line =>
    obtain ⟨s', ⟨hr, hk', hspans⟩, heq⟩ := h
    exact ⟨s', ⟨hr, hk.trans hk', hspans⟩, heq⟩
  | stopped line e =>
    obtain ⟨s', ⟨hr, hk'⟩, heq⟩ := h
    exact ⟨s', ⟨hr, hk.trans hk'⟩, heq⟩
  | block line name =>
    obtain ⟨next, hnext, s', hs', heq⟩ := h
    exact ⟨next, hnext, s', hs'.of_keeps hk, heq⟩

theorem scanRow_cons (row col count : Nat) :
    scanRow record row (List.range' col (count + 1)) =
      onSheet (Sheet.classify col row) >>= fun marker =>
        match marker with
        | .plain => scanRow record row (List.range' (col + 1) count)
        | .field name => fillCell col row (.field name) record >>= fun _ =>
            scanRow record row (List.range' (col + 1) count)
        | .each name columns => expandBlock row name columns record := by
  have hrange : List.range' col (count + 1) = col :: List.range' (col + 1) count := by
    simp [List.range'_succ]
  rw [hrange]
  rfl

/-- With the first block marker the row is left, and the block is expanded. -/
theorem afterRow_of_each (h : s.Reads w (top ++ (left ++ c :: right) :: below))
    (hrow : top.length + 1 ≤ lastRow) (htop : top = [] ∨ s.Spans w top.length)
    (hm : Marker.ofValue c.value = .each name columns) (count : Nat) :
    AfterRow record w top left below n s
      (scanRow record (top.length + 1) (List.range' (left.length + 1) (count + 1)) (n.on s))
      (.block (c :: right) name) := by
  rw [scanRow_cons]
  simp only [AfterRow, Lines.block]
  split_ifs with hlast
  · refine ⟨0, by simp, ?_⟩
    refine ((ends_classify_each_error (n := n) h hrow hm hlast.1 hlast.2).mono ?_).bind_error
    rintro s₁ ⟨hr₁, hk₁⟩
    exact ⟨by simpa using hr₁, hk₁ 0, by simp⟩
  · have hbelow : below = [] ∨ top.length + 2 ≤ lastRow := by
      by_cases hnil : below = []
      · exact .inl hnil
      · right
        by_contra hover
        exact hlast ⟨hnil, by omega⟩
    obtain ⟨s₁, ⟨hr₁, hk₁, hspans⟩, heq⟩ := ends_classify_each (n := n) h hrow hm hbelow
    rw [bind_apply, heq]
    obtain ⟨next, hnext, s₂, hs₂, heq₂⟩ := ends_expandBlock (n := n) record name hr₁
      (htop.imp_right ((hk₁ _).spans le_rfl)) hspans rfl
    exact ⟨next, hnext, s₂, hs₂.of_keeps (hk₁ 0), heq₂⟩

/-- A row is scanned as its line is: the induction is on what is left of the line, behind the cells
`left` that are done. -/
theorem ends_scanRow (record : Record) (hrow : top.length + 1 ≤ lastRow) (right : Line) :
    ∀ (left : Line) (s : Sheet), s.Reads w (top ++ (left ++ right) :: below) →
    (top = [] ∨ s.Spans w top.length) → (right = [] → s.Spans w (top.length + 1)) →
    AfterRow record w top left below n s
      (scanRow record (top.length + 1) (List.range' (left.length + 1) right.length) (n.on s))
      (Line.scan record right) := by
  induction right with
  | nil =>
    intro left s h _ hspans
    exact ⟨s, ⟨h, .refl 0 s, hspans rfl⟩, rfl⟩
  | cons c right ih =>
    intro left s h htop _
    have hw : right = [] → w = left.length + 1 := by
      rintro rfl
      rw [← h.maxCol (by simp), ← Sheet.length_line (h.lines_eq (by simp))]
      simp
    -- the cell exists from now on, so that the last column is reached with the last cell
    have hnext (c' : Cell) (s₁ : Sheet)
        (hr₁ : s₁.Reads w (top ++ (left ++ c' :: right) :: below)) (hk₁ : ∀ k, s.Keeps k s₁)
        (hspans : s₁.Spans (left.length + 1) (top.length + 1)) :
        AfterRow record w top left below n s
          (scanRow record (top.length + 1) (List.range' (left.length + 1 + 1) right.length)
            (n.on s₁)) ((Line.scan record right).behind c') := by
      refine AfterRow.of_keeps (hk₁ 0) (AfterRow.behind ?_)
      have hrest := ih (left ++ [c']) s₁ (by simpa using hr₁)
        (htop.imp_right ((hk₁ _).spans le_rfl)) (fun hnil => hw hnil ▸ hspans)
      simpa using hrest
    rw [List.length_cons]
    cases hm : Marker.ofValue c.value with
    | plain =>
      obtain ⟨s₁, ⟨hr₁, hk₁, hg⟩, heq⟩ := ends_classify (n := n) h hrow (by simp [hm])
      simp only [hm] at heq
      rw [scanRow_cons, bind_apply, heq]
      simp only [Line.scan, hm]
      exact hnext c s₁ hr₁ hk₁ (by rw [Sheet.Spans, hg]; rfl)
    | field name =>
      obtain ⟨s₁, ⟨hr₁, hk₁, hg⟩, heq⟩ := ends_classify (n := n) h hrow (by simp [hm])
      simp only [hm] at heq
      rw [scanRow_cons, bind_apply, heq]
      obtain ⟨s₂, ⟨hr₂, hk₂⟩, heq₂⟩ := ends_fillCell (n := n) hr₁ hrow (.field name) record
      have hspans : s₂.Spans (left.length + 1) (top.length + 1) :=
        (hk₂ _).spans le_rfl (by rw [Sheet.Spans, hg]; rfl)
      simp only
      rw [bind_apply, heq₂]
      simp only [Line.scan, hm]
      rcases hf : c.filled (.field name) record with ⟨c', _ | e⟩
      · rw [hf] at hr₂
        exact hnext c' s₂ hr₂ (fun k => (hk₁ k).trans (hk₂ k)) hspans
      · rw [hf] at hr₂
        exact ⟨s₂, ⟨hr₂, (hk₁ 0).trans (hk₂ 0)⟩, rfl⟩
    | each name columns =>
      simp only [Line.scan, hm]
      exact afterRow_of_each h hrow htop hm right.length

/-! ## The scan -/

theorem fill_apply (run : Run) : fill record run =
    match scan record (run.sheet.maxRow + 1) 1 run with
    | .ok _ run => .ok () run
    | .error e run => .error e run := by
  show (scan record (run.sheet.maxRow + 1) 1 >>= fun _ => pure ()) run = _
  rw [bind_apply]
  cases scan record (run.sheet.maxRow + 1) 1 run <;> rfl

theorem scan_succ (fuel row : Nat) : scan record (fuel + 1) row (n.on s) =
    if s.maxRow < row then .ok true (n.on s)
    else (scanRow record row s.columns >>= scan record fuel) (n.on s) := by
  show (if s.maxRow < row then pure true else scanRow record row s.columns >>= scan record fuel)
    (n.on s) = _
  split_ifs <;> rfl

theorem scan_past (fuel : Nat) {row : Nat} (hrow : s.maxRow < row) :
    scan record fuel row (n.on s) = .ok true (n.on s) := by
  cases fuel with
  | zero =>
    show EStateM.Result.ok (decide (s.maxRow < row)) (n.on s) = _
    rw [decide_eq_true hrow]
  | succ fuel => rw [scan_succ, if_pos hrow]

/-- A sheet that has lost its lines may still have its first row scanned, which is blank. -/
theorem ends_scanRow_past (record : Record) (h : s.Reads w top) {row : Nat}
    (hrow : top.length < row) (hpast : ¬ s.maxRow < row) :
    Ends (scanRow record row s.columns (n.on s)) none 2 n fun s' =>
      s'.Reads w top ∧ s.Keeps 0 s' ∧ s'.maxRow < 2 := by
  have hnil : top = [] := by
    by_contra htop
    exact hpast (h.maxRow_eq_length htop ▸ hrow)
  subst hnil
  have hle := h.maxRow_le_one
  obtain rfl : row = 1 := by
    rw [List.length_nil] at hrow
    omega
  have hlines := h.lines_eq_blank (by omega)
  have hblank : s.Reads s.maxCol ([] ++ ([] ++ Line.blank s.cleared.maxCol) :: []) := by
    simpa [hlines] using s.reads_self
  have hne : Line.blank s.cleared.maxCol ≠ [] := by
    have hone := s.cleared.one_le_maxCol
    rw [Line.blank, ne_eq, List.replicate_eq_nil_iff]
    omega
  have hscan := ends_scanRow (n := n) record (by simp [lastRow]) _ _ s hblank
    (.inl rfl) (fun hf => absurd hf hne)
  rw [Line.scan_blank] at hscan
  rw [Sheet.columns_eq hblank]
  refine Ends.mono hscan ?_
  rintro s₁ ⟨hr₁, hk₁, -⟩
  have hlines₁ : s₁.lines = [Line.blank s.cleared.maxCol] := hr₁.lines_eq (by simp)
  refine ⟨⟨?_, fun hf => absurd rfl hf⟩, hk₁, ?_⟩
  · rw [if_pos rfl, Sheet.cleared_lines_congr hk₁.above, hlines₁, ← hlines, h.lines, if_pos rfl]
  · rw [← s₁.length_lines, hlines₁]
    simp

theorem ends_scan_past (record : Record) (h : s.Reads w top) {row : Nat} (hrow : top.length < row)
    (fuel : Nat) :
    Ends (scan record (fuel + 1) row (n.on s)) none true n fun s' =>
      s'.Reads w top ∧ s.Keeps 0 s' := by
  by_cases hpast : s.maxRow < row
  · exact ⟨s, ⟨h, .refl 0 s⟩, scan_past _ hpast⟩
  · rw [scan_succ, if_neg hpast]
    refine (ends_scanRow_past record h hrow hpast).bind ?_
    rintro s₁ ⟨hr₁, hk₁, hmax⟩
    exact ⟨s₁, ⟨hr₁, hk₁⟩, scan_past _ hmax⟩

theorem scanRow_past (hlast : lastRow < top.length + 1) :
    scanRow record (top.length + 1) s.columns (n.on s) =
      .error (.sheet (.noSuchRow (top.length + 1 : Nat))) (n.on s) := by
  obtain ⟨k, hk⟩ := Nat.exists_eq_add_of_le' s.one_le_maxCol
  have hcell : onSheet (Sheet.classify 1 (top.length + 1)) (n.on s) =
      .error (.sheet (.noSuchRow (top.length + 1 : Nat))) (n.on s) := by
    apply onSheet_error
    simp only [Sheet.classify, bind, EStateM.bind, Sheet.cell_of_lastRow_lt s 0 hlast]
  rw [Sheet.columns, hk, scanRow_cons, bind_apply, hcell]

/-- What scanning one row leads to, where filling the lines from there on gives `d`: it stops, or
the rows down to some line are finished and the scan goes on with the row `next`. -/
inductive ScanStep (record : Record) (w : Nat) (top ls : List Line) (s : Sheet)
    (r : EStateM.Result Failure Run Nat) : Drawn (List Line) → Prop
  | stops {d e} (hd : d.failure? = some e)
      (h : Ends r (some e) 0 d.notes fun s' => s'.Reads w (top ++ d.content) ∧ s.Keeps 0 s') :
      ScanStep record w top ls s r d
  | goesOn {out rest n' next} (hrest : rest.length < ls.length)
      (hnext : (top ++ out).length < next)
      (h : Ends r none next n' fun s' => s'.Reads w ((top ++ out) ++ rest) ∧ s.Keeps 0 s' ∧
        (rest ≠ [] → next = (top ++ out).length + 1 ∧
          (top ++ out = [] ∨ s'.Spans w (top ++ out).length))) :
      ScanStep record w top ls s r
        ⟨out ++ (Lines.fill record next rest n').content, (Lines.fill record next rest n').notes,
          (Lines.fill record next rest n').failure?⟩

/-- After a block the scan goes on below its template row. -/
theorem scanStep_of_block {line line' : Line} {r : EStateM.Result Failure Run Nat}
    {b : Drawn (List Line)} {next : Nat} (hrow : top.length + 1 ≤ lastRow)
    (hs : Line.scan record line = .block line' name)
    (hb : Lines.block record (top.length + 1) line' name below n = b)
    (hnext : b.failure? = none → NextRow top below b next)
    (h : Ends r b.failure? next b.notes (AfterBlock w top below b s)) :
    ScanStep record w top (line :: below) s r
      (Lines.fill record (top.length + 1) (line :: below) n) := by
  obtain ⟨s₁, hs₁, heq⟩ := h
  have hr₁ := hs₁.reads
  cases hf : b.failure? with
  | some e =>
    rw [hf] at heq
    rw [Lines.fill_block_stopped hrow hs hb hf]
    rw [if_neg (by simp [hf]), List.append_assoc] at hr₁
    exact .stops rfl ⟨s₁, ⟨hr₁, hs₁.keeps⟩, heq⟩
  | none =>
    rw [hf] at heq
    rw [if_pos hf] at hr₁
    have hnext := hnext hf
    have hlt : (top ++ b.content).length < next := by
      rw [List.length_append]
      exact hnext.le
    -- only where nothing is left to be scanned the next row may be another one
    have hsame : Lines.fill record next (below.drop 1) b.notes =
        Lines.fill record (top.length + 1 + b.content.length) (below.drop 1) b.notes := by
      cases below with
      | nil => rfl
      | cons template below =>
        rw [hnext.eq (by simp), Nat.add_right_comm]
    rw [Lines.fill_block hrow hs hb hf hsame.symm]
    refine .goesOn (by rw [List.length_drop, List.length_cons]; omega) hlt
      ⟨s₁, ⟨hr₁, hs₁.keeps, ?_⟩, heq⟩
    intro hne
    have hbelow : below ≠ [] := by
      rintro rfl
      exact hne rfl
    exact ⟨by rw [hnext.eq hbelow, List.length_append], hs₁.spans hf hbelow⟩

/-- One row of the scan, below finished lines of which the last one reaches the last column. -/
theorem scanStep_scanRow (record : Record) {line : Line} (h : s.Reads w (top ++ line :: below))
    (htop : top = [] ∨ s.Spans w top.length) :
    ScanStep record w top (line :: below) s (scanRow record (top.length + 1) s.columns (n.on s))
      (Lines.fill record (top.length + 1) (line :: below) n) := by
  by_cases hlast : lastRow < top.length + 1
  · rw [Lines.fill_past hlast]
    exact .stops rfl ⟨s, ⟨h, .refl 0 s⟩, scanRow_past hlast⟩
  · have hrow : top.length + 1 ≤ lastRow := Nat.le_of_not_lt hlast
    have hscan := ends_scanRow (n := n) record hrow line [] s h htop (by
      rintro rfl
      have hone := s.one_le_maxCol
      rw [← Sheet.length_line (h.lines_eq (by simp))] at hone
      simp at hone)
    rw [Sheet.columns_eq h]
    simp only [List.length_nil, Nat.zero_add] at hscan
    cases hs : Line.scan record line with
    | stopped line' e =>
      rw [hs] at hscan
      rw [Lines.fill_stopped hrow hs]
      exact .stops rfl hscan
    | plain line' =>
      rw [hs] at hscan
      obtain ⟨s₁, ⟨hr₁, hk₁, hspans⟩, heq⟩ := hscan
      have hlen : (top ++ [line']).length = top.length + 1 := by simp
      have hr₁' : s₁.Reads w ((top ++ [line']) ++ below) := by simpa using hr₁
      have hnext : top.length + 2 = (top ++ [line']).length + 1 ∧
          (top ++ [line'] = [] ∨ s₁.Spans w (top ++ [line']).length) := by
        rw [hlen]
        exact ⟨rfl, .inr hspans⟩
      rw [Lines.fill_plain hrow hs]
      exact ScanStep.goesOn (by simp) (by rw [hlen]; omega) ⟨s₁, ⟨hr₁', hk₁, fun _ => hnext⟩, heq⟩
    | block line' name =>
      rw [hs] at hscan
      obtain ⟨next, hnext, hends⟩ := hscan
      exact scanStep_of_block hrow hs rfl hnext hends

/-- Filling a sheet, of which the lines `top` are finished, fills the rest of its lines. -/
theorem ends_scan (record : Record) (fuel : Nat) : ∀ (row : Nat) (top rest : List Line) (n : Notes)
    (s : Sheet), s.Reads w (top ++ rest) →
    (rest ≠ [] → row = top.length + 1 ∧ (top = [] ∨ s.Spans w top.length)) →
    top.length < row → rest.length < fuel →
    Ends (scan record fuel row (n.on s)) (Lines.fill record row rest n).failure? true
      (Lines.fill record row rest n).notes fun s' =>
        s'.Reads w (top ++ (Lines.fill record row rest n).content) ∧ s.Keeps 0 s' := by
  induction fuel with
  | zero =>
    intro row top rest n s _ _ _ hfuel
    omega
  | succ fuel ih =>
    intro row top rest n s h hnext hrow hfuel
    cases rest with
    | nil =>
      rw [List.append_nil] at h
      simpa [Lines.fill] using ends_scan_past (n := n) record h hrow fuel
    | cons line below =>
      obtain ⟨rfl, htop⟩ := hnext (by simp)
      have hmax : ¬ s.maxRow < top.length + 1 := by
        rw [h.maxRow_eq_length (by simp)]
        simp
      have hstep := scanStep_scanRow (n := n) record h htop
      rw [scan_succ, if_neg hmax]
      generalize Lines.fill record (top.length + 1) (line :: below) n = d at hstep
      cases hstep with
      | stops hd hends =>
        rw [hd]
        exact hends.bind_error
      | @goesOn out rest n' next hrest hlt hends =>
        refine hends.bind ?_
        rintro s₁ ⟨hr₁, hk₁, hnext⟩
        refine (ih next (top ++ out) rest n' s₁ hr₁ hnext hlt (by omega)).mono ?_
        rintro s₂ ⟨hr₂, hk₂⟩
        exact ⟨by rwa [← List.append_assoc], hk₁.trans hk₂⟩

end Rows

end Expansion

/-- Filling a sheet is filling its lines: it ends with the same failure if there is one, and in any
case the sheet reads as the lines do then. -/
theorem Run.fill_eq (run : Run) (record : Record) :
    ∃ s, run.fill record =
        ⟨(Lines.fill record 1 run.sheet.lines run.notes).notes.on s,
          (Lines.fill record 1 run.sheet.lines run.notes).failure?⟩ ∧
      s.Reads run.sheet.maxCol (Lines.fill record 1 run.sheet.lines run.notes).content ∧
      run.sheet.Keeps 0 s := by
  obtain ⟨s, ⟨hr, hk⟩, heq⟩ := Expansion.ends_scan record (run.sheet.maxRow + 1) 1 []
    run.sheet.lines run.notes run.sheet run.sheet.reads_self (fun _ => ⟨rfl, .inl rfl⟩) (by simp)
    (by simp)
  refine ⟨s, ?_, hr, hk⟩
  rw [run.on_notes] at heq
  rw [Run.fill, Expansion.fill_apply, heq]
  cases (Lines.fill record 1 run.sheet.lines run.notes).failure? <;> rfl

end SheetFill
