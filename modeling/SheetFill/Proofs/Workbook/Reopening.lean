import SheetFill.Proofs.Workbook.KeptNumbers
import SheetFill.Proofs.Workbook.Steps
import SheetFill.Proofs.Expansion.Origins

/-!
# What is read back

A sheet that was saved and opened again has the values that saving keeps of its cells, but nothing
at the positions that its merged ranges cover.
-/
namespace SheetFill

namespace SavedValue

variable {c : Cell} {format : String} {v : SavedValue}

theorem read_ofText (kind : CellKind) (s : Text) :
    ((ofText kind s).read format).1 = if s.isEmpty then .null else .text s.unified := by
  unfold ofText
  split_ifs
  · rfl
  · cases kind <;> rfl

theorem read_of_ofCell (h : ofCell c = .ok v) : (v.read c.style.numberFormat).1 = c.kept := by
  rcases ofCell_cases h with ⟨x, hx, rfl⟩ | ⟨s, hs, rfl⟩ | ⟨b, hb, rfl⟩ | ⟨hnone, hs, hb, rfl⟩
  · rw [read_ofReal, Cell.kept_of_stored hx]
  · rw [read_ofText, Cell.kept, hs]
  · rw [Cell.kept, hb]
    rfl
  · cases hv : c.value with
    | bool b => exact absurd hv (hb b)
    | text s => exact absurd hv (hs s)
    | _ =>
      rw [hv] at hnone
      simp only [Cell.kept, hv, hnone]
      rfl

end SavedValue

theorem Cell.value_of_saved? {c : Cell} {o : Option SavedCell} (h : c.saved? = .ok o) :
    ((o.map SavedCell.opened).getD Cell.blank).value = c.kept := by
  by_cases hnull : c.value = .null
  · have hkept := kept_of_null hnull
    simp only [saved?, hnull] at h
    split_ifs at h <;> cases h <;> rw [hkept] <;> rfl
  · rw [saved?_of_ne_null hnull] at h
    cases hv : SavedValue.ofCell c with
    | error e =>
      rw [hv] at h
      cases h
    | ok v =>
      rw [hv] at h
      cases h
      exact SavedValue.read_of_ofCell hv

theorem getD_of_forall₂ {α β : Type} {R : α → β → Prop} {xs : List α} {ys : List β} {x : α}
    {y : β} (h : List.Forall₂ R xs ys) (hd : R x y) (i : Nat) : R (xs.getD i x) (ys.getD i y) := by
  induction h generalizing i with
  | nil => simpa using hd
  | cons hxy h ih =>
    cases i with
    | zero => simpa using hxy
    | succ i => simpa using ih i

theorem Row.value_of_saved {r : Row} {r' : List (Option SavedCell)} (h : r.saved = .ok r')
    (i : Nat) : (((r'.getD i none).map SavedCell.opened).getD Cell.blank).value =
      ((r.getD i none).getD Cell.blank).kept := by
  have hcell := getD_of_forall₂ (x := none) (y := none) (forall₂_of_mapM h) rfl i
  cases hc : r.getD i none with
  | none =>
    rw [hc] at hcell
    rw [← Except.ok.inj hcell]
    rfl
  | some c =>
    rw [hc] at hcell
    exact Cell.value_of_saved? hcell

/-- The value at a position as saving keeps it. -/
def Sheet.keptAt (s : Sheet) (col row : Nat) : Value := ((s.get? col row).getD Cell.blank).kept

def Sheet.formatAt (s : Sheet) (col row : Nat) : String :=
  ((s.get? col row).getD Cell.blank).style.numberFormat

theorem Sheet.keptAt_eq_null {s : Sheet} {col row : Nat} (h : s.valueAt col row = .null) :
    s.keptAt col row = .null := Cell.kept_of_null h

structure Sheet.Reopened (s reopened : Sheet) : Prop where
  title : reopened.title = s.title
  merged : reopened.merged = s.merged
  valueAt : ∀ col row, reopened.valueAt col row =
    if s.Covered col row then .null else s.keptAt col row

/-- A saved sheet as it is opened before its merged ranges are covered. -/
def SavedSheet.uncovered (s : SavedSheet) : Sheet where
  title := s.title
  rows := s.rows.map (·.map (·.map SavedCell.opened))
  merged := s.merged

theorem SavedSheet.opened_merged (s : SavedSheet) : s.opened.merged = s.merged :=
  Sheet.foldl_keeps (Sheet.keeps_cover Sheet.merged_put) s.merged s.uncovered

theorem SavedSheet.valueAt_opened (s : SavedSheet) (col row : Nat) :
    s.opened.valueAt col row =
      if ∃ r ∈ s.merged, (col, row) ∈ r.others then .null else s.uncovered.valueAt col row :=
  Sheet.valueAt_foldl_cover s.merged s.uncovered

namespace Sheet

variable {s : Sheet} {saved : SavedSheet}

theorem valueAt_uncovered (h : s.saved = .ok saved) (col row : Nat) :
    saved.uncovered.valueAt col row = s.keptAt col row := by
  obtain ⟨-, hrows, -⟩ := saved_eq_ok h
  cases col with
  | zero => rfl
  | succ i =>
    cases row with
    | zero => rfl
    | succ j =>
      have hrow := getD_of_forall₂ (x := []) (y := []) (forall₂_of_mapM hrows) rfl j
      have hline : saved.uncovered.rows.getD j [] =
          (saved.rows.getD j []).map (·.map SavedCell.opened) :=
        List.getD_map saved.rows [] (List.map (Option.map SavedCell.opened))
      have hcell : ((saved.rows.getD j []).map (·.map SavedCell.opened)).getD i none =
          ((saved.rows.getD j []).getD i none).map SavedCell.opened :=
        List.getD_map (saved.rows.getD j []) none (Option.map SavedCell.opened)
      rw [keptAt, get?_succ, ← Row.value_of_saved hrow, valueAt, get?_succ, hline, hcell]

theorem reopened_of_saved (h : s.saved = .ok saved) : s.Reopened saved.opened := by
  obtain ⟨htitle, -, hmerged⟩ := saved_eq_ok h
  refine ⟨(foldl_keeps (keeps_cover title_put) _ _).trans htitle,
    saved.opened_merged.trans hmerged, fun col row => ?_⟩
  rw [saved.valueAt_opened, valueAt_uncovered h, hmerged]
  rfl

end Sheet

/-- A sheet was filled a number of times, whatever was left of the streams each time. A row of the
outcome was drawn from the row `origin? row` of the sheet as it was at first, or from none. -/
inductive Sheet.FilledTimes (model : Record) : Nat → Sheet → (Nat → Option Nat) → Sheet → Prop
  | zero {s} : FilledTimes model 0 s some s
  | succ {k s streams origin? s'}
      (h : (Run.fill ⟨s, streams, [], none⟩ model).failure? = none)
      (hrest : FilledTimes model k (Run.fill ⟨s, streams, [], none⟩ model).run.sheet origin? s') :
      FilledTimes model (k + 1) s
        (fun row => (origin? row).bind (Run.origin? ⟨s, streams, [], none⟩ model)) s'

namespace Sheet.FilledTimes

variable {model : Record} {k : Nat} {s s' : Sheet} {origin? : Nat → Option Nat}

theorem title_eq (h : FilledTimes model k s origin? s') : s'.title = s.title := by
  induction h with
  | zero => rfl
  | succ h hrest ih => exact ih.trans (Run.keeps_fill _ _).title

theorem merged_eq (h : FilledTimes model k s origin? s') : s'.merged = s.merged := by
  induction h with
  | zero => rfl
  | succ h hrest ih => exact ih.trans (Run.keeps_fill _ _).merged

/-- Where a row was drawn from one that is empty in a column it is empty there as well. -/
theorem valueAt_eq_null (h : FilledTimes model k s origin? s') {col row : Nat}
    (hnull : ∀ o, origin? row = some o → s.valueAt col o = .null) :
    s'.valueAt col row = .null := by
  induction h with
  | zero => exact hnull row rfl
  | succ h hrest ih =>
    -- a row is traced back through the later fillings first, and from there through this one
    apply ih
    intro o ho
    apply Run.valueAt_fill_null _ _ h
    intro o' ho'
    exact hnull o' (Option.bind_eq_some_iff.mpr ⟨o, ho, ho'⟩)

end Sheet.FilledTimes

theorem forall₂_comp {α : Type} {R S T : α → α → Prop} {xs ys zs : List α}
    (hxy : List.Forall₂ R xs ys) (hyz : List.Forall₂ S ys zs)
    (h : ∀ x y z, R x y → S y z → T x z) : List.Forall₂ T xs zs := by
  induction hxy generalizing zs with
  | nil =>
    cases hyz
    exact .nil
  | cons hr hrs ih =>
    cases hyz with
    | cons hs hss => exact .cons (h _ _ _ hr hs) (ih hss)

namespace Rendering

variable {model : Record} {s s' : State}

theorem forall₂_replaceSheet {title : String} (sheet : Sheet) (w : Workbook) :
    List.Forall₂ (fun t t' => (t' = t ∧ ((w.map Sheet.title).Nodup → t.title ≠ title)) ∨
        (w.find? (·.title == title) = some t ∧ t' = sheet))
      w (replaceSheet title sheet w) := by
  induction w with
  | nil => exact .nil
  | cons t rest ih =>
    rw [replaceSheet]
    split_ifs with ht
    · -- the sheets behind it stay, and one of the same title would be passed over
      refine .cons (.inr ⟨List.find?_cons_of_pos ht, rfl⟩) (List.forall₂_same.mpr fun t' ht' => ?_)
      refine .inl ⟨rfl, fun hd htitle => ?_⟩
      have hfresh := (List.nodup_cons.mp hd).1
      rw [beq_iff_eq.mp ht, ← htitle] at hfresh
      exact hfresh (List.mem_map_of_mem ht')
    · refine .cons (.inl ⟨rfl, fun _ => by simpa using ht⟩) (ih.imp fun t' t'' h => ?_)
      rcases h with ⟨rfl, hother⟩ | ⟨hfirst, rfl⟩
      · exact .inl ⟨rfl, fun hd => hother (List.nodup_cons.mp hd).2⟩
      · refine .inr ⟨?_, rfl⟩
        rwa [List.find?_cons_of_neg (by exact ht)]

/-- Filling the sheet of a title changes one sheet at most, which is of that title. -/
theorem forall₂_fillSheet {title : String} (h : fillSheet model title s = .ok () s') :
    List.Forall₂ (fun t t' =>
        (t' = t ∧ ((s.workbook.map Sheet.title).Nodup → t.title ≠ title)) ∨
        (t.title = title ∧
          ∃ streams, (Run.fill ⟨t, streams, [], none⟩ model).failure? = none ∧
            t' = (Run.fill ⟨t, streams, [], none⟩ model).run.sheet))
      s.workbook s'.workbook := by
  rw [fillSheet_apply] at h
  cases hfind : s.workbook.find? (·.title == title) with
  | none =>
    rw [hfind] at h
    cases h
    refine List.forall₂_same.mpr fun t ht => .inl ⟨rfl, fun _ => ?_⟩
    simpa using List.find?_eq_none.mp hfind t ht
  | some sheet =>
    simp only [hfind] at h
    cases hfill : (Run.fill ⟨sheet, s.streams, [], none⟩ model).failure? with
    | some e =>
      rw [hfill] at h
      cases h
    | none =>
      rw [hfill] at h
      cases h
      refine (forall₂_replaceSheet _ _).imp fun t t' h => h.imp_right ?_
      rintro ⟨ht, rfl⟩
      obtain rfl : sheet = t := Option.some.inj (hfind.symm.trans ht)
      exact ⟨by simpa using List.find?_some hfind, s.streams, hfill, rfl⟩

theorem titles_of_fillSheet {title : String} (h : fillSheet model title s = .ok () s') :
    s'.workbook.map Sheet.title = s.workbook.map Sheet.title := by
  have htitles : List.Forall₂ (· = ·) (s.workbook.map Sheet.title)
      (s'.workbook.map Sheet.title) := by
    rw [List.forall₂_map_left_iff, List.forall₂_map_right_iff]
    refine (forall₂_fillSheet h).imp ?_
    rintro t t' (⟨rfl, -⟩ | ⟨-, streams, -, rfl⟩)
    · rfl
    · exact (Run.keeps_fill ⟨t, streams, [], none⟩ model).title.symm
  rw [List.forall₂_eq_eq_eq] at htitles
  exact htitles.symm

/-- Filling some sheets fills each sheet as often as it is named, or less where a sheet before it is
of the same title. -/
theorem filledTimes_of_fillSheets {titles : List String}
    (h : fillSheets model titles s = .ok () s') :
    List.Forall₂ (fun t t' => ∃ k ≤ titles.count t.title,
        ((s.workbook.map Sheet.title).Nodup → k = titles.count t.title) ∧
        ∃ origin?, t.FilledTimes model k origin? t')
      s.workbook s'.workbook := by
  induction titles generalizing s with
  | nil =>
    cases h
    exact List.forall₂_same.mpr fun t _ => ⟨0, le_rfl, fun _ => rfl, some, .zero⟩
  | cons title rest ih =>
    obtain ⟨_, s₁, hfirst, hrest⟩ := bind_eq_ok.mp h
    have htail := ih hrest
    rw [titles_of_fillSheet hfirst] at htail
    refine forall₂_comp (forall₂_fillSheet hfirst) htail ?_
    rintro t t₁ t' (⟨rfl, hother⟩ | ⟨ht, streams, hfill, rfl⟩) ⟨k, hk, hcount, origin?, hfilled⟩
    · refine ⟨k, hk.trans (List.count_le_count_cons ..), fun hd => ?_, origin?, hfilled⟩
      rw [List.count_cons_of_ne (hother hd).symm]
      exact hcount hd
    · rw [(Run.keeps_fill _ _).title] at hk hcount
      refine ⟨k + 1, ?_, fun hd => ?_, _, .succ hfill hfilled⟩
      · rw [← ht, List.count_cons_self]
        exact Nat.succ_le_succ hk
      · rw [hcount hd, ← ht, List.count_cons_self]

theorem opened_eq_ok {saved : SavedWorkbook} {w : Workbook}
    (h : SavedWorkbook.opened saved = .ok w) : w = saved.map SavedSheet.opened := by
  unfold SavedWorkbook.opened at h
  split at h
  · exact (Except.ok.inj h).symm
  · cases h

theorem openWorkbook_eq_ok {files : Files} {template : String} {w : Workbook}
    (h : openWorkbook files template = .ok w) :
    ∃ saved, files.read template = .ok (.workbook saved) ∧ SavedWorkbook.opened saved = .ok w := by
  unfold openWorkbook at h
  simp only at h
  split_ifs at h
  cases hread : files.read template with
  | error e => simp [hread] at h
  | ok content =>
    cases content with
    | plain octets => simp [hread] at h
    | unfinished sheets => simp [hread] at h
    | workbook saved =>
      refine ⟨saved, rfl, ?_⟩
      simp only [hread] at h
      cases hopened : SavedWorkbook.opened saved with
      | error p => simp [hopened] at h
      | ok w' =>
        simp only [hopened] at h
        rw [Except.ok.inj h]

/-- An opened workbook holds nothing at the positions that are covered. -/
theorem valueAt_of_openWorkbook {files : Files} {template : String} {w : Workbook}
    (h : openWorkbook files template = .ok w) {t : Sheet} (ht : t ∈ w) {col row : Nat}
    (hc : t.Covered col row) : t.valueAt col row = .null := by
  obtain ⟨saved, -, hopened⟩ := openWorkbook_eq_ok h
  obtain rfl := opened_eq_ok hopened
  obtain ⟨sheet, -, rfl⟩ := List.mem_map.mp ht
  rw [Sheet.Covered, sheet.opened_merged] at hc
  rw [sheet.valueAt_opened, if_pos hc]

/-- What became of a sheet `t` of a template `w`: `s` is what filling left of it, `r` is what is
read from the file. Numbers and dates survive where no range covers them. What stood at a covered
position is lost, but nothing stood there if the row was drawn from one in which the column was
covered. -/
structure Reread (model : Record) (titles : List String) (w : Workbook) (t s r : Sheet) : Prop where
  title : r.title = t.title
  merged : r.merged = t.merged
  valueAt : ∀ col row, r.valueAt col row = if t.Covered col row then .null else s.keptAt col row
  survives : ∀ col row, ¬ t.Covered col row →
    (s.valueAt col row).Survives (s.formatAt col row) (r.valueAt col row)
  filled : ∃ k ≤ titles.count t.title,
    ((w.map Sheet.title).Nodup → k = titles.count t.title) ∧
    ∃ origin?, t.FilledTimes model k origin? s ∧
      ∀ col row, (∀ o, origin? row = some o → t.Covered col o) →
        r.valueAt col row = s.keptAt col row

theorem forall₂_getElem? {α β : Type} {R : α → β → Prop} {xs : List α} {ys : List β}
    (h : List.Forall₂ R xs ys) {i : Nat} {x : α} {y : β} (hx : xs[i]? = some x)
    (hy : ys[i]? = some y) : R x y := by
  obtain ⟨hi, rfl⟩ := List.getElem?_eq_some_iff.mp hx
  obtain ⟨hi', rfl⟩ := List.getElem?_eq_some_iff.mp hy
  exact h.get hi hi'

theorem saved_of_render {template path : String} {target : Target} {names : Value}
    (h : render template model target names s = .ok path s') :
    ∃ saved, Workbook.saved s'.workbook = .ok saved ∧
      s'.files.read path = .ok (.workbook saved) := by
  obtain ⟨w, selection, s₁, s₂, s₃, s₄, s₅, -, -, -, -, -, -, hsave, rfl⟩ := render_eq_ok.mp h
  obtain ⟨saved, hsaved, hw, hread⟩ := read_of_save hsave
  exact ⟨saved, hw.symm ▸ hsaved, hread⟩

/-- A rendered workbook can be read if the texts in its cells are legible, and only then. Reading it
gives the values that saving keeps of those in memory, except at the positions that the template
lists as covered. -/
theorem reread_render {template path : String} {target : Target} {names : Value} {files : Files}
    {streams : Streams} {st : State}
    (h : render template model target names ⟨files, streams, [], []⟩ = .ok path st) :
    ∃ w selection s₁ saved, openWorkbook files template = .ok w ∧
      select (w.map (·.title)) names ⟨files, streams, w, []⟩ = .ok selection s₁ ∧
      st.files.read path = .ok (.workbook saved) ∧ st.workbook.length = w.length ∧
      (Workbook.Legible st.workbook → ∃ reopened, SavedWorkbook.opened saved = .ok reopened ∧
        reopened.length = w.length ∧
        ∀ (i : Nat) (t s r : Sheet), w[i]? = some t → st.workbook[i]? = some s →
          reopened[i]? = some r → Reread model selection.titles w t s r) ∧
      (¬ Workbook.Legible st.workbook → ∃ p, SavedWorkbook.opened saved = .error p) := by
  obtain ⟨w, selection, s₁, s₂, s₃, s₄, s₅, hopen, hselect, hmissing, -, hdir, hfill, hsave, rfl⟩ :=
    render_eq_ok.mp h
  obtain ⟨saved, hsaved, hw₅, hread⟩ := read_of_save hsave
  have hw₃ : s₃.workbook = w := by
    obtain ⟨log, rfl⟩ := reportMissing_eq_ok hmissing
    obtain ⟨made, -, rfl⟩ := makeDirectoryOf_eq_ok.mp hdir
    exact workbook_of_select hselect
  have hfilled := filledTimes_of_fillSheets hfill
  rw [hw₃, ← hw₅] at hfilled
  rw [← hw₅] at hsaved
  have hreopened := forall₂_of_mapM hsaved
  refine ⟨w, selection, s₁, saved, hopen, hselect, hread, hfilled.length_eq.symm, fun hlegible =>
    ⟨_, Workbook.opened_of_saved hsaved hlegible, ?_, fun i t s r ht hs hr => ?_⟩,
    Workbook.opened_of_not_legible hsaved⟩
  · rw [List.length_map, ← hreopened.length_eq, hfilled.length_eq]
  rw [List.getElem?_map] at hr
  obtain ⟨sheet, hsheet, rfl⟩ := Option.map_eq_some_iff.mp hr
  obtain ⟨k, hk, hcount, origin?, hfilled⟩ := forall₂_getElem? hfilled ht hs
  have hreopened := Sheet.reopened_of_saved (forall₂_getElem? hreopened hs hsheet)
  -- filling leaves the list of merged ranges alone, whatever rows come and go
  have hcovered (col row : Nat) : s.Covered col row ↔ t.Covered col row := by
    rw [Sheet.Covered, hfilled.merged_eq]
    rfl
  refine ⟨hreopened.title.trans hfilled.title_eq, hreopened.merged.trans hfilled.merged_eq,
    fun col row => ?_, fun col row hnot => ?_, k, hk, hcount, origin?, hfilled,
    fun col row horigin => ?_⟩
  · simp only [hreopened.valueAt, hcovered]
  · rw [hreopened.valueAt, if_neg (mt (hcovered col row).mp hnot)]
    exact Cell.survives _
  · have hnull : s.valueAt col row = .null :=
      hfilled.valueAt_eq_null fun o ho =>
        valueAt_of_openWorkbook hopen (List.mem_of_getElem? ht) (horigin o ho)
    rw [hreopened.valueAt, Sheet.keptAt_eq_null hnull, ite_self]

def priceList : Files :=
  ⟨[(["t.xlsx"], .file (.workbook
    [⟨"Prices", [[some ⟨.text "$Each{items}", .plain⟩],
        [some ⟨.text "$F{name}", .plain⟩, some ⟨.text "$F{price}", .plain⟩],
        [some ⟨.text "note", .plain⟩]], [⟨1, 3, 2, 3⟩]⟩]))]⟩

def prices : Record :=
  .mapping [(.text "items", .list ([("pen", "1.50"), ("cup", "3.00"), ("ink", "2.20")].map
    fun (name, price) => .map [(.text "name", .text name), (.text "price", .text price)]))]

def pricesSaved : SavedSheet :=
  ⟨"Prices", [[some ⟨.text "pen", .plain⟩, some ⟨.text "1.50", .plain⟩],
    [some ⟨.text "cup", .plain⟩, some ⟨.text "3.00", .plain⟩],
    [some ⟨.text "ink", .plain⟩, some ⟨.text "2.20", .plain⟩],
    [some ⟨.text "note", .plain⟩, none]], [⟨1, 3, 2, 3⟩]⟩

theorem render_prices : ∃ st s, render "t.xlsx" prices (.path "o.xlsx") .null
      ⟨priceList, [], [], []⟩ = .ok "o.xlsx" st ∧
    st.workbook = [s] ∧ s.saved = .ok pricesSaved ∧
    st.files.read "o.xlsx" = .ok (.workbook [pricesSaved]) := by
  obtain ⟨st, h, hfiles⟩ : ∃ st, render "t.xlsx" prices (.path "o.xlsx") .null
        ⟨priceList, [], [], []⟩ = .ok "o.xlsx" st ∧
      (run priceList [] "t.xlsx" prices (.path "o.xlsx") .null).files = st.files :=
    exists_of_run (by decide +kernel)
  have hread : st.files.read "o.xlsx" = .ok (.workbook [pricesSaved]) := by
    rw [← hfiles]
    decide +kernel
  obtain ⟨saved, hsaved, hread'⟩ := saved_of_render h
  cases hread.symm.trans hread'
  obtain ⟨s, _, hs, hnil, hw⟩ := List.forall₂_cons_right_iff.mp (forall₂_of_mapM hsaved)
  rw [List.forall₂_nil_right_iff.mp hnil] at hw
  exact ⟨st, s, h, hw, hs, hread⟩

theorem reread_render_prices : ∃ st s, render "t.xlsx" prices (.path "o.xlsx") .null
      ⟨priceList, [], [], []⟩ = .ok "o.xlsx" st ∧ st.workbook = [s] ∧
    ∀ col row, pricesSaved.opened.valueAt col row =
      if (col, row) = (2, 3) then .null else s.keptAt col row := by
  obtain ⟨st, s, h, hw, hs, hread⟩ := render_prices
  refine ⟨st, s, h, hw, fun col row => ?_⟩
  obtain ⟨w, selection, s₁, saved, hopen, -, hread', hlength, hreread, hillegible⟩ :=
    reread_render h
  cases hread.symm.trans hread'
  have hopened : SavedWorkbook.opened [pricesSaved] = .ok [pricesSaved.opened] := rfl
  have hlegible : Workbook.Legible st.workbook := by
    by_contra hnot
    obtain ⟨p, hp⟩ := hillegible hnot
    cases hopened.symm.trans hp
  obtain ⟨reopened, hopened', -, hreread⟩ := hreread hlegible
  cases hopened.symm.trans hopened'
  have hmerged : w.map Sheet.merged = [[⟨1, 3, 2, 3⟩]] := by
    have hw : (openWorkbook priceList "t.xlsx").toOption.map (·.map Sheet.merged) =
        some [[⟨1, 3, 2, 3⟩]] := by
      decide +kernel
    rw [hopen] at hw
    exact Option.some.inj hw
  obtain ⟨t, rfl, ht⟩ := List.map_eq_singleton_iff.mp hmerged
  have hothers : (⟨1, 3, 2, 3⟩ : Range).others = [(2, 3)] := by decide
  have hcovered : t.Covered col row ↔ (col, row) = (2, 3) := by
    simp [Sheet.Covered, ht, hothers]
  rw [(hreread 0 t s pricesSaved.opened rfl (by rw [hw]; rfl) rfl).valueAt col row]
  simp only [hcovered]

/-- A price that came to stand under the note is not read back. -/
theorem reread_under_note : ∃ st s, render "t.xlsx" prices (.path "o.xlsx") .null
      ⟨priceList, [], [], []⟩ = .ok "o.xlsx" st ∧ st.workbook = [s] ∧
    s.keptAt 2 3 = .text "2.20" ∧
    st.files.read "o.xlsx" = .ok (.workbook [pricesSaved]) ∧
    pricesSaved.opened.valueAt 2 3 = .null := by
  obtain ⟨st, s, h, hw, hs, hread⟩ := render_prices
  refine ⟨st, s, h, hw, ?_, hread, ?_⟩
  · rw [← Sheet.valueAt_uncovered hs]
    rfl
  · rw [SavedSheet.valueAt_opened, if_pos (by decide)]

end Rendering

end SheetFill
