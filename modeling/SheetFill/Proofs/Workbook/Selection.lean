import SheetFill.Proofs.Workbook.Steps
import SheetFill.Proofs.Expansion.Parts
import SheetFill.Proofs.Text.Strings

/-!
# Which sheets are filled, and how often

The names of a selection are gone through one by one, and a sheet is filled each time its title
comes up, at the second time from what the first one left. Without streams no filling depends on
another, so that only the number of times counts.
-/
namespace SheetFill

def Run.of (s : Sheet) : Run := ⟨s, [], [], none⟩

/-- The sheet filled from a record without streams, if that can be done. -/
def Sheet.filled? (model : Record) (s : Sheet) : Option Sheet :=
  match ((Run.of s).fill model).failure? with
  | none => some ((Run.of s).fill model).run.sheet
  | some _ => none

def Sheet.filledTimes? (model : Record) : Nat → Sheet → Option Sheet
  | 0, s => some s
  | k + 1, s => (s.filled? model).bind (filledTimes? model k)

namespace Workbook

def fillFirst? (model : Record) (title : String) : Workbook → Option Workbook
  | [] => some []
  | s :: rest =>
    if s.title = title then (s.filled? model).map (· :: rest)
    else (fillFirst? model title rest).map (s :: ·)

/-- The workbook with each sheet filled as many times as its title is among some names. Of several
sheets of one title only the first is meant. -/
def filledBy? (model : Record) : List String → Workbook → Option Workbook
  | _, [] => some []
  | names, s :: rest =>
    (s.filledTimes? model (names.count s.title)).bind fun s' =>
      (filledBy? model (names.filter (· ≠ s.title)) rest).map (s' :: ·)

end Workbook

theorem Lines.streams_of_passes {record : Record} {row : Nat} {n n' : Notes}
    {ls out rest : List Line} (h : Passes record row n ls out n' rest) (hn : n.streams = []) :
    n'.streams = [] := by
  induction h with
  | here => exact hn
  | plain hrow hs h ih => exact ih hn
  | kept hrow hs hf h ih => exact ih hn
  | @expanded row n line line' name source items below n₁ out n' rest hrow hs hi hb hd hlast h ih =>
    refine ih ?_
    rw [hd, hn]
    cases source <;> rfl

theorem Run.streams_fill (run : Run) (record : Record) (h : (run.fill record).failure? = none)
    (hs : run.streams = []) : (run.fill record).run.streams = [] := by
  obtain ⟨s, hfill, -, -⟩ := run.fill_eq record
  rw [hfill] at h ⊢
  rcases hd : Lines.fill record 1 run.sheet.lines run.notes with ⟨out, n', f?⟩
  rw [hd] at h
  obtain rfl : f? = none := h
  exact Lines.streams_of_passes (Lines.passes_of_fill hd) hs

theorem Sheet.title_of_filled? {model : Record} {s s' : Sheet} (h : s.filled? model = some s') :
    s'.title = s.title := by
  unfold filled? at h
  split at h
  · rw [← Option.some.inj h]
    exact (Run.keeps_fill _ _).title
  · simp at h

theorem Workbook.fillFirst?_eq (model : Record) (title : String) (w : Workbook) :
    w.fillFirst? model title =
      match w.find? (·.title == title) with
      | none => some w
      | some sheet =>
        (sheet.filled? model).map fun filled => Rendering.replaceSheet title filled w := by
  induction w with
  | nil => rfl
  | cons s rest ih =>
    by_cases hs : s.title = title
    · simp [fillFirst?, Rendering.replaceSheet, hs]
    · rw [List.find?_cons_of_neg (by simpa using hs)]
      simp only [fillFirst?, hs, if_false, ih]
      cases rest.find? (·.title == title) with
      | none => rfl
      | some sheet => simp [hs, Rendering.replaceSheet, Function.comp_def]

section Order

variable {model : Record} {w : Workbook} {names names' : List String}

theorem Workbook.foldlM_fillFirst?_cons (s : Sheet) (rest : Workbook) (names : List String) :
    names.foldlM (fun w title => fillFirst? model title w) (s :: rest) =
      (s.filledTimes? model (names.count s.title)).bind fun s' =>
        ((names.filter (· ≠ s.title)).foldlM (fun w title => fillFirst? model title w) rest).map
          (s' :: ·) := by
  induction names generalizing s rest with
  | nil => rfl
  | cons title names ih =>
    rw [List.foldlM_cons]
    by_cases ht : s.title = title
    · subst ht
      simp only [fillFirst?, if_true, List.count_cons_self, Sheet.filledTimes?]
      cases hs : s.filled? model with
      | none => rfl
      | some s₁ =>
        -- a filled sheet keeps its title, so that the names that are left mean it again
        have htitle := Sheet.title_of_filled? hs
        simpa [htitle] using ih s₁ rest
    · have hcount : (title :: names).count s.title = names.count s.title :=
        List.count_cons_of_ne (Ne.symm ht)
      simp only [fillFirst?, ht, if_false, hcount]
      rw [List.filter_cons_of_pos (by simpa using Ne.symm ht), List.foldlM_cons]
      cases fillFirst? model title rest with
      | none => cases s.filledTimes? model (names.count s.title) <;> rfl
      | some rest' => exact ih s rest'

/-- Filling one sheet after the other comes to filling each of them as often as it is named. -/
theorem Workbook.foldlM_fillFirst? (w : Workbook) (names : List String) :
    names.foldlM (fun w title => fillFirst? model title w) w = w.filledBy? model names := by
  induction w generalizing names with
  | nil =>
    induction names with
    | nil => rfl
    | cons title names ih => exact ih
  | cons s rest ih =>
    rw [foldlM_fillFirst?_cons, filledBy?]
    simp only [ih]

theorem Workbook.filledBy?_congr (h : ∀ s ∈ w, names'.count s.title = names.count s.title) :
    w.filledBy? model names' = w.filledBy? model names := by
  induction w generalizing names names' with
  | nil => rfl
  | cons s rest ih =>
    have hrest : filledBy? model (names'.filter (· ≠ s.title)) rest =
        filledBy? model (names.filter (· ≠ s.title)) rest := by
      apply ih
      intro t ht
      by_cases hts : t.title = s.title
      · rw [hts, List.count_eq_zero.mpr (by simp), List.count_eq_zero.mpr (by simp)]
      · rw [List.count_filter (by simpa using hts), List.count_filter (by simpa using hts)]
        exact h t (List.mem_cons_of_mem _ ht)
    rw [filledBy?, filledBy?, h s List.mem_cons_self, hrest]

theorem Sheet.filledTimes?_of_fixed {s : Sheet} (h : s.filled? model = some s) (k : Nat) :
    s.filledTimes? model k = some s := by
  induction k with
  | zero => rfl
  | succ k ih =>
    rw [filledTimes?, h]
    exact ih

theorem Sheet.filledTimes?_eq_once {s : Sheet} {k : Nat}
    (h : k ≤ 1 ∨ ∀ s', s.filled? model = some s' → s'.filled? model = some s') :
    s.filledTimes? model k = if 0 < k then s.filled? model else some s := by
  cases k with
  | zero => rfl
  | succ k =>
    rw [if_pos k.succ_pos, filledTimes?]
    cases hs : s.filled? model with
    | none => rfl
    | some s' =>
      rcases h with hk | hfixed
      · obtain rfl : k = 0 := by omega
        rfl
      · exact filledTimes?_of_fixed (hfixed s' hs) k

/-- Where titles differ and are named once at most, or filling a filled sheet again does nothing,
each named sheet is filled once. -/
theorem Workbook.filledBy?_eq_mapM (hd : (w.map Sheet.title).Nodup)
    (h : ∀ s ∈ w, names.count s.title ≤ 1 ∨
      ∀ s', s.filled? model = some s' → s'.filled? model = some s') :
    w.filledBy? model names =
      w.mapM fun s => if s.title ∈ names then s.filled? model else some s := by
  induction w with
  | nil => rfl
  | cons s rest ih =>
    obtain ⟨hs, hd⟩ := List.nodup_cons.mp hd
    have hrest : filledBy? model (names.filter (· ≠ s.title)) rest =
        filledBy? model names rest := by
      apply filledBy?_congr
      intro t ht
      have hts : t.title ≠ s.title := by
        intro hts
        exact hs (hts ▸ List.mem_map_of_mem ht)
      rw [List.count_filter (by simpa using hts)]
    rw [filledBy?, hrest, ih hd fun t ht => h t (List.mem_cons_of_mem _ ht), List.mapM_cons,
      Sheet.filledTimes?_eq_once (h s List.mem_cons_self)]
    simp only [List.count_pos_iff]
    rcases if s.title ∈ names then s.filled? model else some s with _ | s'
    · rfl
    · cases rest.mapM fun s => if s.title ∈ names then s.filled? model else some s <;> rfl

end Order

namespace Rendering

def Leaves (x : Step Unit) (s : State) : Option Workbook → Prop
  | some w => ∃ log, x s = .ok () { s with workbook := w, log }
  | none => ∃ e s', x s = .error e s'

variable {model : Record} {s s' : State}

theorem leaves_fillSheet (model : Record) (title : String) (hs : s.streams = []) :
    Leaves (fillSheet model title) s (s.workbook.fillFirst? model title) := by
  obtain ⟨files, streams, w, log⟩ := s
  obtain rfl : streams = [] := hs
  have happly := fillSheet_apply model title ⟨files, [], w, log⟩
  rw [Workbook.fillFirst?_eq]
  cases hfind : w.find? (·.title == title) with
  | none =>
    rw [hfind] at happly
    exact ⟨log, happly⟩
  | some sheet =>
    rw [hfind] at happly
    rcases hfill : (Run.of sheet).fill model with ⟨⟨filled, streams, edits, refusal⟩, _ | e⟩
    · have hstreams : streams = [] := by
        have hstreams := Run.streams_fill (.of sheet) model (by rw [hfill]) rfl
        rwa [hfill] at hstreams
      subst hstreams
      rw [Run.of] at hfill
      simp only [hfill] at happly
      simp only [Sheet.filled?, Run.of, hfill]
      exact ⟨_, happly⟩
    · rw [Run.of] at hfill
      simp only [hfill] at happly
      simp only [Sheet.filled?, Run.of, hfill]
      exact ⟨_, _, happly⟩

theorem leaves_fillSheets (model : Record) (titles : List String) (hs : s.streams = []) :
    Leaves (fillSheets model titles) s
      (titles.foldlM (fun w title => w.fillFirst? model title) s.workbook) := by
  induction titles generalizing s with
  | nil => exact ⟨s.log, rfl⟩
  | cons title rest ih =>
    have hstep := leaves_fillSheet model title hs
    rw [List.foldlM_cons]
    cases hw : s.workbook.fillFirst? model title with
    | none =>
      rw [hw] at hstep
      obtain ⟨e, s', hstep⟩ := hstep
      exact ⟨e, s', bind_of_error hstep _⟩
    | some w =>
      rw [hw] at hstep
      obtain ⟨log, hstep⟩ := hstep
      have hrest := @ih { s with workbook := w, log } hs
      have happly : fillSheets model (title :: rest) s =
          fillSheets model rest { s with workbook := w, log } := bind_of_ok hstep _
      show Leaves _ _ (rest.foldlM _ w)
      cases hfold : rest.foldlM (fun w title => w.fillFirst? model title) w with
      | none =>
        rw [hfold] at hrest
        obtain ⟨e, s', hrest⟩ := hrest
        exact ⟨e, s', happly.trans hrest⟩
      | some w' =>
        rw [hfold] at hrest
        obtain ⟨log', hrest⟩ := hrest
        exact ⟨log', happly.trans hrest⟩

def listing (names : List String) : Value := .list (names.map fun (name : String) => .text name)

theorem reportMissing_texts (template : String) (titles names : List String) (s : State) :
    ∃ log, reportMissing template
        (namesBeside titles (names.map fun (name : String) => .text name)) s =
      .ok () { s with log } := by
  induction names generalizing s with
  | nil => exact ⟨s.log, rfl⟩
  | cons name names ih =>
    rw [List.map_cons]
    by_cases hname : titles.contains name
    · rw [namesBeside, List.filter_cons_of_neg (by simpa [Text.string?_ofString] using hname)]
      exact ih s
    · rw [namesBeside, List.filter_cons_of_pos (by simpa [Text.string?_ofString] using hname)]
      exact ih _

theorem titlesAmong_texts (titles names : List String) :
    titlesAmong titles (names.map fun (name : String) => .text name) =
      names.filter (titles.contains ·) := by
  rw [titlesAmong, List.filterMap_map, ← List.filterMap_eq_filter]
  congr 1
  funext name
  simp [Text.string?_ofString, Option.filter, Option.guard]

/-- Filling the listed sheets fills each sheet as often as its title is listed. -/
theorem leaves_fillListed (model : Record) (names : List String) (hs : s.streams = []) :
    Leaves (fillSheets model (titlesAmong (s.workbook.map (·.title))
      (names.map fun (name : String) => .text name))) s
      (s.workbook.filledBy? model names) := by
  have htitles : s.workbook.filledBy? model
      (names.filter ((s.workbook.map (·.title)).contains ·)) =
        s.workbook.filledBy? model names := by
    apply Workbook.filledBy?_congr
    intro sheet hsheet
    exact List.count_filter (by simpa using ⟨sheet, hsheet, rfl⟩)
  rw [titlesAmong_texts, ← htitles, ← Workbook.foldlM_fillFirst?]
  exact leaves_fillSheets model _ hs

variable {template path : String} {target : Target} {names names' : List String} {files : Files}

/-- A rendering of listed sheets without streams completes just when its template can be opened, the
directory be made, each sheet be filled as often as it is listed, and the outcome be saved. -/
theorem render_list_eq_ok {w₀ : Workbook} {l₀ : List Log.Entry} {st : State} :
    (∃ log, render template model target (listing names) ⟨files, [], w₀, l₀⟩ =
      .ok path { st with log }) ↔
    st.streams = [] ∧ target.path? template = some path ∧
      ∃ w made saved, openWorkbook files template = .ok w ∧
        files.makeDirectories ((orHere (Path.directory path)).length + 1)
          (orHere (Path.directory path)) = (made, none) ∧
        w.filledBy? model names = some st.workbook ∧ Workbook.saved st.workbook = .ok saved ∧
        made.write path (.workbook saved) = .ok st.files := by
  constructor
  · rintro ⟨log, h⟩
    obtain ⟨w, selection, s₁, s₂, s₃, s₄, s₅, hopen, hselect, hmissing, htarget, hdir, hfill, hsave,
      hst⟩ := render_eq_ok.mp h
    cases hselect
    obtain ⟨log', rfl⟩ := reportMissing_eq_ok hmissing
    obtain ⟨made, hmade, rfl⟩ := makeDirectoryOf_eq_ok.mp hdir
    obtain ⟨saved, files', hsaved, hwrite, rfl⟩ := save_eq_ok.mp hsave
    have hleaves := leaves_fillListed (s := ⟨made, [], w, log'⟩) model names rfl
    cases hw : w.filledBy? model names with
    | none =>
      rw [hw] at hleaves
      obtain ⟨e, s', hleaves⟩ := hleaves
      cases hfill.symm.trans hleaves
    | some w' =>
      rw [hw] at hleaves
      obtain ⟨log'', hleaves⟩ := hleaves
      cases hfill.symm.trans hleaves
      cases st
      cases hst
      exact ⟨rfl, htarget, w, made, saved, hopen, hmade, hw, hsaved, hwrite⟩
  · obtain ⟨files', streams, w', log₀⟩ := st
    rintro ⟨rfl, htarget, w, made, saved, hopen, hmade, hfilled, hsaved, hwrite⟩
    obtain ⟨log, hmissing⟩ := reportMissing_texts template (w.map (·.title)) names
      ⟨files, [], w, l₀⟩
    have hleaves := leaves_fillListed (s := ⟨made, [], w, log⟩) model names rfl
    rw [show w.filledBy? model names = some w' from hfilled] at hleaves
    obtain ⟨log', hfill⟩ := hleaves
    have hsave : save path ⟨made, [], w', log'⟩ = .ok () ⟨files', [], w', log'⟩ :=
      save_eq_ok.mpr ⟨saved, files', hsaved, hwrite, rfl⟩
    exact ⟨_, render_eq_ok.mpr ⟨w, _, _, _, _, _, _, hopen, rfl, hmissing, htarget,
      makeDirectoryOf_eq_ok.mpr ⟨made, hmade, rfl⟩, hfill, hsave, rfl⟩⟩

/-- A rendering of listed sheets without streams fills each sheet as often as it is listed and saves
what that leaves. Where no sheet is listed twice, or filling twice comes to filling once, the listed
sheets are filled once and the others are left alone; and neither the order of the list nor names
that are no titles make a difference. -/
theorem render_listed {st : State}
    (h : render template model target (listing names) ⟨files, [], [], []⟩ = .ok path st) :
    ∃ w saved, openWorkbook files template = .ok w ∧
      (w.filledBy? model names).map Workbook.saved = some (.ok saved) ∧
      st.files.read path = .ok (.workbook saved) ∧
      ((w.map Sheet.title).Nodup → (∀ s ∈ w, names.count s.title ≤ 1 ∨
          ∀ s', s.filled? model = some s' → s'.filled? model = some s') →
        (w.mapM fun s => if s.title ∈ names then s.filled? model else some s).map
          Workbook.saved = some (.ok saved)) ∧
      ∀ names' : List String, (∀ s ∈ w, names'.count s.title = names.count s.title) →
        ∃ log, render template model target (listing names') ⟨files, [], [], []⟩ =
          .ok path { st with log } := by
  obtain ⟨hstreams, htarget, w, made, saved, hopen, hmade, hfilled, hsaved, hwrite⟩ :=
    render_list_eq_ok.mp ⟨st.log, h⟩
  have hmap : (w.filledBy? model names).map Workbook.saved = some (.ok saved) := by
    rw [hfilled, Option.map_some, hsaved]
  refine ⟨w, saved, hopen, hmap, FileTree.read_of_write hwrite, fun hd honce => ?_,
    fun names' hcount => ?_⟩
  · rw [← Workbook.filledBy?_eq_mapM hd honce, hmap]
  · exact render_list_eq_ok.mpr ⟨hstreams, htarget, w, made, saved, hopen, hmade,
      (Workbook.filledBy?_congr hcount).trans hfilled, hsaved, hwrite⟩

/-- A letter and a note, to be filled from a record whose answer asks for its own text. -/
def letters : Files :=
  ⟨[(["t.xlsx"], .file (.workbook
    [⟨"Letter", [[some ⟨.text "$F{answer}", .plain⟩]], []⟩,
      ⟨"Note", [[some ⟨.text "$F{date}", .plain⟩]], []⟩]))]⟩

def answer : Record := .mapping [(.text "answer", .text "$F{date}"), (.text "date", .text "May")]

theorem render_listed_letters :
    ∃ st log, render "t.xlsx" answer (.path "o.xlsx") (listing ["Note", "Letter"])
        ⟨letters, [], [], []⟩ = .ok "o.xlsx" st ∧
      st.files.read "o.xlsx" = .ok (.workbook
        [⟨"Letter", [[some ⟨.text "$F{date}", .plain⟩]], []⟩,
          ⟨"Note", [[some ⟨.text "May", .plain⟩]], []⟩]) ∧
      render "t.xlsx" answer (.path "o.xlsx") (listing ["Letter", "Lettre", "Note"])
        ⟨letters, [], [], []⟩ = .ok "o.xlsx" { st with log } := by
  obtain ⟨st, h, hfiles⟩ : ∃ st, render "t.xlsx" answer (.path "o.xlsx")
        (listing ["Note", "Letter"]) ⟨letters, [], [], []⟩ = .ok "o.xlsx" st ∧
      (run letters [] "t.xlsx" answer (.path "o.xlsx")
        (listing ["Note", "Letter"])).files = st.files :=
    exists_of_run (by decide +kernel)
  obtain ⟨w, saved, hopen, -, -, -, hperm⟩ := render_listed h
  have htitles : w.map Sheet.title = ["Letter", "Note"] := by
    have hw : (openWorkbook letters "t.xlsx").toOption.map (·.map Sheet.title) =
        some ["Letter", "Note"] := by
      decide +kernel
    rw [hopen] at hw
    exact Option.some.inj hw
  obtain ⟨log, hlog⟩ := hperm ["Letter", "Lettre", "Note"] fun s hs => by
    have hmem : s.title ∈ ["Letter", "Note"] := htitles ▸ List.mem_map_of_mem hs
    revert hmem
    generalize s.title = title
    intro hmem
    fin_cases hmem <;> rfl
  refine ⟨st, log, h, ?_, hlog⟩
  rw [← hfiles]
  decide +kernel

/-- Naming a sheet once more changes what is saved: the text that the first filling wrote is read as
a marker by the second one. -/
theorem render_repeated :
    (run letters [] "t.xlsx" answer (.path "o.xlsx") (.list [.text "Letter"])).files.read
        "o.xlsx" = .ok (.workbook
      [⟨"Letter", [[some ⟨.text "$F{date}", .plain⟩]], []⟩,
        ⟨"Note", [[some ⟨.text "$F{date}", .plain⟩]], []⟩]) ∧
    (run letters [] "t.xlsx" answer (.path "o.xlsx")
        (.list [.text "Letter", .text "Letter"])).files.read "o.xlsx" = .ok (.workbook
      [⟨"Letter", [[some ⟨.text "May", .plain⟩]], []⟩,
        ⟨"Note", [[some ⟨.text "$F{date}", .plain⟩]], []⟩]) := by
  constructor <;> decide +kernel

end Rendering

end SheetFill
