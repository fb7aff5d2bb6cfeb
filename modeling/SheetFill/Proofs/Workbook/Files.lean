import SheetFill.Proofs.FileTree.Growth
import SheetFill.Proofs.Workbook.Steps

/-!
# Files around a rendering

Up to the saving a rendering does nothing to the files but make directories on the way to its
output, and it does that only when all sheets are chosen. Saving puts another file in the place of
the output, and a cell that cannot be saved leaves that file unfinished. No other file is ever
touched.
-/
namespace SheetFill.Rendering

variable {template path : String} {model : Record} {target : Target} {names : Value}

abbrev Prepared (output : String) : Files → Files → Prop :=
  FileTree.Grows (· ∈ FileTree.way (Path.directory output))

/-- A file of the output was written after making directories on the way to it. -/
def SavedTo (output : String) (content : Content) (place : List String) (before after : Files) :
    Prop :=
  ∃ made, Prepared output before made ∧ FileTree.Wrote output content place made after

namespace SavedTo

variable {output : String} {content content' : Content} {place : List String} {before after : Files}

theorem leads (h : SavedTo output content place before after) :
    after.locate output = (place, .present) := by
  obtain ⟨made, -, hwrote⟩ := h
  exact hwrote.leads

theorem directory (h : SavedTo output content place before after) {other : List String}
    (hd : before.node? other = some .directory) : after.node? other = some .directory := by
  obtain ⟨made, hmade, hwrote⟩ := h
  exact hwrote.directory (hmade.kept other _ hd)

theorem node_self (h : SavedTo output content place before after) :
    after.node? place = some (.file content) := by
  obtain ⟨made, -, hwrote⟩ := h
  exact hwrote.node_self

theorem node_of_ne (h : SavedTo output content place before after) {other : List String}
    (ho : other ≠ place) : after.node? other = before.node? other ∨
      before.node? other = none ∧ after.node? other = some .directory ∧
        other ∈ FileTree.way (Path.directory output) := by
  obtain ⟨made, hmade, hwrote⟩ := h
  rw [hwrote.node_of_ne ho]
  cases hn : before.node? other with
  | none => exact (hmade.made other hn).imp_right fun hdir => ⟨rfl, hdir⟩
  | some node => exact .inl (hmade.kept other node hn)

theorem read (h : SavedTo output content place before after)
    (hr : before.read path = .ok content') :
    after.read path = .ok content' ∨ after.locate path = (place, .present) := by
  obtain ⟨made, hmade, hwrote⟩ := h
  obtain ⟨other, hl, hn⟩ := FileTree.read_eq_ok.mp (hmade.read hr)
  by_cases ho : other = place
  · exact .inr (ho ▸ hwrote.locate hl)
  · exact .inl (FileTree.read_eq_ok.mpr ⟨other, hwrote.locate hl, by rw [hwrote.node_of_ne ho, hn]⟩)

theorem read_of_ne (h : SavedTo output content place before after)
    (hpath : Path.baseName path ∉ ["", ".", ".."]) (hout : Path.baseName output ∉ ["", ".", ".."])
    (hne : Path.baseName path ≠ Path.baseName output) (hr : before.read path = .ok content') :
    after.read path = .ok content' := by
  refine (h.read hr).resolve_right fun hl => hne ?_
  obtain ⟨above, habove⟩ := FileTree.eq_append_baseName hl hpath
  obtain ⟨above', habove'⟩ := FileTree.eq_append_baseName h.leads hout
  exact (List.append_singleton_inj.mp (habove.symm.trans habove')).2

end SavedTo

/-! ## Steps that leave the files alone -/

/-- A step after which the files are as before, whatever it comes to. -/
def KeepsFiles {α : Type} (x : Step α) : Prop :=
  ∀ files, Keeps (fun s : State => s.files = files) (fun _ => True) x

theorem KeepsFiles.meets {α : Type} {x : Step α} (h : KeepsFiles x) (s : State) :
    Meets x s (fun _ s' => s'.files = s.files) (fun _ s' => s'.files = s.files) :=
  (h s.files s rfl).mono (fun _ _ ha => ha) fun _ _ he => he.1

theorem keepsFiles_report (level : Log.Level) (text : String) : KeepsFiles (report level text) :=
  fun _ => .modify fun _ h => h

theorem keepsFiles_select (titles : List String) (names : Value) :
    KeepsFiles (select titles names) := by
  intro files
  cases hitems : names.items with
  | all items =>
    rw [select_of_all hitems]
    exact .pure _
  | stream id =>
    intro s hs
    have hselect : select titles names s = _ := select_of_stream hitems
    simp only at hselect
    split_ifs at hselect with hleft
    · exact Meets.error hselect ⟨hs, trivial⟩
    · exact Meets.ok hselect hs
  | none =>
    by_cases hnull : names = .null
    · subst hnull
      exact .pure _
    · rw [select_of_none hitems hnull]
      exact .throw trivial

theorem keepsFiles_reportMissing (template : String) (names : List Value) :
    KeepsFiles (reportMissing template names) := by
  intro files
  induction names with
  | nil => exact .pure _
  | cons name rest ih =>
    unfold reportMissing
    cases name.plain? with
    | none => exact .throw trivial
    | some text => exact (keepsFiles_report _ _ files).bind fun _ => ih

theorem keepsFiles_fillSheet (model : Record) (title : String) :
    KeepsFiles (fillSheet model title) := by
  intro files s hs
  have hfill := fillSheet_apply model title s
  cases hsheet : s.workbook.find? (·.title == title) with
  | none =>
    simp only [hsheet] at hfill
    exact Meets.ok hfill hs
  | some sheet =>
    cases hfails : (Run.fill ⟨sheet, s.streams, [], none⟩ model).failure? with
    | none =>
      simp only [hsheet, hfails] at hfill
      exact Meets.ok hfill hs
    | some e =>
      simp only [hsheet, hfails] at hfill
      exact Meets.error hfill ⟨hs, trivial⟩

theorem keepsFiles_fillSheets (model : Record) (titles : List String) :
    KeepsFiles (fillSheets model titles) := by
  intro files
  induction titles with
  | nil => exact .pure _
  | cons title rest ih => exact (keepsFiles_fillSheet model title files).bind fun _ => ih

/-! ## Steps that change the files -/

theorem mem_way_of_orHere {directory : String} {place : List String}
    (h : place ∈ FileTree.way (orHere directory)) : place ∈ FileTree.way directory := by
  unfold orHere at h
  split_ifs at h with hempty
  · obtain rfl : directory = "" := by simpa using hempty
    have hhere : FileTree.way "." = FileTree.way "" := by decide
    rwa [hhere] at h
  · exact h

theorem meets_makeDirectoryOf (output : String) (s : State) :
    Meets (makeDirectoryOf output) s (fun _ s' => Prepared output s.files s'.files)
      (fun _ s' => Prepared output s.files s'.files) := by
  have hgrows := (FileTree.grows_makeDirectories ((orHere (Path.directory output)).length + 1)
    s.files (orHere (Path.directory output))).mono fun _ => mem_way_of_orHere
  unfold makeDirectoryOf
  rcases hmade : s.files.makeDirectories ((orHere (Path.directory output)).length + 1)
    (orHere (Path.directory output)) with ⟨made, error?⟩
  rw [hmade] at hgrows
  cases error? with
  | none => exact Meets.ok (by simp only [get_bind, modify_bind, hmade]; rfl) hgrows
  | some e => exact Meets.error (by simp only [get_bind, modify_bind, hmade]; rfl) hgrows

theorem meets_save (output : String) (s : State) :
    Meets (save output) s
      (fun _ s' => ∃ saved place, FileTree.Wrote output (.workbook saved) place s.files s'.files)
      (fun e s' => s'.files = s.files ∨ ∃ fault sheets place, e = .save fault ∧
        FileTree.Wrote output (.unfinished sheets) place s.files s'.files) := by
  unfold save
  refine Meets.get_bind ?_
  simp only [Content.ofWorkbook]
  cases hsaved : Workbook.saved s.workbook with
  | ok saved =>
    cases hfiles : s.files.write output (.workbook saved) with
    | error e => exact Meets.throw (.inl rfl)
    | ok files =>
      obtain ⟨place, hwrote⟩ := FileTree.wrote_of_write hfiles
      exact Meets.ok (by simp only [set_bind]; rfl) ⟨saved, place, hwrote⟩
  | error fault =>
    cases hfiles : s.files.write output (.unfinished (Workbook.savedBefore s.workbook)) with
    | error e => exact Meets.throw (.inl rfl)
    | ok files =>
      obtain ⟨place, hwrote⟩ := FileTree.wrote_of_write hfiles
      exact Meets.error (by simp only [set_bind]; rfl) (.inr ⟨fault, _, place, rfl, hwrote⟩)

/-- What a rendering does to the files: with an answer it has made directories and written the
output, with an error it has made directories, or failed over a cell while it wrote the output. -/
theorem meets_render (template : String) (model : Record) (target : Target) (names : Value)
    (s : State) :
    Meets (render template model target names) s
      (fun output s' => target.path? template = some output ∧
        ∃ saved place, SavedTo output (.workbook saved) place s.files s'.files)
      (fun e s' => s'.files = s.files ∨ ∃ output, target.path? template = some output ∧
        (Prepared output s.files s'.files ∨ ∃ fault sheets place, e = .save fault ∧
          SavedTo output (.unfinished sheets) place s.files s'.files)) := by
  unfold render
  refine Meets.get_bind ?_
  cases openWorkbook s.files template with
  | error e => exact Meets.throw (.inl rfl)
  | ok workbook =>
    refine Meets.modify_bind (Meets.bind (((keepsFiles_select _ names).meets _).mono
      (fun _ _ h => h) fun _ _ h => .inl h) fun selection s₁ h₁ => ?_)
    refine Meets.bind (((keepsFiles_reportMissing template selection.missing).meets s₁).mono
      (fun _ _ h => h.trans h₁) fun _ _ h => .inl (h.trans h₁)) fun _ s₂ h₂ => ?_
    cases target.path? template with
    | none => exact Meets.throw (.inl h₂)
    | some output =>
      refine Meets.bind ((meets_makeDirectoryOf output s₂).mono (fun _ _ h => h₂ ▸ h)
        fun _ _ h => .inr ⟨output, rfl, .inl (h₂ ▸ h)⟩) fun _ s₃ h₃ => ?_
      refine Meets.bind (((keepsFiles_fillSheets model selection.titles).meets s₃).mono
        (fun _ _ h => h) fun _ _ h => .inr ⟨output, rfl, .inl (h ▸ h₃)⟩) fun _ s₄ h₄ => ?_
      rw [← h₄] at h₃
      refine Meets.bind ((meets_save output s₄).mono (fun _ _ h => h) ?_) fun _ s₅ h₅ => ?_
      · rintro e s₅ (h₅ | ⟨fault, sheets, place, rfl, hwrote⟩)
        · exact .inr ⟨output, rfl, .inl (h₅ ▸ h₃)⟩
        · exact .inr ⟨output, rfl, .inr ⟨fault, sheets, place, rfl, _, h₃, hwrote⟩⟩
      · obtain ⟨saved, place, hwrote⟩ := h₅
        -- the report of the output comes after all that can fail
        exact Meets.ok rfl ⟨rfl, saved, place, _, h₃, hwrote⟩

section Run

variable {files : Files} {streams : Streams} {e : Error}

theorem run_of_ok {st : State}
    (h : render template model target names ⟨files, streams, [], []⟩ = .ok path st) :
    run files streams template model target names = ⟨.ok path, st.files, st.log⟩ := by
  unfold run
  simp only [h]

theorem run_of_error {st : State}
    (h : render template model target names ⟨files, streams, [], []⟩ = .error e st) :
    run files streams template model target names = ⟨.error e, st.files, st.log⟩ := by
  unfold run
  simp only [h]

/-- What a run did to the files, whatever it came to. -/
theorem files_of_run {after : Files}
    (h : (run files streams template model target names).files = after) :
    after = files ∨ ∃ output, target.path? template = some output ∧ (Prepared output files after ∨
      ∃ content place, SavedTo output content place files after) := by
  have hmeets := meets_render template model target names ⟨files, streams, [], []⟩
  cases hr : render template model target names ⟨files, streams, [], []⟩ with
  | ok path st =>
    obtain rfl : st.files = after := by rw [← h, run_of_ok hr]
    obtain ⟨houtput, saved, place, hsaved⟩ := hmeets.of_ok hr
    exact .inr ⟨path, houtput, .inr ⟨_, place, hsaved⟩⟩
  | error e st =>
    obtain rfl : st.files = after := by rw [← h, run_of_error hr]
    rcases hmeets.of_error hr with hsame | ⟨output, houtput, hmade | ⟨_, _, place, -, hsaved⟩⟩
    · exact .inl hsame
    · exact .inr ⟨output, houtput, .inl hmade⟩
    · exact .inr ⟨output, houtput, .inr ⟨_, place, hsaved⟩⟩

theorem files_of_ok (h : (run files streams template model target names).result = .ok path) :
    target.path? template = some path ∧ ∃ saved place, SavedTo path (.workbook saved) place files
      (run files streams template model target names).files := by
  obtain ⟨st, hrender, hfiles⟩ := exists_of_run (congrArg Except.toOption h)
  rw [hfiles]
  exact (meets_render template model target names _).of_ok hrender

theorem render_of_unopened {s : State} (h : openWorkbook s.files template = .error e) :
    render template model target names s = .error e s := by
  rw [render, get_bind, h]
  rfl

theorem files_of_unopened (h : openWorkbook files template = .error e) :
    (run files streams template model target names).files = files := by
  rw [run_of_error (render_of_unopened h)]

/-- A file of another name than that of the output is as it was. -/
theorem read_of_run {content : Content} (hpath : Path.baseName path ∉ ["", ".", ".."])
    (hout : ∀ output, target.path? template = some output →
      Path.baseName output ∉ ["", ".", ".."] ∧ Path.baseName path ≠ Path.baseName output)
    (hr : files.read path = .ok content) :
    (run files streams template model target names).files.read path = .ok content := by
  generalize hafter : (run files streams template model target names).files = after
  rcases files_of_run hafter with
    rfl | ⟨output, houtput, hmade | ⟨content', place, hsaved⟩⟩
  · exact hr
  · exact hmade.read hr
  · obtain ⟨hregular, hne⟩ := hout output houtput
    exact hsaved.read_of_ne hpath hregular hne hr

theorem exists_of_error (h : (run files streams template model target names).result = .error e) :
    ∃ st, render template model target names ⟨files, streams, [], []⟩ = .error e st ∧
      (run files streams template model target names).files = st.files := by
  cases hr : render template model target names ⟨files, streams, [], []⟩ with
  | ok path st =>
    rw [run_of_ok hr] at h
    cases h
  | error e' st =>
    rw [run_of_error hr] at h ⊢
    obtain rfl : e' = e := Except.error.inj h
    exact ⟨st, rfl, rfl⟩

/-- A rendering failed over a cell while it wrote the output, whose path leads to a place, and left
an unfinished file there. -/
def Spoils (e : Error) (target : Target) (template : String) (after : Files)
    (place : List String) : Prop :=
  ∃ fault output sheets, e = .save fault ∧ target.path? template = some output ∧
    after.locate output = (place, .present) ∧
    after.node? place = some (.file (.unfinished sheets))

end Run

def visitSheet (text : String) : SavedSheet := ⟨"Visit", [[some ⟨.text text, .plain⟩]], []⟩

def visitFiles : Files :=
  ⟨[(["t.xlsx"], .file (.workbook [visitSheet "$F{when}"])),
    (["o.xlsx"], .file (.workbook [visitSheet "May"]))]⟩

def visit (time : Value) : Outcome :=
  run visitFiles [] "t.xlsx" (.mapping [(.text "when", time)]) (.path "o.xlsx") .null

end SheetFill.Rendering
