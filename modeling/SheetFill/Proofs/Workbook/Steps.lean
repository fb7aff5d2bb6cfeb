import SheetFill.Workbook.Rendering
import SheetFill.Proofs.FileTree.Writing
import SheetFill.Proofs.Steps

/-!
# Completed renderings

A rendering completes just when each of its steps does. Choosing the sheets, reporting missing ones
and making the directory leave the workbook alone, filling leaves the files alone, and saving ends
with a file from which what was saved is read.
-/
namespace SheetFill.Rendering

variable {s s' : State} {template path : String} {model : Record}

theorem render_eq_ok {target : Target} {names : Value} :
    render template model target names s = .ok path s' ↔
      ∃ w selection s₁ s₂ s₃ s₄ s₅, openWorkbook s.files template = .ok w ∧
        select (w.map (·.title)) names { s with workbook := w } = .ok selection s₁ ∧
        reportMissing template selection.missing s₁ = .ok () s₂ ∧
        target.path? template = some path ∧ makeDirectoryOf path s₂ = .ok () s₃ ∧
        fillSheets model selection.titles s₃ = .ok () s₄ ∧ save path s₄ = .ok () s₅ ∧
        s' = { s₅ with log := s₅.log ++ [⟨.info, .workbook, "Rendered workbook: " ++ path⟩] } := by
  unfold render
  rw [get_bind]
  cases openWorkbook s.files template with
  | error e => simp [throw_ne_ok]
  | ok w =>
    cases target.path? template with
    | none => simp [modify_bind, bind_eq_ok, throw_ne_ok]
    | some output =>
      simp only [modify_bind, bind_eq_ok, Except.ok.injEq]
      constructor
      · rintro ⟨selection, s₁, hselect, _, s₂, hmissing, _, s₃, hdir, _, s₄, hfill, _, s₅, hsave,
          _, s₆, hreport, hpure⟩
        cases hreport
        cases hpure
        exact ⟨w, selection, s₁, s₂, s₃, s₄, s₅, rfl, hselect, hmissing, rfl, hdir, hfill, hsave,
          rfl⟩
      · rintro ⟨_, selection, s₁, s₂, s₃, s₄, s₅, rfl, hselect, hmissing, houtput, hdir, hfill,
          hsave, rfl⟩
        obtain rfl := Option.some.inj houtput
        exact ⟨selection, s₁, hselect, (), s₂, hmissing, (), s₃, hdir, (), s₄, hfill, (), s₅, hsave,
          (), _, rfl, rfl⟩

theorem exists_of_run {files : Files} {streams : Streams} {target : Target} {names : Value}
    (h : (run files streams template model target names).result.toOption = some path) :
    ∃ st, render template model target names ⟨files, streams, [], []⟩ = .ok path st ∧
      (run files streams template model target names).files = st.files := by
  unfold run at h ⊢
  cases hr : render template model target names ⟨files, streams, [], []⟩ with
  | ok path' st =>
    rw [hr] at h
    obtain rfl : path' = path := Option.some.inj h
    exact ⟨st, rfl, rfl⟩
  | error e st =>
    rw [hr] at h
    cases h

theorem reportMissing_eq_ok {names : List Value} (h : reportMissing template names s = .ok () s') :
    ∃ log, s' = { s with log } := by
  induction names generalizing s with
  | nil =>
    cases h
    exact ⟨s'.log, rfl⟩
  | cons name rest ih =>
    unfold reportMissing at h
    cases hname : name.plain? with
    | none =>
      rw [hname] at h
      exact absurd h throw_ne_ok
    | some text =>
      rw [hname] at h
      obtain ⟨_, s₁, hreport, hrest⟩ := bind_eq_ok.mp h
      cases hreport
      obtain ⟨log, rfl⟩ := ih hrest
      exact ⟨log, rfl⟩

theorem makeDirectoryOf_eq_ok : makeDirectoryOf path s = .ok () s' ↔
    ∃ files, s.files.makeDirectories ((orHere (Path.directory path)).length + 1)
      (orHere (Path.directory path)) = (files, none) ∧ s' = { s with files } := by
  unfold makeDirectoryOf
  simp only [get_bind, modify_bind]
  rcases s.files.makeDirectories ((orHere (Path.directory path)).length + 1)
      (orHere (Path.directory path)) with ⟨files, _ | e⟩
  · constructor
    · intro h
      cases h
      exact ⟨files, rfl, rfl⟩
    · rintro ⟨_, hfiles, rfl⟩
      cases hfiles
      rfl
  · simp [throw_ne_ok]

theorem save_eq_ok : save path s = .ok () s' ↔
    ∃ saved files, Workbook.saved s.workbook = .ok saved ∧
      s.files.write path (.workbook saved) = .ok files ∧ s' = { s with files } := by
  unfold save
  rw [get_bind]
  cases hsaved : Workbook.saved s.workbook with
  | error e =>
    simp only [Content.ofWorkbook, hsaved]
    cases s.files.write path (.unfinished (Workbook.savedBefore s.workbook)) with
    | error e => simp [throw_ne_ok]
    | ok files => simp [set_bind, throw_ne_ok]
  | ok saved =>
    simp only [Content.ofWorkbook, hsaved]
    cases hfiles : s.files.write path (.workbook saved) with
    | error e => simp [hfiles, throw_ne_ok]
    | ok files =>
      simp only [set_bind]
      constructor
      · intro h
        cases h
        exact ⟨saved, files, rfl, hfiles, rfl⟩
      · rintro ⟨_, _, hsaved, hfiles', rfl⟩
        cases hsaved
        cases hfiles.symm.trans hfiles'
        rfl

theorem read_of_save (h : save path s = .ok () s') :
    ∃ saved, Workbook.saved s.workbook = .ok saved ∧ s'.workbook = s.workbook ∧
      s'.files.read path = .ok (.workbook saved) := by
  obtain ⟨saved, files, hsaved, hwrite, rfl⟩ := save_eq_ok.mp h
  exact ⟨saved, hsaved, rfl, FileTree.read_of_write hwrite⟩

section Selection

variable {titles : List String} {names : Value}

theorem select_of_all {items : List Value} (h : names.items = .all items) :
    select titles names = pure ⟨namesBeside titles items, titlesAmong titles items⟩ := by
  cases names
  case null => cases h
  all_goals simp only [select, h]

theorem select_of_none (h : names.items = .none) (hnull : names ≠ .null) :
    select titles names = throw (.notIterable names.kindName) := by
  cases names
  case null => exact absurd rfl hnull
  all_goals simp only [select, h]

theorem select_of_stream {id : Nat} (h : names.items = .stream id) :
    select titles names s =
      let drained := drain (s.streams.getD id [])
      let s' := { s with streams := s.streams.set id (drained.2.getD []) }
      if drained.2.isSome then .error .streamFailed s'
      else .ok ⟨namesBeside titles drained.1, []⟩ s' := by
  cases names
  case null => cases h
  all_goals
    simp only [select, h, get_bind, modify_bind]
    split_ifs <;> rfl

theorem workbook_of_select {selection : Selection}
    (h : select titles names s = .ok selection s') : s'.workbook = s.workbook := by
  cases hitems : names.items with
  | all items =>
    rw [select_of_all hitems] at h
    cases h
    rfl
  | stream id =>
    simp only [select_of_stream hitems] at h
    split_ifs at h
    cases h
    rfl
  | none =>
    by_cases hnull : names = .null
    · subst hnull
      cases h
      rfl
    · rw [select_of_none hitems hnull] at h
      exact absurd h throw_ne_ok

end Selection

theorem fillSheet_apply (model : Record) (title : String) (s : State) :
    fillSheet model title s = match s.workbook.find? (·.title == title) with
    | none => .ok () s
    | some sheet =>
      let out := Run.fill ⟨sheet, s.streams, [], none⟩ model
      let filled := out.run.sheet
      let s' := { s with
        workbook := replaceSheet title filled s.workbook, streams := out.run.streams }
      match out.failure? with
      | some e => .error (.fill e) s'
      | none => .ok () { s' with
          log := s.log ++ [⟨.info, .workbook, "  Sheet '" ++ title ++ "': " ++
            toString sheet.maxRow ++ " -> " ++ toString filled.maxRow ++ " rows"⟩] } := by
  unfold fillSheet
  rw [get_bind]
  cases s.workbook.find? (·.title == title) with
  | none => rfl
  | some sheet =>
    simp only [set_bind]
    cases (Run.fill ⟨sheet, s.streams, [], none⟩ model).failure? <;> rfl

end SheetFill.Rendering
