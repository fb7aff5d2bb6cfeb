import SheetFill.Proofs.CommandLine.Endings
import SheetFill.Proofs.FileTree.Names
import SheetFill.Proofs.Workbook.Files
import SheetFill.Proofs.Text.Strings

/-!
# Files around a session

A session that is not told where its result goes writes it under a name that neither the template
nor the data can have. It ends with status 1 for missing input alone, and then it has touched
nothing; when it ends with status 0 there are the result and directories on the way to it.
-/
namespace SheetFill.CommandLine

open Rendering (resultName defaultOutput)

variable {template data output : String} {settings : Config.Settings} {files : Files}
  {model : List (Value × Value)} {i : Invocation}

/-! ## The name of a result -/

theorem notMem_resultName (template : String) : '/' ∉ (resultName template).toList := by
  rw [resultName, String.toList_append, List.mem_append, not_or]
  exact ⟨Path.notMem_stem template, by decide⟩

theorem resultName_ne_baseName (template : String) :
    resultName template ≠ Path.baseName template := by
  intro h
  rw [← Path.stem_append_extension, resultName] at h
  have hext : "_rendered.xlsx".toList = (Path.extension template).toList := by
    simpa using congrArg String.toList h
  rcases Path.extension_cases template with hnone | ⟨rest, hdot⟩
  · rw [hnone] at hext
    exact absurd hext (by decide)
  · rw [hdot] at hext
    cases hext

theorem extension_resultName (template : String) :
    Path.extension (resultName template) = ".xlsx" := by
  have hpath : (resultName template).toList =
      ((Path.stem template).toList ++ "_rendered".toList) ++ '.' :: "xlsx".toList := by
    rw [resultName, String.toList_append, List.append_assoc]
    rfl
  have hline : '_' ∈ (Path.stem template).toList ++ "_rendered".toList :=
    List.mem_append_right _ (by decide)
  exact Path.extension_of_append hpath (notMem_resultName template) ⟨'_', hline, by decide⟩
    (by decide)

/-- Where the result of a template goes if the command line does not say: into the directory that
the settings name, or into `output` beside the template if they name none. -/
def IsOutput (settings : Config.Settings) (template output : String) : Prop :=
  ((Config.get settings "output_dir").isTrue = false ∧ output = defaultOutput template) ∨
    ∃ directory : String, directory ≠ "" ∧
      Config.get settings "output_dir" = .text directory ∧
      output = Path.join directory (resultName template)

theorem baseName_of_isOutput (h : IsOutput settings template output) :
    Path.baseName output = resultName template := by
  have hname := notMem_resultName template
  rcases h with ⟨-, hout⟩ | ⟨directory, -, -, hout⟩
  · rw [hout, defaultOutput, Path.baseName_join hname]
  · rw [hout, Path.baseName_join hname]

theorem target_eq_ok {directory : Value} {t : Rendering.Target}
    (h : target .nothing directory template = .ok t) :
    (directory.isTrue = false ∧ t = .usual) ∨ ∃ d : String, d ≠ "" ∧ directory = .text d ∧
      t = .path (Path.join d (resultName template)) := by
  cases hdir : directory.isTrue with
  | false =>
    simp only [target, hdir, Bool.not_false, if_true] at h
    exact .inl ⟨rfl, (Except.ok.inj h).symm⟩
  | true =>
    simp only [target, hdir, Bool.not_true, Bool.false_eq_true, if_false] at h
    cases directory
    case text d =>
      cases hd : d.string? with
      | none =>
        simp only [hd] at h
        cases h
      | some s =>
        simp only [hd] at h
        obtain rfl := Text.string?_eq_some.mp hd
        refine .inr ⟨s, ?_, rfl, (Except.ok.inj h).symm⟩
        rintro rfl
        cases hdir
    all_goals cases h

theorem isOutput_of_target {t : Rendering.Target}
    (ht : target .nothing (Config.get settings "output_dir") template = .ok t)
    (hpath : t.path? template = some output) : IsOutput settings template output := by
  rcases target_eq_ok ht with ⟨hdir, rfl⟩ | ⟨d, hd, hdir, rfl⟩
  · exact .inl ⟨hdir, (Option.some.inj hpath).symm⟩
  · exact .inr ⟨d, hd, hdir, (Option.some.inj hpath).symm⟩

theorem resultName_ne_data (h : Model.load files data = .ok model) :
    resultName template ≠ Path.baseName data := by
  intro hname
  apply Model.format_of_load h
  rw [← Path.extension_baseName, ← hname, extension_resultName]
  decide +kernel

theorem baseName_ne_of_isOutput (h : IsOutput settings template output) :
    Path.baseName output ≠ Path.baseName template ∧
      ∀ data model, Model.load files data = .ok model →
        Path.baseName output ≠ Path.baseName data := by
  rw [baseName_of_isOutput h]
  exact ⟨resultName_ne_baseName template, fun _ _ => resultName_ne_data⟩

/-! ## Its files -/

theorem regular_of_openWorkbook {w : Workbook}
    (h : Rendering.openWorkbook files template = .ok w) :
    Path.baseName template ∉ ["", ".", ".."] := by
  intro hname
  unfold Rendering.openWorkbook at h
  rw [Path.extension_eq_empty hname] at h
  cases h

theorem regular_of_load (h : Model.load files data = .ok model) :
    Path.baseName data ∉ ["", ".", ".."] := by
  intro hname
  apply Model.format_of_load h
  rw [Path.extension_eq_empty hname]
  decide +kernel

theorem regular_resultName (template : String) : resultName template ∉ ["", ".", ".."] := by
  intro h
  have hext := extension_resultName template
  simp only [List.mem_cons, List.not_mem_nil, or_false] at h
  rcases h with h | h | h <;> rw [h] at hext <;> revert hext <;> decide

theorem inputs_of_comes {w : Work} (hw : Comes i settings files w) (hout : i.output = .nothing)
    {path : String} {content : Content} (hpath : i.template = .word path ∨ i.data = .word path)
    (hr : files.read path = .ok content) : w.files.read path = .ok content := by
  cases hw with
  | failed h => exact hr
  | refused h => exact hr
  | @rendered template data model t out log ending h htemplate hdata hload htarget hrun hending =>
    rw [hout] at htarget
    dsimp only
    rw [← hrun]
    cases hopen : Rendering.openWorkbook files template with
    | error e =>
      rw [Rendering.files_of_unopened hopen]
      exact hr
    | ok workbook =>
      have hname (output : String) (houtput : t.path? template = some output) :
          Path.baseName output = resultName template :=
        baseName_of_isOutput (isOutput_of_target htarget houtput)
      rcases hpath with hpath | hpath
      · cases htemplate.symm.trans hpath
        refine Rendering.read_of_run (regular_of_openWorkbook hopen) (fun output houtput => ?_) hr
        rw [hname output houtput]
        exact ⟨regular_resultName _, (resultName_ne_baseName _).symm⟩
      · cases hdata.symm.trans hpath
        refine Rendering.read_of_run (regular_of_load hload) (fun output houtput => ?_) hr
        rw [hname output houtput]
        exact ⟨regular_resultName _, (resultName_ne_data hload).symm⟩

theorem saved_of_comes {w : Work} (hw : Comes i settings files w) (hout : i.output = .nothing)
    (hending : w.ending = .status 0) : ∃ template output place workbook,
      i.template = .word template ∧ IsOutput settings template output ∧
      Rendering.SavedTo output (.workbook workbook) place files w.files := by
  cases hw with
  | failed h => cases hending
  | refused h => cases hending
  | @rendered template data model t out log ending h htemplate hdata hload htarget hrun hresult =>
    rcases hresult with ⟨path, hok, -⟩ | ⟨e, -, rfl⟩
    · rw [hout] at htarget
      dsimp only
      rw [← hrun] at hok ⊢
      obtain ⟨hpath, workbook, place, hsaved⟩ := Rendering.files_of_ok hok
      exact ⟨template, path, place, workbook, htemplate,
        isOutput_of_target htarget hpath, hsaved⟩
    · cases hending

/-- What a session that is not told where its result goes does to the files. -/
structure FileEffects (i : Invocation) (files : Files) (o : Outcome) : Prop where
  /-- The last name of the output is that of no input. -/
  apart : ∀ settings template output, Config.load files i.config.filled? = .ok settings →
    i.template = .word template → IsOutput settings template output →
    Path.baseName output ≠ Path.baseName template ∧
      ∀ data model, i.data = .word data → Model.load files data = .ok model →
        Path.baseName output ≠ Path.baseName data
  /-- No input is ever written. -/
  inputs : ∀ path content, i.template = .word path ∨ i.data = .word path →
    files.read path = .ok content → o.files.read path = .ok content
  status_one : o.ending = .status 1 ↔ ∃ settings threshold,
    Config.load files i.config.filled? = .ok settings ∧
    Log.threshold (thresholdName i settings) = .ok threshold ∧ Refused i files
  untouched : o.ending = .status 1 → o.files = files
  /-- There is a new result, and beyond that there are only new directories on the way to it. -/
  saved : o.ending = .status 0 → ∃ settings template output place workbook,
    Config.load files i.config.filled? = .ok settings ∧ i.template = .word template ∧
    IsOutput settings template output ∧ o.files.locate output = (place, .present) ∧
    o.files.node? place = some (.file (.workbook workbook)) ∧
    ∀ other, other ≠ place → o.files.node? other = files.node? other ∨
      files.node? other = none ∧ o.files.node? other = some .directory ∧
        other ∈ FileTree.way (Path.directory output)

/-- A session that is not told where its result goes refuses missing input alone, writes no input,
and leaves nothing but its result. -/
theorem fileEffects_run {words : List String} (hread : Invocation.read words = .ok i)
    (hout : i.output = .nothing) : FileEffects i files (run words files) := by
  have hrun : run words files = i.run files := by simp only [run, hread]
  rw [hrun]
  have hapart : ∀ settings template output, Config.load files i.config.filled? = .ok settings →
      i.template = .word template → IsOutput settings template output →
      Path.baseName output ≠ Path.baseName template ∧
        ∀ data model, i.data = .word data → Model.load files data = .ok model →
          Path.baseName output ≠ Path.baseName data := by
    intro settings template output _ _ houtput
    obtain ⟨htemplate, hdata⟩ := baseName_ne_of_isOutput houtput
    exact ⟨htemplate, fun data model _ => hdata data model⟩
  unfold Invocation.run
  cases hconfig : Config.load files i.config.filled? with
  | error e => exact ⟨hapart, fun _ _ _ hr => hr, by simp [hconfig], by simp, by simp⟩
  | ok settings =>
    cases hthreshold : Log.threshold (thresholdName i settings) with
    | error e =>
      simp only [hthreshold]
      exact ⟨hapart, fun _ _ _ hr => hr, by simp [hconfig, hthreshold], by simp, by simp⟩
    | ok threshold =>
      simp only [hthreshold]
      have hcomes := comes_work i settings files
      obtain ⟨hone, hsame⟩ := status_one_of_comes hcomes
      refine ⟨hapart, fun path content => inputs_of_comes hcomes hout, ?_, hsame, fun h => ?_⟩
      · simp [hconfig, hthreshold, hone]
      · obtain ⟨template, output, place, workbook, htemplate, houtput, hsaved⟩ :=
          saved_of_comes hcomes hout h
        exact ⟨settings, template, output, place, workbook, hconfig, htemplate, houtput,
          hsaved.leads, hsaved.node_self, fun _ => hsaved.node_of_ne⟩

def letterFiles : Files :=
  ⟨[(["t.xlsx"], .file (.workbook [⟨"Letter", [[some ⟨.text "$F{day}", .plain⟩]], []⟩])),
    (["d.json"], .file (.plain ("\x7b\"day\": \"May\"\x7d".toList.map fun c => c.toNat.toUInt8)))]⟩

def letterWords : List String := ["render", "t.xlsx", "d.json"]

def letterOutcome : Outcome := run letterWords letterFiles

theorem fileEffects_run_letter :
    letterOutcome.files.read "t.xlsx" = letterFiles.read "t.xlsx" ∧
    ∃ output place workbook, output = "./output/t_rendered.xlsx" ∧
      letterOutcome.files.locate output = (place, .present) ∧
      letterOutcome.files.node? place = some (.file (.workbook workbook)) := by
  have hread : Invocation.read letterWords =
      .ok ⟨.word "t.xlsx", .word "d.json", .nothing, none, .nothing, .nothing⟩ := rfl
  have heffects : FileEffects _ letterFiles letterOutcome := fileEffects_run hread rfl
  refine ⟨heffects.inputs "t.xlsx" _ (.inl rfl) (by rfl), ?_⟩
  have hending : letterOutcome.ending = .status 0 :=
    Ending.eq_of_status? (by decide +kernel)
  obtain ⟨settings, template, output, place, workbook, hconfig, htemplate, houtput, hleads, hnode,
    -⟩ := heffects.saved hending
  refine ⟨output, place, workbook, ?_, hleads, hnode⟩
  cases htemplate
  cases hconfig
  rcases houtput with ⟨-, hdefault⟩ | ⟨directory, -, hdirectory, -⟩
  · rw [hdefault]
    decide
  · cases hdirectory

end SheetFill.CommandLine
