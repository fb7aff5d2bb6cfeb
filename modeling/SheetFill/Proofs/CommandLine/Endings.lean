import SheetFill.CommandLine.Session
import SheetFill.Proofs.Model.Loading

/-!
# How sessions end

A session that has its settings refuses missing input with status 1, fails over an input that it
cannot follow, or comes to the rendering and ends with that. A data file is refused just when there
is a problem with it; what else stops its loading stops the session.
-/
namespace SheetFill.CommandLine

variable {template path : String} {settings : Config.Settings} {files : Files} {i : Invocation}

def Ending.status? : Ending → Option Nat
  | .status code => some code
  | _ => none

theorem Ending.eq_of_status? {e : Ending} {code : Nat} (h : e.status? = some code) :
    e = .status code := by
  cases e <;> cases h
  rfl

/-- The template is not there, or there is no data model where one is to be loaded. -/
def Refused (i : Invocation) (files : Files) : Prop :=
  ∃ template, i.template = .word template ∧ (files.contains template = false ∨
    ∃ data p, i.data = .word data ∧ Model.load files data = .error (.problem data p))

/-- What the work of a session comes to: it fails before the rendering is begun, it refuses its
input, or it ends with the rendering. -/
inductive Comes (i : Invocation) (settings : Config.Settings) (files : Files) : Work → Prop
  | failed {e log} (h : ¬ Refused i files) : Comes i settings files ⟨.failed e, log, files⟩
  | refused {log} (h : Refused i files) : Comes i settings files ⟨.status 1, log, files⟩
  | rendered {template data model t out log ending} (h : ¬ Refused i files)
      (htemplate : i.template = .word template) (hdata : i.data = .word data)
      (hload : Model.load files data = .ok model)
      (htarget : target i.output (Config.get settings "output_dir") template = .ok t)
      (hout : Rendering.run files [] template (.mapping model) t (sheetNames i.sheets settings) =
        out)
      (hending : (∃ path, out.result = .ok path ∧ ending = .status 0) ∨
        ∃ e, out.result = .error e ∧ ending = .failed (.rendering e)) :
      Comes i settings files ⟨ending, log, out.files⟩

theorem not_refused (ht : i.template = .word template) (hthere : files.contains template = true)
    (hdata : ∀ data p, i.data = .word data → Model.load files data ≠ .error (.problem data p)) :
    ¬ Refused i files := by
  rintro ⟨template', ht', hnone | ⟨data, p, hd, hload⟩⟩
  · cases ht.symm.trans ht'
    simp [hthere] at hnone
  · exact hdata data p hd hload

theorem renderTemplate_of_error {e : Model.Error} (hd : i.data = .word data)
    (hload : Model.load files data = .error e) (he : ∀ path p, e ≠ .problem path p) :
    renderTemplate i settings template files = ⟨.failed (.model e), [], files⟩ := by
  unfold renderTemplate
  rw [hd]
  dsimp only
  rw [hload]
  cases e with
  | problem path p => exact absurd rfl (he path p)
  | file e => rfl
  | limit l => rfl
  | yaml e => rfl

theorem comes_renderTemplate (ht : i.template = .word template)
    (hthere : files.contains template = true) :
    Comes i settings files (renderTemplate i settings template files) := by
  cases hd : i.data with
  | nothing =>
    simp only [renderTemplate, hd]
    exact .failed (not_refused ht hthere (by simp [hd]))
  | noWord =>
    simp only [renderTemplate, hd]
    exact .failed (not_refused ht hthere (by simp [hd]))
  | word data =>
    cases hload : Model.load files data with
    | error e =>
      by_cases he : ∃ path p, e = .problem path p
      · obtain ⟨path, p, rfl⟩ := he
        cases Model.path_of_problem hload
        simp only [renderTemplate, hd, hload]
        exact .refused ⟨template, ht, .inr ⟨data, p, hd, hload⟩⟩
      · push Not at he
        rw [renderTemplate_of_error hd hload he]
        refine .failed (not_refused ht hthere fun data' p hd' => ?_)
        cases hd.symm.trans hd'
        simpa [hload] using he data p
    | ok model =>
      have hnot : ¬ Refused i files := by
        refine not_refused ht hthere fun data' p hd' => ?_
        cases hd.symm.trans hd'
        simp [hload]
      simp only [renderTemplate, hd, hload]
      cases htarget : target i.output (Config.get settings "output_dir") template with
      | error e => exact .failed hnot
      | ok t =>
        refine .rendered hnot ht hd hload htarget rfl ?_
        generalize Rendering.run files [] template (.mapping model) t
          (sheetNames i.sheets settings) = out
        cases hresult : out.result with
        | ok path => exact .inl ⟨path, rfl, rfl⟩
        | error e => exact .inr ⟨e, rfl, rfl⟩

theorem comes_work (i : Invocation) (settings : Config.Settings) (files : Files) :
    Comes i settings files (work i settings files) := by
  have hnone (h : ∀ template, i.template ≠ .word template) : ¬ Refused i files :=
    fun ⟨template, ht, _⟩ => h template ht
  unfold work
  cases ht : i.template with
  | nothing => exact .failed (hnone (by simp [ht]))
  | noWord => exact .failed (hnone (by simp [ht]))
  | word template =>
    dsimp only
    split_ifs with hthere
    · exact comes_renderTemplate ht hthere
    · exact .refused ⟨template, ht, .inl (by simpa using hthere)⟩

theorem status_one_of_comes {w : Work} (hw : Comes i settings files w) :
    (w.ending = .status 1 ↔ Refused i files) ∧ (w.ending = .status 1 → w.files = files) := by
  cases hw with
  | failed h => simp [h]
  | refused h => simp [h]
  | rendered h htemplate hdata hload htarget hrun hending =>
    rcases hending with ⟨path, -, rfl⟩ | ⟨e, -, rfl⟩ <;> simp [h]

/-- A data file that can be read holds a model, or there is a problem with it, or its reading stops
at what cannot be represented. A session that is to load it ends with status 1 over a problem alone;
what else stops the loading stops the session too. -/
theorem load_regular {content : Content} (h : files.read path = .ok content) :
    ((∃ model, Model.load files path = .ok model) ∨
      (∃ p, p ≠ .notFound ∧ Model.load files path = .error (.problem path p)) ∨
      ∃ e, Model.load files path = .error e ∧ Model.Escapes path content.octets e) ∧
    ∀ i settings threshold template, Config.load files i.config.filled? = .ok settings →
      Log.threshold (thresholdName i settings) = .ok threshold → i.template = .word template →
      files.contains template = true → i.data = .word path →
      ((i.run files).ending = .status 1 ↔
        ∃ p, Model.load files path = .error (.problem path p)) ∧
      ∀ e, Model.load files path = .error e → Model.Escapes path content.octets e →
        (i.run files).ending = .failed (.model e) := by
  refine ⟨Model.load_of_read h, fun i settings threshold template hconfig hthreshold ht hthere hd =>
    ?_⟩
  have hending : (i.run files).ending = (work i settings files).ending := by
    simp only [Invocation.run, hconfig, hthreshold]
  rw [hending]
  refine ⟨?_, fun e hload hescapes => ?_⟩
  · rw [(status_one_of_comes (comes_work i settings files)).1]
    constructor
    · rintro ⟨template', ht', hnone | ⟨data, p, hd', hload⟩⟩
      · cases ht.symm.trans ht'
        simp [hthere] at hnone
      · cases hd.symm.trans hd'
        exact ⟨p, hload⟩
    · rintro ⟨p, hload⟩
      exact ⟨template, ht, .inr ⟨path, p, hd, hload⟩⟩
  · have he (path' : String) (p : Model.Problem) : e ≠ .problem path' p := by
      rintro rfl
      cases hescapes
    simp only [work, ht, hthere, if_true, renderTemplate_of_error hd hload he]

def dateFiles : Files :=
  ⟨[(["t.xlsx"], .file (.workbook [⟨"Visit", [[some ⟨.text "$F{when}", .plain⟩]], []⟩])),
    (["d.yaml"], .file (.plain ("when: 2024-02-30\n".toList.map fun c => c.toNat.toUInt8)))]⟩

def loadError? (files : Files) (path : String) : Option Model.Error :=
  match Model.load files path with
  | .error e => some e
  | .ok _ => none

theorem load_date : Model.load dateFiles "d.yaml" = .error (.yaml (.build (.calendar .day))) := by
  have h : loadError? dateFiles "d.yaml" = some (.yaml (.build (.calendar .day))) := by
    decide +kernel
  unfold loadError? at h
  split at h
  · rename_i e he
    rw [he, Option.some.inj h]
  · cases h

/-- Loading it gives no model, and no problem is reported. -/
theorem load_date_unreported : dateFiles.contains "d.yaml" = true ∧
    (∀ model, Model.load dateFiles "d.yaml" ≠ .ok model) ∧
    ∀ path p, Model.load dateFiles "d.yaml" ≠ .error (.problem path p) := by
  rw [load_date]
  exact ⟨by decide, by simp, by simp⟩

theorem load_regular_date : ∃ octets,
    Model.Escapes "d.yaml" octets (.yaml (.build (.calendar .day))) ∧
      (run ["render", "t.xlsx", "d.yaml"] dateFiles).ending =
        .failed (.model (.yaml (.build (.calendar .day)))) := by
  obtain ⟨content, hread⟩ : ∃ content, dateFiles.read "d.yaml" = .ok content := ⟨_, rfl⟩
  obtain ⟨houtcome, hsession⟩ := load_regular hread
  rcases houtcome with ⟨model, hok⟩ | ⟨p, -, hproblem⟩ | ⟨e, he, hescapes⟩
  · cases load_date.symm.trans hok
  · cases load_date.symm.trans hproblem
  · cases load_date.symm.trans he
    obtain ⟨-, hfails⟩ :=
      hsession ⟨.word "t.xlsx", .word "d.yaml", .nothing, none, .nothing, .nothing⟩ _ 20 "t.xlsx"
        rfl rfl rfl (by decide) rfl
    exact ⟨content.octets, hescapes, hfails _ load_date hescapes⟩

end SheetFill.CommandLine
