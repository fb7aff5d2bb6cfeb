import SheetFill.Proofs.Expansion.Agreement

/-!
# Fields that the template does not name

What the model holds in a field that no marker of the template names has no influence on a run, be
it a field of the model or of the items of its collections. So nothing that was written to the sheet
is ever read as a marker, whatever texts the model holds.
-/
namespace SheetFill

namespace Value

def without (s : Text) (entries : List (Value × Value)) : List (Value × Value) :=
  entries.filter fun entry =>
    match entry.1 with
    | .text name => name != s
    | _ => true

/-- The same value, or mappings that are the same but for the field `s`. -/
inductive SameItem (s : Text) : Value → Value → Prop
  | refl (v : Value) : SameItem s v v
  | map {v w : Value} {entries entries' : List (Value × Value)} (hv : v.untied = .map entries)
      (hw : w.untied = .map entries') (h : without s entries = without s entries') : SameItem s v w

inductive SameCollection (s : Text) : Value → Value → Prop
  | refl (v : Value) : SameCollection s v v
  | list {v w : Value} {as bs : List Value} (hv : v.untied = .list as) (hw : w.untied = .list bs)
      (h : List.Forall₂ (SameItem s) as bs) : SameCollection s v w
  | tuple {v w : Value} {as bs : List Value} (hv : v.untied = .tuple as) (hw : w.untied = .tuple bs)
      (h : List.Forall₂ (SameItem s) as bs) : SameCollection s v w

/-- Models that are the same but for the field `s`, of their own and of the items of their
collections. -/
def SameModel (s : Text) (entries entries' : List (Value × Value)) : Prop :=
  List.Forall₂ (fun entry entry' => entry.1 = entry'.1 ∧ SameCollection s entry.2 entry'.2)
    (without s entries) (without s entries')

variable {s name : Text} {v w : Value} {entries entries' : List (Value × Value)}

theorem lookup?_without (h : name ≠ s) (entries : List (Value × Value)) :
    lookup? (without s entries) name = lookup? entries name := by
  unfold lookup? without
  rw [List.find?_filter]
  congr 2
  funext ⟨key, value⟩
  cases key with
  | text t =>
    by_cases ht : t = name
    · simp [ht, h]
    · simp [ht]
  | _ => rfl

theorem lookup?_sameModel (h : SameModel s entries entries') (hname : name ≠ s) :
    Option.Rel (SameCollection s) (lookup? entries name) (lookup? entries' name) := by
  rw [← lookup?_without hname entries, ← lookup?_without hname entries']
  unfold SameModel at h
  generalize without s entries = as at h
  generalize without s entries' = bs at h
  induction h with
  | nil => exact .none
  | @cons entry entry' as bs hentry hrest ih =>
    obtain ⟨key, value⟩ := entry
    obtain ⟨key', value'⟩ := entry'
    obtain ⟨rfl, hvalue⟩ : key = key' ∧ SameCollection s value value' := hentry
    simp only [lookup?, List.find?_cons]
    split
    · exact .some hvalue
    · exact ih

theorem SameCollection.alike (h : SameCollection s v w) : v.CollectionAlike (SameItem s) w := by
  cases h with
  | refl => exact .refl v
  | list hv hw h => exact alike_of_untied (.inl hv) (.inl hw) h
  | tuple hv hw h => exact alike_of_untied (.inr hv) (.inr hw) h

end Value

namespace Record

variable {s : Text}

theorem agrees_of_sameModel {entries entries' : List (Value × Value)}
    (h : Value.SameModel s entries entries') :
    (mapping entries).Agrees (· ≠ s) (Value.CollectionAlike (Value.SameItem s))
      (mapping entries') := by
  intro name hname
  have hlookup := Value.lookup?_sameModel h hname
  rw [field?_mapping, field?_mapping]
  generalize Value.lookup? entries name = x at hlookup
  generalize Value.lookup? entries' name = y at hlookup
  cases hlookup with
  | none => exact .absent
  | some h => exact .present h.alike

theorem itemsAgree_sameItem (s : Text) : Lines.ItemsAgree (· ≠ s) (Value.SameItem s) := by
  intro v w h name hname
  cases h with
  | refl => exact .self .refl _
  | @map _ entries entries' hv hw h =>
    have hlookup : Value.lookup? entries name = Value.lookup? entries' name := by
      rw [← Value.lookup?_without hname entries, h, Value.lookup?_without hname]
    have hof {v : Value} {entries : List (Value × Value)} (hv : v.untied = .map entries) :
        (ofValue v).field? name = .ok (Value.lookup? entries name) := by
      rw [ofValue, hv, field?_mapping]
    rw [hof hv, hof hw, hlookup]
    cases Value.lookup? entries' name with
    | none => exact .absent
    | some x => exact .present (.refl x)

end Record

/-- A field that no marker of the sheet names has no influence on how a run ends and on what it
leaves. -/
theorem Run.fill_ignores (s : Text) {entries entries' : List (Value × Value)}
    (hmodel : Value.SameModel s entries entries') {run run' : Run} (hsheet : run'.sheet = run.sheet)
    (hnotes : run.notes.Alike (Value.SameItem s) run'.notes)
    (hs : ∀ col row c, run.sheet.get? col row = some c → (Marker.ofValue c.value).Among (· ≠ s)) :
    Option.Rel Failure.Alike (run.fill (.mapping entries)).failure?
        (run'.fill (.mapping entries')).failure? ∧
      (run'.fill (.mapping entries')).run.sheet.lines =
        (run.fill (.mapping entries)).run.sheet.lines ∧
      (run'.fill (.mapping entries')).run.sheet.maxRow =
        (run.fill (.mapping entries)).run.sheet.maxRow ∧
      (run'.fill (.mapping entries')).run.sheet.maxCol =
        (run.fill (.mapping entries)).run.sheet.maxCol := by
  obtain ⟨hfail, hlines, hrow, hcol⟩ := Run.fill_alike (Record.itemsAgree_sameItem s) .refl
    (Record.agrees_of_sameModel hmodel) hsheet hnotes (Sheet.among_lines hs)
  exact ⟨hfail, hlines, hrow, hcol⟩

def Run.staff : Run where
  sheet := .ofTexts [["$F{firm}", "$F{motto}"], ["$Each{staff}", ""], ["$F{name}", "$F{motto}"]]
  streams := []
  edits := []
  refusal := none

theorem Run.fill_staff_ignores_pay :
    (Run.staff.fill (.mapping [(.text "firm", .text "$F{pay}"),
        (.text "staff", .list [.map [(.text "name", .text "$Each{pay}"),
          (.text "pay", .list [])]])])).run.sheet.lines =
      (Run.staff.fill (.mapping [(.text "firm", .text "$F{pay}"), (.text "pay", .int 1),
        (.text "staff", .list [.map [(.text "name", .text "$Each{pay}")]])])).run.sheet.lines := by
  refine (Run.fill_ignores "pay" ?_ rfl ⟨.nil, rfl, rfl⟩ ?_).2.1
  · refine .cons ⟨rfl, .refl _⟩ (.cons ⟨rfl, .list rfl rfl (.cons (.map rfl rfl ?_) .nil)⟩ .nil)
    rfl
  · exact Sheet.among_ofTexts (by decide)

end SheetFill
