import SheetFill.Proofs.Expansion.Agreement

/-!
# Mappings and objects as records

A record answers for its fields, whatever it is made of. A mapping with text keys and an object with
the same fields give the same answers, unless the object is taken for a record of its own or is
asked for something that all objects have. So it makes no difference to a run which of the two the
model is, or an item of its collections.
-/
namespace SheetFill

namespace Value

/-- A mapping with text keys, or a plain object, that has these fields. What has both names by which
a record is asked is no plain object. -/
inductive HasFields (fields : List (Text × Value)) : Value → Prop
  | mapping {v : Value}
      (h : v.untied = .map (fields.map fun (name, value) => (.text name, value))) :
      HasFields fields v
  | object {v : Value} (h : v.untied = .object fields)
      (hplain : field? fields "has_field" = none ∨ field? fields "get_field" = none) :
      HasFields fields v

inductive SameRecord : Value → Value → Prop
  | refl (v : Value) : SameRecord v v
  | fields {v w : Value} {fields : List (Text × Value)} (hv : HasFields fields v)
      (hw : HasFields fields w) : SameRecord v w

inductive SameRecords : Value → Value → Prop
  | refl (v : Value) : SameRecords v v
  | list {v w : Value} {as bs : List Value} (hv : v.untied = .list as) (hw : w.untied = .list bs)
      (h : List.Forall₂ SameRecord as bs) : SameRecords v w
  | tuple {v w : Value} {as bs : List Value} (hv : v.untied = .tuple as) (hw : w.untied = .tuple bs)
      (h : List.Forall₂ SameRecord as bs) : SameRecords v w

def SameFields {α : Type} : List (α × Value) → List (α × Value) → Prop :=
  List.Forall₂ fun field field' => field.1 = field'.1 ∧ SameRecords field.2 field'.2

/-- Models that differ in nothing but what records are made of. Of the models themselves one may be
a mapping and the other an object, or both are of the same kind; their collections have the same
records for items. -/
inductive SameModels : Value → Value → Prop
  | fields {v w : Value} {fields fields' : List (Text × Value)} (hv : HasFields fields v)
      (hw : HasFields fields' w) (h : SameFields fields fields') : SameModels v w
  | mapping {v w : Value} {entries entries' : List (Value × Value)} (hv : v.untied = .map entries)
      (hw : w.untied = .map entries') (h : SameFields entries entries') : SameModels v w
  | object {v w : Value} {fields fields' : List (Text × Value)} (hv : v.untied = .object fields)
      (hw : w.untied = .object fields') (h : SameFields fields fields') : SameModels v w
  | record {v w : Value} {fields fields' : List (Text × Value)} {failing : List Text}
      (hv : v.untied = .record fields failing) (hw : w.untied = .record fields' failing)
      (h : SameFields fields fields') : SameModels v w

variable {v w : Value} {fields fields' : List (Text × Value)}
  {entries entries' : List (Value × Value)}

/-- Every plain object has something under the name, whatever its fields are. -/
def OnEveryObject (name : Text) : Prop :=
  ∀ fields : List (Text × Value), ((object fields).attribute? name).isSome

/-- The names of what plain objects have beside their fields. -/
def objectNames : List Text :=
  (commonOperators ++ commonFunctions ++ ["__class__", "__doc__", "__hash__", "__dict__"]).map
    Text.ofString

theorem operation?_object {name : Text} (hname : name ∉ objectNames) :
    operation? (object fields) name = none := by
  have hcommon (n : String) (hn : n ∈ commonOperators ++ commonFunctions) :
      ((n : Text) == name) = false := by
    rw [beq_eq_false_iff_ne]
    rintro rfl
    exact hname (List.mem_map_of_mem (List.mem_append_left _ hn))
  have hoperators : (commonOperators ++ operators (object fields)).find?
      (fun (n : String) => (n : Text) == name) = none := by
    rw [List.find?_eq_none]
    intro n hn
    simp [hcommon n (List.mem_append_left _ (by simpa [operators] using hn))]
  have hfunctions : (commonFunctions ++ functions (object fields)).find?
      (fun (n : String) => (n : Text) == name) = none := by
    rw [List.find?_eq_none]
    intro n hn
    simp [hcommon n (List.mem_append_right _ (by simpa [functions] using hn))]
  rw [operation?, hoperators, hfunctions]
  rfl

theorem attribute?_object {name : Text} (hname : name ∉ objectNames) :
    (object fields).attribute? name = field? fields name := by
  obtain ⟨hclass, hdoc, hhash, hdict⟩ :
      name ≠ "__class__" ∧ name ≠ "__doc__" ∧ name ≠ "__hash__" ∧ name ≠ "__dict__" := by
    simp only [objectNames, List.map_append, List.mem_append, not_or] at hname
    simpa using hname.2
  have hparts : field? (commonParts (object fields) ++ parts (object fields)) name = none := by
    simp [field?, commonParts, parts, hclass.symm, hdoc.symm, hhash.symm, hdict.symm]
  have hown : ownAttribute? (object fields) name = none := by
    rw [ownAttribute?, hparts, operation?_object hname]
    rfl
  simp [attribute?, reserved, hclass, hdict, hown]

theorem isSome_operation?_object {n : String} (hn : n ∈ commonOperators ++ commonFunctions) :
    (operation? (object fields) n).isSome := by
  rw [operation?]
  split
  · rfl
  · next hnone =>
    rw [List.find?_eq_none] at hnone
    rcases List.mem_append.mp hn with h | h
    · exact absurd (beq_self_eq_true (n : Text)) (hnone n (List.mem_append_left _ h))
    · rw [Option.isSome_map, List.find?_isSome]
      exact ⟨n, List.mem_append_left _ h, beq_self_eq_true _⟩

theorem isSome_ownAttribute?_object {name : Text} (hname : name ∈ objectNames) :
    (ownAttribute? (object fields) name).isSome := by
  obtain ⟨n, hn, rfl⟩ := List.mem_map.mp hname
  rw [ownAttribute?, Option.isSome_or, Bool.or_eq_true]
  rcases List.mem_append.mp hn with h | h
  · exact .inr (isSome_operation?_object h)
  · left
    simp only [List.mem_cons, List.not_mem_nil, or_false] at h
    rcases h with rfl | rfl | rfl | rfl <;> simp [field?, commonParts, parts]

theorem onEveryObject_iff {name : Text} : OnEveryObject name ↔ name ∈ objectNames := by
  constructor
  · intro hevery
    by_contra hname
    have hnone := hevery []
    rw [attribute?_object hname] at hnone
    cases hnone
  · intro hname fields
    rw [attribute?]
    split_ifs
    · exact isSome_ownAttribute?_object hname
    · rw [Option.isSome_or, isSome_ownAttribute?_object hname, Bool.or_true]

instance : DecidablePred OnEveryObject := fun _ => decidable_of_iff _ onEveryObject_iff.symm

theorem lookup?_texts (fields : List (Text × Value)) (name : Text) :
    lookup? (fields.map fun (name, value) => (.text name, value)) name = field? fields name := by
  rw [lookup?, List.find?_map, Option.map_map]
  rfl

theorem SameRecords.alike (h : SameRecords v w) : v.CollectionAlike SameRecord w := by
  cases h with
  | refl => exact .refl v
  | list hv hw h => exact alike_of_untied (.inl hv) (.inl hw) h
  | tuple hv hw h => exact alike_of_untied (.inr hv) (.inr hw) h

theorem SameRecords.kindName (h : SameRecords v w) : v.kindName = w.kindName := by
  cases h with
  | refl => rfl
  | list hv hw h => simp [Value.kindName, hv, hw]
  | tuple hv hw h => simp [Value.kindName, hv, hw]

theorem SameRecords.null (h : SameRecords v w) : v = .null ↔ w = .null := by
  cases h with
  | refl => rfl
  | list hv hw h =>
    constructor <;> rintro rfl
    · simp [untied] at hv
    · simp [untied] at hw
  | tuple hv hw h =>
    constructor <;> rintro rfl
    · simp [untied] at hv
    · simp [untied] at hw

theorem SameFields.find? {α : Type} {as bs : List (α × Value)} (h : SameFields as bs)
    {found : α × Value → Bool} (hfound : ∀ key v w, found (key, v) = found (key, w)) :
    Option.Rel SameRecords ((as.find? found).map (·.2)) ((bs.find? found).map (·.2)) := by
  induction h with
  | nil => exact .none
  | @cons a b as bs hab hrest ih =>
    obtain ⟨key, v⟩ := a
    obtain ⟨key', w⟩ := b
    obtain ⟨rfl, hvw⟩ : key = key' ∧ SameRecords v w := hab
    rw [List.find?_cons, List.find?_cons, hfound key w v]
    cases found (key, v) with
    | true => exact .some hvw
    | false => exact ih

theorem SameFields.field? (h : SameFields fields fields') (name : Text) :
    Option.Rel SameRecords (field? fields name) (field? fields' name) :=
  h.find? fun _ _ _ => rfl

def Holds (fields : List (Text × Value)) (name : Text) : Prop :=
  ∃ v, field? fields name = some v ∧ v ≠ .null

theorem SameFields.holds (h : SameFields fields fields') (name : Text) :
    Holds fields name ↔ Holds fields' name := by
  unfold Holds
  have hname := h.field? name
  generalize Value.field? fields name = x at hname
  generalize Value.field? fields' name = y at hname
  cases hname with
  | none => simp
  | some h => simp [h.null]

theorem SameFields.lookup? (h : SameFields entries entries') (name : Text) :
    Option.Rel SameRecords (lookup? entries name) (lookup? entries' name) :=
  h.find? fun _ _ _ => rfl

end Value

namespace Record

variable {v w : Value} {fields fields' : List (Text × Value)}

theorem field?_attributes (fields : List (Text × Value)) {name : Text}
    (hname : ¬ Value.OnEveryObject name) :
    (attributes (.object fields)).field? name = .ok (Value.field? fields name) := by
  have hbeside := mt Value.onEveryObject_iff.mpr hname
  simp only [field?, hasField, getField, Value.attribute?_object hbeside]
  cases Value.field? fields name <;> rfl

theorem field?_custom (fields : List (Text × Value)) (failing : List Text) (name : Text) :
    (custom fields failing).field? name =
      if failing.contains name then .error (.failed name) else .ok (Value.field? fields name) := by
  simp only [field?, hasField, getField]
  cases failing.contains name <;> cases Value.field? fields name <;> rfl

/-- An object is taken for a record of its own where both names are there and not null. -/
theorem ofValue_object (h : v.untied = .object fields) :
    (Value.Holds fields "has_field" ∧ Value.Holds fields "get_field" ∧
        ∃ x y, Value.field? fields "has_field" = some x ∧
          ofValue v = .unanswering (.object fields) x y) ∨
      (¬ (Value.Holds fields "has_field" ∧ Value.Holds fields "get_field") ∧
        ofValue v = .attributes (.object fields)) := by
  rw [ofValue, h]
  dsimp only
  split
  · rename_i hx
    exact .inr ⟨by simp [Value.Holds, hx], rfl⟩
  · rename_i hy _
    exact .inr ⟨by simp [Value.Holds, hy], rfl⟩
  · rename_i x y hxnull hynull hx hy
    exact .inl ⟨⟨x, hx, hxnull⟩, ⟨y, hy, hynull⟩, x, y, hx, rfl⟩
  · rename_i hnone
    refine .inr ⟨?_, rfl⟩
    rintro ⟨⟨x, hx, -⟩, y, hy, -⟩
    exact hnone x y hx hy

theorem field?_of_hasFields (h : v.HasFields fields) {name : Text}
    (hname : ¬ Value.OnEveryObject name) :
    (ofValue v).field? name = .ok (Value.field? fields name) := by
  cases h with
  | mapping h => rw [ofValue, h, field?_mapping, Value.lookup?_texts]
  | object h hplain =>
    rcases ofValue_object h with ⟨⟨x, hx, -⟩, ⟨y, hy, -⟩, -⟩ | ⟨-, hv⟩
    · rcases hplain with hnone | hnone
      · simp [hnone] at hx
      · simp [hnone] at hy
    · rw [hv, field?_attributes _ hname]

theorem fieldAlike_of_rel {x y : Option Value} (h : Option.Rel Value.SameRecords x y) :
    Value.FieldAlike (Value.CollectionAlike Value.SameRecord) (.ok x) (.ok y) := by
  cases h with
  | none => exact .absent
  | some h => exact .present h.alike

theorem agrees_of_sameModels (h : v.SameModels w) :
    (ofValue v).Agrees (¬ Value.OnEveryObject ·) (Value.CollectionAlike Value.SameRecord)
      (ofValue w) := by
  intro name hname
  cases h with
  | fields hv hw h =>
    rw [field?_of_hasFields hv hname, field?_of_hasFields hw hname]
    exact fieldAlike_of_rel (h.field? name)
  | mapping hv hw h =>
    rw [ofValue, hv, ofValue, hw, field?_mapping, field?_mapping]
    exact fieldAlike_of_rel (h.lookup? name)
  | object hv hw h =>
    rcases ofValue_object hv with ⟨hhas, hget, x, y, hx, hv⟩ | ⟨hplain, hv⟩
    · rcases ofValue_object hw with ⟨-, -, x', y', hx', hw⟩ | ⟨hplain, -⟩
      · have hkind := h.field? "has_field"
        rw [hx, hx'] at hkind
        cases hkind with
        | some hkind =>
          rw [hv, hw]
          simp only [field?, hasField, hkind.kindName]
          exact .error _
      · exact absurd ⟨(h.holds _).mp hhas, (h.holds _).mp hget⟩ hplain
    · rcases ofValue_object hw with ⟨hhas, hget, -⟩ | ⟨-, hw⟩
      · exact absurd ⟨(h.holds _).mpr hhas, (h.holds _).mpr hget⟩ hplain
      · rw [hv, hw, field?_attributes _ hname, field?_attributes _ hname]
        exact fieldAlike_of_rel (h.field? name)
  | record hv hw h =>
    rw [ofValue, hv, ofValue, hw, field?_custom, field?_custom]
    split_ifs
    · exact .error _
    · exact fieldAlike_of_rel (h.field? name)

theorem itemsAgree_sameRecord : Lines.ItemsAgree (¬ Value.OnEveryObject ·) Value.SameRecord := by
  intro v w h name hname
  cases h with
  | refl => exact .self .refl _
  | fields hv hw =>
    rw [field?_of_hasFields hv hname, field?_of_hasFields hw hname]
    exact .self .refl _

end Record

def Run.team : Run where
  sheet := .ofTexts [["$F{team}", "$F{captain}"], ["$Each{members}", ""], ["$F{name}", "$F{team}"],
    ["$F{members}", ""]]
  streams := []
  edits := []
  refusal := none

end SheetFill
