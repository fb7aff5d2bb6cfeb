import SheetFill.Value.Attribute

/-!
# Records

Read-only access to the data model: a record is asked whether it has a field and what the field
holds. Mappings, objects and ready-made records all answer these two questions.
-/
namespace SheetFill

inductive Record where
  /-- A field exists when its name is a key. -/
  | mapping (entries : List (Value × Value))
  /-- A field exists when the value has an attribute of its name. -/
  | attributes (owner : Value)
  | custom (fields : List (Text × Value)) (failing : List Text)
  /-- An object with attributes named like the two questions is asked through them, and they are no
  answers; the first value stands under the name of the question whether a field exists. -/
  | unanswering (owner ofHas ofGet : Value)

namespace Record

inductive Error where
  | missingKey (name : Text)
  | missingAttribute (kind : String) (name : Text)
  | failed (name : Text)
  | notCallable (kind : String)
  deriving DecidableEq, Repr

def Error.message : Error → String
  | .missingKey name => Text.quoted name
  | .missingAttribute kind name =>
    "'" ++ kind ++ "' object has no attribute '" ++ name.printed ++ "'"
  | .failed name => name.printed
  | .notCallable kind => "'" ++ kind ++ "' object is not callable"

/-- The record that a value answers as. -/
def ofValue (v : Value) : Record :=
  match v.untied with
  | .map entries => .mapping entries
  | .record fields failing => .custom fields failing
  | .object fields =>
    match Value.field? fields "has_field", Value.field? fields "get_field" with
    | some .null, _ => .attributes (.object fields)
    | _, some .null => .attributes (.object fields)
    | some h, some g => .unanswering (.object fields) h g
    | _, _ => .attributes (.object fields)
  | v => .attributes v

def hasField (r : Record) (name : Text) : Except Error Bool :=
  match r with
  | .mapping entries => .ok (Value.lookup? entries name).isSome
  | .attributes owner => .ok (owner.attribute? name).isSome
  | .custom fields failing =>
    .ok ((Value.field? fields name).isSome || failing.contains name)
  | .unanswering _ h _ => .error (.notCallable h.kindName)

def getField (r : Record) (name : Text) : Except Error Value :=
  match r with
  | .mapping entries =>
    match Value.lookup? entries name with
    | some v => .ok v
    | none => .error (.missingKey name)
  | .attributes owner =>
    match owner.attribute? name with
    | some v => .ok v
    | none => .error (.missingAttribute owner.kindName name)
  | .custom fields failing =>
    if failing.contains name then .error (.failed name)
    else
      match Value.field? fields name with
      | some v => .ok v
      | none => .error (.missingKey name)
  | .unanswering _ _ g => .error (.notCallable g.kindName)

def field? (r : Record) (name : Text) : Except Error (Option Value) :=
  match r.hasField name with
  | .error e => .error e
  | .ok false => .ok none
  | .ok true =>
    match r.getField name with
    | .error e => .error e
    | .ok v => .ok (some v)

def kindName : Record → String
  | .mapping _ => "MappingRecord"
  | .attributes _ => "ObjectRecord"
  | .custom fields failing => (Value.record fields failing).kindName
  | .unanswering owner _ _ => owner.shortKindName

def shown? (r : Record) : Option String :=
  match r with
  | .mapping entries =>
    (Value.list (entries.map (·.1))).shown?.map (fun keys => r.kindName ++ "(" ++ keys ++ ")")
  | .attributes owner => some (r.kindName ++ "(" ++ owner.shortKindName ++ ")")
  | _ => none

end Record

end SheetFill
