import SheetFill.Calendar.Basic
import SheetFill.Binary64.Basic
import SheetFill.Text.Basic

/-!
# Values of the data model

What a data model is made of and what a cell can be asked to hold. Besides plain data there are
objects with named fields, ready-made records some of whose fields fail when they are read, and
streams, whose items can be taken only once; a stream is held by its number, so that all who hold
it share what is left of it. Whatever else is met in a value, such as a function that belongs to it,
is kept by its kind alone.

A collection may be part of itself. Such collections form a knot: each of them is kept once, under
a number, and where one is part of another its number stands.
-/
namespace SheetFill

inductive Value where
  | null
  | bool (b : Bool)
  | int (n : Int)
  | real (x : Binary64)
  /-- A number that is none. It equals nothing, but as a key it is the same as itself, which its own
  number tells. -/
  | undefined (id : Nat)
  | text (s : Text)
  | bytes (octets : List UInt8)
  | date (d : Calendar.Date)
  | dateTime (t : Calendar.DateTime)
  | time (t : Calendar.Time)
  | duration (d : Calendar.Duration)
  | list (items : List Value)
  | tuple (items : List Value)
  | set (items : List Value)
  | map (entries : List (Value × Value))
  | object (fields : List (Text × Value))
  | record (fields : List (Text × Value)) (failing : List Text)
  | stream (id : Nat)
  /-- Something that is no data, by its kind and as messages show it. -/
  | other (kind shown : String)
  /-- The collection number `id` of a knot. -/
  | knot (collections : List Value) (id : Nat)
  /-- Within a knot, its collection number `id`. -/
  | again (id : Nat)
  deriving Inhabited

namespace Value

/-- A number that may be undefined; if it is, `id` tells it from others. -/
def ofReal (id : Nat) (x : Binary64) : Value :=
  if x.isNaN then .undefined id else .real x

/-- A part of a collection of a knot as a value of its own. -/
def outside (collections : List Value) : Value → Value
  | .again id => .knot collections id
  | v => v

def isAgain : Value → Bool
  | .again _ => true
  | _ => false

/-- A value that is no knot itself, though its parts may be. -/
def untied : Value → Value
  | .knot collections id =>
    let part := outside collections
    match collections.getD id .null with
    | .list items => .list (items.map part)
    | .tuple items => .tuple (items.map part)
    | .set items => .set (items.map part)
    | .map entries => .map (entries.map (fun (k, v) => (part k, part v)))
    | v => v
  | v => v

/-- The number a value counts as in comparisons, if it is a whole one. -/
def whole? : Value → Option Int
  | .int n => some n
  | .bool b => some (if b then 1 else 0)
  | _ => none

def sameNumber (a b : Value) : Option Bool :=
  match a, b with
  | .real x, .real y => some (x.same y)
  | .real x, b => b.whole?.map x.isWhole
  | a, .real y => a.whole?.map y.isWhole
  | a, b => a.whole?.bind fun m => b.whole?.map (fun n => m == n)

mutual
/-- Whether two values are the same key of a mapping. Numbers are compared by value, so that `1`,
`1.0` and `true` are one key. -/
def sameKey (a b : Value) : Bool :=
  match a, b with
  | .null, .null => true
  | .text s, .text t => s == t
  | .bytes s, .bytes t => s == t
  | .date s, .date t => s == t
  | .dateTime s, .dateTime t => s.same t
  | .time s, .time t => s.same t
  | .duration s, .duration t => s == t
  | .tuple s, .tuple t => sameKeys s t
  | .stream s, .stream t => s == t
  | .undefined s, .undefined t => s == t
  | a, b => (sameNumber a b).getD false

def sameKeys (as bs : List Value) : Bool :=
  match as, bs with
  | [], [] => true
  | a :: as, b :: bs => sameKey a b && sameKeys as bs
  | _, _ => false
end

mutual
/-- The part of a value that keeps it from being a key of a mapping. -/
def unhashable? : Value → Option Value
  | .list items => some (.list items)
  | .map entries => some (.map entries)
  | .set items => some (.set items)
  | .object fields => some (.object fields)
  | .tuple items => anyUnhashable? items
  | .knot collections id =>
    match collections.getD id .null with
    | .tuple items => (items.find? isAgain).map (outside collections)
    | _ => some (.knot collections id)
  | _ => none

def anyUnhashable? : List Value → Option Value
  | [] => none
  | v :: rest =>
    match unhashable? v with
    | some w => some w
    | none => anyUnhashable? rest
end

/-- A key that is there already keeps its place and gets the new value. -/
def insertEntry {α : Type} (entries : List (Value × α)) (key : Value) (value : α) :
    List (Value × α) :=
  match entries with
  | [] => [(key, value)]
  | (k, v) :: rest =>
    if sameKey k key then (k, value) :: rest else (k, v) :: insertEntry rest key value

def mapOf {α : Type} (entries : List (Value × α)) : List (Value × α) :=
  entries.foldl (fun m (k, v) => insertEntry m k v) []

def lookup? (entries : List (Value × Value)) (name : Text) : Option Value :=
  (entries.find? (fun (k, _) => match k with
    | .text s => s == name
    | _ => false)).map (·.2)

/-- Named fields of which a later one of the same name replaces the value of the earlier one. -/
def insertField (fields : List (Text × Value)) (name : Text) (value : Value) :
    List (Text × Value) :=
  match fields with
  | [] => [(name, value)]
  | (n, v) :: rest =>
    if n == name then (n, value) :: rest else (n, v) :: insertField rest name value

def fieldsOf (fields : List (Text × Value)) : List (Text × Value) :=
  fields.foldl (fun m (n, v) => insertField m n v) []

def field? (fields : List (Text × Value)) (name : Text) : Option Value :=
  (fields.find? (fun (n, _) => n == name)).map (·.2)

/-- Zero, empty and null are false; all else is true, an undefined number and every stream, even an
exhausted one, included. -/
def isTrue (v : Value) : Bool :=
  match v.untied with
  | .null => false
  | .bool b => b
  | .int n => n != 0
  | .real x => !x.isZero
  | .text s => !s.isEmpty
  | .bytes b => !b.isEmpty
  | .list items => !items.isEmpty
  | .tuple items => !items.isEmpty
  | .set items => !items.isEmpty
  | .map entries => !entries.isEmpty
  | .duration d => d.micros != 0
  | _ => true

inductive Items where
  | all (items : List Value)
  | stream (id : Nat)
  | none

/-- The items of a value: of a text its code points, of octets their numbers, of a mapping its
keys. -/
def items (v : Value) : Items :=
  match v.untied with
  | .list xs => .all xs
  | .tuple xs => .all xs
  | .set xs => .all xs
  | .map entries => .all (entries.map (·.1))
  | .text s => .all (s.points.map (fun p => .text ⟨[p]⟩))
  | .bytes b => .all (b.map (fun o => .int o.toNat))
  | .stream id => .stream id
  | _ => .none

end Value

end SheetFill
