import SheetFill.Value.SetOrder
import SheetFill.Yaml.Merge

/-!
# Contents of YAML nodes

What each node of a document holds, as far as the root leads to it: a scalar its value, a collection
the numbers of its parts. Keys are scalars, so that the entries of a mapping are those that are left
when later ones have replaced earlier ones of the same key. The collections are gone through level
by level from the root down, so that of two faults the one nearer to the root counts, and of two on
one level the first.
-/
namespace SheetFill.Yaml

inductive Content where
  | scalar (v : Value)
  | list (items : List Nat)
  | pairs (items : List Entry)
  | map (entries : List (Value × Nat))
  | set (items : List Value)
  /-- A collection that was met and not yet gone through. -/
  | unread

def isCollectionTag (tag : Tag) : Bool :=
  [Tag.orderedMap, .pairs, .set, .sequence, .mapping].contains tag

/-- The text of a node that is asked for a scalar: a mapping gives that of its default entry. A
mapping that leads back to itself in this way has none. -/
def Graph.text (g : Graph) : (fuel : Nat) → (n : Nat) → Except BuildError Text
  | 0, _ => .error .tooDeep
  | fuel + 1, n =>
    match g.node n with
    | .scalar _ text => .ok text
    | .sequence _ _ => .error .malformed
    | .mapping _ entries =>
      match entries.find? (fun (key, _) => (g.node key).tag == .value) with
      | some (_, value) => g.text fuel value
      | none => .error .malformed

/-- The value of a node whose tag makes it a scalar. -/
def Graph.scalarValue (g : Graph) (n : Nat) : Except BuildError Value := do
  let text ← g.text (g.size + 1) n
  let node := g.node n
  match node.tag with
  | .null => return .null
  | .bool => .bool <$> Scalar.bool text.chars
  | .int => .int <$> Scalar.int text.chars
  | .float => Scalar.float (n + 1) text.chars
  | .binary => .bytes <$> Scalar.binary text.chars
  | .timestamp => if node.isMapping then throw .noText else Scalar.timestamp text.chars
  | .text => return .text text
  | _ => throw .malformed

/-- The nodes of a document, what is known of them, the collections that were met and not yet gone
through, the last of them first, and a bound on the merge entries. -/
structure Survey where
  nodes : Graph
  contents : Array (Option Content)
  met : List Nat
  merges : Nat

namespace Survey

abbrev Step := EStateM BuildError Survey

def note (n : Nat) (c : Content) : Step Unit :=
  modify (fun s => { s with contents := s.contents.setIfInBounds n (some c) })

/-- Meets a node: the first time its value is found if it is a scalar, and put off if not. -/
def meet (n : Nat) : Step Unit := do
  let s ← get
  if (s.contents.getD n none).isNone then
    if isCollectionTag (s.nodes.node n).tag then
      note n .unread
      modify (fun s => { s with met := n :: s.met })
    else
      match s.nodes.scalarValue n with
      | .ok v => note n (.scalar v)
      | .error e => throw e

def meetPair (e : Entry) : Step Unit := do
  meet e.1
  meet e.2

/-- Meets the only entry of a mapping, which stands for a pair. -/
def pair (n : Nat) : Step Entry := do
  match (← get).nodes.node n with
  | .mapping _ [e] =>
    meetPair e
    return e
  | _ => throw .malformed

/-- Meets an entry of a mapping, whose key may be no collection. -/
def entry (e : Entry) : Step (Value × Nat) := do
  meet e.1
  match (← get).contents.getD e.1 none with
  | some (.scalar key) =>
    meet e.2
    return (key, e.2)
  | _ => throw .malformed

/-- Meets the entries of a mapping and of those that it takes in. -/
def entries (n : Nat) : Step (List (Value × Nat)) := do
  let s ← get
  match s.nodes.flatten (s.merges + 1) n [] with
  | .error e => throw e
  | .ok nodes =>
    set { s with nodes }
    return Value.mapOf (← (nodes.node n).entries.mapM entry)

def read (n : Nat) : Step Unit := do
  let node := (← get).nodes.node n
  match node.tag, node with
  | .sequence, .sequence _ items =>
    items.forM meet
    note n (.list items)
  | .orderedMap, .sequence _ items => note n (.pairs (← items.mapM pair))
  | .pairs, .sequence _ items => note n (.pairs (← items.mapM pair))
  | .mapping, .mapping _ _ => note n (.map (← entries n))
  | .set, .mapping _ _ => note n (.set (Value.inSetOrder ((← entries n).map (·.1))))
  | _, _ => throw .malformed

/-- Goes through the collections that were met, and then through those that this leads to. -/
def readLevels : (fuel : Nat) → Step Unit
  | 0 => pure ()
  | fuel + 1 => do
    let level := (← get).met.reverse
    if !level.isEmpty then
      modify (fun s => { s with met := [] })
      level.forM read
      readLevels fuel

/-- Goes through all that a root leads to. Each level meets a node for the first time. -/
def readFrom (root : Nat) : Step Unit := do
  meet root
  readLevels ((← get).nodes.size + 1)

def run (nodes : Graph) (root : Nat) : Except BuildError (Array (Option Content)) :=
  match readFrom root ⟨nodes, Array.replicate nodes.size none, [], nodes.countMerges⟩ with
  | .ok _ s => .ok s.contents
  | .error e _ => .error e

end Survey

end SheetFill.Yaml
