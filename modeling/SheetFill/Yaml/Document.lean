import SheetFill.Yaml.Node
import SheetFill.Yaml.Token.Scan

/-!
# Documents of YAML

The nodes that a list of tokens describes. An alias is the node of its anchor, even where it stands
within that node.
-/
namespace SheetFill.Yaml

/-- The nodes of a document, the collections among them in the order in which they end, and the
outermost node. -/
structure Document where
  nodes : Graph
  ended : List Nat
  root : Nat

/-- Why tokens are no document: they do not fit together, there are not enough of them, or
collections are nested too deeply. -/
inductive ComposeError where
  | malformed
  | tokensMissing
  | tooDeep
  deriving DecidableEq, Repr

/-- What is left of the tokens, the meanings of the tag handles, the nodes of the anchors, all nodes
so far, the collections that have ended, the last of them first, and the number of those that have
not. -/
structure Composer where
  tokens : List Token
  handles : List (List Char × List Char)
  anchors : List (List Char × Nat)
  nodes : Graph
  ended : List Nat
  depth : Nat

abbrev Compose := EStateM ComposeError Composer

namespace Compose

def malformed {α : Type} : Compose α := throw .malformed

def peek : Compose Token := do
  match (← get).tokens with
  | t :: _ => return t
  | [] => throw .tokensMissing

def drop : Compose Unit :=
  modify (fun s => { s with tokens := s.tokens.drop 1 })

def accept (t : Token) : Compose Bool := do
  if (← peek) == t then
    drop
    return true
  else return false

def nextIsOneOf (ts : List Token) : Compose Bool := do
  return ts.contains (← peek)

def anchor? : Compose (Option (List Char)) := do
  match ← peek with
  | .anchor name =>
    drop
    return some name
  | _ => return none

def tag? : Compose (Option (Option (List Char) × List Char)) := do
  match ← peek with
  | .tag handle suffix =>
    drop
    return some (handle, suffix)
  | _ => return none

/-- The name of a tag: its handle is replaced by what that stands for. -/
def tagName (tag : Option (Option (List Char) × List Char)) : Compose (Option (List Char)) := do
  match tag with
  | none => return none
  | some (none, suffix) => return some suffix
  | some (some handle, suffix) =>
    match (← get).handles.find? (fun (h, _) => h == handle) with
    | some (_, meaning) => return some (meaning ++ suffix)
    | none => malformed

/-- The anchor and the tag of a node, in either order. -/
def properties : Compose (Option (List Char) × Option (List Char)) := do
  match ← anchor? with
  | some name => return (some name, ← tagName (← tag?))
  | none =>
    match ← tag? with
    | some tag =>
      let anchor ← anchor?
      return (anchor, ← tagName (some tag))
    | none => return (none, none)

/-- Whether a tag leaves the kind of a node open. -/
def isOpenTag (tag : Option (List Char)) : Bool :=
  tag.isNone || tag == some ['!']

/-- The tag of a scalar. An open tag lets the text of a plain scalar decide, and a lone exclamation
mark that of any. -/
def scalarTag (tag : Option (List Char)) (isPlain : Bool) (text : Text) : Tag :=
  match tag with
  | none => if isPlain then Plain.tag text.chars else .text
  | some name => if name == ['!'] then Plain.tag text.chars else .ofName name

def collectionTag (tag : Option (List Char)) (default : Tag) : Tag :=
  match tag with
  | none => default
  | some name => if name == ['!'] then default else .ofName name

/-- No two nodes may have the same anchor. -/
def checkAnchor (anchor : Option (List Char)) : Compose Unit := do
  match anchor with
  | none => pure ()
  | some name => if (← get).anchors.any (fun (n, _) => n == name) then malformed

def add (anchor : Option (List Char)) (n : Node) : Compose Nat := do
  let number := (← get).nodes.size
  modify fun s =>
    let anchors := match anchor with
      | none => s.anchors
      | some name => (name, number) :: s.anchors
    { s with anchors, nodes := s.nodes.push n }
  return number

/-- How deeply collections may be nested. Each takes two calls within the others, of which there may
be a thousand unless that limit is set otherwise; twenty-two are under way or are still needed for
the innermost part. -/
def maxDepth : Nat := (1000 - 22) / 2

/-- Adds a collection whose parts are yet to come. -/
def start (anchor : Option (List Char)) (n : Node) : Compose Nat := do
  if (← get).depth == maxDepth then throw .tooDeep
  modify (fun s => { s with depth := s.depth + 1 })
  add anchor n

def finish (number : Nat) (n : Node) : Compose Nat := do
  modify fun s =>
    { s with nodes := s.nodes.put number n, ended := number :: s.ended, depth := s.depth - 1 }
  return number

def nothing : Compose Nat := add none .nothing

def aliased (name : List Char) : Compose Nat := do
  match (← get).anchors.find? (fun (n, _) => n == name) with
  | some (_, number) => return number
  | none => malformed

mutual
/-- A node. Block notation is allowed if `block` holds, and if `unindented` holds a sequence without
indentation of its own is too. -/
def node (block unindented : Bool) : (fuel : Nat) → Compose Nat
  | 0 => malformed
  | fuel + 1 => do
    match ← peek with
    | .alias name =>
      drop
      aliased name
    | _ =>
      let (anchor, tag) ← properties
      let next ← peek
      checkAnchor anchor
      let sequenceTag := collectionTag tag .sequence
      let mappingTag := collectionTag tag .mapping
      match next with
      | .scalar text isPlain =>
        drop
        add anchor (.scalar (scalarTag tag isPlain text) text)
      | .flowSequenceStart =>
        drop
        let number ← start anchor (.sequence sequenceTag [])
        let items ← flowItems fuel true []
        finish number (.sequence sequenceTag items)
      | .flowMappingStart =>
        drop
        let number ← start anchor (.mapping mappingTag [])
        let entries ← flowEntries fuel true []
        finish number (.mapping mappingTag entries)
      | next =>
        if unindented && next == .blockEntry then
          let number ← start anchor (.sequence sequenceTag [])
          let items ← unindentedItems fuel []
          finish number (.sequence sequenceTag items)
        else if block && next == .blockSequenceStart then
          drop
          let number ← start anchor (.sequence sequenceTag [])
          let items ← blockItems fuel []
          finish number (.sequence sequenceTag items)
        else if block && next == .blockMappingStart then
          drop
          let number ← start anchor (.mapping mappingTag [])
          let entries ← blockEntries fuel []
          finish number (.mapping mappingTag entries)
        else if anchor.isSome || tag.isSome then
          add anchor (.scalar (scalarTag tag (isOpenTag tag) "") "")
        else malformed

/-- The items of an indented sequence behind those `done`. -/
def blockItems : (fuel : Nat) → List Nat → Compose (List Nat)
  | 0, _ => malformed
  | fuel + 1, done => do
    if ← accept .blockEntry then
      let item ←
        if ← nextIsOneOf [.blockEntry, .blockEnd] then nothing else node true false fuel
      blockItems fuel (item :: done)
    else if ← accept .blockEnd then return done.reverse
    else malformed

def unindentedItems : (fuel : Nat) → List Nat → Compose (List Nat)
  | 0, _ => malformed
  | fuel + 1, done => do
    if ← accept .blockEntry then
      let item ←
        if ← nextIsOneOf [.blockEntry, .key, .value, .blockEnd] then nothing
        else node true false fuel
      unindentedItems fuel (item :: done)
    else return done.reverse

def blockEntries : (fuel : Nat) → List Entry → Compose (List Entry)
  | 0, _ => malformed
  | fuel + 1, done => do
    if ← accept .key then
      let key ←
        if ← nextIsOneOf [.key, .value, .blockEnd] then nothing else node true true fuel
      let value ← blockValue fuel
      blockEntries fuel ((key, value) :: done)
    else if ← accept .blockEnd then return done.reverse
    else malformed

def blockValue : (fuel : Nat) → Compose Nat
  | 0 => malformed
  | fuel + 1 => do
    if ← accept .value then
      if ← nextIsOneOf [.key, .value, .blockEnd] then nothing else node true true fuel
    else nothing

/-- The items of a sequence in brackets behind those `done`. An entry of a mapping may stand there
for a mapping of one entry. -/
def flowItems : (fuel : Nat) → (first : Bool) → List Nat → Compose (List Nat)
  | 0, _, _ => malformed
  | fuel + 1, first, done => do
    if ← accept .flowSequenceEnd then return done.reverse
    if !first then
      if !(← accept .flowEntry) then malformed
    if ← accept .key then
      let number ← start none (.mapping .mapping [])
      let key ←
        if ← nextIsOneOf [.value, .flowEntry, .flowSequenceEnd] then nothing
        else node false false fuel
      let value ← flowValue .flowSequenceEnd fuel
      let item ← finish number (.mapping .mapping [(key, value)])
      flowItems fuel false (item :: done)
    else if ← accept .flowSequenceEnd then return done.reverse
    else
      let item ← node false false fuel
      flowItems fuel false (item :: done)

/-- The entries of a mapping in braces behind those `done`. A node alone is a key. -/
def flowEntries : (fuel : Nat) → (first : Bool) → List Entry → Compose (List Entry)
  | 0, _, _ => malformed
  | fuel + 1, first, done => do
    if ← accept .flowMappingEnd then return done.reverse
    if !first then
      if !(← accept .flowEntry) then malformed
    if ← accept .key then
      let key ←
        if ← nextIsOneOf [.value, .flowEntry, .flowMappingEnd] then nothing
        else node false false fuel
      let value ← flowValue .flowMappingEnd fuel
      flowEntries fuel false ((key, value) :: done)
    else if ← accept .flowMappingEnd then return done.reverse
    else
      let key ← node false false fuel
      let value ← nothing
      flowEntries fuel false ((key, value) :: done)

def flowValue (closing : Token) : (fuel : Nat) → Compose Nat
  | 0 => malformed
  | fuel + 1 => do
    if ← accept .value then
      if ← nextIsOneOf [.flowEntry, closing] then nothing else node false false fuel
    else nothing
end

/-- The handles that need no directive. -/
def standardHandles : List (List Char × List Char) :=
  [(['!'], ['!']), (['!', '!'], coreTagStart)]

/-- The directives before a document; YAML of another major version than one is refused. -/
def directives : (fuel : Nat) → (hasVersion : Bool) → Compose Unit
  | 0, _ => malformed
  | fuel + 1, hasVersion => do
    match ← peek with
    | .version major =>
      drop
      if hasVersion || major != 1 then malformed
      directives fuel true
    | .tagHandle handle meaning =>
      drop
      if (← get).handles.any (fun (h, _) => h == handle) then malformed
      modify (fun s => { s with handles := (handle, meaning) :: s.handles })
      directives fuel hasVersion
    | .otherDirective =>
      drop
      directives fuel hasVersion
    | _ => modify (fun s => { s with handles := s.handles ++ standardHandles })

def dropDocumentEnds : (fuel : Nat) → Compose Unit
  | 0 => malformed
  | fuel + 1 => do
    if ← accept .documentEnd then dropDocumentEnds fuel

/-- The root of a document behind directives and its start mark. -/
def explicitRoot (fuel : Nat) : Compose Nat := do
  directives fuel false
  if !(← accept .documentStart) then malformed
  match ← peek with
  | .version _ | .tagHandle _ _ | .otherDirective | .documentStart | .documentEnd | .streamEnd =>
    nothing
  | _ => node true false fuel

/-- Refuses a second document. Its directives are looked through first. -/
def secondDocument {α : Type} (fuel : Nat) : Compose α := do
  modify (fun s => { s with handles := [] })
  directives fuel false
  malformed

/-- The root of the only document, if there is one. -/
def root? (fuel : Nat) : Compose (Option Nat) := do
  let root ←
    match ← peek with
    | .streamEnd => pure none
    | .version _ | .tagHandle _ _ | .otherDirective | .documentStart => some <$> explicitRoot fuel
    | _ => do
      modify (fun s => { s with handles := standardHandles })
      some <$> node true false fuel
  dropDocumentEnds fuel
  if (← peek) == .streamEnd then return root else secondDocument fuel

end Compose

inductive DocumentError where
  | malformed
  | token (e : TokenError)
  | tooDeep
  deriving DecidableEq, Repr

def document? (input : Input) : Except DocumentError (Option Document) :=
  let (tokens, failure?) := tokens input
  match Compose.root? (2 * tokens.length + 4) ⟨tokens, [], [], #[], [], 0⟩ with
  | .ok root s =>
    match failure? with
    | none => .ok (root.map (⟨s.nodes, s.ended.reverse, ·⟩))
    | some e => .error (.token e)
  | .error .malformed _ => .error .malformed
  | .error .tooDeep _ => .error .tooDeep
  | .error .tokensMissing _ =>
    match failure? with
    | none => .error .malformed
    | some e => .error (.token e)

end SheetFill.Yaml
