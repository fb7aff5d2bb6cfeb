import SheetFill.Yaml.Content
import SheetFill.Yaml.Document

/-!
# Values of YAML documents

The value that a document stands for. A collection gets its value from those of its parts; the
collections that are parts of themselves, and those that lead to them, form a knot.
-/
namespace SheetFill.Yaml

abbrev Values := Array (Option Value)

def Values.value? (vs : Values) (n : Nat) : Option Value := vs.getD n none

def Values.pair? (vs : Values) (e : Entry) : Option (Value × Value) := do
  return (← vs.value? e.1, ← vs.value? e.2)

def Content.value? (vs : Values) : Content → Option Value
  | .scalar v => some v
  | .list items => .list <$> items.mapM vs.value?
  | .pairs items => .list <$> items.mapM (fun e => do
      let (a, b) ← vs.pair? e
      return .tuple [a, b])
  | .map entries => .map <$> entries.mapM (fun (key, n) => do return (key, ← vs.value? n))
  | .set items => some (.set items)
  | .unread => none

abbrev Contents := Array (Option Content)

/-- Finds values for collections in turn, and gives those that are left without. -/
def Contents.valuesOnce (cs : Contents) (collections : List Nat) (vs : Values) :
    Values × List Nat :=
  collections.foldl (fun (vs, left) n =>
    match (cs.getD n none).bind (·.value? vs) with
    | some v => (vs.setIfInBounds n (some v), left)
    | none => (vs, n :: left)) (vs, [])

/-- Finds values for collections until no more can be found. As a rule parts end before the
collections that they are parts of, so that once is enough. -/
def Contents.values (cs : Contents) : (fuel : Nat) → (collections : List Nat) → Values →
    Values × List Nat
  | 0, collections, vs => (vs, collections)
  | fuel + 1, collections, vs =>
    let (vs, left) := cs.valuesOnce collections vs
    if left.isEmpty || left.length == collections.length then (vs, left.reverse)
    else cs.values fuel left.reverse vs

/-- The collections of a knot: those with the given numbers, and behind them the pairs in them of
which a part is in the knot. -/
def Contents.knot (cs : Contents) (vs : Values) (members : List Nat) : List Value :=
  let part (n : Nat) : Value := (vs.value? n).getD (.again (members.idxOf n))
  let pair (pairs : List Value) (e : Entry) : Value × List Value :=
    let tuple := Value.tuple [part e.1, part e.2]
    match vs.pair? e with
    | some _ => (tuple, pairs)
    | none => (.again (members.length + pairs.length), pairs ++ [tuple])
  let step (state : List Value × List Value) (n : Nat) : List Value × List Value :=
    let (done, pairs) := state
    match cs.getD n none with
    | some (.list items) => (.list (items.map part) :: done, pairs)
    | some (.map entries) => (.map (entries.map (fun (key, n) => (key, part n))) :: done, pairs)
    | some (.pairs items) =>
      let (found, pairs) := items.foldl (fun (found, pairs) e =>
        let (v, pairs) := pair pairs e
        (v :: found, pairs)) ([], pairs)
      (.list found.reverse :: done, pairs)
    | _ => (.null :: done, pairs)
  let (done, pairs) := members.foldl step ([], [])
  done.reverse ++ pairs

def Document.value (d : Document) : Except BuildError Value := do
  let contents ← Survey.run d.nodes d.root
  let scalars : Values := contents.map fun c =>
    match c with
    | some (.scalar v) => some v
    | _ => none
  let collections := d.ended.filter (fun n => (contents.getD n none).isSome)
  let collections := collections.filter (fun n => (scalars.value? n).isNone)
  let (values, members) := Contents.values contents (collections.length + 1) collections scalars
  match values.value? d.root with
  | some v => return v
  | none => return .knot (Contents.knot contents values members) (members.idxOf d.root)

inductive Error where
  | malformed
  | encoding (e : Text.Utf8.Failure)
  | noCharacter (number : Nat)
  | build (e : BuildError)
  deriving DecidableEq, Repr

def Error.message : Error → String
  | .malformed => BuildError.malformed.message
  | .encoding e => e.message
  | .noCharacter n =>
    if n < 0x80000000 then "chr() arg not in range(0x110000)"
    else "Python int too large to convert to C int"
  | .build e => e.message

def Error.ofToken : TokenError → Error
  | .malformed => .malformed
  | .encoding e => .encoding e
  | .noCharacter n => .noCharacter n
  | .tooManyDigits n => .build (.tooManyDigits n)

def Error.ofDocument : DocumentError → Error
  | .malformed => .malformed
  | .token e => .ofToken e
  | .tooDeep => .build .tooDeep

def Error.ofBuild : BuildError → Error
  | .malformed => .malformed
  | e => .build e

/-- The value of the YAML text that octets encode; a text without a document has none. -/
def read (octets : List UInt8) : Except Error Value :=
  match Input.ofOctets octets with
  | .error e => .error (.ofToken e)
  | .ok input =>
    match document? input with
    | .error e => .error (.ofDocument e)
    | .ok none => .ok .null
    | .ok (some d) =>
      match d.value with
      | .ok v => .ok v
      | .error e => .error (.ofBuild e)

end SheetFill.Yaml
