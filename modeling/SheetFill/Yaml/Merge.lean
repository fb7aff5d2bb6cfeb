import SheetFill.Yaml.Node
import SheetFill.Yaml.Scalar

/-!
# Merge entries

A mapping can take in the entries of others. Its merge entries are replaced by the entries of the
mappings that they name, which come before its own, so that its own entries can replace them. The
mappings that are named take in theirs first. A mapping that names itself takes in what it holds by
then, for each merge entry is removed before it is looked into.
-/
namespace SheetFill.Yaml.Graph

/-- The first merge entry of a mapping, without which it is left, and the value of that entry. -/
def takeMerge? (g : Graph) (n : Nat) : Option (Nat × Graph) :=
  match g.node n with
  | .mapping tag entries =>
    match entries.findIdx? (fun (key, _) => (g.node key).tag == .merge) with
    | none => none
    | some i =>
      (entries[i]?).map fun (_, value) => (value, g.put n (.mapping tag (entries.eraseIdx i)))
  | _ => none

def prepend (g : Graph) (n : Nat) (merged : List Entry) : Graph :=
  if merged.isEmpty then g
  else
    match g.node n with
    | .mapping tag entries => g.put n (.mapping tag (merged ++ entries))
    | _ => g

/-- The mark of a default entry is a text where it is a key. -/
def keyAsText (g : Graph) (key : Nat) : Graph :=
  let node := g.node key
  if node.tag == .value then g.put key (node.withTag .text) else g

/-- Replaces the merge entries of a mapping, where `merged` are the entries of those already
removed. Of several mappings in one merge entry the last comes first. -/
def flatten : (fuel : Nat) → (n : Nat) → (merged : List Entry) → Graph → Except BuildError Graph
  | 0, _, _, _ => .error .malformed
  | fuel + 1, n, merged, g =>
    match g.takeMerge? n with
    | none =>
      let g := (g.node n).entries.foldl (fun g (key, _) => g.keyAsText key) g
      .ok (g.prepend n merged)
    | some (value, g) => do
      let (g, more) ←
        match g.node value with
        | .scalar _ _ => throw .malformed
        | .mapping _ _ => do
          let g ← flatten fuel value [] g
          pure (g, (g.node value).entries)
        | .sequence _ items =>
          items.foldlM (fun (g, later) item => do
            if !(g.node item).isMapping then throw .malformed
            let g ← flatten fuel item [] g
            return (g, (g.node item).entries ++ later)) (g, [])
      flatten fuel n (merged ++ more) g

/-- The number of merge entries in all mappings. They are removed one by one and none is added, so
that replacing them goes no deeper than this. -/
def countMerges (g : Graph) : Nat :=
  g.foldl (fun n node => n + node.entries.countP (fun (key, _) => (g.node key).tag == .merge)) 0

end SheetFill.Yaml.Graph
