import SheetFill.Text.Basic
import SheetFill.Yaml.Tag

/-!
# Nodes of YAML

What a document is made of: scalars, sequences and mappings, each with its tag. Nodes name their
parts by numbers, so that a node can be part of several others, and even of itself.
-/
namespace SheetFill.Yaml

abbrev Entry := Nat × Nat

inductive Node where
  | scalar (tag : Tag) (text : Text)
  | sequence (tag : Tag) (items : List Nat)
  | mapping (tag : Tag) (entries : List Entry)
  deriving Repr

def Node.tag : Node → Tag
  | .scalar tag _ => tag
  | .sequence tag _ => tag
  | .mapping tag _ => tag

def Node.withTag (tag : Tag) : Node → Node
  | .scalar _ text => .scalar tag text
  | .sequence _ items => .sequence tag items
  | .mapping _ entries => .mapping tag entries

def Node.isMapping : Node → Bool
  | .mapping _ _ => true
  | _ => false

/-- The entries of a mapping; other nodes have none. -/
def Node.entries : Node → List Entry
  | .mapping _ entries => entries
  | _ => []

def Node.nothing : Node := .scalar .null ""

abbrev Graph := Array Node

def Graph.node (g : Graph) (n : Nat) : Node := g.getD n .nothing

def Graph.put (g : Graph) (n : Nat) (node : Node) : Graph := g.setIfInBounds n node

end SheetFill.Yaml
