import Typeset.Yaml.Content
import Typeset.Yaml.Problem
import Typeset.Yaml.Resolve

/-!
# Nodes

The nodes of a document. Aliases make one node part of several others, and even of itself; so the
nodes stand in a graph, where each of them is known by its number.

## Main definitions

* `Yaml.Shape`, `Yaml.Node`: what a node consists of
* `Yaml.Graph`: the nodes of a document by their numbers
* `Yaml.Graph.add`, `Yaml.Graph.reshape`, `Yaml.Graph.retag`: new and changed nodes
-/

namespace Typeset.Yaml

/-- What a node consists of; other nodes are given by their numbers. -/
inductive Shape where
  | scalar (content : Content)
  | sequence (items : List Nat)
  | mapping (entries : List (Nat × Nat))
  deriving DecidableEq, Repr

/-- A node: its tag, where it begins, and what it consists of. -/
structure Node where
  tag : Text
  mark : Mark
  shape : Shape
  deriving DecidableEq, Repr

/-- The kind of a node in a complaint. -/
def Shape.kind : Shape → String
  | scalar _ => "scalar"
  | sequence _ => "sequence"
  | mapping _ => "mapping"

/-- The nodes of a document by their numbers. -/
abbrev Graph := Array Node

namespace Graph

/-- The node with a number. -/
def node? (g : Graph) (id : Nat) : Option Node := g[id]?

/-- The graph with one more node, and the number of that node. -/
def add (g : Graph) (n : Node) : Nat × Graph := (g.size, g.push n)

/-- The graph with another shape of a node. -/
def reshape (g : Graph) (id : Nat) (s : Shape) : Graph :=
  g.modify id fun n => { n with shape := s }

/-- The graph with another tag of a node. -/
def retag (g : Graph) (id : Nat) (tag : Text) : Graph := g.modify id fun n => { n with tag := tag }

/-- The entries of a node; only mappings have some. -/
def entries (g : Graph) (id : Nat) : List (Nat × Nat) :=
  match (g.node? id).map Node.shape with
  | some (.mapping es) => es
  | _ => []

/-- The tag of a node. -/
def tag (g : Graph) (id : Nat) : Text := ((g.node? id).map Node.tag).getD []

/-- Where a node begins. -/
def mark (g : Graph) (id : Nat) : Mark := ((g.node? id).map Node.mark).getD {}

end Graph

end Typeset.Yaml
