/-
  WorkflowPolicy/Yaml/Node.lean
  =============================
  **The nodes of a YAML document.**  A node is a scalar, a list or a mapping with its
  tag.  Nodes are numbered, and a collection names its parts by their numbers: an
  alias is the number of the node that it stands for, even inside that node.
-/
import WorkflowPolicy.Yaml.Tag

namespace WorkflowPolicy.Yaml

inductive Node where
  | scalar (tag : Tag) (text : Text)
  | list (tag : Tag) (items : List Nat)
  | map (tag : Tag) (entries : List (Nat × Nat))
deriving DecidableEq, Repr

namespace Node

/-- What stands where a node is missing. -/
def empty : Node := .scalar .null .empty

instance : Inhabited Node := ⟨empty⟩

def tag : Node → Tag
  | .scalar t _ | .list t _ | .map t _ => t

def withTag (t : Tag) : Node → Node
  | .scalar _ s => .scalar t s
  | .list _ xs => .list t xs
  | .map _ es => .map t es

end Node

abbrev Nodes := Array Node

namespace Nodes

def node (nodes : Nodes) (id : Nat) : Node := nodes.getD id Node.empty

def tag (nodes : Nodes) (id : Nat) : Tag := (nodes.node id).tag

def entries (nodes : Nodes) (id : Nat) : List (Nat × Nat) :=
  match nodes.node id with
  | .map _ es => es
  | _ => []

end Nodes

end WorkflowPolicy.Yaml
