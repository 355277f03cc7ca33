import FeatureRun.Yaml.Tag

/-!
The nodes of a document. A node names its parts by their places in the document: an alias is one
more mention of a place, and a node may be a part of itself.
-/
namespace FeatureRun.Yaml
open FeatureRun.Text

/-- The place of a node in its document. -/
abbrev NodeId := Nat

inductive Node where
  | scalar (tag : Tag) (text : List CodePoint)
  | sequence (tag : Tag) (items : List NodeId)
  | mapping (tag : Tag) (entries : List (NodeId × NodeId))
deriving Repr

namespace Node

/-- The node of what is left out. -/
def empty : Node := .scalar .null []

def tag : Node → Tag
  | .scalar t _ => t
  | .sequence t _ => t
  | .mapping t _ => t

def withTag (t : Tag) : Node → Node
  | .scalar _ s => .scalar t s
  | .sequence _ xs => .sequence t xs
  | .mapping _ es => .mapping t es

def entries : Node → List (NodeId × NodeId)
  | .mapping _ es => es
  | _ => []

end Node

/-- The nodes of a document by place. -/
abbrev NodeTable := Array Node

namespace NodeTable

/-- The node at a place; outside the document nothing is written. -/
def node (nodes : NodeTable) (id : NodeId) : Node := nodes[id]?.getD .empty

def put (nodes : NodeTable) (id : NodeId) (node : Node) : NodeTable := nodes.setIfInBounds id node

/-- The number of entries of all mappings. -/
def entryCount (nodes : NodeTable) : Nat :=
  nodes.foldl (fun n node => n + node.entries.length) 0

end NodeTable

/-- Nodes, one of which holds the others. -/
structure Document where
  nodes : NodeTable
  root : NodeId

end FeatureRun.Yaml
