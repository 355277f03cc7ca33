import FeatureRun.Data.SetOrder
import FeatureRun.Yaml.Merge
import FeatureRun.Yaml.ScalarValue

/-!
The value of a document. Nodes are read level by level: what a container holds is read after all
that stands on its own level. So of two failures the one that lies less deep counts, and on one
level the one that comes first.
-/
namespace FeatureRun.Yaml
open FeatureRun.Text FeatureRun.Number FeatureRun.Data

/-- The kinds of containers. -/
def Tag.isContainer : Tag → Bool
  | .list | .map | .set | .pairs => true
  | _ => false

/-- The kinds whose values are read from texts. -/
def Tag.isText : Tag → Bool
  | .null | .bool | .int | .real | .binary | .time | .text => true
  | _ => false

/-- What a node says of its value: the whole of it, or which nodes have the values of its parts.
Mappings and sets have no key twice. -/
inductive Outline where
  | whole (v : Value)
  | list (items : List NodeId)
  | pairs (items : List (NodeId × NodeId))
  | map (entries : List (NodeId × NodeId))
  | set (keys : List NodeId)

/-- The outlines that are known; a container that has been met has one once it is its turn. -/
abbrev OutlineTable := Array (Option Outline)

/-- A key as a mapping tells it from others. -/
structure Key where
  node : NodeId
  value : Value
  isNanWord : Bool

/-- Keys with equal values are the same key. What is no number equals nothing, but a node is the
same key as itself, and all nodes with the word for no number are one key. -/
def Key.same (a b : Key) : Bool :=
  a.node == b.node || (a.isNanWord && b.isNanWord) || a.value.sameKey b.value

/-- How far the reading of a document has come. There are fewer entries than `limit`. -/
structure Survey where
  limit : Nat
  nodes : NodeTable
  outlines : OutlineTable
  met : Array Bool
  /-- The containers of the next level, the last one first. -/
  later : List NodeId := []

abbrev Surveying (α : Type) := StateT Survey (Except Failure) α

namespace NodeTable

/-- The text that a node stands for: its own, or that of a mapping's stand-in. No more than so many
nodes stand in for one another, so a mapping that stands in for itself has none. -/
def standInText (nodes : NodeTable) : Nat → NodeId → Except Failure (List CodePoint)
  | 0, _ => .error .tooDeep
  | n + 1, id =>
    match nodes.node id with
    | .scalar _ s => .ok s
    | .sequence _ _ => .error (.fault .constructor)
    | .mapping _ es =>
      match es.find? fun e => (nodes.node e.1).tag = .standIn with
      | some e => standInText nodes n e.2
      | none => .error (.fault .constructor)

/-- The node stands for the word for no number. -/
def holdsNanWord (nodes : NodeTable) (id : NodeId) : Bool :=
  match (nodes.node id).tag, nodes.standInText depthLimit id with
  | .real, .ok s => isNanWord s
  | _, _ => false

/-- The value of a node under the kind of a text. -/
def textValue (nodes : NodeTable) (id : NodeId) : Except Failure Value :=
  match nodes.node id with
  | .scalar tag s => scalarValue tag s
  | node => do
    let s ← if node.tag.isText then nodes.standInText depthLimit id else .ok []
    if node.tag = .time then .error (.cast .wrongType) else scalarValue node.tag s

end NodeTable

/-- The key at a node that has been met. -/
def Survey.key (s : Survey) (id : NodeId) : Key where
  node := id
  value :=
    match s.outlines[id]?.join with
    | some (.whole v) => v
    | _ => .null
  isNanWord := s.nodes.holdsNanWord id

namespace Surveying

def refuse {α : Type} : Surveying α := throw (.fault .constructor)

def node (id : NodeId) : Surveying Node := do pure ((← get).nodes.node id)

def record (id : NodeId) (outline : Outline) : Surveying Unit :=
  modify fun s => { s with outlines := s.outlines.setIfInBounds id (some outline) }

/-- Marks a node as met, and tells whether it had been. -/
def markMet (id : NodeId) : Surveying Bool :=
  modifyGet fun s => (s.met[id]?.getD true, { s with met := s.met.setIfInBounds id true })

/-- Reads a node, once: a text now, a container with the next level. -/
def meet (id : NodeId) : Surveying Unit := do
  if ← markMet id then pure ()
  else if (← node id).tag.isContainer then modify fun s => { s with later := id :: s.later }
  else
    match (← get).nodes.textValue id with
    | .ok v => record id (.whole v)
    | .error e => throw e

/-- Reads the key and the value of an entry. A container is no key. -/
def meetEntry (e : NodeId × NodeId) : Surveying Unit := do
  meet e.1
  if (← node e.1).tag.isContainer then refuse
  meet e.2

/-- Reads an item of a list of pairs, which is a mapping of one entry. -/
def meetPair (id : NodeId) : Surveying (NodeId × NodeId) := do
  match ← node id with
  | .mapping _ [(k, v)] => do
    meet k
    meet v
    pure (k, v)
  | _ => refuse

/-- The entries of a mapping, with merge keys carried out. -/
def entries (id : NodeId) : Surveying (List (NodeId × NodeId)) := do
  let s ← get
  let (es, nodes) ← (mergedEntries s.limit id).run s.nodes
  set { s with nodes }
  pure es

/-- The entries of a mapping, read, with repeated keys written one after the other. -/
def meetEntries (id : NodeId) : Surveying (List (NodeId × NodeId)) := do
  let es ← entries id
  es.forM meetEntry
  let s ← get
  pure ((writeEntries Key.same (es.map fun e => (s.key e.1, e.2))).map fun e => (e.1.node, e.2))

/-- Reads what a container holds. -/
def meetParts (id : NodeId) : Surveying Unit := do
  match ← node id with
  | .sequence .list xs => do
    xs.forM meet
    record id (.list xs)
  | .sequence .pairs xs => do
    record id (.pairs (← xs.mapM meetPair))
  | .mapping .map _ => do
    record id (.map (← meetEntries id))
  | .mapping .set _ => do
    record id (.set ((← meetEntries id).map (·.1)))
  | _ => refuse

/-- Reads the waiting containers and what they hold, on as many levels. -/
def meetLevels : Nat → Surveying Unit
  | 0 => pure ()
  | n + 1 => do
    let s ← get
    set { s with later := [] }
    s.later.reverse.forM meetParts
    meetLevels n

end Surveying

namespace OutlineTable

/-- Names a container on a cycle. -/
def named (label : Nat) (v : Value) : Value := if v.refersOut [] then .shared label v else v

/-- The label of a pair of a list, one that no node has. -/
def pairLabel (outlines : OutlineTable) (list : NodeId) (i : Nat) : Nat :=
  outlines.size * (i + 1) + list

/-- The value of a node. A node that lies around it is not written out once more. -/
def value (outlines : OutlineTable) : Nat → List NodeId → NodeId → Value
  | 0, _, _ => .null
  | n + 1, around, id =>
    if around.contains id then .inside id
    else
      let part (x : NodeId) := value outlines n (id :: around) x
      match outlines[id]?.join with
      | some (.whole v) => v
      | some (.list xs) => named id (.list (xs.map part))
      | some (.pairs es) =>
        named id (.list (es.mapIdx fun i e =>
          named (outlines.pairLabel id i) (.tuple [part e.1, part e.2])))
      | some (.map es) => named id (.map (es.map fun e => (part e.1, part e.2)))
      | some (.set keys) => .set (setOrder (keys.map part))
      | none => .null

end OutlineTable

/-- The outlines of the nodes that belong to a document. No level is without a container that was
not met before. -/
def Document.outlines (d : Document) : Except Failure OutlineTable := do
  let size := d.nodes.size
  let start : Survey := {
    limit := d.nodes.entryCount + 2
    nodes := d.nodes
    outlines := Array.replicate size none
    met := Array.replicate size false }
  let survey : Surveying Unit := do
    Surveying.meet d.root
    Surveying.meetLevels (size + 1)
  let (_, s) ← survey.run start
  .ok s.outlines

/-- The value of a document. No node lies deeper than there are nodes. -/
def Document.value (d : Document) : Except Failure Value := do
  .ok ((← d.outlines).value (d.nodes.size + 1) [] d.root)

end FeatureRun.Yaml
