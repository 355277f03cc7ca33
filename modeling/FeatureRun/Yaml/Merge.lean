import FeatureRun.Yaml.Fault
import FeatureRun.Yaml.Node

/-!
Merging of mappings. The entries under a merge key go before a mapping's own entries, those of a
later mapping of a list before those of an earlier one.
-/
namespace FeatureRun.Yaml
open FeatureRun.Data

abbrev Merging (α : Type) := StateT NodeTable (Except Failure) α

namespace Merging

/-- The value under the first merge key, and the other entries. -/
def takeSource? (nodes : NodeTable) :
    List (NodeId × NodeId) → Option (NodeId × List (NodeId × NodeId))
  | [] => none
  | (k, v) :: es =>
    if (nodes.node k).tag = .merge then some (v, es)
    else (takeSource? nodes es).map fun (source, rest) => (source, (k, v) :: rest)

/-- The key of a stand-in is a text like any other once a mapping is taken as such. -/
def plainKey (nodes : NodeTable) (k : NodeId) : NodeTable :=
  if (nodes.node k).tag = .standIn then nodes.put k ((nodes.node k).withTag .text) else nodes

/-- Carries out the merge keys of a mapping, one after the other, and gives its entries. A merge key
is gone before its source is looked at, so a mapping may be its own source. `brought` holds what
the keys before have brought. No more than `room` mappings are gone into, each a source of the one
before. -/
def entries : Nat → Nat → NodeId → List (NodeId × NodeId) → Merging (List (NodeId × NodeId))
  | 0, _, _, _ => throw (.fault .constructor)
  | _ + 1, 0, _, _ => throw .tooDeep
  | n + 1, room + 1, id, brought => do
    let nodes ← get
    match nodes.node id with
    | .mapping tag es =>
      match takeSource? nodes es with
      | some (source, rest) =>
        set (nodes.put id (.mapping tag rest))
        let more ←
          match nodes.node source with
          | .sequence _ xs => (·.reverse.flatten) <$> xs.mapM fun x => entries n room x []
          | _ => entries n room source []
        entries n (room + 1) id (brought ++ more)
      | none =>
        let all := brought ++ es
        set (all.foldl (fun nodes e => plainKey nodes e.1) (nodes.put id (.mapping tag all)))
        pure all
    | _ => throw (.fault .constructor)

end Merging

/-- The entries of the mapping at a place with its merge keys carried out. No merge key is carried
out twice, so a limit above the number of all entries is enough. -/
def mergedEntries (limit : Nat) (id : NodeId) : Merging (List (NodeId × NodeId)) :=
  Merging.entries limit depthLimit id []

end FeatureRun.Yaml
