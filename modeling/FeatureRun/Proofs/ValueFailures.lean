import FeatureRun.Proofs.GrammarFailures
import FeatureRun.Yaml.NodeValue

/-!
How the values of a document can fail. Merging changes the entries of mappings and no text, and it
takes merge keys away and brings none, so a failure that is no fault is one of the nodes as they
were written: the kind of a node has no value for its text, or too many mappings merge or stand in
for one another. Main statement: `Document.value_failure`.
-/
namespace FeatureRun.Yaml
open FeatureRun.Text FeatureRun.Number FeatureRun.Data

/-- What merging makes of a kind: a key that stands in for its mapping becomes a text. -/
def Tag.Becomes (tag tag' : Tag) : Prop := tag' = tag ∨ tag = .standIn ∧ tag' = .text

theorem Tag.Becomes.merge {tag : Tag} (h : tag.Becomes .merge) : tag = .merge := by
  rcases h with h | ⟨_, h⟩
  · exact h.symm
  · cases h

theorem Tag.Becomes.trans {a b c : Tag} (h : a.Becomes b) (h' : b.Becomes c) : a.Becomes c := by
  rcases h' with rfl | ⟨rfl, rfl⟩
  · exact h
  · rcases h with rfl | ⟨_, h⟩
    · exact .inr ⟨rfl, rfl⟩
    · cases h

/-- What merging makes of a node: a mapping may get other entries. -/
inductive Node.Becomes : Node → Node → Prop
  | scalar {tag tag' : Tag} {text : List CodePoint} : tag.Becomes tag' →
      Becomes (.scalar tag text) (.scalar tag' text)
  | sequence {tag tag' : Tag} {items : List NodeId} : tag.Becomes tag' →
      Becomes (.sequence tag items) (.sequence tag' items)
  | mapping {tag tag' : Tag} {es es' : List (NodeId × NodeId)} : tag.Becomes tag' →
      Becomes (.mapping tag es) (.mapping tag' es')

namespace Node.Becomes
variable {a b c : Node}

theorem refl (a : Node) : Becomes a a := by
  cases a with
  | scalar tag text => exact .scalar (.inl rfl)
  | sequence tag items => exact .sequence (.inl rfl)
  | mapping tag es => exact .mapping (.inl rfl)

theorem trans (h : Becomes a b) (h' : Becomes b c) : Becomes a c := by
  cases h with
  | scalar hb =>
    cases h' with
    | scalar hc => exact .scalar (hb.trans hc)
  | sequence hb =>
    cases h' with
    | sequence hc => exact .sequence (hb.trans hc)
  | mapping hb =>
    cases h' with
    | mapping hc => exact .mapping (hb.trans hc)

private theorem withText (h : a.tag = .standIn) : Becomes a (a.withTag .text) := by
  cases a with
  | scalar tag text => exact .scalar (.inr ⟨h, rfl⟩)
  | sequence tag items => exact .sequence (.inr ⟨h, rfl⟩)
  | mapping tag es => exact .mapping (.inr ⟨h, rfl⟩)

theorem tag (h : Becomes a b) : a.tag.Becomes b.tag := by
  cases h <;> assumption

private theorem of_scalar {tag' : Tag} {text : List CodePoint} (h : Becomes a (.scalar tag' text)) :
    ∃ tag : Tag, a = .scalar tag text ∧ tag.Becomes tag' := by
  cases h with
  | scalar htag => exact ⟨_, rfl, htag⟩

private theorem of_sequence {tag' : Tag} {xs : List NodeId} (h : Becomes a (.sequence tag' xs)) :
    ∃ tag : Tag, a = .sequence tag xs := by
  cases h
  exact ⟨_, rfl⟩

private theorem of_mapping {tag' : Tag} {es' : List (NodeId × NodeId)}
    (h : Becomes a (.mapping tag' es')) :
    ∃ (tag : Tag) (es : List (NodeId × NodeId)), a = .mapping tag es ∧ tag.Becomes tag' := by
  cases h with
  | mapping htag => exact ⟨_, _, rfl, htag⟩

end Node.Becomes

namespace NodeTable
variable {nodes nodes' : NodeTable} {id source : NodeId}

def IsMerge (nodes : NodeTable) (e : NodeId × NodeId) : Prop := (nodes.node e.1).tag = .merge

def Merges (nodes : NodeTable) (id source : NodeId) : Prop :=
  ∃ tag es e, nodes.node id = .mapping tag es ∧ e ∈ es ∧ nodes.IsMerge e ∧
    (e.2 = source ∨ ∃ tag xs, nodes.node e.2 = .sequence tag xs ∧ source ∈ xs)

/-- So many merges follow one another, the first of them by the node. -/
inductive MergeChain (nodes : NodeTable) : Nat → NodeId → Prop
  | zero (id : NodeId) : MergeChain nodes 0 id
  | succ {n : Nat} {id source : NodeId} :
      nodes.Merges id source → MergeChain nodes n source → MergeChain nodes (n + 1) id

structure Becomes (nodes nodes' : NodeTable) : Prop where
  node : ∀ id, (nodes.node id).Becomes (nodes'.node id)
  merges : ∀ {id source}, nodes'.Merges id source → nodes.Merges id source

namespace Becomes

theorem refl (nodes : NodeTable) : Becomes nodes nodes := ⟨fun _ => .refl _, id⟩

theorem trans {a b c : NodeTable} (h : Becomes a b) (h' : Becomes b c) : Becomes a c :=
  ⟨fun id => (h.node id).trans (h'.node id), fun hm => h.merges (h'.merges hm)⟩

private theorem isMerge (h : nodes.Becomes nodes') {e : NodeId × NodeId} (he : nodes'.IsMerge e) :
    nodes.IsMerge e := by
  have htag := (h.node e.1).tag
  rw [he] at htag
  exact htag.merge

private theorem mergeChain (h : nodes.Becomes nodes') {n : Nat} (hc : nodes'.MergeChain n id) :
    nodes.MergeChain n id := by
  induction hc with
  | zero id => exact .zero id
  | succ hm _ ih => exact .succ (h.merges hm) ih

end Becomes

private theorem node_put (nodes : NodeTable) (id : NodeId) (node : Node) (i : NodeId) :
    (nodes.put id node).node i = node ∧ i = id ∨ (nodes.put id node).node i = nodes.node i := by
  unfold NodeTable.node NodeTable.put
  rw [Array.getElem?_setIfInBounds]
  by_cases hi : id = i
  · subst hi
    rw [if_pos rfl]
    by_cases hsize : id < nodes.size
    · rw [if_pos hsize]
      exact .inl ⟨rfl, rfl⟩
    · rw [if_neg hsize, Array.getElem?_eq_none (Nat.le_of_not_lt hsize)]
      exact .inr rfl
  · rw [if_neg hi]
    exact .inr rfl

/-- A node may be written anew if it brings no entry that merges. -/
theorem Becomes.put {node : Node} (h : (nodes.node id).Becomes node)
    (hbrings : ∀ tag es e, node = .mapping tag es → e ∈ es → nodes.IsMerge e →
      ∃ tag es, nodes.node id = .mapping tag es ∧ e ∈ es) :
    Becomes nodes (nodes.put id node) := by
  have hnode : ∀ i, (nodes.node i).Becomes ((nodes.put id node).node i) := by
    intro i
    rcases node_put nodes id node i with ⟨hi, rfl⟩ | hi <;> rw [hi]
    · exact h
    · exact .refl _
  refine ⟨hnode, ?_⟩
  rintro i source ⟨tag, es, e, hi, he, hkey, hsource⟩
  have hmerge : nodes.IsMerge e := by
    have htag := (hnode e.1).tag
    rw [hkey] at htag
    exact htag.merge
  have hsource' : e.2 = source ∨ ∃ tag xs, nodes.node e.2 = .sequence tag xs ∧ source ∈ xs := by
    refine hsource.imp_right ?_
    rintro ⟨tag, xs, hxs, hmem⟩
    obtain ⟨tag', hwritten⟩ := Node.Becomes.of_sequence (hxs ▸ hnode e.2)
    exact ⟨tag', xs, hwritten, hmem⟩
  rcases node_put nodes id node i with ⟨hput, rfl⟩ | hput <;> rw [hput] at hi
  · obtain ⟨tag', es', hwritten, he'⟩ := hbrings tag es e hi he hmerge
    exact ⟨tag', es', e, hwritten, he', hmerge, hsource'⟩
  · exact ⟨tag, es, e, hi, he, hmerge, hsource'⟩

end NodeTable

namespace Merging
variable {α β : Type} {nodes : NodeTable}

/-- A part of a merge keeps to the nodes and gives what it should, or it fails by a fault, or since
too many merges follow one another. -/
def Ends (nodes : NodeTable) (r : Merging α) (good : NodeTable → α → Prop) (long : Prop) : Prop :=
  match r.run nodes with
  | .ok (x, t) => nodes.Becomes t ∧ good t x
  | .error e => (∃ f, e = .fault f) ∨ e = .tooDeep ∧ long

namespace Ends
variable {good : NodeTable → α → Prop} {good' : NodeTable → β → Prop} {long : Prop}

theorem mono {long' : Prop} {r : Merging α} (h : Ends nodes r good long) (hlong : long → long') :
    Ends nodes r good long' := by
  unfold Ends at h ⊢
  rcases hr : r.run nodes with e | ⟨x, t⟩ <;> rw [hr] at h
  · exact h.imp_right fun hdeep => ⟨hdeep.1, hlong hdeep.2⟩
  · exact h

theorem bind {r : Merging α} {f : α → Merging β} (h : Ends nodes r good long)
    (hf : ∀ x t, nodes.Becomes t → good t x → Ends t (f x) good' long) :
    Ends nodes (r >>= f) good' long := by
  unfold Ends at h ⊢
  rw [StateT.run_bind]
  rcases hr : r.run nodes with e | ⟨x, t⟩ <;> rw [hr] at h
  · exact h
  · have hx := hf x t h.1 h.2
    unfold Ends at hx
    change match (f x).run t with
      | .ok (y, u) => nodes.Becomes u ∧ good' u y
      | .error e => (∃ f, e = .fault f) ∨ e = .tooDeep ∧ long
    rcases hfx : (f x).run t with e | ⟨y, u⟩ <;> rw [hfx] at hx
    · exact hx
    · exact ⟨h.1.trans hx.1, hx.2⟩

theorem map {r : Merging α} {g : α → β} (h : Ends nodes r good long)
    (hg : ∀ {t x}, good t x → good' t (g x)) : Ends nodes (g <$> r) good' long := by
  rw [map_eq_pure_bind]
  exact h.bind fun x t _ hx => ⟨.refl t, hg hx⟩

theorem mapM {f : β → Merging α} {xs : List β}
    (hkept : ∀ {t u x}, t.Becomes u → good t x → good u x)
    (hf : ∀ x ∈ xs, ∀ t, nodes.Becomes t → Ends t (f x) good long) :
    Ends nodes (xs.mapM f) (fun t ys => ∀ y ∈ ys, good t y) long := by
  induction xs generalizing nodes with
  | nil => exact ⟨.refl nodes, nofun⟩
  | cons x xs ih =>
    rw [List.mapM_cons]
    refine bind (hf x List.mem_cons_self nodes (.refl nodes)) fun y t ht hy => ?_
    refine bind (ih fun x hx u hu => hf x (List.mem_cons_of_mem _ hx) u (ht.trans hu)) ?_
    intro ys u hu hys
    refine ⟨.refl u, ?_⟩
    rintro z (_ | ⟨_, hz⟩)
    · exact hkept hu hy
    · exact hys z hz

end Ends

def Settled (nodes : NodeTable) (es : List (NodeId × NodeId)) : Prop := ∀ e ∈ es, ¬ nodes.IsMerge e

theorem Settled.later {t : NodeTable} (h : nodes.Becomes t) {es : List (NodeId × NodeId)}
    (hes : Settled nodes es) : Settled t es :=
  fun e he hmerge => hes e he (h.isMerge hmerge)

theorem Settled.append {es es' : List (NodeId × NodeId)} (h : Settled nodes es)
    (h' : Settled nodes es') : Settled nodes (es ++ es') := by
  intro e he
  rcases List.mem_append.mp he with he | he
  · exact h e he
  · exact h' e he

theorem Settled.flatten {ess : List (List (NodeId × NodeId))} (h : ∀ es ∈ ess, Settled nodes es) :
    Settled nodes ess.reverse.flatten := by
  intro e he
  obtain ⟨es, hes, he⟩ := List.mem_flatten.mp he
  exact h es (List.mem_reverse.mp hes) e he

theorem Ends.get_bind {f : NodeTable → Merging β} {good : NodeTable → β → Prop} {long : Prop}
    (h : Ends nodes (f nodes) good long) : Ends nodes (MonadState.get >>= f) good long := h

/-- What is written is what the steps behind find. -/
private theorem Ends.set_bind {t : NodeTable} {f : PUnit → Merging β} {good : NodeTable → β → Prop}
    {long : Prop} (ht : nodes.Becomes t) (h : Ends t (f ⟨⟩) good long) :
    Ends nodes (set t >>= f) good long := by
  have hset : Ends nodes (set t) (fun u _ => u = t) long := ⟨ht, rfl⟩
  refine hset.bind ?_
  rintro _ _ - rfl
  exact h

private theorem plainKey_becomes (nodes : NodeTable) (k : NodeId) :
    nodes.Becomes (plainKey nodes k) := by
  unfold plainKey
  split
  · rename_i htag
    refine .put (.withText htag) fun tag es e hnode he _ => ?_
    cases hk : nodes.node k with
    | mapping tag' es' =>
      rw [hk] at hnode
      cases hnode
      exact ⟨tag', _, rfl, he⟩
    | _ =>
      rw [hk] at hnode
      cases hnode
  · exact .refl nodes

private theorem plainKeys_becomes (es : List (NodeId × NodeId)) (nodes : NodeTable) :
    nodes.Becomes (es.foldl (fun nodes e => plainKey nodes e.1) nodes) := by
  induction es generalizing nodes with
  | nil => exact .refl nodes
  | cons e es ih => exact (plainKey_becomes nodes e.1).trans (ih _)

private theorem takeSource?_some {es rest : List (NodeId × NodeId)} {source : NodeId}
    (h : takeSource? nodes es = some (source, rest)) :
    (∃ e ∈ es, nodes.IsMerge e ∧ e.2 = source) ∧ ∀ e ∈ rest, e ∈ es := by
  induction es generalizing rest with
  | nil => cases h
  | cons e es ih =>
    rw [takeSource?] at h
    split at h
    · rename_i hmerge
      cases h
      exact ⟨⟨e, List.mem_cons_self, hmerge, rfl⟩, fun _ => List.mem_cons_of_mem e⟩
    · obtain ⟨⟨_, rest'⟩, htaken, hr⟩ := Option.map_eq_some_iff.mp h
      cases hr
      obtain ⟨⟨d, hd, hmerge, hsource⟩, hrest⟩ := ih htaken
      refine ⟨⟨d, List.mem_cons_of_mem e hd, hmerge, hsource⟩, ?_⟩
      rintro d (_ | ⟨_, hd⟩)
      · exact List.mem_cons_self
      · exact List.mem_cons_of_mem e (hrest d hd)

private theorem takeSource?_none {es : List (NodeId × NodeId)} (h : takeSource? nodes es = none) :
    Settled nodes es := by
  induction es with
  | nil => exact nofun
  | cons e es ih =>
    rw [takeSource?] at h
    split at h
    · cases h
    · rename_i hplain
      rintro d (_ | ⟨_, hd⟩)
      · exact hplain
      · exact ih (Option.map_eq_none_iff.mp h) d hd

/-- A mapping may get entries that do not merge, and keep those that do. -/
private theorem mapping_becomes {id : NodeId} {tag : Tag} {es es' : List (NodeId × NodeId)}
    (hnode : nodes.node id = .mapping tag es) (hes : ∀ e ∈ es', nodes.IsMerge e → e ∈ es) :
    nodes.Becomes (nodes.put id (.mapping tag es')) := by
  refine .put (hnode ▸ .mapping (.inl rfl)) ?_
  rintro _ _ e ⟨⟩ he hmerge
  exact ⟨tag, es, hnode, hes e he hmerge⟩

/-- A merge ends with entries that do not merge, unless more mappings than there is room for are
sources one of another. -/
theorem entries_ends (n room : Nat) (id : NodeId) (brought : List (NodeId × NodeId))
    (nodes : NodeTable) (hbrought : Settled nodes brought) :
    Ends nodes (entries n room id brought) Settled (nodes.MergeChain room id) := by
  induction n generalizing room id brought nodes with
  | zero => exact .inl ⟨_, rfl⟩
  | succ n ih =>
    cases room with
    | zero => exact .inr ⟨rfl, .zero id⟩
    | succ room =>
      refine Ends.get_bind ?_
      dsimp only
      split
      · rename_i tag es hnode
        split
        · rename_i source rest htaken
          obtain ⟨⟨e, he, hmerge, rfl⟩, hrest⟩ := takeSource?_some htaken
          have htable := mapping_becomes hnode fun d hd _ => hrest d hd
          refine Ends.set_bind htable ?_
          have hsource {x : NodeId} {t : NodeTable} (hx : nodes.Merges id x)
              (ht : (nodes.put id (.mapping tag rest)).Becomes t) :
              Ends t (entries n room x []) Settled (nodes.MergeChain (room + 1) id) :=
            (ih room x [] t nofun).mono fun hchain => .succ hx ((htable.trans ht).mergeChain hchain)
          have hlater {more : List (NodeId × NodeId)} {t : NodeTable}
              (ht : (nodes.put id (.mapping tag rest)).Becomes t) (hmore : Settled t more) :
              Ends t (entries n (room + 1) id (brought ++ more)) Settled
                (nodes.MergeChain (room + 1) id) :=
            (ih _ _ _ t ((hbrought.later (htable.trans ht)).append hmore)).mono
              (htable.trans ht).mergeChain
          split
          · rename_i tag' xs hxs
            have hsources : Ends (nodes.put id (.mapping tag rest))
                (xs.mapM fun x => entries n room x []) (fun t ess => ∀ es ∈ ess, Settled t es)
                (nodes.MergeChain (room + 1) id) := by
              refine .mapM (fun ht hes => hes.later ht) fun x hx t ht => hsource ?_ ht
              exact ⟨tag, es, e, hnode, he, hmerge, .inr ⟨tag', xs, hxs, hx⟩⟩
            exact (hsources.map Settled.flatten).bind fun _ _ ht hmore => hlater ht hmore
          · have hone : nodes.Merges id e.2 := ⟨tag, es, e, hnode, he, hmerge, .inl rfl⟩
            exact (hsource hone (.refl _)).bind fun _ _ ht hmore => hlater ht hmore
        · rename_i htaken
          have hall : Settled nodes (brought ++ es) := hbrought.append (takeSource?_none htaken)
          have hwritten := (mapping_becomes hnode fun d hd hmerge =>
            absurd hmerge (hall d hd)).trans (plainKeys_becomes (brought ++ es) _)
          exact Ends.set_bind hwritten ⟨.refl _, hall.later hwritten⟩
      · exact .inl ⟨_, rfl⟩

end Merging

/-- A failure of the values of nodes: a fault, a text that has no value of its kind, a mapping
marked as a time, or too many mappings that merge or stand in for one another. -/
inductive Unreadable (nodes : NodeTable) : Failure → Prop
  | fault (f : Fault) : Unreadable nodes (.fault f)
  | scalar {id : NodeId} {tag : Tag} {text : List CodePoint} {e : Failure} :
      nodes.node id = .scalar tag text → scalarValue tag text = .error e → Unreadable nodes e
  | standIn {id other : NodeId} {tag tag' : Tag} {es : List (NodeId × NodeId)}
      {text : List CodePoint} {e : Failure} :
      nodes.node id = .mapping tag es → nodes.node other = .scalar tag' text →
      scalarValue tag text = .error e → Unreadable nodes e
  | timeMapping {id : NodeId} {es : List (NodeId × NodeId)} :
      nodes.node id = .mapping .time es → Unreadable nodes (.cast .wrongType)
  | deepStandIn {id : NodeId} {tag : Tag} {es : List (NodeId × NodeId)} :
      nodes.node id = .mapping tag es → tag.isContainer = false → Unreadable nodes .tooDeep
  | deepMerge {id : NodeId} : nodes.MergeChain depthLimit id → Unreadable nodes .tooDeep

private theorem scalarValue_becomes {tag tag' : Tag} (h : tag.Becomes tag') {s : List CodePoint}
    {e : Failure} (he : scalarValue tag' s = .error e) : scalarValue tag s = .error e := by
  rcases h with rfl | ⟨_, rfl⟩
  · exact he
  · cases he

/-- A failure of the merged nodes is one of the nodes as they were written. -/
theorem Unreadable.back {nodes nodes' : NodeTable} (h : nodes.Becomes nodes') {e : Failure}
    (he : Unreadable nodes' e) : Unreadable nodes e := by
  cases he with
  | fault f => exact .fault f
  | scalar hnode hvalue =>
    obtain ⟨tag, hwritten, htag⟩ := Node.Becomes.of_scalar (hnode ▸ h.node _)
    exact .scalar hwritten (scalarValue_becomes htag hvalue)
  | standIn hnode hother hvalue =>
    obtain ⟨tag, es, hwritten, htag⟩ := Node.Becomes.of_mapping (hnode ▸ h.node _)
    obtain ⟨_, hsource, _⟩ := Node.Becomes.of_scalar (hother ▸ h.node _)
    exact .standIn hwritten hsource (scalarValue_becomes htag hvalue)
  | timeMapping hnode =>
    obtain ⟨tag, es, hwritten, htag⟩ := Node.Becomes.of_mapping (hnode ▸ h.node _)
    rcases htag with rfl | ⟨_, htag⟩
    · exact .timeMapping hwritten
    · cases htag
  | deepStandIn hnode hkind =>
    obtain ⟨tag, es, hwritten, htag⟩ := Node.Becomes.of_mapping (hnode ▸ h.node _)
    rcases htag with rfl | ⟨rfl, _⟩
    · exact .deepStandIn hwritten hkind
    · exact .deepStandIn hwritten rfl
  | deepMerge hchain => exact .deepMerge (h.mergeChain hchain)

private theorem standInText_cases (nodes : NodeTable) (n : Nat) (id : NodeId) :
    (∃ other tag s, nodes.standInText n id = .ok s ∧ nodes.node other = .scalar tag s) ∨
      (∃ f, nodes.standInText n id = .error (.fault f)) ∨
      nodes.standInText n id = .error .tooDeep := by
  induction n generalizing id with
  | zero => exact .inr (.inr rfl)
  | succ n ih =>
    rw [NodeTable.standInText]
    split
    · rename_i tag s hnode
      exact .inl ⟨id, tag, s, rfl, hnode⟩
    · exact .inr (.inl ⟨_, rfl⟩)
    · split
      · exact ih _
      · exact .inr (.inl ⟨_, rfl⟩)

/-- A node that is not written as a text has the value of its kind for the text that it stands
for. -/
private theorem textValue_standIn {nodes : NodeTable} {id : NodeId}
    (h : ∀ tag s, nodes.node id ≠ .scalar tag s) :
    nodes.textValue id =
      if (nodes.node id).tag.isText then
        nodes.standInText depthLimit id >>= fun s =>
          if (nodes.node id).tag = .time then .error (.cast .wrongType)
          else scalarValue (nodes.node id).tag s
      else .error (.fault .constructor) := by
  unfold NodeTable.textValue
  split
  · rename_i tag s hnode
    exact absurd hnode (h tag s)
  · generalize (nodes.node id).tag = tag
    cases tag <;> rfl

/-- A node that is no container is read as a text. -/
theorem textValue_failure {nodes : NodeTable} {id : NodeId} {e : Failure}
    (hkind : (nodes.node id).tag.isContainer = false) (h : nodes.textValue id = .error e) :
    Unreadable nodes e := by
  cases hnode : nodes.node id with
  | scalar tag s =>
    have hvalue : nodes.textValue id = scalarValue tag s := by
      rw [NodeTable.textValue, hnode]
    exact .scalar hnode (hvalue ▸ h)
  | sequence tag xs =>
    have hnone : nodes.standInText depthLimit id = .error (.fault .constructor) := by
      rw [depthLimit, NodeTable.standInText, hnode]
    rw [textValue_standIn (by rw [hnode]; nofun), hnone] at h
    split at h
    · cases h
      exact .fault _
    · cases h
      exact .fault _
  | mapping tag es =>
    rw [hnode] at hkind
    rw [textValue_standIn (by rw [hnode]; nofun), hnode] at h
    split at h
    · rcases standInText_cases nodes depthLimit id with ⟨other, tag', s, hs, hother⟩ |
        ⟨f, hf⟩ | hdeep
      · rw [hs] at h
        change (if tag = .time then _ else scalarValue tag s) = _ at h
        split at h
        · rename_i htime
          cases h
          exact .timeMapping (htime ▸ hnode)
        · exact .standIn hnode hother h
      · rw [hf] at h
        cases h
        exact .fault f
      · rw [hdeep] at h
        cases h
        exact .deepStandIn hnode hkind
    · cases h
      exact .fault _

namespace Surveying
variable {α : Type}

/-- The survey of a document changes nodes as merging does, and fails with the values of nodes. -/
def survey : Contract Survey where
  keeps s t := s.nodes.Becomes t.nodes
  fails s e := Unreadable s.nodes e
  refl s := .refl s.nodes
  trans := .trans
  fault _ f := .fault f
  back h he := he.back h

private theorem refuse_survey : survey.Holds (refuse : Surveying α) := .fault _

private theorem node_survey (id : NodeId) : survey.Holds (node id) := .bind .get fun _ => .pure _

private theorem record_survey (id : NodeId) (outline : Outline) :
    survey.Holds (record id outline) :=
  .modify survey.refl

private theorem markMet_survey (id : NodeId) : survey.Holds (markMet id) :=
  .modifyGet survey.refl

private theorem meet_survey (id : NodeId) : survey.Holds (meet id) := by
  refine (markMet_survey id).bind fun _ => .ite (.pure _) ?_
  intro s
  refine (node_survey id s).bind fun written t hrun => ?_
  cases hrun
  split
  · exact survey.refl s
  · rename_i hkind
    refine (Contract.Holds.get (c := survey) s).bind fun seen t hseen => ?_
    cases hseen
    split
    · exact record_survey _ _ s
    · rename_i hvalue
      exact textValue_failure ((Bool.not_eq_true _).mp hkind) hvalue

private theorem meetEntry_survey (e : NodeId × NodeId) : survey.Holds (meetEntry e) := by
  refine (meet_survey _).bind fun _ => (node_survey _).bind fun _ => ?_
  exact .ite (refuse_survey.bind fun _ => meet_survey _) (meet_survey _)

private theorem meetPair_survey (id : NodeId) : survey.Holds (meetPair id) := by
  refine (node_survey id).bind fun node => ?_
  split
  · exact (meet_survey _).bind fun _ => (meet_survey _).bind fun _ => .pure _
  · exact refuse_survey

private theorem entries_survey (id : NodeId) : survey.Holds (entries id) := by
  refine .get_bind fun s => ?_
  have hmerged : Merging.Ends s.nodes (mergedEntries s.limit id) Merging.Settled
      (s.nodes.MergeChain depthLimit id) :=
    Merging.entries_ends s.limit depthLimit id [] s.nodes nofun
  unfold Merging.Ends at hmerged
  change survey.HoldsAt (liftM ((mergedEntries s.limit id).run s.nodes) >>= fun r => do
    set { s with nodes := r.2 }
    pure r.1) s
  rcases hr : (mergedEntries s.limit id).run s.nodes with e | ⟨es, nodes⟩ <;> rw [hr] at hmerged
  · rcases hmerged with ⟨f, rfl⟩ | ⟨rfl, hchain⟩
    · exact survey.fault s f
    · exact Unreadable.deepMerge hchain
  · exact hmerged.1

private theorem meetEntries_survey (id : NodeId) : survey.Holds (meetEntries id) := by
  refine (entries_survey id).bind fun es => ?_
  exact (Contract.Holds.forM meetEntry_survey es).bind fun _ => .bind .get fun _ => .pure _

private theorem meetParts_survey (id : NodeId) : survey.Holds (meetParts id) := by
  refine (node_survey id).bind fun node => ?_
  split
  · exact (Contract.Holds.forM meet_survey _).bind fun _ => record_survey _ _
  · exact (Contract.Holds.mapM meetPair_survey _).bind fun _ => record_survey _ _
  · exact (meetEntries_survey id).bind fun _ => record_survey _ _
  · exact (meetEntries_survey id).bind fun _ => record_survey _ _
  · exact refuse_survey

private theorem meetLevels_survey (n : Nat) : survey.Holds (meetLevels n) := by
  induction n with
  | zero => exact .pure _
  | succ n ih =>
    refine .get_bind fun s => ?_
    have hset : survey.HoldsAt (set { s with later := [] }) s := survey.refl s
    refine hset.bind fun _ t _ => ?_
    exact ((Contract.Holds.forM meetParts_survey _).bind fun _ => ih) t

end Surveying

/-- A document has a value unless a fault, or one of its texts, is in the way. -/
theorem Document.value_failure {d : Document} {e : Failure} (h : d.value = .error e) :
    Unreadable d.nodes e := by
  let start : Survey := {
    limit := d.nodes.entryCount + 2
    nodes := d.nodes
    outlines := Array.replicate d.nodes.size none
    met := Array.replicate d.nodes.size false }
  let reading : Surveying Unit := do
    Surveying.meet d.root
    Surveying.meetLevels (d.nodes.size + 1)
  have hsurvey : Surveying.survey.HoldsAt reading start :=
    (Surveying.meet_survey d.root).bind (fun _ => Surveying.meetLevels_survey _) start
  unfold Document.value Document.outlines at h
  change ((reading.run start >>= fun r => .ok r.2.outlines) >>= fun outlines =>
    .ok (outlines.value (d.nodes.size + 1) [] d.root)) = _ at h
  unfold Contract.HoldsAt at hsurvey
  rcases hr : reading.run start with e' | r <;> rw [hr] at h hsurvey
  · cases h
    exact hsurvey
  · cases h

end FeatureRun.Yaml
