import FeatureRun.Yaml.Grammar

/-!
How the grammar can fail. The nodes of a document are read by steps that share a state; what such
steps keep of it and how they fail is a contract, which holds of steps put together if it holds of
each. Under the contract of the grammar a reading fails by a fault, for depth, or with the failure
that stands behind its tokens. Main statement: `ofTokens_failure`.
-/
namespace FeatureRun.Yaml
open FeatureRun.Text

/-- What steps keep of their state, and how they fail. Faults are allowed everywhere, and a failure
is one of the state in which the steps began. -/
structure Contract (σ : Type) where
  keeps : σ → σ → Prop
  fails : σ → Failure → Prop
  refl : ∀ s, keeps s s
  trans : ∀ {s t u}, keeps s t → keeps t u → keeps s u
  fault : ∀ s f, fails s (.fault f)
  back : ∀ {s t e}, keeps s t → fails t e → fails s e

namespace Contract
variable {σ α β : Type} (c : Contract σ)

def HoldsAt (r : StateT σ (Except Failure) α) (s : σ) : Prop :=
  match r.run s with
  | .ok (_, t) => c.keeps s t
  | .error e => c.fails s e

def Holds (r : StateT σ (Except Failure) α) : Prop := ∀ s, c.HoldsAt r s

variable {c}

theorem HoldsAt.bind {r : StateT σ (Except Failure) α} {f : α → StateT σ (Except Failure) β} {s : σ}
    (h : c.HoldsAt r s) (hf : ∀ x t, r.run s = .ok (x, t) → c.HoldsAt (f x) t) :
    c.HoldsAt (r >>= f) s := by
  unfold HoldsAt at h ⊢
  rw [StateT.run_bind]
  rcases hr : r.run s with e | ⟨x, t⟩ <;> rw [hr] at h
  · exact h
  · have hx := hf x t hr
    unfold HoldsAt at hx
    change match (f x).run t with
      | .ok (_, t) => c.keeps s t
      | .error e => c.fails s e
    rcases hfx : (f x).run t with e | ⟨y, u⟩ <;> rw [hfx] at hx
    · exact c.back h hx
    · exact c.trans h hx

theorem HoldsAt.throw {e : Failure} {s : σ} (h : c.fails s e) :
    c.HoldsAt (throw e : StateT σ (Except Failure) α) s := h

namespace Holds

theorem bind {r : StateT σ (Except Failure) α} {f : α → StateT σ (Except Failure) β}
    (h : c.Holds r) (hf : ∀ x, c.Holds (f x)) : c.Holds (r >>= f) :=
  fun s => (h s).bind fun x t _ => hf x t

theorem pure (x : α) : c.Holds (pure x : StateT σ (Except Failure) α) := c.refl

theorem fault (f : Fault) : c.Holds (throw (.fault f) : StateT σ (Except Failure) α) :=
  fun s => c.fault s f

theorem get : c.Holds (get : StateT σ (Except Failure) σ) := c.refl

theorem modify {f : σ → σ} (h : ∀ s, c.keeps s (f s)) :
    c.Holds (modify f : StateT σ (Except Failure) PUnit) := h

theorem modifyGet {f : σ → α × σ} (h : ∀ s, c.keeps s (f s).2) :
    c.Holds (modifyGet f : StateT σ (Except Failure) α) := h

/-- What follows a look at the state may count on having seen it. -/
theorem get_bind {f : σ → StateT σ (Except Failure) β} (h : ∀ s, c.HoldsAt (f s) s) :
    c.Holds (MonadState.get >>= f) := h

theorem ite {p : Prop} [Decidable p] {r r' : StateT σ (Except Failure) α} (h : c.Holds r)
    (h' : c.Holds r') : c.Holds (if p then r else r') := by
  split
  · exact h
  · exact h'

theorem map {r : StateT σ (Except Failure) α} {f : α → β} (h : c.Holds r) : c.Holds (f <$> r) := by
  rw [map_eq_pure_bind]
  exact h.bind fun x => .pure (f x)

theorem forM {f : α → StateT σ (Except Failure) PUnit} (h : ∀ x, c.Holds (f x)) (xs : List α) :
    c.Holds (xs.forM f) := by
  induction xs with
  | nil => exact .pure _
  | cons x xs ih => exact (h x).bind fun _ => ih

theorem mapM {f : α → StateT σ (Except Failure) β} (h : ∀ x, c.Holds (f x)) (xs : List α) :
    c.Holds (xs.mapM f) := by
  induction xs with
  | nil => exact .pure _
  | cons x xs ih =>
    rw [List.mapM_cons]
    exact (h x).bind fun _ => ih.bind fun _ => .pure _

end Holds

end Contract

namespace Reading
variable {α : Type}

/-- The failures of a reading with a failure behind its tokens. -/
inductive FormFailure (behind : Option Failure) : Failure → Prop
  | fault (f : Fault) : FormFailure behind (.fault f)
  | tooDeep : FormFailure behind .tooDeep
  | tokens {e : Failure} : behind = some e → FormFailure behind e

/-- The grammar takes no account of the failure behind the tokens, other than to end with it. -/
def form : Contract Progress where
  keeps p q := q.failure = p.failure
  fails p e := FormFailure p.failure e
  refl _ := rfl
  trans h h' := h'.trans h
  fault _ f := .fault f
  back h hf := h ▸ hf

private theorem fail_form (f : Fault) : form.Holds (fail f : Reading α) := .fault f

private theorem peek_form : form.Holds peek := by
  refine .get_bind fun p => ?_
  split
  · exact form.refl p
  · rename_i h
    exact Contract.HoldsAt.throw (.tokens h)
  · exact form.fault p .order

private theorem drop_form : form.Holds drop := .modify fun _ => rfl

private theorem dropIf_form (t : Token) : form.Holds (dropIf t) :=
  peek_form.bind fun _ => .ite (drop_form.bind fun _ => .pure _) (.pure _)

private theorem add_form (node : Node) : form.Holds (add node) := .modifyGet fun _ => rfl

private theorem write_form (id : NodeId) (node : Node) :
    form.Holds (write id node) := .modify fun _ => rfl

private theorem addressOf_form (handle : Option (List Char)) (suffix : List Char) :
    form.Holds (addressOf handle suffix) := by
  unfold addressOf
  split
  · exact .pure _
  · refine .bind .get fun p => ?_
    split
    · exact .pure _
    · exact fail_form _

private theorem properties_form : form.Holds properties := by
  refine peek_form.bind fun t => ?_
  split
  · refine drop_form.bind fun _ => peek_form.bind fun t => ?_
    split
    · exact drop_form.bind fun _ => (addressOf_form _ _).bind fun _ => .pure _
    · exact .pure _
  · refine drop_form.bind fun _ => peek_form.bind fun t => ?_
    split
    · exact drop_form.bind fun _ => (addressOf_form _ _).bind fun _ => .pure _
    · exact (addressOf_form _ _).bind fun _ => .pure _
  · exact .pure _

private theorem aliased_form (name : List Char) : form.Holds (aliased name) := by
  refine .bind .get fun p => ?_
  split
  · exact .pure _
  · exact fail_form _

private theorem checkAnchor_form (p : Properties) : form.Holds (checkAnchor p) := by
  unfold checkAnchor
  split
  · exact .bind .get fun _ => .ite (fail_form _) (.pure _)
  · exact .pure _

private theorem bindAnchor_form (p : Properties) (id : NodeId) : form.Holds (bindAnchor p id) := by
  unfold bindAnchor
  split
  · exact .modify fun _ => rfl
  · exact .pure _

private theorem nested_form {contents : Reading α} (h : form.Holds contents) :
    form.Holds (nested contents) := by
  have htooDeep : form.Holds (throw .tooDeep : Reading PUnit) := fun _ => .tooDeep
  have hinside (depth : Nat) : form.Holds (do
      modify fun s => { s with depth := depth + 1 }
      let x ← contents
      modify fun s => { s with depth }
      pure x : Reading α) :=
    .bind (.modify fun _ => rfl) fun _ => h.bind fun _ =>
      .bind (.modify fun _ => rfl) fun _ => .pure _
  refine .bind .get fun p => ?_
  exact .ite (htooDeep.bind fun _ => hinside p.depth) (hinside p.depth)

private theorem container_form (p : Properties) {contents : Reading Node}
    (h : form.Holds contents) :
    form.Holds (container p contents) :=
  (checkAnchor_form p).bind fun _ => (add_form _).bind fun _ => (bindAnchor_form p _).bind fun _ =>
    (nested_form h).bind fun _ => (write_form _ _).bind fun _ => .pure _

private theorem scalarNode_form (p : Properties) (tag : Tag) (text : List CodePoint) :
    form.Holds (scalarNode p tag text) :=
  (checkAnchor_form p).bind fun _ => (add_form _).bind fun _ => (bindAnchor_form p _).bind fun _ =>
    .pure _

private theorem separator_form : form.Holds separator :=
  (dropIf_form _).bind fun _ => .ite (.pure _) (fail_form _)

/-- The contract of the readings that name each other, for a bound on their steps. -/
structure NodesForm (n : Nat) : Prop where
  node : ∀ place, form.Holds (node n place)
  nodeUnless : ∀ place ends, form.Holds (nodeUnless n place ends)
  valueUnless : ∀ place ends, form.Holds (valueUnless n place ends)
  blockItems : form.Holds (blockItems n)
  looseItems : form.Holds (looseItems n)
  blockEntries : form.Holds (blockEntries n)
  flowItems : ∀ first, form.Holds (flowItems n first)
  flowEntries : ∀ first, form.Holds (flowEntries n first)

namespace NodesForm
variable {n : Nat}

theorem zero : NodesForm 0 where
  node _ := fail_form _
  nodeUnless _ _ := fail_form _
  valueUnless _ _ := fail_form _
  blockItems := fail_form _
  looseItems := fail_form _
  blockEntries := fail_form _
  flowItems _ := fail_form _
  flowEntries _ := fail_form _

private theorem node_succ (h : NodesForm n) (place : Place) :
    form.Holds (Reading.node (n + 1) place) := by
  refine peek_form.bind fun t => ?_
  split
  · exact drop_form.bind fun _ => aliased_form _
  · refine properties_form.bind fun p => peek_form.bind fun t => ?_
    split
    · exact drop_form.bind fun _ => scalarNode_form _ _ _
    · exact container_form _ (drop_form.bind fun _ => (h.flowItems _).bind fun _ => .pure _)
    · exact container_form _ (drop_form.bind fun _ => (h.flowEntries _).bind fun _ => .pure _)
    · exact container_form _ (h.looseItems.bind fun _ => .pure _)
    · exact container_form _ (drop_form.bind fun _ => h.blockItems.bind fun _ => .pure _)
    · exact container_form _ (drop_form.bind fun _ => h.blockItems.bind fun _ => .pure _)
    · exact container_form _ (drop_form.bind fun _ => h.blockEntries.bind fun _ => .pure _)
    · exact container_form _ (drop_form.bind fun _ => h.blockEntries.bind fun _ => .pure _)
    · exact .ite (scalarNode_form _ _ _) (fail_form _)

/-- A key and its value, and then the entries behind them. -/
private theorem entries_form (h : NodesForm n) {place : Place} {keyEnds valueEnds : List Token}
    {rest : Reading (List (NodeId × NodeId))} (hrest : form.Holds rest) :
    form.Holds (do
      let k ← Reading.nodeUnless n place keyEnds
      let v ← Reading.valueUnless n place valueEnds
      pure ((k, v) :: (← rest))) :=
  (h.nodeUnless _ _).bind fun _ => (h.valueUnless _ _).bind fun _ => hrest.bind fun _ => .pure _

private theorem flowItems_succ (h : NodesForm n) (first : Bool) :
    form.Holds (Reading.flowItems (n + 1) first) := by
  have hpair : form.Holds (do
      let k ← Reading.nodeUnless n .flow [.value, .flowEntry, .flowSequenceEnd]
      let v ← Reading.valueUnless n .flow [.flowEntry, .flowSequenceEnd]
      pure (k, v)) :=
    (h.nodeUnless _ _).bind fun _ => (h.valueUnless _ _).bind fun _ => .pure _
  have hitem : form.Holds (do
      if ← dropIf .key then
        let entry ← nested do
          let k ← Reading.nodeUnless n .flow [.value, .flowEntry, .flowSequenceEnd]
          let v ← Reading.valueUnless n .flow [.flowEntry, .flowSequenceEnd]
          pure (k, v)
        let x ← add (.mapping .map [entry])
        pure (x :: (← Reading.flowItems n false))
      else if ← dropIf .flowSequenceEnd then pure []
      else
        let x ← Reading.node n .flow
        pure (x :: (← Reading.flowItems n false))) := by
    refine (dropIf_form _).bind fun _ => .ite ?_ ((dropIf_form _).bind fun _ => .ite (.pure _) ?_)
    · exact (nested_form hpair).bind fun _ => (add_form _).bind fun _ =>
        (h.flowItems _).bind fun _ => .pure _
    · exact (h.node _).bind fun _ => (h.flowItems _).bind fun _ => .pure _
  refine (dropIf_form _).bind fun _ => .ite (.pure _) (.ite ?_ hitem)
  exact separator_form.bind fun _ => hitem

private theorem flowEntries_succ (h : NodesForm n) (first : Bool) :
    form.Holds (Reading.flowEntries (n + 1) first) := by
  have hentry : form.Holds (do
      if ← dropIf .key then
        let k ← Reading.nodeUnless n .flow [.value, .flowEntry, .flowMappingEnd]
        let v ← Reading.valueUnless n .flow [.flowEntry, .flowMappingEnd]
        pure ((k, v) :: (← Reading.flowEntries n false))
      else if ← dropIf .flowMappingEnd then pure []
      else
        let k ← Reading.node n .flow
        let v ← add .empty
        pure ((k, v) :: (← Reading.flowEntries n false))) := by
    refine (dropIf_form _).bind fun _ => .ite (h.entries_form (h.flowEntries _)) ?_
    refine (dropIf_form _).bind fun _ => .ite (.pure _) ?_
    exact (h.node _).bind fun _ => (add_form _).bind fun _ =>
      (h.flowEntries _).bind fun _ => .pure _
  refine (dropIf_form _).bind fun _ => .ite (.pure _) (.ite ?_ hentry)
  exact separator_form.bind fun _ => hentry

theorem succ (h : NodesForm n) : NodesForm (n + 1) where
  node := h.node_succ
  nodeUnless _ _ := peek_form.bind fun _ => .ite (add_form _) (h.node _)
  valueUnless _ _ := (dropIf_form _).bind fun _ => .ite (h.nodeUnless _ _) (add_form _)
  blockItems := by
    refine (dropIf_form _).bind fun _ => .ite ?_ ?_
    · exact (h.nodeUnless _ _).bind fun _ => h.blockItems.bind fun _ => .pure _
    · exact (dropIf_form _).bind fun _ => .ite (.pure _) (fail_form _)
  looseItems := by
    refine (dropIf_form _).bind fun _ => .ite ?_ (.pure _)
    exact (h.nodeUnless _ _).bind fun _ => h.looseItems.bind fun _ => .pure _
  blockEntries := by
    refine (dropIf_form _).bind fun _ => .ite (h.entries_form h.blockEntries) ?_
    exact (dropIf_form _).bind fun _ => .ite (.pure _) (fail_form _)
  flowItems := h.flowItems_succ
  flowEntries := h.flowEntries_succ

end NodesForm

private theorem nodesForm (n : Nat) : NodesForm n := by
  induction n with
  | zero => exact .zero
  | succ n ih => exact ih.succ

private theorem directives_form (n : Nat) (hasVersion : Bool)
    (handles : List (List Char × List Char)) :
    form.Holds (directives n hasVersion handles) := by
  induction n generalizing hasVersion handles with
  | zero => exact fail_form _
  | succ n ih =>
    refine peek_form.bind fun t => ?_
    split
    · exact drop_form.bind fun _ => .ite ((fail_form _).bind fun _ => ih _ _) (ih _ _)
    · exact drop_form.bind fun _ => .ite ((fail_form _).bind fun _ => ih _ _) (ih _ _)
    · exact drop_form.bind fun _ => ih _ _
    · exact .modify fun _ => rfl

private theorem dropDocumentEnds_form (n : Nat) : form.Holds (dropDocumentEnds n) := by
  induction n with
  | zero => exact .pure _
  | succ n ih => exact (dropIf_form _).bind fun _ => .ite ih (.pure _)

private theorem documentStart_form (n : Nat) : form.Holds (documentStart n) := by
  refine (dropDocumentEnds_form n).bind fun _ => peek_form.bind fun _ => .ite (.pure _) ?_
  refine (directives_form _ _ _).bind fun _ => (dropIf_form _).bind fun _ => ?_
  exact .ite (.pure _) (fail_form _)

private theorem documentContent_form (n : Nat) : form.Holds (documentContent n) := by
  refine peek_form.bind fun t => ?_
  split
  · exact add_form _
  · exact add_form _
  · exact add_form _
  · exact add_form _
  · exact (nodesForm n).node _

/-- A document behind its mark, and what follows it. -/
private theorem markedDocument_form (n : Nat) {finish : Option NodeId → Reading α}
    (h : ∀ content?, form.Holds (finish content?)) :
    form.Holds (do
      if ← documentStart n then
        let content? ← some <$> documentContent n
        finish content?
      else
        let content? ← pure none
        finish content?) :=
  (documentStart_form n).bind fun _ => .ite ((documentContent_form n).map.bind h)
    (.bind (.pure _) h)

private theorem document_form (n : Nat) : form.Holds (document n) := by
  have hend {finish : Option NodeId → Reading (Option NodeId)} (hnone : finish none = pure none)
      (hsome : ∀ content, finish (some content) = do
        if ← documentStart n then fail .composer else pure (some content))
      (content? : Option NodeId) : form.Holds (finish content?) := by
    cases content? with
    | none =>
      rw [hnone]
      exact .pure _
    | some content =>
      rw [hsome]
      exact (documentStart_form n).bind fun _ => .ite (fail_form _) (.pure _)
  refine peek_form.bind fun t => ?_
  split
  · exact markedDocument_form n (hend rfl fun _ => rfl)
  · exact markedDocument_form n (hend rfl fun _ => rfl)
  · exact markedDocument_form n (hend rfl fun _ => rfl)
  · refine .bind (.modify fun _ => rfl) fun _ => ?_
    exact ((nodesForm n).node _).map.bind (hend rfl fun _ => rfl)

end Reading

/-- Tokens are no document for a fault, for containers that nest too deep, or for the failure that
stands behind them. -/
theorem Document.ofTokens_failure {ts : List Token} {failure : Option Failure} {e : Failure}
    (h : Document.ofTokens ts failure = .error e) : Reading.FormFailure failure e := by
  have hform := Reading.document_form (4 * ts.length + 16) { tokens := ts, failure }
  unfold Document.ofTokens at h
  unfold Contract.HoldsAt at hform
  rcases hr : (Reading.document (4 * ts.length + 16)).run { tokens := ts, failure } with e' | r <;>
    rw [hr] at h hform
  · cases h
    exact hform
  · cases h

end FeatureRun.Yaml
