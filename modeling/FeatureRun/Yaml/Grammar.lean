import FeatureRun.Yaml.Fault
import FeatureRun.Yaml.Node
import FeatureRun.Yaml.Token

/-!
The nodes that tokens describe. An anchor names the place of a node from the node's start on, and an
alias stands for that place. A document has each anchor once.
-/
namespace FeatureRun.Yaml
open FeatureRun.Text

/-- The tokens left with the failure behind them, and what has been read so far. -/
structure Progress where
  tokens : List Token
  failure : Option Failure
  handles : List (List Char × List Char) := []
  anchors : List (List Char × NodeId) := []
  nodes : NodeTable := #[]
  /-- How many containers lie around what is read next. -/
  depth : Nat := 0

abbrev Reading (α : Type) := StateT Progress (Except Failure) α

namespace Reading

def fail {α : Type} (f : Fault) : Reading α := throw (.fault f)

/-- The next token. A fault in the text counts only when the token behind it is asked for. -/
def peek : Reading Token := do
  let p ← get
  match p.tokens, p.failure with
  | t :: _, _ => pure t
  | [], some e => throw e
  | [], none => fail .order

/-- Drops the next token. -/
def drop : Reading Unit := modify fun p => { p with tokens := p.tokens.drop 1 }

/-- Drops the next token if it is this one. -/
def dropIf (t : Token) : Reading Bool := do
  if (← peek) = t then
    drop
    pure true
  else pure false

/-- Adds a node. -/
def add (node : Node) : Reading NodeId :=
  modifyGet fun p => (p.nodes.size, { p with nodes := p.nodes.push node })

/-- Writes a node at a place that has been added. -/
def write (id : NodeId) (node : Node) : Reading Unit :=
  modify fun p => { p with nodes := p.nodes.put id node }

/-- What stands before a node. -/
structure Properties where
  anchor : Option (List Char) := none
  /-- The address of the kind. -/
  address : Option (List Char) := none

/-- The address of a tag. -/
def addressOf (handle : Option (List Char)) (suffix : List Char) : Reading (List Char) := do
  match handle with
  | none => pure suffix
  | some h =>
    match (← get).handles.lookup h with
    | some meaning => pure (meaning ++ suffix)
    | none => fail .order

/-- An anchor and a tag in any order, each at most once. -/
def properties : Reading Properties := do
  match ← peek with
  | .anchor name => do
    drop
    match ← peek with
    | .tag h s => do
      drop
      pure { anchor := some name, address := some (← addressOf h s) }
    | _ => pure { anchor := some name }
  | .tag h s => do
    drop
    match ← peek with
    | .anchor name => do
      drop
      pure { anchor := some name, address := some (← addressOf h s) }
    | _ => pure { address := some (← addressOf h s) }
  | _ => pure {}

/-- The address that leaves the kind to the form of the node. -/
def openAddress : List Char := ['!']

/-- The kind that an address gives, or `default` if it is left open. -/
def kindOr (default : Tag) (address : Option (List Char)) : Tag :=
  match address with
  | none => default
  | some a => if a = openAddress then default else .ofAddress a

/-- The kind of a text. Without a tag only a plain text goes by its form. -/
def scalarKind (address : Option (List Char)) (plain : Bool) (text : List CodePoint) :
    Tag :=
  match address with
  | none => if plain then .ofForm (asCharacters text) else .text
  | some _ => kindOr (.ofForm (asCharacters text)) address

/-- The node of an alias. -/
def aliased (name : List Char) : Reading NodeId := do
  match (← get).anchors.lookup name with
  | some id => pure id
  | none => fail .composer

/-- Fails if the anchor has been used. -/
def checkAnchor (p : Properties) : Reading Unit := do
  match p.anchor with
  | some name => if ((← get).anchors.lookup name).isSome then fail .composer
  | none => pure ()

/-- Lets the anchor name a node. -/
def bindAnchor (p : Properties) (id : NodeId) : Reading Unit :=
  match p.anchor with
  | some name => modify fun s => { s with anchors := (name, id) :: s.anchors }
  | none => pure ()

/-- The most containers that may lie one inside the other. -/
def nestingLimit : Nat := 488

/-- Reads what lies in one container more. -/
def nested {α : Type} (contents : Reading α) : Reading α := do
  let depth := (← get).depth
  if depth = nestingLimit then throw .tooDeep
  modify fun s => { s with depth := depth + 1 }
  let x ← contents
  modify fun s => { s with depth }
  pure x

/-- A node that begins before its contents, which may mention it. -/
def container (p : Properties) (contents : Reading Node) : Reading NodeId := do
  checkAnchor p
  let id ← add .empty
  bindAnchor p id
  write id (← nested contents)
  pure id

/-- A text as a node. -/
def scalarNode (p : Properties) (tag : Tag) (text : List CodePoint) : Reading NodeId := do
  checkAnchor p
  let id ← add (.scalar tag text)
  bindAnchor p id
  pure id

/-- Where a node stands: inside brackets, in a block, or as the value of a block mapping, where the
entries of a list need no indentation. -/
inductive Place where
  | flow
  | block
  | entry
deriving DecidableEq

/-- The comma between items. -/
def separator : Reading Unit := do
  if ← dropIf .flowEntry then pure () else fail .order

mutual
/-- A node. The argument bounds how many steps are taken. -/
def node : Nat → Place → Reading NodeId
  | 0, _ => fail .order
  | n + 1, place => do
    match ← peek with
    | .alias name => do
      drop
      aliased name
    | _ => do
      let p ← properties
      let mappingTag := kindOr .map p.address
      let listTag := kindOr .list p.address
      match ← peek, place with
      | .scalar text plain, _ => do
        drop
        scalarNode p (scalarKind p.address plain text) text
      | .flowSequenceStart, _ =>
        container p do
          drop
          pure (.sequence listTag (← flowItems n true))
      | .flowMappingStart, _ =>
        container p do
          drop
          pure (.mapping mappingTag (← flowEntries n true))
      | .blockEntry, .entry =>
        container p do
          pure (.sequence listTag (← looseItems n))
      | .blockSequenceStart, .block | .blockSequenceStart, .entry =>
        container p do
          drop
          pure (.sequence listTag (← blockItems n))
      | .blockMappingStart, .block | .blockMappingStart, .entry =>
        container p do
          drop
          pure (.mapping mappingTag (← blockEntries n))
      | _, _ =>
        if p.anchor.isSome || p.address.isSome then scalarNode p (kindOr .null p.address) []
        else fail .order

/-- A node, or nothing if one of the tokens `ends` comes next. -/
def nodeUnless : Nat → Place → List Token → Reading NodeId
  | 0, _, _ => fail .order
  | n + 1, place, ends => do
    if ends.contains (← peek) then add .empty else node n place

/-- A value, if its sign comes next. -/
def valueUnless : Nat → Place → List Token → Reading NodeId
  | 0, _, _ => fail .order
  | n + 1, place, ends => do
    if ← dropIf .value then nodeUnless n place ends else add .empty

/-- The items of an indented list. -/
def blockItems : Nat → Reading (List NodeId)
  | 0 => fail .order
  | n + 1 => do
    if ← dropIf .blockEntry then
      let x ← nodeUnless n .block [.blockEntry, .blockEnd]
      pure (x :: (← blockItems n))
    else if ← dropIf .blockEnd then pure []
    else fail .order

/-- The items of a list that is indented as the mapping it belongs to. -/
def looseItems : Nat → Reading (List NodeId)
  | 0 => fail .order
  | n + 1 => do
    if ← dropIf .blockEntry then
      let x ← nodeUnless n .block [.blockEntry, .key, .value, .blockEnd]
      pure (x :: (← looseItems n))
    else pure []

/-- The entries of an indented mapping. -/
def blockEntries : Nat → Reading (List (NodeId × NodeId))
  | 0 => fail .order
  | n + 1 => do
    if ← dropIf .key then
      let k ← nodeUnless n .entry [.key, .value, .blockEnd]
      let v ← valueUnless n .entry [.key, .value, .blockEnd]
      pure ((k, v) :: (← blockEntries n))
    else if ← dropIf .blockEnd then pure []
    else fail .order

/-- The items of a list in brackets. An item may be a mapping of one entry. -/
def flowItems : Nat → Bool → Reading (List NodeId)
  | 0, _ => fail .order
  | n + 1, first => do
    if ← dropIf .flowSequenceEnd then pure []
    else
      if !first then separator
      if ← dropIf .key then
        let entry ← nested do
          let k ← nodeUnless n .flow [.value, .flowEntry, .flowSequenceEnd]
          let v ← valueUnless n .flow [.flowEntry, .flowSequenceEnd]
          pure (k, v)
        let x ← add (.mapping .map [entry])
        pure (x :: (← flowItems n false))
      else if ← dropIf .flowSequenceEnd then pure []
      else
        let x ← node n .flow
        pure (x :: (← flowItems n false))

/-- The entries of a mapping in brackets. -/
def flowEntries : Nat → Bool → Reading (List (NodeId × NodeId))
  | 0, _ => fail .order
  | n + 1, first => do
    if ← dropIf .flowMappingEnd then pure []
    else
      if !first then separator
      if ← dropIf .key then
        let k ← nodeUnless n .flow [.value, .flowEntry, .flowMappingEnd]
        let v ← valueUnless n .flow [.flowEntry, .flowMappingEnd]
        pure ((k, v) :: (← flowEntries n false))
      else if ← dropIf .flowMappingEnd then pure []
      else
        let k ← node n .flow
        let v ← add .empty
        pure ((k, v) :: (← flowEntries n false))
end

/-- The handles that need no directive. -/
def defaultHandles : List (List Char × List Char) := [(['!'], ['!']), (['!', '!'], tagRoot)]

/-- Reads directives. There is one version, and one meaning for each handle. -/
def directives : Nat → Bool → List (List Char × List Char) → Reading Unit
  | 0, _, _ => fail .order
  | n + 1, hasVersion, handles => do
    match ← peek with
    | .directive (.version major _) => do
      drop
      if hasVersion || major != 1 then fail .order
      directives n true handles
    | .directive (.handle name meaning) => do
      drop
      if (handles.lookup name).isSome then fail .order
      directives n hasVersion ((name, meaning) :: handles)
    | .directive .other => do
      drop
      directives n hasVersion handles
    | _ => modify fun p => { p with handles := handles ++ defaultHandles }

/-- Drops the marks that end documents. -/
def dropDocumentEnds : Nat → Reading Unit
  | 0 => pure ()
  | n + 1 => do
    if ← dropIf .documentEnd then dropDocumentEnds n

/-- Reads the start of a document that is marked; `false` if the text ends instead. -/
def documentStart (n : Nat) : Reading Bool := do
  dropDocumentEnds n
  if (← peek) = .streamEnd then pure false
  else
    directives n false []
    if ← dropIf .documentStart then pure true else fail .order

/-- Reads the content of a document behind its mark. -/
def documentContent (n : Nat) : Reading NodeId := do
  match ← peek with
  | .directive _ | .documentStart | .documentEnd | .streamEnd => add .empty
  | _ => node n .block

/-- Reads the only document, if there is one. -/
def document (n : Nat) : Reading (Option NodeId) := do
  let content? ←
    match ← peek with
    | .directive _ | .documentStart | .streamEnd => do
      if ← documentStart n then some <$> documentContent n else pure none
    | _ => do
      modify fun p => { p with handles := defaultHandles }
      some <$> node n .block
  match content? with
  | none => pure none
  | some content => do
    if ← documentStart n then fail .composer else pure (some content)

end Reading

/-- The only document among the tokens, if there is one; every token takes at most three steps. -/
def Document.ofTokens (tokens : List Token) (failure : Option Failure) :
    Except Failure (Option Document) := do
  let (root?, p) ← (Reading.document (4 * tokens.length + 16)).run { tokens, failure }
  .ok (root?.map fun root => { nodes := p.nodes, root })

end FeatureRun.Yaml
