import TenantSchema.Yaml.Notation
import TenantSchema.Yaml.TokenStream

/-!
# Nodes of a configuration file

A document is a graph of nodes: scalars, sequences and mappings.  A node may carry an anchor, and
an alias stands for the node with that anchor, which it may lie in itself.  A node that is left
out stands for null.  A text holds one document at most.
-/

namespace TenantSchema.Yaml

/-- A node of a graph, by its place in the order in which nodes begin. -/
abbrev NodeId := Nat

/-- What a node is made of. -/
inductive Content where
  | scalar (text : CodeText)
  | sequence (items : List NodeId)
  | mapping (entries : List (NodeId × NodeId))
  deriving Repr, DecidableEq

/-- A node of a document. -/
structure Node where
  tag : Tag
  content : Content
  deriving Repr, DecidableEq

/-- The nodes of a document. -/
structure Graph where
  nodes : Array Node
  deriving Repr

namespace Graph

/-- A graph without nodes. -/
def empty : Graph :=
  { nodes := #[] }

/-- A node that stands for null. -/
def absent : Node :=
  { tag := .null, content := .scalar [] }

/-- The node at a place; there is one for each place that was given out. -/
def node (graph : Graph) (id : NodeId) : Node :=
  graph.nodes.getD id absent

/-- The graph with another node at a place. -/
def set (graph : Graph) (id : NodeId) (node : Node) : Graph :=
  { nodes := graph.nodes.setIfInBounds id node }

/-- The graph with another content of a node. -/
def setContent (graph : Graph) (id : NodeId) (content : Content) : Graph :=
  graph.set id { graph.node id with content := content }

end Graph

/-- A document that is being read. -/
structure Draft where
  tokens : TokenStream
  handles : Handles
  anchors : List (Text × NodeId)
  graph : Graph

/-- Reading from a draft. -/
abbrev Reading (α : Type) := StateT Draft (Except Refusal) α

namespace Reading

/-- The next token. -/
def peek : Reading Token := do
  let draft ← get
  let (token, tokens) ← draft.tokens.peek
  set { draft with tokens := tokens }
  pure token

/-- Pass over the next token. -/
def drop : Reading Unit :=
  modify fun draft => { draft with tokens := draft.tokens.drop }

/-- Refuse the document. -/
def refuse {α : Type} : Reading α := do
  (← get).tokens.refuse

/-- Pass over a token that has to come next. -/
def expect (expected : Token) : Reading Unit := do
  if (← peek) = expected then drop else refuse

/-- Begin a node, which may get an anchor. -/
def beginNode (anchor : Option Text) (node : Node) : Reading NodeId := do
  let draft ← get
  let id := draft.graph.nodes.size
  if (anchor.bind fun name => draft.anchors.find? (·.1 == name)).isSome then
    refuse
  else
    set {
      draft with
      anchors := (anchor.map (·, id)).toList ++ draft.anchors
      graph := { nodes := draft.graph.nodes.push node }
    }
    pure id

/-- A node that was left out. -/
def absentNode : Reading NodeId :=
  beginNode none Graph.absent

/-- Give a node that was begun its content. -/
def finishNode (id : NodeId) (content : Content) : Reading NodeId := do
  modify fun draft => { draft with graph := draft.graph.setContent id content }
  pure id

/-- The node that an alias stands for. -/
def aliased (name : Text) : Reading NodeId := do
  let draft ← get
  match draft.anchors.find? (·.1 == name) with
  | some (_, id) =>
      pure id
  | none =>
      refuse

/-- What stands in front of the content of a node. -/
structure Properties where
  anchor : Option Text
  tag : Option TagName

/-- Read the properties of a node, in any order. -/
def properties : Reading Properties := do
  match ← peek with
  | .anchor anchor =>
      drop
      match ← peek with
      | .tag tag =>
          drop
          pure ⟨some anchor, some tag⟩
      | _ =>
          pure ⟨some anchor, none⟩
  | .tag tag =>
      drop
      match ← peek with
      | .anchor anchor =>
          drop
          pure ⟨some anchor, some tag⟩
      | _ =>
          pure ⟨none, some tag⟩
  | _ =>
      pure ⟨none, none⟩

/-- What the tag of a node asks for, if there is one. -/
def request (tag : Option TagName) : Reading (Option TagRequest) := do
  let draft ← get
  match tag with
  | none =>
      pure none
  | some name =>
      match name.request? draft.handles with
      | some request =>
          pure (some request)
      | none =>
          refuse

/-- The tag of a scalar: quotes without a tag make it a text. -/
def scalarTag (request : Option TagRequest) (plain : Bool) (text : CodeText) : Tag :=
  match request with
  | some (.fixed tag) =>
      tag
  | some .free =>
      Notation.tagOf text.replaced
  | none =>
      if plain then Notation.tagOf text.replaced else .text

/-- The tag of a collection of a kind. -/
def collectionTag (request : Option TagRequest) (kind : Tag) : Tag :=
  match request with
  | some (.fixed tag) =>
      tag
  | _ =>
      kind

/-- Where a node stands. -/
inductive Position where
  | flow
  | block
  /-- A sequence need not be indented there. -/
  | entryOfMapping
  deriving Repr, DecidableEq

/-- Whether a token ends an entry of a block sequence. -/
def endsBlockEntry (token : Token) : Bool :=
  token = .entry || token = .blockEnd

/-- Whether a token ends a key or a value of a block mapping. -/
def endsBlockPart (token : Token) : Bool :=
  token = .key || token = .value || token = .blockEnd

/-- Whether a token ends a value inside brackets. -/
def endsFlowPart (closing token : Token) : Bool :=
  token = .flowEntry || token = closing

mutual

/-- Read a node.  The fuel bounds the count of tokens. -/
def node (position : Position) : Nat → Reading NodeId
  | 0 =>
      refuse
  | fuel + 1 => do
      match ← peek with
      | .alias name =>
          drop
          aliased name
      | _ =>
          let properties ← properties
          let request ← request properties.tag
          let sequence (items : Reading (List NodeId)) : Reading NodeId := do
            let tag := collectionTag request .sequence
            let id ← beginNode properties.anchor { tag := tag, content := .sequence [] }
            finishNode id (.sequence (← items))
          let mapping (entries : Reading (List (NodeId × NodeId))) : Reading NodeId := do
            let tag := collectionTag request .mapping
            let id ← beginNode properties.anchor { tag := tag, content := .mapping [] }
            finishNode id (.mapping (← entries))
          let scalar (plain : Bool) (text : CodeText) : Reading NodeId :=
            beginNode properties.anchor
              { tag := scalarTag request plain text, content := .scalar text }
          match ← peek, position with
          | .entry, .entryOfMapping =>
              sequence (bareItems fuel)
          | .scalar text plain, _ =>
              drop
              scalar plain text
          | .flowSequenceStart, _ =>
              sequence (drop *> flowItems true fuel)
          | .flowMappingStart, _ =>
              mapping (drop *> flowEntries true fuel)
          | .blockSequenceStart, .block | .blockSequenceStart, .entryOfMapping =>
              sequence (drop *> blockItems fuel)
          | .blockMappingStart, .block | .blockMappingStart, .entryOfMapping =>
              mapping (drop *> blockEntries fuel)
          | _, _ =>
              if properties.anchor.isSome || properties.tag.isSome then
                scalar true []
              else
                refuse

/-- Read the items of a block sequence up to its end. -/
def blockItems : Nat → Reading (List NodeId)
  | 0 =>
      refuse
  | fuel + 1 => do
      match ← peek with
      | .entry =>
          drop
          let item ← if endsBlockEntry (← peek) then absentNode else node .block fuel
          let rest ← blockItems fuel
          pure (item :: rest)
      | .blockEnd =>
          drop
          pure []
      | _ =>
          refuse

/-- Read the items of a sequence that is not indented. -/
def bareItems : Nat → Reading (List NodeId)
  | 0 =>
      refuse
  | fuel + 1 => do
      match ← peek with
      | .entry =>
          drop
          let next ← peek
          let item ←
            if endsBlockEntry next || endsBlockPart next then
              absentNode
            else
              node .block fuel
          let rest ← bareItems fuel
          pure (item :: rest)
      | _ =>
          pure []

/-- Read the entries of a block mapping up to its end. -/
def blockEntries : Nat → Reading (List (NodeId × NodeId))
  | 0 =>
      refuse
  | fuel + 1 => do
      match ← peek with
      | .key =>
          drop
          let key ←
            if endsBlockPart (← peek) then absentNode else node .entryOfMapping fuel
          let value ←
            if (← peek) = .value then
              drop
              if endsBlockPart (← peek) then absentNode else node .entryOfMapping fuel
            else
              absentNode
          let rest ← blockEntries fuel
          pure ((key, value) :: rest)
      | .blockEnd =>
          drop
          pure []
      | _ =>
          refuse

/-- Read a key behind its sign and its value, inside brackets that a token closes. -/
def flowPair (closing : Token) : Nat → Reading (NodeId × NodeId)
  | 0 =>
      refuse
  | fuel + 1 => do
      let next ← peek
      let key ←
        if next = .value || endsFlowPart closing next then absentNode else node .flow fuel
      let value ←
        if (← peek) = .value then
          drop
          if endsFlowPart closing (← peek) then absentNode else node .flow fuel
        else
          absentNode
      pure (key, value)

/-- Read the items of a sequence in brackets; a pair is a mapping of its own. -/
def flowItems (isFirst : Bool) : Nat → Reading (List NodeId)
  | 0 =>
      refuse
  | fuel + 1 => do
      if (← peek) = .flowSequenceEnd then
        drop
        pure []
      else
        if !isFirst then
          expect .flowEntry
        match ← peek with
        | .flowSequenceEnd =>
            drop
            pure []
        | .key =>
            let id ← beginNode none { tag := .mapping, content := .mapping [] }
            drop
            let pair ← flowPair .flowSequenceEnd fuel
            let item ← finishNode id (.mapping [pair])
            let rest ← flowItems false fuel
            pure (item :: rest)
        | _ =>
            let item ← node .flow fuel
            let rest ← flowItems false fuel
            pure (item :: rest)

/-- Read the entries of a mapping in brackets; a key may stand alone. -/
def flowEntries (isFirst : Bool) : Nat → Reading (List (NodeId × NodeId))
  | 0 =>
      refuse
  | fuel + 1 => do
      if (← peek) = .flowMappingEnd then
        drop
        pure []
      else
        if !isFirst then
          expect .flowEntry
        match ← peek with
        | .flowMappingEnd =>
            drop
            pure []
        | .key =>
            drop
            let pair ← flowPair .flowMappingEnd fuel
            let rest ← flowEntries false fuel
            pure (pair :: rest)
        | _ =>
            let key ← node .flow fuel
            let value ← absentNode
            let rest ← flowEntries false fuel
            pure ((key, value) :: rest)

end

/-- What the directives in front of a document say. -/
structure Prologue where
  isVersioned : Bool
  handles : Handles

/-- Read directives.  The version may be given once, and it has to be some version 1; a handle
gets one meaning at most. -/
def directives (prologue : Prologue) : Nat → Reading Prologue
  | 0 =>
      refuse
  | fuel + 1 => do
      match ← peek with
      | .directive directive =>
          drop
          match directive with
          | .version major =>
              if prologue.isVersioned || major ≠ 1 then
                refuse
              else
                directives { prologue with isVersioned := true } fuel
          | .handle handle lead =>
              if prologue.handles.any (·.1 == handle) then
                refuse
              else
                directives { prologue with handles := (handle, lead) :: prologue.handles } fuel
          | .other =>
              directives prologue fuel
      | _ =>
          pure prologue

/-- Pass over marks that end documents. -/
def documentEnds : Nat → Reading Unit
  | 0 =>
      refuse
  | fuel + 1 => do
      if (← peek) = .documentEnd then
        drop
        documentEnds fuel

/-- Read what begins a document with a mark; at the end of the text there is none. -/
def documentStart (fuel : Nat) : Reading Bool := do
  documentEnds fuel
  if (← peek) = .textEnd then
    pure false
  else
    let prologue ← directives { isVersioned := false, handles := [] } fuel
    modify fun draft => { draft with handles := prologue.handles }
    expect .documentStart
    pure true

/-- Read the root of a document that began with a mark. -/
def markedRoot (fuel : Nat) : Reading NodeId := do
  match ← peek with
  | .directive _ | .documentStart | .documentEnd | .textEnd =>
      absentNode
  | _ =>
      node .block fuel

/-- Read the root of the first document, if there is one. -/
def firstRoot (fuel : Nat) : Reading (Option NodeId) := do
  match ← peek with
  | .directive _ | .documentStart | .textEnd =>
      if ← documentStart fuel then some <$> markedRoot fuel else pure none
  | _ =>
      some <$> node .block fuel

/-- Read the only document of a text. -/
def document (fuel : Nat) : Reading (Option NodeId) := do
  let root ← firstRoot fuel
  if ← documentStart fuel then refuse else pure root

end Reading

/-- The nodes of a document and its root, if it has one. -/
structure Tree where
  graph : Graph
  root : Option NodeId

/-- A bound on the steps of reading a text: few tokens come from one character. -/
def stepBound (length : Nat) : Nat :=
  16 * (length + 4)

/-- The nodes of the only document of a text. -/
def Tree.ofText (text : Text) : Except Refusal Tree :=
  let draft : Draft := {
    tokens := .ofText text
    handles := []
    anchors := []
    graph := .empty
  }
  ((Reading.document (stepBound text.length)).run draft).map fun (root, draft) =>
    { graph := draft.graph, root := root }

end TenantSchema.Yaml
