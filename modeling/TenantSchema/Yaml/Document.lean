import TenantSchema.Yaml.Node
import TenantSchema.Yaml.Scalar
import TenantSchema.Yaml.SetOrder
import TenantSchema.Yaml.Source

/-!
# Documents of a configuration file

The nodes of a document stand for objects: scalars, and collections of further nodes.  A
collection is begun empty and filled later, in the order in which collections were begun, so it
can lie in itself.  The key `<<` brings in the entries of other mappings, in front of the
mapping's own; of two values of one key the later counts.
-/

namespace TenantSchema.Yaml

/-- What a node stands for; the parts of a collection are given by their nodes. -/
inductive Object where
  | scalar (value : Value)
  | sequence (items : List NodeId)
  | pairs (entries : List (NodeId × NodeId))
  | set (members : List NodeId)
  | mapping (entries : List (NodeId × NodeId))
  deriving Repr

namespace Object

/-- The empty collection that a tag asks for, if it asks for one. -/
def emptyOf? : Tag → Option Object
  | .sequence =>
      some (.sequence [])
  | .pairs =>
      some (.pairs [])
  | .set =>
      some (.set [])
  | .mapping =>
      some (.mapping [])
  | _ =>
      none

/-- The value of an object that may be a key. -/
def keyValue? : Object → Option Value
  | .scalar value =>
      some value
  | _ =>
      none

end Object

/-- A document whose objects are being made. -/
structure Assembly where
  graph : Graph
  objects : Array (Option Object)
  /-- The collections that were begun and are not filled, the last one first. -/
  begun : List NodeId

/-- Making the objects of a document. -/
abbrev Assembling (α : Type) := StateT Assembly (Except Fault) α

namespace Assembling

/-- Refuse the document. -/
def refuse {α : Type} : Assembling α :=
  throw .malformed

/-- The node at a place. -/
def node (id : NodeId) : Assembling Node := do
  pure ((← get).graph.node id)

/-- The object that was made of a node. -/
def object? (id : NodeId) : Assembling (Option Object) := do
  pure ((← get).objects.getD id none)

/-- Keep the object of a node. -/
def putObject (id : NodeId) (object : Object) : Assembling Unit :=
  modify fun assembly =>
    { assembly with objects := assembly.objects.setIfInBounds id (some object) }

/-- Give a node another content. -/
def putContent (id : NodeId) (content : Content) : Assembling Unit :=
  modify fun assembly => { assembly with graph := assembly.graph.setContent id content }

/-- Make a key that stands for its whole mapping an ordinary text. -/
def makeText (id : NodeId) : Assembling Unit :=
  modify fun assembly =>
    { assembly with
      graph := assembly.graph.set id { assembly.graph.node id with tag := .text } }

/--
The text of a node: that of a scalar, or of the value that stands for a whole mapping.  The fuel
is the count of nodes.
-/
def scalarText : Nat → NodeId → Assembling CodeText
  | 0, _ =>
      refuse
  | fuel + 1, id => do
      match (← node id).content with
      | .scalar text =>
          pure text
      | .sequence _ =>
          refuse
      | .mapping entries =>
          let graph := (← get).graph
          match entries.find? fun (key, _) => (graph.node key).tag == .standIn with
          | some (_, value) =>
              scalarText fuel value
          | none =>
              refuse

/-- Make the object of a node that is no collection. -/
def makeScalar (id : NodeId) : Assembling Unit := do
  let made ← node id
  if made.tag = .merge ∨ made.tag = .standIn ∨ made.tag = .unknown then
    refuse
  else
    let text ← scalarText ((← get).objects.size + 1) id
    match made.tag, made.content with
    | .moment, .mapping _ =>
        throw .noText
    | tag, _ =>
        putObject id (.scalar (← Scalar.read tag text))

/-- Make the object of a node, unless it is made; a collection is only begun. -/
def make (id : NodeId) : Assembling Unit := do
  match ← object? id with
  | some _ =>
      pure ()
  | none =>
      match Object.emptyOf? (← node id).tag with
      | some object =>
          putObject id object
          modify fun assembly => { assembly with begun := id :: assembly.begun }
      | none =>
          makeScalar id

/-- The entries of a node that is a mapping. -/
def entriesOf (id : NodeId) : Assembling (List (NodeId × NodeId)) := do
  match (← node id).content with
  | .mapping entries =>
      pure entries
  | _ =>
      refuse

mutual

/-- The entries that a node brings in: those of a mapping, or of several, the last one first. -/
def broughtIn : Nat → NodeId → Assembling (List (NodeId × NodeId))
  | 0, _ =>
      refuse
  | fuel + 1, id => do
      match (← node id).content with
      | .scalar _ =>
          refuse
      | .mapping _ =>
          flatten fuel id
          entriesOf id
      | .sequence items =>
          let sources ← items.mapM fun item => do
            let _ ← entriesOf item
            flatten fuel item
            entriesOf item
          pure sources.reverse.flatten

/-- Collect the entries that the keys of a mapping from a position on bring in. -/
def collect : Nat → NodeId → (position : Nat) → List (NodeId × NodeId) →
    Assembling (List (NodeId × NodeId))
  | 0, _, _, _ =>
      refuse
  | fuel + 1, id, position, collected => do
      let entries ← entriesOf id
      match entries[position]? with
      | none =>
          pure collected
      | some (key, value) =>
          match (← node key).tag with
          | .merge =>
              putContent id (.mapping (entries.eraseIdx position))
              let more ← broughtIn fuel value
              collect fuel id position (collected ++ more)
          | .standIn =>
              makeText key
              collect fuel id (position + 1) collected
          | _ =>
              collect fuel id (position + 1) collected

/-- Bring in the entries of other mappings in front of the entries of a mapping. -/
def flatten : Nat → NodeId → Assembling Unit
  | 0, _ =>
      refuse
  | fuel + 1, id => do
      let collected ← collect fuel id 0 []
      if !collected.isEmpty then
        putContent id (.mapping (collected ++ (← entriesOf id)))

end

/-- Whether two nodes are one key. -/
def isSameKey (left right : NodeId) : Assembling Bool := do
  let leftObject ← object? left
  let rightObject ← object? right
  match leftObject.bind (·.keyValue?), rightObject.bind (·.keyValue?) with
  | some leftValue, some rightValue =>
      pure (left == right || leftValue.sameKey rightValue)
  | _, _ =>
      pure false

/-- Set the value of a key: in its place if the key is there, else at the end. -/
def setEntry (key value : NodeId) :
    List (NodeId × NodeId) → Assembling (List (NodeId × NodeId))
  | [] =>
      pure [(key, value)]
  | (other, old) :: rest => do
      if ← isSameKey other key then
        pure ((other, value) :: rest)
      else
        let set ← setEntry key value rest
        pure ((other, old) :: set)

/-- Make the keys and values of entries, one entry after the other; a key is a scalar. -/
def makeEntries (entries : List (NodeId × NodeId)) :
    Assembling (List (NodeId × NodeId)) :=
  entries.foldlM
    (fun known (key, value) => do
      make key
      match (← object? key).bind (·.keyValue?) with
      | none =>
          refuse
      | some _ =>
          make value
          setEntry key value known)
    []

/-- A bound on the steps of bringing in entries. -/
def flattenBound (nodes : Nat) : Nat :=
  (nodes + 2) * (nodes + 2) * (nodes + 2)

/-- Make the entries of a node that is a mapping. -/
def makeMapping (id : NodeId) : Assembling (List (NodeId × NodeId)) := do
  flatten (flattenBound (← get).objects.size) id
  makeEntries (← entriesOf id)

/-- Make a pair of a node that is a mapping with one entry. -/
def makePair (id : NodeId) : Assembling (NodeId × NodeId) := do
  match ← entriesOf id with
  | [(key, value)] =>
      make key
      make value
      pure (key, value)
  | _ =>
      refuse

/-- The items of a node that is a sequence. -/
def itemsOf (id : NodeId) : Assembling (List NodeId) := do
  match (← node id).content with
  | .sequence items =>
      pure items
  | _ =>
      refuse

/-- Fill a collection that was begun. -/
def fill (id : NodeId) : Assembling Unit := do
  match (← node id).tag with
  | .sequence =>
      let items ← itemsOf id
      items.forM make
      putObject id (.sequence items)
  | .pairs =>
      putObject id (.pairs (← (← itemsOf id).mapM makePair))
  | .set =>
      putObject id (.set ((← makeMapping id).map (·.1)))
  | .mapping =>
      putObject id (.mapping (← makeMapping id))
  | _ =>
      refuse

/-- Fill all collections, also those begun on the way.  The fuel is the count of nodes. -/
def fillAll : Nat → Assembling Unit
  | 0 =>
      refuse
  | fuel + 1 => do
      match (← get).begun.reverse with
      | [] =>
          pure ()
      | begun =>
          modify fun assembly => { assembly with begun := [] }
          begun.forM fill
          fillAll fuel

end Assembling

/-- The objects of a document and its root, if it has one. -/
structure Document where
  objects : Array (Option Object)
  root : Option NodeId

namespace Document

/-- The document that a tree of nodes makes. -/
def ofTree (tree : Tree) : Except Fault Document := do
  let size := tree.graph.nodes.size
  let assembly : Assembly := {
    graph := tree.graph
    objects := Array.replicate size none
    begun := []
  }
  match tree.root with
  | none =>
      .ok { objects := #[], root := none }
  | some root =>
      let made : Assembling Unit := do
        Assembling.make root
        Assembling.fillAll (size + 1)
      let (_, assembly) ← made.run assembly
      .ok { objects := assembly.objects, root := some root }

/-- The document that a source holds; all of the source has to be loaded before it is made. -/
def ofSource (source : Source) : Except Fault Document :=
  match Tree.ofText source.text with
  | .error refusal =>
      .error (source.faultOf refusal)
  | .ok tree =>
      match source.fault with
      | some fault =>
          .error fault
      | none =>
          ofTree tree

/-- The object of a node. -/
def object (document : Document) (id : NodeId) : Object :=
  (document.objects.getD id none).getD (.scalar .null)

/--
The value of an object.  A collection that lies in itself is shown once more there, without
content.  The fuel bounds how deep collections lie in each other.
-/
def valueWith (document : Document) : Nat → (enclosing : List NodeId) → NodeId → Value
  | 0, _, _ =>
      .null
  | fuel + 1, enclosing, id =>
      let value := document.valueWith fuel (id :: enclosing)
      let entry (entry : NodeId × NodeId) : Value × Value := (value entry.1, value entry.2)
      let isEnclosing := enclosing.elem id
      match document.object id with
      | .scalar value =>
          value
      | .sequence items =>
          if isEnclosing then .enclosingSequence else .sequence (items.map value)
      | .pairs entries =>
          if isEnclosing then .enclosingSequence else .pairs (entries.map entry)
      | .set members =>
          .set (SetOrder.arrange (members.map value))
      | .mapping entries =>
          if isEnclosing then .enclosingMapping else .mapping (entries.map entry)

/-- The value of an object. -/
def value (document : Document) (id : NodeId) : Value :=
  document.valueWith (document.objects.size + 1) [] id

/-- A value with the kind of an object and as many parts, but without the parts. -/
def hollow : Object → Value
  | .scalar value =>
      value
  | .sequence items =>
      .sequence (items.map fun _ => .null)
  | .pairs entries =>
      .pairs (entries.map fun _ => (.null, .null))
  | .set members =>
      .set (members.map fun _ => .null)
  | .mapping entries =>
      .mapping (entries.map fun _ => (.null, .null))

/-- Whether an object is a text from a list. -/
def isAmong (document : Document) (names : List Text) (id : NodeId) : Bool :=
  match document.object id with
  | .scalar (.text text) =>
      names.any fun name => text == CodeText.ofText name
  | _ =>
      false

/--
The value of an object, as far as an outline asks for it: each list of names stands for a level of
mappings, of which only the entries with these names are shown.  What lies deeper is shown in
full; on a level of the outline that is no mapping the parts are not.
-/
def outlined (document : Document) : List (List Text) → NodeId → Value
  | [], id =>
      document.value id
  | names :: inner, id =>
      match document.object id with
      | .mapping entries =>
          let named := entries.filter fun (key, _) => document.isAmong names key
          .mapping (named.map fun (key, value) =>
            (document.value key, document.outlined inner value))
      | other =>
          hollow other

/-- The value of the root as far as an outline asks for it; no root stands for null. -/
def outline (document : Document) (levels : List (List Text)) : Value :=
  match document.root with
  | none =>
      .null
  | some root =>
      document.outlined levels root

end Document

end TenantSchema.Yaml
