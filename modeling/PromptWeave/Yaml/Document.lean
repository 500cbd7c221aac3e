/-
**What a data file holds.**

The nodes of a document stand for values, each node for one. A collection is there before it is
filled, so that it may stand inside itself; collections are filled in the order in which they were
met. Of several entries of a mapping with one key the last value counts. Main definitions:

* `Collection`: what a collection holds, other collections by their labels;
* `Making.item`: what a node stands for;
* `Making.fill`: the filling of a collection;
* `Yaml.readShared` and `Yaml.read`: the value of a text, with its shared collections and without.
-/

import PromptWeave.Value.Arrangement
import PromptWeave.Value.Shared
import PromptWeave.Yaml.Merging

namespace PromptWeave.Yaml

/-- What a node stands for: an atom, or the collection of a label. -/
inductive Item
  | atom (value : Atom)
  | collection (label : Nat)
deriving DecidableEq, Repr

/-- What a collection holds. -/
inductive Collection
  | sequence (frozen : Bool) (items : List Item)
  | mapping (entries : Entries Key Item)
  | set (members : List Key)
deriving Repr

/-- The collection that the nodes of a tag start as, if they are collections. -/
def Collection.start? : Tag → Option Collection
  | .sequence | .orderedMap | .pairs => some (.sequence false [])
  | .mapping => some (.mapping [])
  | .set => some (.set [])
  | _ => none

/-! ### Atoms -/

namespace Nodes

/-- The text of a node. A mapping with a main value has the text of that. -/
def textOf (nodes : Nodes) : (fuel : Nat) → Nat → Except HostFault Text
  | 0, _ => .error (.endless .mainValue)
  | fuel + 1, number =>
    match nodes[number]? with
    | some ⟨_, .scalar text⟩ => .ok text
    | some ⟨_, .mapping fields⟩ =>
      match fields.find? fun field => nodes.tagOf field.1 == .main with
      | some (_, content) => textOf nodes fuel content
      | none => .error .malformedData
    | _ => .error .malformedData

/-- The atom of a node. A timestamp has to be written as a scalar. -/
def atomOf (nodes : Nodes) (number : Nat) : Except HostFault Atom := do
  let tag := nodes.tagOf number
  if !tag.isAtomic then throw .malformedData
  let text ← nodes.textOf (nodes.size + 1) number
  if tag = .timestamp ∧ (nodes.fieldsOf? number).isSome then throw (.notText (Value.list []).kind)
  Tag.atom (number + 1) text tag

end Nodes

/-! ### Collections -/

/-- What is known while the value of a document is made. -/
structure Making where
  nodes : Nodes
  /-- What nodes stand for, by their numbers. -/
  items : List (Nat × Item)
  /-- The collections by their labels. -/
  collections : Array Collection
  /-- The nodes whose collections are to be filled, with the labels of those. -/
  pending : List (Nat × Nat)

/-- A step in the making of a value. -/
abbrev Makes := StateT Making (Except HostFault)

namespace Making

/-- Adds a collection and gives its label. -/
def add (collection : Collection) : Makes Nat := do
  let making ← get
  set { making with collections := making.collections.push collection }
  return making.collections.size

/-- What a node stands for. A collection is to be filled later. -/
def item (number : Nat) : Makes Item := do
  match (← get).items.find? fun entry => entry.1 == number with
  | some (_, item) => return item
  | none =>
    let nodes := (← get).nodes
    match Collection.start? (nodes.tagOf number) with
    | none =>
      let atom ← nodes.atomOf number
      modify fun making => { making with items := (number, .atom atom) :: making.items }
      return .atom atom
    | some collection =>
      let label ← add collection
      modify fun making => { making with
        items := (number, .collection label) :: making.items
        pending := making.pending ++ [(number, label)] }
      return .collection label

/-- The key that a node stands for. Collections are no keys. -/
def key (number : Nat) : Makes Key := do
  match ← item number with
  | .atom value => return .atom value
  | .collection _ => throw .malformedData

/-- The pair of a mapping with one entry. -/
def pair (number : Nat) : Makes Item := do
  match (← get).nodes.fieldsOf? number with
  | some [(key, content)] =>
    let key ← item key
    let content ← item content
    return .collection (← add (.sequence true [key, content]))
  | _ => throw .malformedData

/-- The entries of a mapping together with those merged into it. -/
def entries (number : Nat) : Makes (Entries Key Item) := do
  let nodes ← (← get).nodes.merge number
  modify fun making => { making with nodes }
  let pairs ← ((nodes.fieldsOf? number).getD []).mapM fun field => do
    let key ← key field.1
    return (key, ← item field.2)
  return Entries.ofPairs Key.same pairs

/-- What the collection of a node holds. -/
def contentOf (number : Nat) (node : Node) : Makes Collection := do
  match node.tag, node.content with
  | .sequence, .sequence items => return .sequence false (← items.mapM item)
  | .orderedMap, .sequence items => return .sequence false (← items.mapM pair)
  | .pairs, .sequence items => return .sequence false (← items.mapM pair)
  | .mapping, .mapping _ => return .mapping (← entries number)
  | .set, .mapping _ => return .set (Key.arranged ((← entries number).map (·.1)))
  | _, _ => throw .malformedData

/-- Fills the collection of a node. -/
def fill (number label : Nat) : Makes Unit := do
  match (← get).nodes[number]? with
  | none => throw .malformedData
  | some node =>
    let collection ← contentOf number node
    modify fun making => { making with
      collections := making.collections.setIfInBounds label collection }

/-- Fills collections until all of them are filled. -/
def fillAll : (fuel : Nat) → Makes Unit
  | 0 => throw .malformedData
  | fuel + 1 => do
    match (← get).pending with
    | [] => return ()
    | (number, label) :: pending =>
      modify fun making => { making with pending }
      fill number label
      fillAll fuel

end Making

/-! ### Values -/

/-- The value of an item inside the collections of some labels, which it only names. -/
def Item.share (collections : Array Collection) :
    (fuel : Nat) → (around : List Nat) → Item → Shared
  | 0, _, _ => .plain .null
  | _ + 1, _, .atom value => .plain (.atom value)
  | fuel + 1, around, .collection label =>
    if around.contains label then .again label
    else
      let inner := share collections fuel (label :: around)
      match collections[label]? with
      | some (.sequence frozen items) => .sequence label frozen (items.map inner)
      | some (.mapping entries) =>
        .mapping label (entries.map fun entry => (entry.1, inner entry.2))
      | some (.set members) => .plain (.set members)
      | none => .plain .null

/-- The value of a document. -/
def Document.value (document : Document) : Except HostFault Shared := do
  let work : Makes Item := do
    let item ← Making.item document.root
    Making.fillAll (document.nodes.size + 1)
    return item
  let (item, making) ← work.run ⟨document.nodes, [], #[], []⟩
  return item.share making.collections (making.collections.size + 2) []

/-- The value of a text with its shared collections; an empty text has no value. -/
def readShared (text : Text) : Except HostFault Shared := do
  match ← Document.ofText? text with
  | none => return .plain .null
  | some document => document.value

/-- The value of a text. -/
def read (text : Text) : Except HostFault Value := Shared.value <$> readShared text

end PromptWeave.Yaml
