/-
**Mappings merged into mappings.**

A mapping whose key is the mark of merging has the entries of the mappings under that key before its
own. Merging changes the nodes: the mark goes away with what stands under it, and every other place
where the mapping stands sees the new entries. A mapping may be merged into itself. Main
definitions:

* `Nodes.merge`: the nodes after a mapping has got all entries that are merged into it;
* `Nodes.mergedInto`: the entries that are merged into a mapping.
-/

import PromptWeave.Yaml.Node

namespace PromptWeave.Yaml

/-- The entries of a mapping by the numbers of their keys and values. -/
abbrev Fields := List (Nat × Nat)

namespace Nodes

/-- The tag of a node. -/
def tagOf (nodes : Nodes) (number : Nat) : Tag :=
  match nodes[number]? with
  | some node => node.tag
  | none => .unknown

/-- The entries of a node, if it is a mapping. -/
def fieldsOf? (nodes : Nodes) (number : Nat) : Option Fields :=
  match nodes[number]? with
  | some ⟨_, .mapping fields⟩ => some fields
  | _ => none

/-- Gives a mapping its entries. -/
def setFields (nodes : Nodes) (number : Nat) (fields : Fields) : Nodes :=
  nodes.modify number fun node => { node with content := .mapping fields }

/-- The nodes with a key that is the mark of a main value made a string. -/
def unmark (nodes : Nodes) (number : Nat) : Nodes :=
  nodes.modify number fun node => if node.tag = .main then { node with tag := .string } else node

/-- Whether an entry stands under the mark of merging. -/
def isMerge (nodes : Nodes) (field : Nat × Nat) : Bool := nodes.tagOf field.1 == .merge

/-- The number of entries of a node that stand under the mark of merging. -/
def mergesOf (nodes : Nodes) : Content → Nat
  | .mapping fields => fields.countP nodes.isMerge
  | _ => 0

/-- The number of all entries that stand under the mark of merging. -/
def merges (nodes : Nodes) : Nat :=
  nodes.toList.foldl (fun count node => count + nodes.mergesOf node.content) 0

/-- The mappings that stand under a mark of merging: one, or those of a sequence. -/
def sources? (nodes : Nodes) (number : Nat) : Option (List Nat) :=
  let isMapping := fun number => (nodes.fieldsOf? number).isSome
  match nodes[number]? with
  | some ⟨_, .mapping _⟩ => some [number]
  | some ⟨_, .sequence items⟩ => if items.all isMapping then some items else none
  | _ => none

/-- The nodes with the first mark of merging taken out of a mapping, and what stood under it. -/
def takeMerge? (nodes : Nodes) (number : Nat) : Option (Nodes × Nat) :=
  let fields := (nodes.fieldsOf? number).getD []
  match fields.find? nodes.isMerge with
  | some field => some (nodes.setFields number (fields.eraseP nodes.isMerge), field.2)
  | none => none

/-- A mapping that has got the entries merged into it before its own. -/
def finish (nodes : Nodes) (number : Nat) (before : Fields) : Nodes :=
  let fields := before ++ (nodes.fieldsOf? number).getD []
  (fields.map (·.1)).foldl unmark (nodes.setFields number fields)

/-- The nodes with all marks of merging taken out of a mapping, and the entries that are merged into
it after some others. Of the mappings of a sequence the first one comes last. -/
def mergedInto : (fuel : Nat) → Nodes → Nat → Fields → Except HostFault (Nodes × Fields)
  | 0, _, _, _ => .error .malformedData
  | fuel + 1, nodes, number, before =>
    match nodes.takeMerge? number with
    | none => .ok (nodes, before)
    | some (nodes, content) =>
      match nodes.sources? content with
      | none => .error .malformedData
      | some sources => do
        let step := fun (state : Nodes × Fields) (source : Nat) => do
          let (nodes, more) ← mergedInto fuel state.1 source []
          let nodes := nodes.finish source more
          return (nodes, (nodes.fieldsOf? source).getD [] ++ state.2)
        let (nodes, more) ← sources.foldlM step (nodes, [])
        mergedInto fuel nodes number (before ++ more)

/-- The nodes after a mapping has got all entries that are merged into it. -/
def merge (nodes : Nodes) (number : Nat) : Except HostFault Nodes := do
  let (nodes, before) ← mergedInto (nodes.merges + 1) nodes number []
  return nodes.finish number before

end Nodes

end PromptWeave.Yaml
