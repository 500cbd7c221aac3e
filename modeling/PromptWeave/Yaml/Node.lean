/-
**Nodes of a data file.**

A data file is one document: a scalar, a sequence of nodes or a mapping from nodes to nodes. Nodes
have numbers, so that an alias stands for the very node that was given its name before, even inside
that node. Main definitions:

* `Node`, `Document`: nodes with their tags, and the document that they make;
* `Reader`: what is left of the tokens, and the nodes and names so far;
* `Document.ofText?`: the document of a text.
-/

import PromptWeave.Yaml.Tag
import PromptWeave.Yaml.Token

namespace PromptWeave.Yaml

/-- What a node holds: a text, or other nodes by their numbers. -/
inductive Content
  | scalar (text : Text)
  | sequence (items : List Nat)
  | mapping (fields : List (Nat × Nat))
deriving DecidableEq, Repr

/-- A node with its tag. -/
structure Node where
  tag : Tag
  content : Content
deriving DecidableEq, Repr

/-- The scalar that stands where nothing is written. -/
def Node.empty : Node := ⟨.null, .scalar []⟩

/-- The nodes of a document by their numbers. -/
abbrev Nodes := Array Node

/-- A document: its nodes, and the number of the one that holds the others. -/
structure Document where
  nodes : Nodes
  root : Nat
deriving Repr

/-- What is left of a row of tokens, and what is known from those before. -/
structure Reader where
  tokens : List Token
  /-- Why there are no more tokens, unless the text has ended. -/
  fault : Option HostFault
  /-- The numbers of the named nodes. -/
  names : List (Text × Nat)
  /-- The meanings of the handles of tags. -/
  handles : List (Text × Text)
  nodes : Nodes

/-- A step that reads tokens and may find them malformed. -/
abbrev Reads := StateT Reader (Except HostFault)

namespace Reads

/-- The tokens do not make a document. -/
def malformed {α : Type} : Reads α := throw .malformedData

/-- The next token; nothing at the end of the text. -/
def peek : Reads (Option Token) := do
  let reader ← get
  match reader.tokens, reader.fault with
  | [], some fault => throw fault
  | tokens, _ => return tokens.head?

/-- Goes on behind the next token. -/
def skip : Reads Unit := modify fun reader => { reader with tokens := reader.tokens.tail }

/-- Goes on behind the next token if it is this one, and says whether it was. -/
def accept (token : Token) : Reads Bool := do
  if (← peek) = some token then
    skip
    return true
  else return false

/-- Whether the next token is one of these. -/
def isAt (tokens : List Token) : Reads Bool := do
  match ← peek with
  | some token => return tokens.contains token
  | none => return false

/-! ### Properties -/

/-- The name and the tag before a node. -/
structure Properties where
  name : Option Text
  /-- The address of the tag. -/
  address : Option Text

/-- The address of a tag. -/
def addressOf (handle : Option Text) (suffix : Text) : Reads Text := do
  match handle with
  | none => return suffix
  | some handle =>
    match (← get).handles.find? fun entry => entry.1 == handle with
    | some (_, meaning) => return meaning ++ suffix
    | none => malformed

/-- The name at the reader, if there is one. -/
def acceptName : Reads (Option Text) := do
  match ← peek with
  | some (.anchor name) =>
    skip
    return some name
  | _ => return none

/-- The tag at the reader, if there is one. -/
def acceptTag : Reads (Option (Option Text × Text)) := do
  match ← peek with
  | some (.tag handle suffix) =>
    skip
    return some (handle, suffix)
  | _ => return none

/-- The name and the tag before a node, in either order. -/
def properties : Reads Properties := do
  let before ← acceptName
  let tag ← acceptTag
  let name ← if before.isNone && tag.isSome then acceptName else pure before
  match tag with
  | none => return ⟨name, none⟩
  | some (handle, suffix) => return ⟨name, some (← addressOf handle suffix)⟩

/-- The tag of a scalar with these properties. -/
def Properties.scalarTag (properties : Properties) (isPlain : Bool) (text : Text) : Tag :=
  match properties.address with
  | none => if isPlain then Tag.ofPlain text else .string
  | some address => if address = ['!'] then Tag.ofPlain text else Tag.ofAddress address

/-- The tag of a collection with these properties. -/
def Properties.collectionTag (properties : Properties) (usual : Tag) : Tag :=
  match properties.address with
  | none => usual
  | some address => if address = ['!'] then usual else Tag.ofAddress address

/-! ### Numbers and names -/

/-- Adds a node and gives its number. -/
def add (node : Node) : Reads Nat := do
  let reader ← get
  set { reader with nodes := reader.nodes.push node }
  return reader.nodes.size

/-- Adds the scalar that stands where nothing is written. -/
def addEmpty : Reads Nat := add .empty

/-- Adds a node under a name. A name is given once. -/
def enter (name : Option Text) (node : Node) : Reads Nat := do
  match name with
  | none => add node
  | some name =>
    if (← get).names.any fun entry => entry.1 == name then malformed
    else
      let number ← add node
      modify fun reader => { reader with names := (name, number) :: reader.names }
      return number

/-- Gives a node what it holds. -/
def fill (number : Nat) (content : Content) : Reads Nat := do
  modify fun reader => { reader with
    nodes := reader.nodes.modify number fun node => { node with content } }
  return number

/-- The node that was given a name. -/
def named (name : Text) : Reads Nat := do
  match (← get).names.find? fun entry => entry.1 == name with
  | some (_, number) => return number
  | none => malformed

/-! ### Nodes -/

/-- Where a node stands: this decides which collections may begin there. -/
inductive Place
  /-- Between brackets. -/
  | flow
  | block
  /-- The key or value of a block mapping, where the items of a sequence need no indentation. -/
  | field
deriving DecidableEq, Repr

mutual

/-- The node at the reader. -/
def node (place : Place) : (fuel : Nat) → Reads Nat
  | 0 => malformed
  | fuel + 1 => do
    match ← peek with
    | some (.alias name) =>
      skip
      named name
    | _ =>
      let properties ← properties
      let sequence := enter properties.name ⟨properties.collectionTag .sequence, .sequence []⟩
      let mapping := enter properties.name ⟨properties.collectionTag .mapping, .mapping []⟩
      match ← peek with
      | some (.scalar text isPlain) =>
        skip
        enter properties.name ⟨properties.scalarTag isPlain text, .scalar text⟩
      | some .blockEntry =>
        if place = .field then
          let number ← sequence
          fill number (.sequence (← items fuel [Token.key, .value]))
        else bare properties
      | some .flowSequenceStart =>
        let number ← sequence
        skip
        fill number (.sequence (← flowItems fuel true))
      | some .flowMappingStart =>
        let number ← mapping
        skip
        fill number (.mapping (← flowFields fuel true))
      | some .sequenceStart =>
        if place = .flow then bare properties
        else
          let number ← sequence
          skip
          let content ← items fuel []
          if ← accept .blockEnd then fill number (.sequence content) else malformed
      | some .mappingStart =>
        if place = .flow then bare properties
        else
          let number ← mapping
          skip
          fill number (.mapping (← fields fuel))
      | _ => bare properties

/-- A node of which only the properties are written. -/
def bare (properties : Properties) : Reads Nat :=
  if properties.name.isNone && properties.address.isNone then malformed
  else
    enter properties.name ⟨properties.scalarTag properties.address.isNone [], .scalar []⟩

/-- The items of a block sequence. An item without a node is followed by the next one, by the end
of the block, or by one of the tokens given. -/
def items : (fuel : Nat) → List Token → Reads (List Nat)
  | 0, _ => malformed
  | fuel + 1, followers => do
    if ← accept .blockEntry then
      let item ←
        if ← isAt ([Token.blockEntry, .blockEnd] ++ followers) then addEmpty else node .block fuel
      return item :: (← items fuel followers)
    else return []

/-- The entries of a block mapping, with the end of it. -/
def fields : (fuel : Nat) → Reads (List (Nat × Nat))
  | 0 => malformed
  | fuel + 1 => do
    if ← accept .key then
      let followers := [Token.key, .value, .blockEnd]
      let key ← if ← isAt followers then addEmpty else node .field fuel
      let content ←
        if ← accept .value then
          if ← isAt followers then addEmpty else node .field fuel
        else addEmpty
      return (key, content) :: (← fields fuel)
    else if ← accept .blockEnd then return []
    else malformed

/-- The items between brackets, with the closing one. A key makes a mapping of one entry. -/
def flowItems : (fuel : Nat) → (isFirst : Bool) → Reads (List Nat)
  | 0, _ => malformed
  | fuel + 1, isFirst => do
    if ← accept .flowSequenceEnd then return []
    else
      if !isFirst then
        if !(← accept .flowEntry) then malformed
      if ← accept .flowSequenceEnd then return []
      else if ← accept .key then
        let entry ← flowField fuel .flowSequenceEnd
        let item ← add ⟨.mapping, .mapping [entry]⟩
        return item :: (← flowItems fuel false)
      else
        let item ← node .flow fuel
        return item :: (← flowItems fuel false)

/-- The entries between braces, with the closing one. -/
def flowFields : (fuel : Nat) → (isFirst : Bool) → Reads (List (Nat × Nat))
  | 0, _ => malformed
  | fuel + 1, isFirst => do
    if ← accept .flowMappingEnd then return []
    else
      if !isFirst then
        if !(← accept .flowEntry) then malformed
      if ← accept .flowMappingEnd then return []
      else if ← accept .key then
        let entry ← flowField fuel .flowMappingEnd
        return entry :: (← flowFields fuel false)
      else
        let key ← node .flow fuel
        let content ← addEmpty
        return (key, content) :: (← flowFields fuel false)

/-- A key and its value between brackets that this token closes. -/
def flowField : (fuel : Nat) → (closing : Token) → Reads (Nat × Nat)
  | 0, _ => malformed
  | fuel + 1, closing => do
    let key ←
      if ← isAt [.value, .flowEntry, closing] then addEmpty else node .flow fuel
    let content ←
      if ← accept .value then
        if ← isAt [.flowEntry, closing] then addEmpty else node .flow fuel
      else addEmpty
    return (key, content)

end

/-! ### Documents -/

/-- The handles that need no directive. -/
def usualHandles : List (Text × Text) := [(['!'], ['!']), (['!', '!'], Tag.known)]

/-- Reads the directives before a document. -/
def directives : (fuel : Nat) → (hasVersion : Bool) → List (Text × Text) → Reads Unit
  | 0, _, _ => malformed
  | fuel + 1, hasVersion, handles => do
    match ← peek with
    | some (.version major _) =>
      skip
      if hasVersion || major != 1 then malformed else directives fuel true handles
    | some (.handle name meaning) =>
      skip
      if handles.any fun entry => entry.1 == name then malformed
      else directives fuel hasVersion (handles ++ [(name, meaning)])
    | some .reserved =>
      skip
      directives fuel hasVersion handles
    | _ => modify fun reader => { reader with handles := handles ++ usualHandles }

/-- Skips the ends of documents. -/
def skipEnds : (fuel : Nat) → Reads Unit
  | 0 => malformed
  | fuel + 1 => do if ← accept .documentEnd then skipEnds fuel

/-- Whether the next token is a directive. -/
def atDirective : Reads Bool := do
  match ← peek with
  | some (.version _ _) => return true
  | some (.handle _ _) => return true
  | some .reserved => return true
  | _ => return false

/-- The only document of a text, by the number of the node that holds the others; nothing if the
text has none. -/
def document (fuel : Nat) : Reads (Option Nat) := do
  if (← peek).isNone then return none
  let isBare := !((← atDirective) || (← isAt [.documentStart]))
  let content ←
    if isBare then
      modify fun reader => { reader with handles := usualHandles }
      node .block fuel
    else
      directives fuel false []
      if !(← accept .documentStart) then malformed
      if (← atDirective) || (← isAt [.documentStart, .documentEnd]) || (← peek).isNone then
        addEmpty
      else node .block fuel
  skipEnds fuel
  if (← peek).isNone then return some content
  else
    directives fuel false []
    malformed

end Reads

/-- The document of a text; nothing if the text has none. -/
def Document.ofText? (text : Text) : Except HostFault (Option Document) :=
  let (tokens, fault) := Token.scan text
  match (Reads.document (4 * tokens.length + 8)).run ⟨tokens, fault, [], [], #[]⟩ with
  | .error fault => .error fault
  | .ok (root, reader) => .ok (root.map fun root => ⟨reader.nodes, root⟩)

end PromptWeave.Yaml
