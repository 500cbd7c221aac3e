/-
**Messages for chat services.**

A chat service expects the messages of a prompt in a layout of its own: either a list of turns, or
the turns with the words of the system set apart and joined by a blank line. Main statements:

* `Message.failure`: the failure of a flaw in a document;
* `Chat.turns` and `Chat.split`: the two layouts;
* `Chat.payload`: the layout of a provider.
-/

import PromptWeave.Failure
import PromptWeave.Markup.Message

namespace PromptWeave

open Text

/-- The failure of a flaw of the role tags of a document. -/
def Message.failure (source : String) (flaw : Message.Flaw) : Failure :=
  let line : Option Int := some (flaw.line : Int)
  match flaw.defect with
  | .unexpectedClosing role =>
    let name := role.name
    .unbalanced s!"Unexpected </{name}> with no open <{name}> block in {source}" (some source)
      (some name) line
  | .unclosed role =>
    let name := role.name
    .unbalanced s!"Unclosed <{name}> block in {source}" (some source) (some name) line
  | .nested inner outer =>
    let name := inner.name
    let around := outer.name
    .malformedDocument s!"Nested <{name}> inside <{around}> in {source}" (some source) (some name)
      line
  | .mismatched closing opening =>
    let name := closing.name
    let around := opening.name
    .unbalanced s!"Mismatched </{name}> closing <{around}> in {source}" (some source) (some name)
      line

/-- The messages of a text in a document, or the failure of its flaw. -/
def Message.Extraction.result (source : String) (extraction : Message.Extraction) :
    Except Failure (List Message) :=
  match extraction.flaw with
  | none => .ok extraction.messages
  | some flaw => .error (Message.failure source flaw)

/-- The failure of a comment that is never closed. -/
def Comment.failure (line : Nat) : Failure :=
  .unbalanced "Unclosed <comment> block" none (some (String.ofList Comment.tagName))
    (some (line : Int))

/-- The text without its comments, or the failure of one that is never closed. -/
def Comment.stripOrFail (text : Text) : Except Failure Text :=
  (Comment.strip text).mapError Comment.failure

namespace Chat

/-- A turn of a conversation: who speaks, under any name that a service may know, and the words. -/
structure Turn where
  speaker : Text
  content : Text
deriving DecidableEq, Repr

namespace Turn

/-- The turn of a message. -/
def ofMessage (message : Message) : Turn := ⟨message.role.tagName, message.content⟩

/-- Whether the system speaks. -/
def isSystem (turn : Turn) : Bool := turn.speaker == Role.system.tagName

/-- A turn as a value. -/
def value (turn : Turn) : Value :=
  .record [("role", .text turn.speaker), ("content", .text turn.content)]

/-- The turn as it is sent: without comments and the blanks around the rest if comments are not
wanted. -/
def sent (stripsComments : Bool) (turn : Turn) : Except Failure Turn :=
  if stripsComments then
    (Comment.stripOrFail turn.content).map fun text => { turn with content := strip text }
  else .ok turn

end Turn

/-- All turns as they are sent, in order. -/
def turns (stripsComments : Bool) : List Turn → Except Failure (List Turn)
  | [] => .ok []
  | turn :: rest =>
    match turn.sent stripsComments with
    | .error failure => .error failure
    | .ok first => (turns stripsComments rest).map (first :: ·)

/-- The words of the system, if it speaks, and the turns of all others. -/
structure Split where
  system : Option Text
  turns : List Turn
deriving DecidableEq, Repr

/-- The turns with the words of the system set apart and joined by a blank line. -/
def split (stripsComments : Bool) (conversation : List Turn) : Except Failure Split :=
  match turns stripsComments (conversation.filter Turn.isSystem) with
  | .error failure => .error failure
  | .ok spoken =>
    match turns stripsComments (conversation.filter fun turn => !turn.isSystem) with
    | .error failure => .error failure
    | .ok others =>
      let system := if spoken = [] then none
        else some (joinWith ['\n', '\n'] (spoken.map (·.content)))
      .ok ⟨system, others⟩

/-- The chat services. -/
inductive Provider
  | openai
  | anthropic
deriving DecidableEq, Repr

namespace Provider

/-- The services in the order in which they are listed. -/
def all : List Provider := [.openai, .anthropic]

/-- The name of a service. -/
def name : Provider → String
  | openai => "openai"
  | anthropic => "anthropic"

/-- The service of a name. -/
def ofName? (name : String) : Option Provider := all.find? fun provider => provider.name = name

end Provider

/-- The failure of a name that is no service's. -/
def unknownProvider (name : String) : Failure :=
  let expected := ", ".intercalate (Provider.all.map Provider.name)
  .configuration s!"Unknown chat provider '{name}' (expected one of: {expected})"
    (Failure.fields [("provider", .string name)])

/-- The payload that a service expects. -/
def payload (provider : Provider) (stripsComments : Bool) (conversation : List Turn) :
    Except Failure Value :=
  match provider with
  | .openai => (turns stripsComments conversation).map fun all => .list (all.map Turn.value)
  | .anthropic =>
    (split stripsComments conversation).map fun parts =>
      let system := match parts.system with
        | none => []
        | some words => [("system", Value.text words)]
      .record ([("messages", .list (parts.turns.map Turn.value))] ++ system)

/-- The payload that the service of a name expects. -/
def payloadFor (name : String) (stripsComments : Bool) (conversation : List Turn) :
    Except Failure Value :=
  match Provider.ofName? name with
  | none => .error (unknownProvider name)
  | some provider => payload provider stripsComments conversation

end Chat

end PromptWeave
