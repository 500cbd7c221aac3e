/-
**Putting included documents in place.**

The first directive of a text is replaced by the document it names, itself expanded, and the text is
read again from its start until no directive is left. An included document is read relative to the
directory of the document that includes it. The text that is put in place may join with its
surroundings into a new directive, so that nothing bounds the number of replacements: an expansion
may go on for ever, and then it has no outcome. Main statements:

* `Expansion.load`: the document that a directive names;
* `Expansion.step`: the next step of a document at work;
* `Expansion.Frame.expand?`: the expansion of a text inside a document, if it ends;
* `Expansion.transform?` and `Expansion.transform`: the expansion of a root text.
-/

import PromptWeave.Composition.Chain
import PromptWeave.Markup.Directive
import PromptWeave.Notice
import PromptWeave.Storage.World

namespace PromptWeave

open Text

/-- What a run leaves behind besides its text. -/
structure Trace where
  /-- The documents that were included, in the order of their first reading. -/
  includes : List Path
  /-- What the run had to say. -/
  notices : List Notice
deriving DecidableEq, Repr

namespace Trace

/-- The trace of a run that has not begun. -/
def empty : Trace := ⟨[], []⟩

/-- One notice more. -/
def note (trace : Trace) (notice : Notice) : Trace :=
  { trace with notices := trace.notices ++ [notice] }

/-- An inclusion more. -/
def record (trace : Trace) (path : Path) (depth : Nat) : Trace :=
  { includes := if path ∈ trace.includes then trace.includes else trace.includes ++ [path]
    notices := trace.notices ++ [.including path depth] }

end Trace

/-- How documents are read and how deeply they may be nested. -/
structure Reading where
  world : World
  maxDepth : Int
  trims : Bool

namespace Expansion

/-- The name of the document that a text without a file stands in. -/
def inlineName : String := Failure.unnamedDocument

/-- The path of a document in messages; a text without a file has none. -/
def displayed (document : Path) : Option Path :=
  if document.name = inlineName then none else some document

/-- The words for a defect of a directive. -/
def reason : Directive.Defect → String
  | .unterminated => "unterminated <include> tag"
  | .sourceless => "missing or empty src attribute"
  | .unclosed => "<include> has no matching </include>"

/-- The failure of a malformed directive in a document. -/
def malformed (document : Option Path) (flaw : Directive.Malformed) : Failure :=
  .malformedDirective (reason flaw.defect) document (some flaw.offset)

/-- A document at work: its path, the chain that leads to it, and its text as far as it is
expanded. -/
structure Frame where
  document : Path
  chain : Chain
  text : Text
deriving DecidableEq, Repr

namespace Frame

/-- A root document with its text. -/
def root (document : Path) (text : Text) : Frame := ⟨document, .root document, text⟩

/-- The document with the span of a directive replaced in its text. -/
def splice (frame : Frame) (directive : Directive) (inner : Text) : Frame :=
  { frame with
    text := frame.text.take directive.start ++ inner ++ frame.text.drop directive.stop }

end Frame

/-- Loads the document that a path names inside another document. -/
def load (reading : Reading) (frame : Frame) (source : Text) : Except Fault Frame :=
  match reading.world.resolvePath frame.document.parent (Path.parse (String.ofList source)) with
  | .error fault => .error (.host fault)
  | .ok target =>
    match frame.chain.extend target (some reading.maxDepth) with
    | .error failure => .error (.failure failure)
    | .ok branch =>
      match reading.world.readDocument target (displayed frame.document) frame.chain.paths with
      | .error fault => .error fault
      | .ok text => .ok ⟨target, branch, if reading.trims then strip text else text⟩

/-- What becomes of a document at work: its text is done with, or its first directive names another
document that has to be expanded before. -/
inductive Step
  | ends (outcome : Except Fault Text)
  | enters (directive : Directive) (inner : Frame)

/-- The next step of a document at work. -/
def step (reading : Reading) (frame : Frame) : Step :=
  match Directive.first frame.text with
  | .error flaw => .ends (.error (.failure (malformed (displayed frame.document) flaw)))
  | .ok none => .ends (.ok frame.text)
  | .ok (some directive) =>
    match load reading frame directive.source with
    | .error fault => .ends (.error fault)
    | .ok inner => .enters directive inner

/-- The expansion of the text of a document, with the trace it leaves; nothing if it never ends. -/
def Frame.expand? (reading : Reading) (frame : Frame) (trace : Trace) :
    Option (Trace × Except Fault Text) :=
  match step reading frame with
  | .ends outcome => some (trace, outcome)
  | .enters directive inner => do
    let (trace, outcome) ←
      inner |>.expand? reading (trace.record inner.document inner.chain.depth)
    match outcome with
    | .error fault => some (trace, .error fault)
    | .ok text => frame.splice directive text |>.expand? reading trace
partial_fixpoint

/-- The path that a root text stands under: its own, or a name in the base directory. -/
def rootDocument (baseDirectory rootPath : Option Path) : Except Failure Path :=
  match rootPath, baseDirectory with
  | some path, _ => .ok path
  | none, some base => .ok (base.child inlineName)
  | none, none =>
    .error (.setting "Include resolution needs a root document path or a base directory"
      "resolution.base_dir")

/-- The expansion of a root text; nothing if it never ends. -/
def transform? (reading : Reading) (baseDirectory rootPath : Option Path) (trace : Trace)
    (text : Text) : Option (Trace × Except Fault Text) :=
  match rootDocument baseDirectory rootPath with
  | .error failure => some (trace, .error (.failure failure))
  | .ok root => (Frame.root root text).expand? reading trace

/-- The expansion of a root text. One that never ends has no outcome but that fault, which no run
lives to see. -/
def transform (reading : Reading) (baseDirectory rootPath : Option Path) (trace : Trace)
    (text : Text) : Trace × Except Fault Text :=
  (transform? reading baseDirectory rootPath trace text).getD (trace, .error .endless)

end Expansion

end PromptWeave
