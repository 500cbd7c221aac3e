/-
**Resolving documents.**

A document is resolved in two steps. Its place is found and its text is read, for which only the
configured base directory is needed; then the remaining settings are read and the text passes
through all stages. Main statements:

* `Resolver.locate`: the base directory, the path and the text of a document;
* `Resolver.complete`: the finished prompt of a text;
* `Resolver.resolveDocument`, `Resolver.resolveText`, `Resolver.parse`: the operations.
-/

import PromptWeave.Composition.Chat
import PromptWeave.Composition.Pipeline
import PromptWeave.Outcome
import PromptWeave.Configuration.Settings

namespace PromptWeave

open Text

/-- A finished prompt. -/
structure Resolved where
  content : Text
  path : Option Path
  /-- The documents that were included, in the order of their first reading. -/
  dependencies : List Path
  /-- The names without a value, in order. -/
  missing : List Text
deriving DecidableEq, Repr

/-- A document whose text has been read. -/
structure Located where
  base : Path
  path : Path
  text : Text
deriving DecidableEq, Repr

namespace Resolver

/-- Finds and reads a document. -/
def locate (world : World) (configured : Except HostFault (Option Path)) (spelling : String)
    (given : Option Path) : Outcome Located :=
  match configured with
  | .error fault => .quiet (.error (.host fault))
  | .ok configured =>
    match world.resolveBase spelling given configured with
    | .error fault => .quiet (.error fault)
    | .ok base =>
      match world.resolvePath base (Path.parse spelling) with
      | .error fault => .quiet (.error (.host fault))
      | .ok path =>
        match world.readDocument path none [] with
        | .error fault => ⟨.error fault, [.resolving path]⟩
        | .ok text => ⟨.ok ⟨base, path, text⟩, [.resolving path]⟩

/-- The settings that are needed once a text is there. -/
def recipe? (world : World) (settings : Settings) (base : Path) (path : Option Path)
    (bindings : Option Mapping) : Except HostFault Recipe :=
  match settings.maxDepth with
  | .error fault => .error fault
  | .ok maxDepth =>
    match settings.trims with
    | .error fault => .error fault
    | .ok trims =>
      match settings.indent with
      | .error fault => .error fault
      | .ok indent => .ok ⟨⟨world, maxDepth, trims⟩, some base, path, bindings, indent⟩

/-- The finished prompt of a text. -/
def complete (world : World) (settings : Settings) (base : Path) (path : Option Path)
    (bindings : Option Mapping) (text : Text) : Outcome Resolved :=
  match recipe? world settings base path bindings with
  | .error fault => .quiet (.error (.host fault))
  | .ok recipe =>
    let start := if recipe.reading.trims then strip text else text
    let (progress, outcome) := Pipeline.run recipe Pipeline.standard .empty start
    match outcome with
    | .error fault => ⟨.error fault, progress.trace.notices⟩
    | .ok content =>
      let missing := Pipeline.sortedNames progress.missing
      let last := if missing = [] then [] else [Notice.missingNames missing]
      ⟨.ok ⟨content, path, progress.trace.includes, missing⟩, progress.trace.notices ++ last⟩

/-- Resolves the document at a path. -/
def resolveDocument (world : World) (settings : Settings) (spelling : String)
    (bindings : Option Mapping) (given : Option Path) : Outcome Resolved :=
  (locate world settings.baseDir spelling given).andThen fun located =>
    complete world settings located.base (some located.path) bindings located.text

/-- The directory that the includes of a text without a file start from. -/
def textBase (world : World) (configured : Except HostFault (Option Path)) (given : Option Path) :
    Except Fault Path :=
  match given with
  | some base => (world.resolveDirectory base).mapError Fault.host
  | none =>
    match configured with
    | .error fault => .error (.host fault)
    | .ok (some base) => (world.resolve base).mapError Fault.host
    | .ok none =>
      .error (.failure (.setting
        "resolve_text() needs base_dir (or resolution.base_dir) to anchor includes"
        "resolution.base_dir"))

/-- Resolves a text without a file. -/
def resolveText (world : World) (settings : Settings) (text : Text) (bindings : Option Mapping)
    (given : Option Path) : Outcome Resolved :=
  match textBase world settings.baseDir given with
  | .error fault => .quiet (.error fault)
  | .ok base => complete world settings base none bindings text

/-- The notices of messages that were extracted. -/
def extractionNotices (messages : List Message) : List Notice :=
  messages.map fun message => .extracted message.role message.content.length

/-- The messages of a finished prompt. -/
def messagesOf (resolved : Resolved) : Outcome (List Message) :=
  let extraction := Message.extract resolved.content
  let source := (resolved.path.map Path.text).getD Failure.unnamedDocument
  ⟨(extraction.result source).mapError Fault.failure, extractionNotices extraction.messages⟩

/-- Resolves the document at a path and extracts its messages. -/
def parse (world : World) (settings : Settings) (spelling : String) (bindings : Option Mapping)
    (given : Option Path) : Outcome (List Message) :=
  (resolveDocument world settings spelling bindings given).andThen messagesOf

end Resolver

end PromptWeave
