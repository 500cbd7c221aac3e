/-
**The stages of a prompt.**

A prompt passes through its stages in order. Included documents are put in place first, and then the
placeholders of the whole are filled in once; without variables nothing is filled in. Main
statements:

* `Pipeline.fillStage` and `Pipeline.runStage`: one stage;
* `Pipeline.run`: all stages in order.
-/

import PromptWeave.Composition.Expansion
import PromptWeave.Markup.Placeholder

namespace PromptWeave

open Text

/-- What a prompt is put together from. -/
structure Recipe where
  reading : Reading
  /-- The directory of the root document, for a text without a file. -/
  baseDirectory : Option Path
  /-- The root document; a text without a file has none. -/
  rootPath : Option Path
  /-- The values of names; without them placeholders stay. -/
  bindings : Option Mapping
  /-- The indentation of collections. -/
  indent : Int

/-- What the stages leave behind besides the text. -/
structure Progress where
  trace : Trace
  /-- The names that had a value. -/
  substituted : List Text
  /-- The names that had none. -/
  missing : List Text
deriving DecidableEq, Repr

namespace Progress

/-- Nothing done yet. -/
def empty : Progress := ⟨.empty, [], []⟩

end Progress

namespace Pipeline

/-- A name put into an ordered row without repetition. -/
def insertName (name : Text) : List Text → List Text
  | [] => [name]
  | other :: names =>
    if name = other then other :: names
    else if name < other then name :: other :: names
    else other :: insertName name names

/-- Names in order without repetition. -/
def sortedNames (names : List Text) : List Text := names.foldr insertName []

/-- Fills in the placeholders of a text. -/
def fillStage (recipe : Recipe) (progress : Progress) (text : Text) :
    Progress × Except Fault Text :=
  match recipe.bindings with
  | none => ({ progress with trace := progress.trace.note .noVariables }, .ok text)
  | some bindings =>
    let filling := Template.fill recipe.indent bindings (Template.ofText text)
    let notices := filling.missing.map Notice.unknownName
    ({ trace := { progress.trace with notices := progress.trace.notices ++ notices }
       substituted := progress.substituted ++ filling.substituted
       missing := progress.missing ++ filling.missing },
     filling.text.mapError fun fault => .host (HostFault.ofJson fault))

/-- Puts included documents in place. -/
def includeStage (recipe : Recipe) (progress : Progress) (text : Text) :
    Progress × Except Fault Text :=
  let (trace, outcome) :=
    Expansion.transform recipe.reading recipe.baseDirectory recipe.rootPath progress.trace text
  ({ progress with trace := trace }, outcome)

/-- One stage. -/
def runStage (recipe : Recipe) (stage : Stage) (progress : Progress) (text : Text) :
    Progress × Except Fault Text :=
  let progress := { progress with trace := progress.trace.note (.running stage) }
  match stage with
  | .includes => includeStage recipe progress text
  | .bindings => fillStage recipe progress text

/-- All stages in order; the first fault ends the run. -/
def run (recipe : Recipe) :
    (stages : List Stage) → (progress : Progress) → (text : Text) → Progress × Except Fault Text
  | [], progress, text => (progress, .ok text)
  | stage :: stages, progress, text =>
    match runStage recipe stage progress text with
    | (progress, .error fault) => (progress, .error fault)
    | (progress, .ok text) => run recipe stages progress text

/-- The stages of every prompt. -/
def standard : List Stage := [.includes, .bindings]

end Pipeline

end PromptWeave
