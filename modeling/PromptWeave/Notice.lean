/-
**Notices.**

What an operation has to say while it works, each with the part of the program that says it. A
warning is always shown, anything else only on demand. Main definitions:

* `Notice.line`: the line that shows a notice;
* `Notice.isWarning`: whether a notice is always shown.
-/

import PromptWeave.Storage.Path
import PromptWeave.Markup.Message

namespace PromptWeave

/-- The stages that a document passes through. -/
inductive Stage
  /-- Included documents are put in place of their directives. -/
  | includes
  /-- Placeholders are filled in. -/
  | bindings
deriving DecidableEq, Repr

/-- The name of a stage in notices. -/
def Stage.label : Stage → String
  | includes => "IncludeResolver"
  | bindings => "VariableTransformer"

/-- Something that an operation has to say. -/
inductive Notice
  /-- A document is being put together. -/
  | resolving (path : Path)
  /-- A stage begins. -/
  | running (stage : Stage)
  /-- A document is included at a depth. -/
  | including (path : Path) (depth : Nat)
  /-- No variables were given. -/
  | noVariables
  /-- A name has no value. -/
  | unknownName (name : Text)
  /-- The names without a value, in order. -/
  | missingNames (names : List Text)
  /-- A message of so many characters was extracted. -/
  | extracted (role : Role) (size : Nat)
  /-- The settings of a project were read. -/
  | loadedSettings (path : Path)
  /-- A variable of the environment names no setting. -/
  | ignoredVariable (name : String)
deriving DecidableEq, Repr

namespace Notice

/-- Whether a notice is always shown. -/
def isWarning : Notice → Bool
  | ignoredVariable _ => true
  | _ => false

/-- The part of the program that has something to say. -/
def origin : Notice → String
  | resolving _ => "fml.core.composition.engine"
  | running _ => "fml.core.composition.transformers.base"
  | including _ _ => "fml.core.composition.transformers.includes"
  | noVariables => "fml.core.composition.transformers.variables"
  | unknownName _ => "fml.core.composition.transformers.variables"
  | missingNames _ => "fml.core.composition.engine"
  | extracted _ _ => "fml.core.composition.messages"
  | loadedSettings _ => "fml.core.config.manager"
  | ignoredVariable _ => "fml.core.config.manager"

/-- The words of a notice. -/
def words : Notice → String
  | resolving path => s!"Resolving {path}"
  | running stage =>
    let label := stage.label
    s!"Running {label}"
  | including path depth => s!"Including {path} (depth {depth})"
  | noVariables => "No variables supplied; interpolation skipped"
  | unknownName name =>
    let name := String.ofList name
    s!"Variable '{name}' not supplied; rendering empty string"
  | missingNames names =>
    "Missing variables: " ++ ", ".intercalate (names.map String.ofList)
  | extracted role size =>
    let name := role.name
    s!"Extracted {name} message ({size} chars)"
  | loadedSettings path => s!"Loaded project config {path}"
  | ignoredVariable name => s!"Ignoring malformed FML_* key: {name}"

/-- The line that shows a notice. -/
def line (notice : Notice) : String :=
  (if notice.isWarning then "WARNING " else "DEBUG ") ++ notice.origin ++ ": " ++ notice.words

/-- The lines that are shown: all notices on demand, and otherwise the warnings. -/
def shown (all : Bool) (notices : List Notice) : List String :=
  (notices.filter fun notice => all || notice.isWarning).map line

end Notice

end PromptWeave
