/-
**What a command shows.**

A command shows its result on the one output and its failure on the other, as plain text or as JSON.
Main definitions:

* `Report.json`: a value as JSON;
* `Report.failure`: a fault under the code of a command.
-/

import PromptWeave.Failure

namespace PromptWeave.Command

open Text

namespace Report

/-- A line. -/
def line (text : Text) : Text := text ++ ['\n']

/-- A value as JSON on lines. -/
def json (value : Value) : Except Json.Fault Text :=
  (Json.write ⟨some 2, false⟩ value).map line

/-- A fault as a value: the code of the command, the wording, and what a failure carries. -/
def faultValue (code words : String) (fault : Fault) : Value :=
  let carried := match fault with
    | .failure failure =>
      [("code", .string failure.name), ("context", .mapping false failure.context)]
    | _ => []
  .record ([("error", .string code), ("message", .string words)] ++ carried)

/-- A fault under a code. Other words may be given for it, if they are not empty. -/
def failure (asJson : Bool) (code words : String) (fault : Fault) : Except Json.Fault Text :=
  let words := if words = "" then fault.message else words
  if asJson then (Json.write ⟨some 2, true⟩ (faultValue code words fault)).map line
  else .ok (line ("Error: ".toList ++ words.toList))

end Report

end PromptWeave.Command
