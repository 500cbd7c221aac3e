/-
**Rendering values into prompts.**

A value that a placeholder names is rendered as prompt text: no value as nothing, truth values by
their names, collections as indented JSON in which every sequence is an array and every mapping an
object, and all else in its plain form. Main statements:

* `Value.plainCollections`: a value with its collections in their changeable form;
* `Value.render`: the text of a value, if it nowhere stands inside itself.
-/

import PromptWeave.Json.Writing
import PromptWeave.Value.Loop

namespace PromptWeave

open Text

mutual

/-- A value with every tuple made a list and every frozen mapping a plain one. -/
def Value.plainCollections : Value → Value
  | .sequence _ items => .sequence false (Value.plainItems items)
  | .mapping _ entries => .mapping false (Value.plainEntries entries)
  | other => other

/-- A row of values with plain collections. -/
def Value.plainItems : List Value → List Value
  | [] => []
  | value :: values => Value.plainCollections value :: Value.plainItems values

/-- Entries with plain collections. -/
def Value.plainEntries : List (Key × Value) → List (Key × Value)
  | [] => []
  | (key, value) :: entries => (key, Value.plainCollections value) :: Value.plainEntries entries

end

/-- The text of a value in a prompt, collections being indented by a width. A collection without
end is refused before anything of it is written. -/
def Value.render (indent : Int) (value : Value) : Except Json.Fault Text :=
  match value with
  | .atom .null => .ok []
  | .atom (.bool true) => .ok "true".toList
  | .atom (.bool false) => .ok "false".toList
  | .atom other => other.display.mapError Json.Fault.numeral
  | .set members => (Value.set members).display.mapError Json.Fault.numeral
  | collection =>
    if collection.isFinite then Json.write ⟨some indent, false⟩ collection.plainCollections
    else .error .endless

end PromptWeave
