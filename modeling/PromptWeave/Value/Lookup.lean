/-
**Looking names up.**

A name is looked up in a mapping of variables first as it stands and then part by part: its parts
between the dots lead through nested mappings by key and through sequences by position. Main
statements:

* `Value.step`: one part of the way;
* `Mapping.lookup`: the value of a dotted name;
* `Mapping.lookup_of_get?`: a name that is a key itself has that key's value.
-/

import PromptWeave.Value.Loop

namespace PromptWeave

open Text

namespace Value

/-- The part of a value that one part of a name leads to. The position of an item is written in
decimal digits of any script. -/
def step (part : Text) (value : Value) : Except NumeralFault (Option Value) :=
  match value.opened with
  | .mapping _ entries => .ok (Mapping.get? (Key.ofText part) entries)
  | .sequence _ items =>
    if part ≠ [] ∧ part.all isDigit then
      (Numeral.read 10 part).map fun position =>
        if position < 0 then none else items[position.toNat]?
    else .ok none
  | _ => .ok none

/-- The part of a value that a row of parts leads to. -/
def walk : (parts : List Text) → Value → Except NumeralFault (Option Value)
  | [], value => .ok (some value)
  | part :: parts, value =>
    match value.step part with
    | .error fault => .error fault
    | .ok none => .ok none
    | .ok (some inner) => walk parts inner

end Value

/-- The value of a name among variables, if it has one. -/
def Mapping.lookup (bindings : Mapping) (name : Text) : Except NumeralFault (Option Value) :=
  match Mapping.get? (Key.ofText name) bindings with
  | some value => .ok (some value)
  | none => Value.walk (splitOn '.' name) (.mapping true bindings)

/-- A name that is a key itself has that key's value. -/
theorem Mapping.lookup_of_get? {bindings : Mapping} {name : Text} {value : Value}
    (found : Mapping.get? (Key.ofText name) bindings = some value) :
    Mapping.lookup bindings name = .ok (some value) := by
  simp [Mapping.lookup, found]

end PromptWeave
