/-
**Settings of the environment.**

A variable of the environment whose name begins with `FML_` overrides a setting: the rest of its
name is the path of the setting, in parts between double underscores, and capital letters count as
small ones. Overrides are applied in the order of the names. Main definitions:

* `Override.ofEnvironment`: the variables that override settings, in order;
* `Override.path?`: the path of a variable's name, if every part of it has characters;
* `Shared.assignment?`: the change that storing a value at a path makes.
-/

import PromptWeave.Configuration.Coercion
import PromptWeave.Text.Order
import PromptWeave.Value.Shared

namespace PromptWeave

open Text

namespace Override

/-- What the names of variables that override settings begin with. -/
def start : String := "FML_"

/-- The pieces between the double underscores of a text. -/
def pieces : Text → List Text
  | '_' :: '_' :: rest => [] :: pieces rest
  | c :: rest =>
    match pieces rest with
    | piece :: others => (c :: piece) :: others
    | [] => [[c]]
  | [] => [[]]

/-- The path of the setting that a variable overrides, unless a part of it is empty. -/
def path? (name : String) : Option (List Key) :=
  let parts := (pieces (name.toList.drop start.length)).map lower
  if parts.any List.isEmpty then none else some (parts.map Key.ofText)

/-- The variables of an environment that override settings, in the order of their names. -/
def ofEnvironment (environment : Entries String String) : List (String × String) :=
  sortBy (fun entry => entry.1.toList)
    (environment.filter fun entry => start.toList.isPrefixOf entry.1.toList)

end Override

namespace Shared

/-- A value inside new mappings, one for each part of a path. -/
def nest (next : Nat) (item : Shared) : List Key → Shared
  | [] => item
  | key :: path => .mapping next [(key, nest (next + 1) item path)]

/-- A change to the entries of one mapping: an item stored under a key. -/
structure Assignment where
  label : Nat
  key : Key
  item : Shared

/-- The change that storing an item at a path makes. Whatever is on the way and is no mapping is
replaced by a new one. -/
def assignment? (next : Nat) (item : Shared) : (path : List Key) → Shared → Option Assignment
  | [], _ => none
  | key :: path, shared =>
    match shared.opened, path with
    | .mapping label _, [] => some ⟨label, key, item⟩
    | .mapping label entries, part :: path =>
      match Entries.get? Key.same key entries with
      | some (.mapping inner inside) => assignment? next item (part :: path) (.mapping inner inside)
      | _ => some ⟨label, key, nest next item (part :: path)⟩
    | _, _ => none

/-- A value after a change. -/
def assign (assignment : Assignment) (shared : Shared) : Shared :=
  shared.update assignment.label (Entries.put Key.same assignment.key assignment.item)

end Shared

end PromptWeave
