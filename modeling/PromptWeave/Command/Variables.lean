/-
**The variables of a command.**

Variables come from a file and from the command line, where `NAME=VALUE` gives one variable; the
later one of two with one name counts. A value is read as JSON if it can be, and is a string
otherwise. Strings are texts here: variables with a string that holds one unit of a pair of code
units are left out, and `HostFault.surrogate` stands for them. Main definitions:

* `Variables.ofFile`: the variables of a file;
* `Variables.ofEntry`: the name and value of an entry;
* `Variables.read`: all variables.
-/

import PromptWeave.Storage.DataFile

namespace PromptWeave.Command

open Text

namespace Variables

/-- A failure of the file of variables. -/
def fileFailure (message : String) : Fault := .failure (.setting message "vars_file")

/-- The variables of a file. -/
def ofFile (world : World) (spelling : String) : Except Fault Mapping :=
  match world.expandHome (Path.parse spelling) with
  | .error fault => .error (.host fault)
  | .ok path =>
    match world.readData path with
    | .error .surrogate => .error (.host .surrogate)
    | .error fault =>
      let words := fault.message
      .error (fileFailure s!"Cannot read variables file {path}: {words}")
    | .ok shared =>
      match shared.value.opened with
      | .mapping _ entries => .ok entries
      | .atom .null => .ok []
      | _ => .error (fileFailure s!"Variables file {path} must contain a mapping")

/-- The name and value of an entry. -/
def ofEntry (entry : String) : Except Fault (Key × Value) :=
  let text := entry.toList
  let name := strip (text.takeWhile (· != '='))
  match text.dropWhile (· != '='), name with
  | _ :: value, _ :: _ =>
    match Json.valueOf value with
    | .error fault => .error (.host fault)
    | .ok value => .ok (Key.ofText name, value)
  | _, _ =>
    .error (.failure (.setting s!"Invalid --var '{entry}': expected NAME=VALUE" "var"))

/-- The variables of entries, put into a mapping. An entry has to be a word. -/
def addEntries (bindings : Mapping) : List (Option String) → Except Fault Mapping
  | [] => .ok bindings
  | none :: _ => .error (.host (.noProperty (Value.kind (.list [])) "partition"))
  | some entry :: entries =>
    match ofEntry entry with
    | .error fault => .error fault
    | .ok (key, value) => addEntries (Mapping.put key value bindings) entries

/-- All variables: those of the file, if one is named, and those of the entries. -/
def read (world : World) (file : Option String) (entries : List (Option String)) :
    Except Fault Mapping :=
  match file with
  | none => addEntries [] entries
  | some "" => addEntries [] entries
  | some spelling =>
    match ofFile world spelling with
    | .error fault => .error fault
    | .ok bindings => addEntries bindings entries

end Variables

end PromptWeave.Command
