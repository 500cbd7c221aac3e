/-
**Settings.**

The settings of a prompt are read from the sections of a configuration when they are needed. A
section that is missing or empty has no entries; a value of the wrong kind is a fault of the setting
that needs it, not of the others. Main statements:

* `Settings.sectionOf`: the entries of a section;
* `Settings.ofSections`: all settings, each on its own a value or a fault.
-/

import PromptWeave.Storage.World
import PromptWeave.Value.Literal
import PromptWeave.Value.Loop

namespace PromptWeave

open Text

/-- The full name of a value's kind, as faults of the host name it. -/
def Value.fullKind : Value → String
  | .atom (.date _) => "datetime.date"
  | .atom (.moment _) => "datetime.datetime"
  | other => other.kind

namespace Settings

/-! ### Sections -/

/-- The parts of a value, if it has parts. -/
def items? (value : Value) : Option (List Value) :=
  match value.opened with
  | .sequence _ items => some items
  | .mapping _ entries => some (entries.map fun entry => entry.1.toValue)
  | .set members => some (members.map Key.toValue)
  | .atom (.string value) => some (value.toList.map fun c => .text [c])
  | .atom (.bytes value) => some (value.map fun byte => .integer byte.toNat)
  | _ => none

/-- Entries from a row of pairs. -/
def entriesOfPairs (position : Nat) (entries : Mapping) : List Value → Except HostFault Mapping
  | [] => .ok entries
  | item :: rest =>
    match items? item with
    | none => .error (.notPair position)
    | some [key, value] =>
      match key.toKey with
      | .error kind => .error (.unhashable kind)
      | .ok key => entriesOfPairs (position + 1) (Mapping.put key value entries) rest
    | some parts => .error (.wrongPair position parts.length)

/-- The entries of a value that stands for a section. -/
def entriesOf (value : Value) : Except HostFault Mapping :=
  if !value.isTruthy then .ok []
  else match value.opened with
    | .mapping _ entries => .ok entries
    | other =>
      match items? other with
      | none => .error (.notIterable other.fullKind)
      | some pairs => entriesOfPairs 0 [] pairs

/-- The name of the section on documents. -/
def resolutionName : String := "resolution"

/-- The name of the section on values. -/
def interpolationName : String := "interpolation"

/-- The entries of a section of a configuration. -/
def sectionOf (name : String) (configuration : Mapping) : Except HostFault Mapping :=
  match Mapping.named? name configuration with
  | none => .ok []
  | some value => entriesOf value

/-! ### Single settings -/

/-- A value as an integer. -/
def integerOf : Value → Except HostFault Int
  | .atom (.bool value) => .ok (if value then 1 else 0)
  | .atom (.integer value) => .ok value
  | .atom (.fraction value) => value.truncate.mapError HostFault.numeral
  | .atom (.string value) => (Numeral.read 10 value.toList).mapError HostFault.numeral
  | other => .error (.notNumber other.fullKind)

/-- The depth to which documents may be nested. -/
def maxDepthOf (entries : Mapping) : Except HostFault Int :=
  integerOf ((Mapping.named? "max_depth" entries).getD (.integer 32))

/-- Whether documents lose the blanks at their ends. -/
def trimsOf (entries : Mapping) : Bool :=
  ((Mapping.named? "trim_documents" entries).getD (.bool true)).isTruthy

/-- The indentation of collections. -/
def indentOf (entries : Mapping) : Except HostFault Int :=
  integerOf ((Mapping.named? "json_indent" entries).getD (.integer 2))

/-- The directory that relative documents start from, if one is set. -/
def baseDirOf (world : World) (entries : Mapping) : Except HostFault (Option Path) :=
  let value := (Mapping.named? "base_dir" entries).getD .null
  if !value.isTruthy then .ok none
  else
    match value.display with
    | .error fault => .error (.numeral fault)
    | .ok spelling => (world.expandHome (Path.parse (String.ofList spelling))).map some

end Settings

/-- All settings, each a value or the fault of reading it. -/
structure Settings where
  baseDir : Except HostFault (Option Path)
  maxDepth : Except HostFault Int
  trims : Except HostFault Bool
  indent : Except HostFault Int

namespace Settings

/-- The settings of two sections. -/
def ofSections (world : World) (resolution interpolation : Except HostFault Mapping) :
    Settings where
  baseDir := resolution.bind (baseDirOf world)
  maxDepth := resolution.bind maxDepthOf
  trims := resolution.map trimsOf
  indent := interpolation.bind indentOf

/-- The settings of a configuration. -/
def ofConfiguration (world : World) (configuration : Mapping) : Settings :=
  ofSections world (sectionOf resolutionName configuration)
    (sectionOf interpolationName configuration)

end Settings

end PromptWeave
