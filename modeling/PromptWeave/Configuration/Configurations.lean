/-
**Configurations in use.**

A configuration is made of three layers: the bundled settings, the settings of a project, and those
of the environment. A configuration that was made for a project is kept until its project file or
the environment looks different. Sections that no project file changes are those of the bundled
settings themselves, so an override of such a section shows in every configuration that has it,
until the bundled settings are forgotten. Main definitions:

* `Configurations`: the bundled settings, the configurations made so far, and which are kept;
* `Configurations.make`: one more configuration;
* `Configurations.fetch`: the configuration of a project, kept or made;
* `Configurations.override`: the overrides of the environment.
-/

import PromptWeave.Outcome
import PromptWeave.Configuration.Override
import PromptWeave.Configuration.Schema
import PromptWeave.Storage.DataFile
import PromptWeave.Value.Merge

namespace PromptWeave

open Text

/-! ### Projects -/

/-- What a configuration depends on besides the bundled settings: the directory of its project, the
variables of the environment that override settings, and the time and size of the project files. -/
structure Fingerprint where
  root : Path
  overrides : List (String × String)
  files : List (String × Int × Nat)
deriving DecidableEq, Repr

namespace Project

/-- The names that a project file may have, the first one that is there being used. -/
def fileNames : List String := ["fml.yaml", ".fml.yaml"]

/-- The directory of a project; without one it is the current directory. -/
def root (world : World) (given : Option String) : Except HostFault Path :=
  match given with
  | none => world.resolve (World.pathOf world.current)
  | some spelling => world.resolveDirectory (Path.parse spelling)

/-- The first of some files of a directory that is there. -/
def firstFile (world : World) (root : Path) : List String → Except HostFault (Option Path)
  | [] => .ok none
  | name :: names =>
    match world.isFile? (root.child name) with
    | .error fault => .error fault
    | .ok true => .ok (some (root.child name))
    | .ok false => firstFile world root names

/-- The project file of a directory, if it has one. -/
def file? (world : World) (root : Path) : Except HostFault (Option Path) :=
  firstFile world root fileNames

/-- The time and size of a file or a directory, if it is there. -/
def stamp? (world : World) (root : Path) (name : String) : Option (String × Int × Nat) :=
  match world.lookUp (root.child name) with
  | .ok (_, .file content modified) => some (name, modified, content.length)
  | .ok (place, _) => some (name, world.files.stamp place)
  | .error _ => none

/-- What the configuration of a project depends on. -/
def fingerprint (world : World) (root : Path) : Fingerprint where
  root
  overrides := Override.ofEnvironment world.environment
  files := fileNames.filterMap (stamp? world root)

/-- The settings of a project file. -/
def settings (world : World) (path : Path) : Except Fault Shared :=
  match world.readData path with
  | .error .surrogate => .error (.host .surrogate)
  | .error fault =>
    let words := fault.message
    .error (.failure (.setting s!"Cannot load {path}: {words}" path.text))
  | .ok (.plain (.atom .null)) => .ok (.mapping 0 [])
  | .ok (.mapping label entries) => .ok (.mapping label entries)
  | .ok _ => .error (.failure (.setting s!"{path} must contain a mapping" path.text))

end Project

/-! ### Bundled settings -/

/-- The bundled settings. -/
def Configurations.bundled : Value :=
  .record
    [("resolution", .record
      [("base_dir", .null), ("max_depth", .integer 32), ("trim_documents", .bool true)]),
    ("interpolation", .record [("json_indent", .integer 2)])]

/-! ### Configurations -/

/-- The configurations in use. -/
structure Configurations where
  /-- The bundled settings once they are needed. -/
  defaults : Option Shared
  /-- All configurations made so far. -/
  made : List Shared
  /-- The numbers of the configurations that are kept. -/
  kept : List (Fingerprint × Nat)
  /-- The next free label. -/
  labels : Nat

namespace Configurations

/-- No configuration yet. -/
def empty : Configurations := ⟨none, [], [], 0⟩

/-- The value of a configuration. -/
def value (configurations : Configurations) (number : Nat) : Value :=
  match configurations.made[number]? with
  | some shared => shared.value
  | none => .record []

/-- The bundled settings as they are now. -/
def bundledNow (configurations : Configurations) : Shared × Configurations :=
  match configurations.defaults with
  | some shared => (shared, configurations)
  | none =>
    let (shared, labels) := Shared.ofValue configurations.labels bundled
    (shared, { configurations with defaults := some shared, labels })

/-- Changes a mapping wherever it stands. -/
def assign (configurations : Configurations) (assignment : Shared.Assignment) : Configurations :=
  { configurations with
    defaults := configurations.defaults.map (Shared.assign assignment)
    made := configurations.made.map (Shared.assign assignment) }

/-- A configuration laid under a shared mapping. -/
def layOver (configurations : Configurations) (draft upper : Shared) : Shared × Configurations :=
  match Shared.covered configurations.labels draft upper with
  | (shared, labels) => (shared, { configurations with labels })

/-- Gives new labels to the mappings of a value. -/
def adopt (configurations : Configurations) (shared : Shared) : Shared × Configurations :=
  (shared.relabel configurations.labels,
    { configurations with labels := configurations.labels + shared.bound })

/-- Overrides settings of a configuration one after another. A setting that cannot be read ends
this, and the overrides before it stay. -/
def override (configurations : Configurations) (draft : Shared) :
    List (String × String) → Configurations × Outcome Shared
  | [] => (configurations, .quiet (.ok draft))
  | (name, text) :: overrides =>
    match Override.path? name with
    | none =>
      let (configurations, outcome) := override configurations draft overrides
      (configurations, outcome.after [.ignoredVariable name])
    | some path =>
      match Setting.ofText text.toList with
      | .error fault => (configurations, .quiet (.error (.host fault)))
      | .ok value =>
        let (item, next) := Shared.ofValue configurations.labels value
        let configurations := { configurations with labels := next + path.length }
        match Shared.assignment? next item path draft with
        | none => override configurations draft overrides
        | some assignment =>
          override (configurations.assign assignment) (draft.assign assignment) overrides

/-- A configuration with the bundled settings, and those of a project file laid over them. -/
def draft (configurations : Configurations) (world : World) (root : Path) :
    Configurations × Outcome Shared :=
  let (bundled, configurations) := configurations.bundledNow
  let start := Shared.mapping configurations.labels []
  let configurations := { configurations with labels := configurations.labels + 1 }
  let (draft, configurations) := configurations.layOver start bundled
  match Project.file? world root with
  | .error fault => (configurations, .quiet (.error (.host fault)))
  | .ok none => (configurations, .quiet (.ok draft))
  | .ok (some path) =>
    match Project.settings world path with
    | .error fault => (configurations, .quiet (.error fault))
    | .ok settings =>
      let (settings, configurations) := configurations.adopt settings
      let (draft, configurations) := configurations.layOver draft settings
      (configurations, ⟨.ok draft, [.loadedSettings path]⟩)

/-- Makes a configuration and gives its number. It is checked on demand. -/
def make (configurations : Configurations) (world : World) (root : Path) (isChecked : Bool) :
    Configurations × Outcome Nat :=
  match configurations.draft world root with
  | (configurations, ⟨.error fault, notices⟩) => (configurations, ⟨.error fault, notices⟩)
  | (configurations, ⟨.ok draft, notices⟩) =>
    match configurations.override draft (Override.ofEnvironment world.environment) with
    | (configurations, ⟨.error fault, more⟩) =>
      (configurations, ⟨.error fault, notices ++ more⟩)
    | (configurations, ⟨.ok draft, more⟩) =>
      match if isChecked then Schema.configuration.check draft.value else .ok () with
      | .error fault => (configurations, ⟨.error fault, notices ++ more⟩)
      | .ok () =>
        ({ configurations with made := configurations.made ++ [draft] },
          ⟨.ok configurations.made.length, notices ++ more⟩)

/-- The number of the configuration that is kept for a project as it is now. -/
def kept? (configurations : Configurations) (world : World) (root : Path) : Option Nat :=
  let fingerprint := Project.fingerprint world root
  (configurations.kept.find? fun entry => entry.1 == fingerprint).map (·.2)

/-- The number of a project's configuration, which is made and kept if none is kept. -/
def fetch (configurations : Configurations) (world : World) (root : Path) :
    Configurations × Outcome Nat :=
  match configurations.kept? world root with
  | some number => (configurations, .quiet (.ok number))
  | none =>
    match configurations.make world root true with
    | (configurations, ⟨.ok number, notices⟩) =>
      let entry := (Project.fingerprint world root, number)
      ({ configurations with kept := configurations.kept ++ [entry] }, ⟨.ok number, notices⟩)
    | other => other

/-- Keeps no configuration any longer. -/
def forget (configurations : Configurations) : Configurations := { configurations with kept := [] }

/-- Forgets the bundled settings with all changes to them. -/
def forgetBundled (configurations : Configurations) : Configurations :=
  { configurations with defaults := none }

end Configurations

/-- The value that a mapping holds under names between points, if every name leads to one. -/
def Value.under? : List Text → Value → Option Value
  | [], value => some value
  | name :: names, value =>
    match value.opened with
    | .mapping false entries =>
      match Mapping.get? (Key.ofText name) entries with
      | some value => value.under? names
      | none => none
    | _ => none

/-- The value of a setting, if the configuration has it. -/
def Value.setting? (configuration : Value) (name : Text) : Option Value :=
  configuration.under? (splitOn '.' name)

end PromptWeave
