/-
**The layers of a configuration.**

A configuration has three layers: the bundled settings, those of the project laid over them, and the
variables of the environment, each of which stores its value at its path. In a new process what a
configuration holds at a path is the value of the last variable of this path, or else what the lower two
layers hold there, if no variable's path leads to a part of the other. A variable is stored in a mapping
wherever the mapping stands, and a project file may let one mapping stand in several places; so this takes
that the paths of variables lead in the project file through mappings that stand in one place only. Main
statements:

* `Override.layers`: the paths and values of the variables, in the order in which they are stored;
* `Configurations.override_layers`: overrides store one layer after another;
* `Configurations.ready_draft`: what a draft is before the variables are stored in it;
* `Configurations.load_layers`: what a configuration holds at a path;
* `Configurations.load_aliased`: a variable that is stored in two places.
-/

import Mathlib
import PromptWeave.Proofs.Configuration.Constancy
import PromptWeave.Proofs.Configuration.History
import PromptWeave.Proofs.Configuration.Overlay
import PromptWeave.Proofs.Storage.DataFile
import PromptWeave.Proofs.Storage.Document

namespace PromptWeave

/-! ### Layers of variables -/

namespace Override

/-- The path and the value of a variable, if its name has a path and its text can be read. -/
def layer? (entry : String × String) : Option (List Key × Value) :=
  match path? entry.1, Setting.ofText entry.2.toList with
  | some path, .ok value => some (path, value)
  | _, _ => none

/-- The paths and values of the variables that override settings, in the order in which they are
stored. -/
def layers (environment : Entries String String) : List (List Key × Value) :=
  (ofEnvironment environment).filterMap layer?

/-- Whether all variables that have a path can be read. -/
def Readable (overrides : List (String × String)) : Prop :=
  ∀ entry ∈ overrides, path? entry.1 ≠ none → ∃ value, Setting.ofText entry.2.toList = .ok value

theorem isName_of_path? {name : String} {path : List Key} (leads : path? name = some path) :
    ∀ key ∈ path, key.IsName := by
  obtain ⟨-, rfl⟩ := path?_eq_some_iff.mp leads
  intro key inside
  obtain ⟨part, _, rfl⟩ := List.mem_map.mp inside
  exact ⟨String.ofList part, rfl⟩

theorem layer?_eq_some_iff {entry : String × String} {layer : List Key × Value} :
    layer? entry = some layer ↔
      path? entry.1 = some layer.1 ∧ Setting.ofText entry.2.toList = .ok layer.2 := by
  obtain ⟨path, value⟩ := layer
  unfold layer?
  split
  · rename_i path' value' leads read
    rw [leads, read]
    simp
  · rename_i none
    constructor
    · intro same
      cases same
    · intro both
      exact (none path value both.1 both.2).elim

theorem named_layers {environment : Entries String String} :
    ∀ layer ∈ layers environment, ∀ key ∈ layer.1, key.IsName := by
  intro layer inside
  obtain ⟨entry, _, same⟩ := List.mem_filterMap.mp inside
  exact isName_of_path? (layer?_eq_some_iff.mp same).1

end Override

/-- The settings of a project; without a project file there are none. -/
def Project.layer (world : World) (root : Path) : Except Fault Shared :=
  match file? world root with
  | .error fault => .error (.host fault)
  | .ok none => .ok (.mapping 0 [])
  | .ok (some path) => settings world path

namespace Configurations

/-! ### Overrides -/

/-- A draft in which variables can be stored: a mapping in which nothing stands inside itself, all labels
are known, and the paths of the variables lead through mappings that stand in one place only. -/
structure Ready (bound : Nat) (paths : List (List Key)) (draft : Shared) : Prop where
  isMapping : ∃ label entries, draft = .mapping label entries
  obeys : Shared.Obeys (Shared.Rule.loopless.below bound) draft
  alone : ∀ path ∈ paths, draft.Alone path

section Overriding

variable {configurations : Configurations} {bound : Nat} {paths : List (List Key)} {draft : Shared}

theorem Ready.loopless (ready : Ready bound paths draft) : Shared.Obeys .loopless draft :=
  ready.obeys.mono Shared.Rule.below_implies

theorem Ready.lt_bound (ready : Ready bound paths draft) : ∀ label ∈ draft.mappings, label < bound :=
  fun label inside => (ready.obeys.forall_labels label (draft.mappings_subset_labels inside)).2

section Storing

variable {name : String} {labels : Nat} {assignment : Shared.Assignment} {path : List Key}

/-- The mapping that a variable changes stands in one place, for the variable's path leads through it. -/
theorem Ready.count_le_one (ready : Ready bound paths draft)
    (stores : Stores configurations draft name labels assignment)
    (leads : Override.path? name = some path) (among : path ∈ paths) :
    draft.mappings.count assignment.label ≤ 1 := by
  obtain ⟨front, rest, whole, found⟩ := stores.leads
  obtain rfl : path = front ++ assignment.key :: rest := Option.some.inj (leads.symm.trans whole)
  refine ready.alone _ among front _ (List.prefix_append ..) (fun same => ?_) found
  exact List.cons_ne_nil _ _ (List.append_right_eq_self.mp same.symm)

/-- **A variable that is stored leaves the draft ready for the others.** -/
theorem Ready.assign (ready : Ready configurations.labels paths draft)
    (stores : Stores configurations draft name labels assignment)
    (leads : Override.path? name = some path) (among : path ∈ paths) :
    Ready labels paths (draft.assign assignment) := by
  have single := ready.count_le_one stores leads among
  have new : (Shared.Rule.between configurations.labels labels).Implies
      (Shared.newUnnamed configurations.labels) := ⟨And.left, id, fun _ => trivial⟩
  refine ⟨?_, ?_, fun path inside => ?_⟩
  · obtain ⟨label, entries, same⟩ := ready.isMapping
    exact ⟨label, _, by rw [same, Shared.assign, Shared.update]⟩
  · exact (stores.obeys.mono Shared.Rule.between_implies_loopless_below).update _ _
      (ready.obeys.mono (Shared.Rule.below_implies_below stores.raised))
  · exact (ready.alone path inside).assign ready.lt_bound (stores.obeys.mono new) stores.unique single

/-- **A variable stores its value at its path.** -/
theorem Ready.value_assign (ready : Ready configurations.labels paths draft) {text : Text} {value : Value}
    (leads : Override.path? name = some path) (among : path ∈ paths)
    (read : Setting.ofText text = .ok value)
    (stored : Shared.assignment? (Shared.ofValue configurations.labels value).2
      (Shared.ofValue configurations.labels value).1 path draft = some assignment) :
    (draft.assign assignment).value = draft.value.store path value := by
  have data := Setting.isData_of_ofText read
  have plain : Shared.Obeys .loopless (Shared.ofValue configurations.labels value).1 :=
    (Shared.obeys_ofValue configurations.labels value data).mono Shared.Rule.between_implies_loopless
  have single := ready.count_le_one (stores_of_assignment? leads read stored) leads among
  rw [Shared.value_assign ready.loopless plain stored single,
    Shared.value_ofValue _ value (Value.isFinite_of_isData value data)]

end Storing

/-- **Overrides store one layer after another.** -/
theorem override_layers (overrides : List (String × String)) (readable : Override.Readable overrides)
    (among : ∀ layer ∈ overrides.filterMap Override.layer?, layer.1 ∈ paths)
    (ready : Ready configurations.labels paths draft) :
    ∃ last, (configurations.override draft overrides).2.result = .ok last ∧
      last.value = draft.value.storeAll (overrides.filterMap Override.layer?) := by
  induction overrides generalizing configurations draft with
  | nil => exact ⟨draft, rfl, rfl⟩
  | cons entry overrides ih =>
    obtain ⟨name, text⟩ := entry
    obtain ⟨first, later⟩ := List.forall_mem_cons.mp readable
    rw [override]
    cases leads : Override.path? name with
    | none =>
      have unlayered : Override.layer? (name, text) = none := by
        rw [Override.layer?, leads]
      rw [List.filterMap_cons_none unlayered] at among ⊢
      exact ih later among ready
    | some path =>
      obtain ⟨value, read⟩ := first (by rw [leads]; exact Option.some_ne_none path)
      have layer : Override.layer? (name, text) = some (path, value) :=
        Override.layer?_eq_some_iff.mpr ⟨leads, read⟩
      rw [List.filterMap_cons_some layer, List.forall_mem_cons] at among
      obtain ⟨label, entries, same⟩ := ready.isMapping
      obtain ⟨assignment, stored⟩ := Shared.exists_assignment (same ▸ ready.loopless).2
        (Shared.ofValue configurations.labels value).2 (Shared.ofValue configurations.labels value).1
        (Override.ne_nil_of_path? leads)
      rw [← same] at stored
      have changed := ready.value_assign leads among.1 read stored
      -- The others are stored in the draft that this variable leaves.
      obtain ⟨last, result, whole⟩ := @ih
        ({ configurations with
          labels := (Shared.ofValue configurations.labels value).2 + path.length }.assign assignment)
        (draft.assign assignment) later among.2
        (ready.assign (stores_of_assignment? leads read stored) leads among.1)
      dsimp only at read ⊢
      rw [read]
      dsimp only
      rw [stored, List.filterMap_cons_some layer]
      exact ⟨last, result, by rw [whole, changed]; rfl⟩

end Overriding

/-! ### Drafts -/

section Drafting

variable {paths : List (List Key)} {world : World} {root : Path} {settings : Shared}

/-- The keys of the bundled settings are names. -/
theorem isTidy_bundledNow : empty.bundledNow.1.IsTidy := by
  have outer : ["resolution", "interpolation"].Nodup := by decide
  have documents : ["base_dir", "max_depth", "trim_documents"].Nodup := by decide
  have values : ["json_indent"].Nodup := by decide
  exact ⟨.of_names outer rfl, ⟨.of_names documents rfl, trivial, trivial, trivial, trivial⟩,
    ⟨.of_names values rfl, trivial, trivial⟩, trivial⟩

/-- **A copy of the bundled settings is ready for variables.** -/
theorem ready_copy {label bound new : Nat} {entries : List (Key × Shared)}
    (bundle : IsBundle bound (.mapping label entries)) (later : bound ≤ new)
    (paths : List (List Key)) : Ready (new + 1) paths (.mapping new entries) := by
  have implies : (Shared.Rule.between 0 bound).Implies (Shared.Rule.loopless.below (new + 1)) :=
    (Shared.Rule.between_implies_loopless_below).trans
      (Shared.Rule.below_implies_below (Nat.le_succ_of_le later))
  refine ⟨⟨_, _, rfl⟩, ⟨⟨trivial, Nat.lt_succ_self new⟩, bundle.obeys.2.mono implies⟩, ?_⟩
  intro path _ front place _ _ _
  have fresh : new ∉ Shared.labelsFields entries := fun inside =>
    Nat.not_le_of_lt (bundle.obeys.2.forall_labels new inside).2 later
  have unique : (Shared.mapping new entries).labels.Nodup :=
    List.nodup_cons.mpr ⟨fresh, (List.nodup_cons.mp bundle.unique).2⟩
  exact List.nodup_iff_count_le_one.mp
    (unique.sublist (Shared.mappings_sublist_labels (.mapping new entries))) place

/-- **Settings of a project laid over a draft leave it ready for variables.** -/
theorem Ready.covered {next : Nat} {draft : Shared} (ready : Ready next paths draft)
    (tidy : draft.IsTidy) (named : ∀ path ∈ paths, ∀ key ∈ path, key.IsName)
    (mapping : ∃ label entries, settings = .mapping label entries)
    (loopless : Shared.Obeys .loopless settings) (alone : ∀ path ∈ paths, settings.Alone path) :
    Ready (Shared.covered (next + settings.bound) draft (settings.relabel next)).2 paths
      (Shared.covered (next + settings.bound) draft (settings.relabel next)).1 := by
  have injective : Function.Injective (· + next) := fun _ _ => Nat.add_right_cancel
  have inside : Shared.Obeys (Shared.Rule.loopless.below settings.bound) settings :=
    loopless.below (Nat.le_refl _)
  have moved : (Shared.Rule.loopless.below settings.bound).Implies
      ((Shared.Rule.loopless.below (next + settings.bound)).moved next) :=
    ⟨fun {l} low => ⟨trivial, show l + next < next + settings.bound by have := low.2; omega⟩,
      fun low => low.1.elim, id⟩
  have upper : Shared.Obeys (Shared.Rule.loopless.below (next + settings.bound))
      (settings.relabel next) := (inside.mono moved).relabel
  have loopless' : Shared.Obeys .loopless (settings.relabel next) := loopless.loopless_relabel next
  have raised := Shared.le_covered (next + settings.bound) draft (settings.relabel next)
  refine ⟨?_, ?_, fun path among => ?_⟩
  · obtain ⟨label, base, rfl⟩ := ready.isMapping
    obtain ⟨other, entries, rfl⟩ := mapping
    rw [Shared.relabel] at loopless' ⊢
    rw [Shared.covered_of_mapping (Shared.opened_of_loopless loopless')]
    exact ⟨_, _, rfl⟩
  · exact Shared.Obeys.covered _ _ _
      (ready.obeys.mono (Shared.Rule.below_implies_below (Nat.le_trans (Nat.le_add_right ..) raised)))
      (upper.mono (Shared.Rule.below_implies_below raised)) fun _ _ high => ⟨trivial, high⟩
  · have alone' : (settings.relabel next).Alone path := by
      rw [Shared.relabel_eq_rename]
      exact (alone path among).rename injective
    refine (ready.alone path among).covered alone' (named path among) tidy ready.loopless loopless'
      ready.lt_bound (Nat.le_add_right ..) fun label there => ?_
    have low := (upper.forall_labels label (Shared.mappings_subset_labels _ there)).2
    rw [Shared.relabel_eq_rename, Shared.mappings_rename] at there
    obtain ⟨before, _, rfl⟩ := List.mem_map.mp there
    exact ⟨Nat.le_add_left .., low⟩

/-- Without a project file the draft of a new process is ready. -/
theorem ready_draft_of_no_file (absent : Project.file? world root = .ok none)
    (paths : List (List Key)) :
    ∃ draft, (empty.draft world root).2.result = .ok draft ∧
      Ready (empty.draft world root).1.labels paths draft ∧ draft.value = bundled := by
  obtain ⟨label, entries, same, drafted⟩ := draft_of_no_file sound_empty absent
  obtain ⟨_, bundle, _⟩ := sound_empty.bundledNow
  have value := value_bundledNow_empty
  rw [same] at bundle value
  rw [drafted]
  refine ⟨_, rfl, ready_copy bundle (Nat.le_succ _) paths, ?_⟩
  rwa [Shared.value_mapping (bundle.obeys.2.mono Shared.Rule.between_implies_loopless)] at value ⊢

theorem ready_draft_of_file {path : Path} (found : Project.file? world root = .ok (some path))
    (read : Project.settings world path = .ok settings)
    (named : ∀ path ∈ paths, ∀ key ∈ path, key.IsName) (loopless : Shared.Obeys .loopless settings)
    (alone : ∀ path ∈ paths, settings.Alone path) :
    ∃ draft, (empty.draft world root).2.result = .ok draft ∧
      Ready (empty.draft world root).1.labels paths draft ∧
        draft.value = Value.covered bundled settings.value := by
  obtain ⟨_, bundle, _⟩ := sound_empty.bundledNow
  have value := value_bundledNow_empty
  have tidy := isTidy_bundledNow
  generalize begun : empty.bundledNow = now at bundle value tidy ⊢
  obtain ⟨bundled, later⟩ := now
  obtain ⟨label, entries, rfl⟩ := bundle.isMapping
  have ready := ready_copy bundle (Nat.le_succ later.labels) paths
  have plain : Shared.ObeyFields .loopless entries :=
    bundle.obeys.2.mono Shared.Rule.between_implies_loopless
  dsimp only at value ⊢
  rw [Shared.value_mapping plain] at value
  rw [draft_eq begun bundle.obeys, found]
  dsimp only [layOver, adopt]
  rw [read]
  refine ⟨_, rfl, ready.covered tidy named (Project.exists_mapping read) loopless alone, ?_⟩
  rw [Shared.value_covered _ _ _ ready.loopless (loopless.loopless_relabel _),
    Shared.value_relabel loopless, Shared.value_mapping plain, value]

end Drafting

/-! ### Loads -/

/-- The bundled settings with the settings of a project laid over them. -/
def merged (settings : Shared) : Value :=
  .mapping false (Mapping.merge bundled.entriesOf settings.value.entriesOf)

/-- **The lower layers of a draft**: the bundled settings and those of the project. -/
theorem ready_draft {world : World} {root : Path} {settings : Shared} {paths : List (List Key)}
    (read : Project.layer world root = .ok settings)
    (named : ∀ path ∈ paths, ∀ key ∈ path, key.IsName) (loopless : Shared.Obeys .loopless settings)
    (alone : ∀ path ∈ paths, settings.Alone path) :
    ∃ draft, (empty.draft world root).2.result = .ok draft ∧
      Ready (empty.draft world root).1.labels paths draft ∧ draft.value = merged settings := by
  unfold Project.layer at read
  split at read
  · cases read
  · rename_i absent
    cases read
    obtain ⟨draft, result, ready, value⟩ := ready_draft_of_no_file absent paths
    refine ⟨draft, result, ready, value.trans ?_⟩
    have none : (Shared.mapping 0 []).value.entriesOf = [] := rfl
    rw [merged, none, Mapping.merge_nil]
    rfl
  · rename_i path found
    obtain ⟨draft, result, ready, value⟩ := ready_draft_of_file found read named loopless alone
    obtain ⟨label, entries, rfl⟩ := Project.exists_mapping read
    refine ⟨draft, result, ready, value.trans ?_⟩
    rw [merged, Shared.entriesOf_value_mapping loopless.2, Shared.value_mapping loopless.2]
    rfl

/-- **What a configuration holds at a path** in a new process: the value of the last variable of this path,
or else what the bundled settings with those of the project hold there, if no variable's path leads to a
part of the other. -/
theorem load_layers {world : World} {root : Path} {settings : Shared}
    (read : Project.layer world root = .ok settings)
    (readable : Override.Readable (Override.ofEnvironment world.environment))
    (loopless : Shared.Obeys .loopless settings)
    (alone : ∀ layer ∈ Override.layers world.environment, settings.Alone layer.1) :
    ∃ configuration, (empty.load world root false).result = .ok configuration ∧
      ∀ path, (∀ layer ∈ Override.layers world.environment,
          layer.1 ≠ path → Value.Apart layer.1 path) →
        configuration.at? path =
          (((Override.layers world.environment).reverse.find?
            fun layer => Key.sameAll layer.1 path).map (·.2)).or ((merged settings).at? path) := by
  have named := @Override.named_layers world.environment
  obtain ⟨draft, drafted, ready, lower⟩ :=
    @ready_draft world root settings ((Override.layers world.environment).map Prod.fst) read
      (by simpa using named) loopless (by simpa using alone)
  obtain ⟨last, overridden, value⟩ := override_layers (Override.ofEnvironment world.environment)
    readable (fun layer inside => List.mem_map_of_mem inside) ready
  refine ⟨last.value, ?_, fun path apart => ?_⟩
  · unfold load make
    generalize empty.draft world root = begun at drafted overridden ⊢
    obtain ⟨later, ⟨result, notices⟩⟩ := begun
    obtain rfl : result = .ok draft := drafted
    dsimp only at overridden ⊢
    generalize override later draft _ = done at overridden ⊢
    obtain ⟨latest, ⟨result, more⟩⟩ := done
    obtain rfl : result = .ok last := overridden
    dsimp only [Outcome.map, Except.map, Configurations.value]
    rw [if_neg Bool.false_ne_true]
    dsimp only
    rw [List.getElem?_concat_length]
  · rw [value, lower]
    exact Value.at?_storeAll named apart _

/-! ### Mappings that stand in two places -/

/-- A project file in which an alias lets one mapping stand in two places. -/
def aliased : String := "a: &x\n  k: 1\nb: *x\n"

/-- The settings of that file. -/
def aliasedSettings : Shared :=
  .mapping 0 [(Key.ofString "a", .mapping 1 [(Key.ofString "k", .plain (.integer 1))]),
    (Key.ofString "b", .mapping 1 [(Key.ofString "k", .plain (.integer 1))])]

/-- A world with that file and with one variable in its environment. -/
def aliasedWorld (name word : String) : World :=
  { World.ofDocuments [("fml.yaml", aliased)] with environment := [(name, word)] }

/-- Whether settings are the ones of that file. -/
def isAliased : Except HostFault Shared → Bool
  | .ok (.mapping 0 [(a, .mapping 1 [(k, .plain (.atom (.integer 1)))]),
      (b, .mapping 1 [(k', .plain (.atom (.integer 1)))])]) =>
    Key.sameAll (["a", "k", "b", "k"].map Key.ofString) [a, k, b, k']
  | _ => false

theorem eq_of_isAliased {read : Except HostFault Shared} (same : isAliased read = true) :
    read = .ok aliasedSettings := by
  unfold isAliased at same
  split at same
  · have named : ∀ key ∈ ["a", "k", "b", "k"].map Key.ofString, key.IsName := by
      intro key inside
      obtain ⟨name, _, rfl⟩ := List.mem_map.mp inside
      exact ⟨name, rfl⟩
    cases (Value.sameAll_iff_of_named named).mp same
    rfl
  · cases same

theorem layer_aliasedWorld (name word : String) :
    Project.layer (aliasedWorld name word) (World.pathOf []) = .ok aliasedSettings := by
  have found : (aliasedWorld name word).lookUp ((World.pathOf []).child "fml.yaml") =
      .ok (["fml.yaml"], .file (Utf8.encode aliased.toList) 0) := by cbv
  have spoken : World.isUnspeakable ((World.pathOf []).child "fml.yaml") = false := by decide
  have there : (aliasedWorld name word).isFile? ((World.pathOf []).child "fml.yaml") = .ok true := by
    rw [World.isFile?, spoken, found]
    rfl
  have known : (aliasedWorld name word).exists? ((World.pathOf []).child "fml.yaml") = .ok true := by
    rw [World.exists?, spoken, found]
    rfl
  have opened : (aliasedWorld name word).readBytes ((World.pathOf []).child "fml.yaml") =
      .ok (Utf8.encode aliased.toList) := by
    rw [World.readBytes, found]
    rfl
  have lines : Utf8.universalLines aliased.toList = aliased.toList := by cbv
  have read : Yaml.loader.whole (Utf8.universalLines aliased.toList) = .ok aliasedSettings := by
    rw [lines]
    exact eq_of_isAliased (by decide +kernel)
  have decodes : Utf8.decode (Utf8.encode aliased.toList) = .ok aliased.toList := by cbv
  have makes : Yaml.loader.Makes (Utf8.encode aliased.toList) aliased.toList aliasedSettings :=
    ⟨Loader.findSome?_fronts_eq_none fun _ _ _ _ _ => rfl, decodes, read⟩
  have file : Project.file? (aliasedWorld name word) (World.pathOf []) =
      .ok (some ((World.pathOf []).child "fml.yaml")) := by
    rw [Project.file?, Project.fileNames, Project.firstFile, there]
  have data : (aliasedWorld name word).readData ((World.pathOf []).child "fml.yaml") =
      .ok aliasedSettings := by
    rw [World.readData, known]
    dsimp only [bind, Except.bind]
    rw [if_pos rfl, World.loadFile, opened]
    exact makes.load
  rw [Project.layer, file]
  dsimp only
  rw [Project.settings, data]
  rfl

theorem ofEnvironment_aliasedWorld {name : String} (overrides : IsOverride name) (word : String) :
    Override.ofEnvironment (aliasedWorld name word).environment = [(name, word)] :=
  ofEnvironment_bareWorld overrides word

theorem layers_aliasedWorld {name word : String} {path : List Key} {value : Value}
    (overrides : IsOverride name) (leads : Override.path? name = some path)
    (read : Setting.ofText word.toList = .ok value) :
    Override.layers (aliasedWorld name word).environment = [(path, value)] := by
  have layer : Override.layer? (name, word) = some (path, value) :=
    Override.layer?_eq_some_iff.mpr ⟨leads, read⟩
  rw [Override.layers, ofEnvironment_aliasedWorld overrides, List.filterMap_cons_some layer,
    List.filterMap_nil]

/-- A variable that replaces a mapping is stored in one place, also if the mapping stands in two. -/
theorem load_layers_aliased :
    ∃ configuration, (empty.load (aliasedWorld "FML_B" "7") (World.pathOf []) false).result =
        .ok configuration ∧
      configuration.at? [Key.ofString "b"] = some (.integer 7) ∧
      configuration.at? [Key.ofString "a", Key.ofString "k"] = some (.integer 1) := by
  have overrides : IsOverride "FML_B" := by decide
  have parts : (Override.pieces ("FML_B".toList.drop Override.start.length)).map Text.lower =
      ["b".toList] := by decide +kernel
  have leads : Override.path? "FML_B" = some [Key.ofString "b"] := by
    unfold Override.path?
    rw [parts]
    rfl
  have read : Setting.ofText "7".toList = .ok (.integer 7) := by cbv
  have layers := layers_aliasedWorld overrides leads read
  have readable : Override.Readable
      (Override.ofEnvironment (aliasedWorld "FML_B" "7").environment) := by
    intro entry inside _
    rw [ofEnvironment_aliasedWorld overrides, List.mem_singleton] at inside
    subst inside
    exact ⟨_, read⟩
  have loopless : Shared.Obeys .loopless aliasedSettings :=
    ⟨trivial, ⟨trivial, trivial, trivial⟩, ⟨trivial, trivial, trivial⟩, trivial⟩
  have alone : ∀ layer ∈ Override.layers (aliasedWorld "FML_B" "7").environment,
      aliasedSettings.Alone layer.1 := by
    intro layer inside front label begins inner found
    rw [layers, List.mem_singleton] at inside
    subst inside
    rcases List.prefix_cons_iff.mp begins with rfl | ⟨rest, rfl, ends⟩
    · cases found
      decide
    · exact absurd (congrArg _ (List.prefix_nil.mp ends)) inner
  obtain ⟨configuration, loaded, holds⟩ :=
    load_layers (layer_aliasedWorld "FML_B" "7") readable loopless alone
  rw [layers] at holds
  refine ⟨configuration, loaded, ?_, ?_⟩
  · rw [holds [Key.ofString "b"] (by simp)]
    rfl
  · have apart : Value.Apart [Key.ofString "b"] [Key.ofString "a", Key.ofString "k"] :=
      Value.apart_of_ne (by simp [Key.ofString])
    rw [holds [Key.ofString "a", Key.ofString "k"] (by simpa using apart)]
    rfl

/-- **A variable that is stored in two places**: the mapping that it is stored in stands at another path
as well, at which the variable's path does not lead. -/
theorem load_aliased :
    Project.layer (aliasedWorld "FML_A__K" "2") (World.pathOf []) = .ok aliasedSettings ∧
      Override.layers (aliasedWorld "FML_A__K" "2").environment =
        [([Key.ofString "a", Key.ofString "k"], .integer 2)] ∧
      Value.Apart [Key.ofString "a", Key.ofString "k"] [Key.ofString "b", Key.ofString "k"] ∧
      (merged aliasedSettings).at? [Key.ofString "b", Key.ofString "k"] = some (.integer 1) ∧
      ∃ configuration, (empty.load (aliasedWorld "FML_A__K" "2") (World.pathOf []) false).result =
          .ok configuration ∧
        configuration.at? [Key.ofString "b", Key.ofString "k"] = some (.integer 2) := by
  have overrides : IsOverride "FML_A__K" := by decide
  have parts : (Override.pieces ("FML_A__K".toList.drop Override.start.length)).map Text.lower =
      ["a".toList, "k".toList] := by decide +kernel
  have leads : Override.path? "FML_A__K" = some [Key.ofString "a", Key.ofString "k"] := by
    unfold Override.path?
    rw [parts]
    rfl
  have read : Setting.ofText "2".toList = .ok (.integer 2) := by cbv
  refine ⟨layer_aliasedWorld _ _, layers_aliasedWorld overrides leads read,
    Value.apart_of_ne (by simp [Key.ofString]), rfl, ?_⟩
  obtain ⟨path, found, settings⟩ : ∃ path,
      Project.file? (aliasedWorld "FML_A__K" "2") (World.pathOf []) = .ok (some path) ∧
        Project.settings (aliasedWorld "FML_A__K" "2") path = .ok aliasedSettings := by
    have layer := layer_aliasedWorld "FML_A__K" "2"
    unfold Project.layer at layer
    split at layer
    · cases layer
    · cases layer
    · exact ⟨_, by assumption, layer⟩
  unfold load make Configurations.draft
  rw [found]
  dsimp only [layOver, adopt]
  rw [settings, ofEnvironment_aliasedWorld overrides]
  dsimp only
  rw [override, leads]
  dsimp only
  rw [read]
  exact ⟨_, rfl, rfl⟩

end Configurations

end PromptWeave
