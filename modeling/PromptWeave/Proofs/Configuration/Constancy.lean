/-
**When a configuration stays as it is.**

A configuration shares mappings with the bundled settings, and an override of a later load changes the
bundled settings in place. So a configuration is exposed if the path of some variable leads in the bundled
settings to a mapping that it shares. It keeps its value in every continuation of the session exactly if it
is not exposed. Main statements:

* `Override.exists_path?_take`: the front of a variable's path is the path of a variable;
* `Shared.value_update_injective`: a change to a mapping shows in every value that holds it;
* `Configurations.made_run` and `Configurations.settings_run`: what is not exposed stays the same, and so do
  the settings that a resolver reads of it;
* `Configurations.exists_value_ne`: what is exposed can be changed by a load;
* `Configurations.value_constant_iff`: both together.
-/

import Mathlib
import PromptWeave.Composition.StandingResolver
import PromptWeave.Proofs.Configuration.Session

namespace PromptWeave

open Text

/-! ### Paths of variables -/

namespace Override

theorem pieces_ne_nil (text : Text) : pieces text ≠ [] := by
  fun_cases pieces text with
  | case1 => exact List.cons_ne_nil _ _
  | case2 => exact List.cons_ne_nil _ _
  | case3 => exact List.cons_ne_nil _ _
  | case4 => exact List.cons_ne_nil _ _

/-- A variable has a path if none of its pieces is empty. -/
theorem path?_eq_some_iff {name : String} {path : List Key} : path? name = some path ↔
    (∀ piece ∈ pieces (name.toList.drop start.length), lower piece ≠ []) ∧
      path = ((pieces (name.toList.drop start.length)).map lower).map Key.ofText := by
  unfold path?
  dsimp only
  split
  · rename_i empty
    obtain ⟨part, inside, blank⟩ := List.any_eq_true.mp empty
    obtain ⟨piece, among, rfl⟩ := List.mem_map.mp inside
    exact iff_of_false nofun fun both => both.1 piece among (List.isEmpty_iff.mp blank)
  · rename_i full
    rw [Option.some.injEq, eq_comm]
    refine (and_iff_right fun piece among blank => full ?_).symm
    exact List.any_eq_true.mpr ⟨_, List.mem_map_of_mem among, List.isEmpty_iff.mpr blank⟩

theorem ne_nil_of_path? {name : String} {path : List Key} (leads : path? name = some path) : path ≠ [] := by
  obtain ⟨-, rfl⟩ := path?_eq_some_iff.mp leads
  intro none
  exact pieces_ne_nil _ (List.map_eq_nil_iff.mp (List.map_eq_nil_iff.mp none))

/-- The first pieces of a text are the pieces of a front of it. -/
theorem exists_pieces_take (text : Text) {count : Nat} (some : 0 < count) :
    ∃ front, front <+: text ∧ pieces front = (pieces text).take count := by
  fun_induction pieces text generalizing count with
  | case1 rest ih =>
    obtain ⟨count, rfl⟩ : ∃ less, count = less + 1 := ⟨count - 1, by omega⟩
    cases count with
    | zero => exact ⟨[], List.nil_prefix, rfl⟩
    | succ count =>
      obtain ⟨front, begins, same⟩ := ih (Nat.succ_pos count)
      refine ⟨'_' :: '_' :: front, ?_, by rw [pieces, same, List.take_succ_cons]⟩
      exact List.cons_prefix_cons.mpr ⟨rfl, List.cons_prefix_cons.mpr ⟨rfl, begins⟩⟩
  | case2 c rest apart piece others split ih =>
    obtain ⟨front, begins, same⟩ := ih some
    obtain ⟨count, rfl⟩ : ∃ less, count = less + 1 := ⟨count - 1, by omega⟩
    refine ⟨c :: front, List.cons_prefix_cons.mpr ⟨rfl, begins⟩, ?_⟩
    rw [split, List.take_succ_cons] at same
    have single : ∀ more, c = '_' → front ≠ '_' :: more := by
      rintro more rfl rfl
      obtain ⟨left, rfl⟩ := begins
      exact apart _ rfl rfl
    rw [pieces, same]
    · rfl
    · exact fun more opens follows => single more opens follows
  | case3 c rest apart split =>
    refine ⟨c :: rest, List.prefix_rfl, ?_⟩
    have whole : pieces (c :: rest) = [[c]] := by
      rw [pieces, split]
      exact apart
    rw [whole, List.take_of_length_le (by exact some)]
  | case4 => exact ⟨[], List.prefix_rfl, (List.take_of_length_le (by exact some)).symm⟩

/-- **The front of a variable's path is the path of a variable.** -/
theorem exists_path?_take {name : String} {path : List Key} (leads : path? name = some path)
    {count : Nat} (some : 0 < count) :
    ∃ name', start.toList.isPrefixOf name'.toList = true ∧ path? name' = .some (path.take count) := by
  obtain ⟨front, _, same⟩ := exists_pieces_take (name.toList.drop start.length) some
  refine ⟨String.ofList (start.toList ++ front), ?_, ?_⟩
  · rw [String.toList_ofList]
    exact List.isPrefixOf_iff_prefix.mpr (List.prefix_append ..)
  · have dropped : (String.ofList (start.toList ++ front)).toList.drop start.length = front := by
      rw [String.toList_ofList]
      exact List.drop_left
    obtain ⟨full, rfl⟩ := path?_eq_some_iff.mp leads
    rw [path?_eq_some_iff, dropped, same, List.map_take, List.map_take]
    exact ⟨fun piece inside => full piece (List.mem_of_mem_take inside), rfl⟩

end Override

/-! ### Changes show -/

namespace Value

theorem labelled_mapping_injective {label : Nat} {entries entries' : Mapping}
    (same : labelled label (.mapping false entries) = labelled label (.mapping false entries')) :
    entries = entries' := by
  unfold labelled at same
  split at same <;> split at same <;> cases same <;> rfl

theorem labelled_sequence_injective {label : Nat} {frozen : Bool} {items items' : List Value}
    (same : labelled label (.sequence frozen items) = labelled label (.sequence frozen items')) :
    items = items' := by
  unfold labelled at same
  split at same <;> split at same <;> cases same <;> rfl

end Value

namespace Shared

section Shows

variable {label : Nat} {key : Key} {first second : Value}

mutual

/-- **A change to a mapping shows in every value that holds it.** -/
theorem value_update_injective : (shared : Shared) → label ∈ shared.mappings →
    (shared.update label (Entries.put Key.same key (.plain first))).value =
      (shared.update label (Entries.put Key.same key (.plain second))).value → first = second
  | .sequence _ _ items, inside, same => by
    rw [update, update, value, value] at same
    exact values_update_injective items inside (Value.labelled_sequence_injective same)
  | .mapping other entries, inside, same => by
    rw [update, update, value, value] at same
    have entriesSame := Value.labelled_mapping_injective same
    by_cases here : other = label
    · rw [if_pos here, if_pos here] at entriesSame
      have stored := congrArg (Mapping.get? key) entriesSame
      rw [get?_fields, get?_fields, Entries.get?_put (Key.same_refl key),
        Entries.get?_put (Key.same_refl key)] at stored
      cases stored
      rfl
    · rw [if_neg here, if_neg here] at entriesSame
      have later := (List.mem_cons.mp inside).resolve_left (Ne.symm here)
      exact fields_update_injective entries later entriesSame

theorem values_update_injective : (items : List Shared) → label ∈ mappingsAll items →
    values (updateAll label (Entries.put Key.same key (.plain first)) items) =
      values (updateAll label (Entries.put Key.same key (.plain second)) items) → first = second
  | item :: items, inside, same => by
    obtain ⟨here, there⟩ := List.cons.inj same
    rcases List.mem_append.mp inside with inside | inside
    · exact value_update_injective item inside here
    · exact values_update_injective items inside there

theorem fields_update_injective : (entries : List (Key × Shared)) → label ∈ mappingsFields entries →
    fields (updateFields label (Entries.put Key.same key (.plain first)) entries) =
      fields (updateFields label (Entries.put Key.same key (.plain second)) entries) → first = second
  | (_, item) :: entries, inside, same => by
    obtain ⟨here, there⟩ := List.cons.inj same
    rcases List.mem_append.mp inside with inside | inside
    · exact value_update_injective item inside (congrArg Prod.snd here)
    · exact fields_update_injective entries inside there

end

end Shows

end Shared

namespace Configurations

/-! ### What is not exposed stays the same -/

/-- Whether a load may change a configuration: the path of some variable leads in the bundled settings to a
mapping that the configuration shares. -/
def Exposed (configurations : Configurations) (number : Nat) : Prop :=
  ∃ bundled ∈ configurations.defaults, ∃ shared ∈ configurations.made[number]?,
    ∃ name path key label, IsOverride name ∧ Override.path? name = some (path ++ [key]) ∧ path ≠ [] ∧
      bundled.mappingAt path = some label ∧ label ∈ shared.mappings

/-- Where an old mapping stands in the bundled settings at some time: where it stood at an earlier time. -/
def Stands (earlier : Configurations) (path : List Key) (label : Nat) : Prop :=
  ∃ bundled ∈ earlier.defaults, bundled.mappingAt path = some label

/-- Later configurations in which one that was made is as it was. -/
structure Keeps (earlier : Configurations) (number : Nat) (shared : Shared)
    (later : Configurations) : Prop where
  raised : earlier.labels ≤ later.labels
  same : later.made[number]? = some shared
  stands : ∀ {bundled path label}, bundled ∈ later.defaults → bundled.mappingAt path = some label →
    label < earlier.labels → Stands earlier path label

/-- A draft beside which a configuration is as it was. -/
structure KeepsDraft (earlier : Configurations) (number : Nat) (shared : Shared)
    (later : Configurations) (draft : Shared) : Prop extends SoundDraft later draft where
  keeps : Keeps earlier number shared later
  leads : ∀ {path label}, draft.mappingAt path = some label → label < earlier.labels →
    path ≠ [] ∧ Stands earlier path label

section Keeping

variable {earlier later : Configurations} {number : Nat} {shared draft : Shared}

theorem Keeps.raise (keeps : Keeps earlier number shared later) {labels : Nat}
    (more : later.labels ≤ labels) : Keeps earlier number shared { later with labels } :=
  ⟨Nat.le_trans keeps.raised more, keeps.same, keeps.stands⟩

/-- An override stores nothing in what is not exposed. -/
theorem Stores.notMem_mappings {name : String} {labels : Nat} {assignment : Shared.Assignment}
    (known : earlier.made[number]? = some shared)
    (old : ∀ label ∈ shared.mappings, label < earlier.labels) (safe : ¬ earlier.Exposed number)
    (before : KeepsDraft earlier number shared later draft)
    (stores : Stores later draft name labels assignment) : assignment.label ∉ shared.mappings := by
  intro inside
  obtain ⟨front, rest, leads, found⟩ := stores.leads
  -- A front of the variable's path leads in the draft to an old mapping, so it led there before, and the
  -- front with the key is the path of a variable itself.
  obtain ⟨somewhere, bundled, there, stood⟩ := before.leads found (old _ inside)
  obtain ⟨name', overrides', leads'⟩ :=
    Override.exists_path?_take leads (Nat.succ_pos front.length)
  refine safe ⟨bundled, there, shared, known, name', front, assignment.key, _, overrides', ?_, somewhere,
    stood, inside⟩
  rw [leads', List.take_append, List.take_of_length_le (Nat.le_succ _), Nat.succ_sub (Nat.le_refl _),
    Nat.sub_self, List.take_succ_cons, List.take_zero]

theorem carries_keepsDraft (sound : Sound earlier) (known : earlier.made[number]? = some shared)
    (safe : ¬ earlier.Exposed number) :
    Carries (KeepsDraft earlier number shared)
      fun later => Sound later ∧ Keeps earlier number shared later := by
  have old : ∀ label ∈ shared.mappings, label < earlier.labels := fun label inside =>
    (sound.made shared (List.mem_of_getElem? known)).forall_labels label
      (shared.mappings_subset_labels inside)
  constructor
  case raised =>
    intro later draft labels before more
    exact ⟨before.toSoundDraft.raise more, before.keeps.raise more, before.leads⟩
  case stored =>
    intro later draft name labels assignment before stores
    -- The mapping that is changed is not in the configuration, and what is stored is new.
    have absent := stores.notMem_mappings known old safe before
    have implies : (Shared.Rule.between later.labels labels).Implies
        (Shared.newUnnamed earlier.labels) :=
      ⟨fun inside => Nat.le_trans before.keeps.raised inside.1, id, fun _ => trivial⟩
    have new := stores.obeys.mono implies
    have same : (later.made.map (Shared.assign assignment))[number]? = some shared := by
      rw [List.getElem?_map, before.keeps.same, Option.map_some, Shared.assign,
        Shared.update_of_notMem _ shared absent]
    refine ⟨before.toSoundDraft.assign stores,
      ⟨Nat.le_trans before.keeps.raised stores.raised, same, ?_⟩,
      fun leads low => before.leads (Shared.mappingAt_update new leads low) low⟩
    intro bundled path label inside leads low
    obtain ⟨bundled, there, rfl⟩ := Option.map_eq_some_iff.mp inside
    exact before.keeps.stands there (Shared.mappingAt_update new leads low) low
  case failed => exact fun before => ⟨before.sound, before.keeps⟩
  case added =>
    intro later draft before
    refine ⟨carries_soundDraft.added before.toSoundDraft, before.keeps.raised, ?_, before.keeps.stands⟩
    obtain ⟨high, _⟩ := List.getElem?_eq_some_iff.mp before.keeps.same
    exact (List.getElem?_append_left high).trans before.keeps.same

/-- Bundled settings that are read anew share nothing with what was there before. -/
theorem Keeps.bundledNow (keeps : Keeps earlier number shared later) :
    Keeps earlier number shared later.bundledNow.2 := by
  unfold Configurations.bundledNow
  split
  · exact keeps
  · have raised := Shared.le_ofValue later.labels bundled
    refine ⟨Nat.le_trans keeps.raised raised, keeps.same, ?_⟩
    rintro _ path label ⟨⟩ leads low
    have new := (Shared.obeys_ofValue later.labels bundled isData_bundled).mappingAt leads
    exact absurd low (Nat.not_lt_of_le (Nat.le_trans keeps.raised new.1))

theorem Keeps.after (sound : Sound earlier) (safe : ¬ earlier.Exposed number) (now : Sound later)
    (known : earlier.made[number]? = some shared) (keeps : Keeps earlier number shared later)
    (event : Event) : Keeps earlier number shared (later.after event) := by
  refine after_induction event keeps (fun world root isChecked => ?_)
    (fun holds => ⟨holds.1, holds.2, holds.3⟩) ⟨keeps.raised, keeps.same, fun inside => nomatch inside⟩
  have keeps := keeps.bundledNow
  obtain ⟨begun, _⟩ := now.bundledNow
  refine (make_induction (carries_keepsDraft sound known safe) now world root isChecked
    (fun more draft => ⟨⟨begun.raise more, draft.obeys⟩, keeps.raise more, fun leads low => ?_⟩)
    fun more => ⟨begun.raise more, keeps.raise more⟩).2
  obtain ⟨somewhere, leads⟩ := draft.leads leads (Nat.lt_of_lt_of_le low keeps.raised)
  exact ⟨somewhere, keeps.stands later.defaults_bundledNow leads low⟩

/-- **What is not exposed stays as it is**, whatever happens later. -/
theorem made_run (sound : Sound earlier) (safe : ¬ earlier.Exposed number)
    (known : earlier.made[number]? = some shared) (events : List Event) :
    (earlier.run events).made[number]? = some shared := by
  have start : Keeps earlier number shared earlier :=
    ⟨Nat.le_refl _, known, fun there leads _ => ⟨_, there, leads⟩⟩
  have step (later : Configurations) (event : Event)
      (before : Sound later ∧ Keeps earlier number shared later) :
      Sound (later.after event) ∧ Keeps earlier number shared (later.after event) :=
    ⟨before.1.after event, before.2.after sound safe before.1 known event⟩
  have last := run_induction step events ⟨sound, start⟩
  exact last.2.same

/-- A resolver reads the same settings later from a configuration that is not exposed. -/
theorem settings_run (sound : Sound earlier) (safe : ¬ earlier.Exposed number)
    (known : earlier.made[number]? = some shared) {resolver : StandingResolver}
    (source : resolver.source = .made number) (events : List Event) (world : World) :
    resolver.settings (earlier.run events) world = resolver.settings earlier world := by
  have same : StandingResolver.configuration (earlier.run events) (.made number) =
      StandingResolver.configuration earlier (.made number) := by
    rw [StandingResolver.configuration, StandingResolver.configuration, value, value,
      made_run sound safe known events, known]
  have sections (name : String) (kept : Option Mapping) :
      StandingResolver.sectionNow (earlier.run events) (.made number) name kept =
        StandingResolver.sectionNow earlier (.made number) name kept := by
    cases kept with
    | some entries => rfl
    | none => exact congrArg (Settings.sectionOf name) same
  unfold StandingResolver.settings
  rw [source, sections, sections]

end Keeping

/-! ### What is exposed can be changed -/

section Changing

variable {configurations : Configurations} {number : Nat}

/-- **What is exposed can be changed**: after some load its value differs. -/
theorem exists_value_ne (sound : Sound configurations) (exposed : configurations.Exposed number) :
    ∃ event, (configurations.after event).value number ≠ configurations.value number := by
  obtain ⟨bundled, known, shared, made, name, path, key, label, overrides, names, deep, leads, inside⟩ :=
    exposed
  have now : configurations.bundledNow.1 = bundled := congrArg Prod.fst (bundledNow_of_some known)
  have changes {word : String} {atom : Atom} (read : Setting.ofText word.toList = .ok (.atom atom)) :
      (configurations.after (.load (bareWorld name word) (World.pathOf []) false)).value number =
        (shared.update label (Entries.put Key.same key (.plain (.atom atom)))).value := by
    obtain ⟨_, draft, same⟩ := make_overriding sound overrides names deep (now ▸ leads) read
    have found : ((configurations.make (bareWorld name word) (World.pathOf []) false).1.made)[number]? =
        some (shared.assign ⟨label, key, .plain (.atom atom)⟩) := by
      obtain ⟨low, _⟩ := List.getElem?_eq_some_iff.mp made
      rw [same, List.getElem?_append_left (by rwa [List.length_map]), List.getElem?_map, made,
        Option.map_some]
    rw [after, value, found]
    rfl
  have yes := @changes "true" (.bool true) rfl
  have no := @changes "false" (.bool false) rfl
  -- Of two loads that store different values, one at least changes what was there.
  refine Classical.byContradiction fun never => ?_
  have same (event : Event) := Classical.not_not.mp (not_exists.mp never event)
  rw [same] at yes no
  cases Shared.value_update_injective shared inside (yes.symm.trans no)

/-- **A configuration stays as it is, whatever happens later, exactly if it is not exposed**: if no path of
a variable leads in the bundled settings to a mapping that the configuration shares. -/
theorem value_constant_iff (events : List Event) (number : Fin (empty.run events).made.length) :
    (∀ later, ((empty.run events).run later).value number = (empty.run events).value number) ↔
      ¬ (empty.run events).Exposed number := by
  have sound := sound_run events
  constructor
  · intro constant exposed
    obtain ⟨event, changed⟩ := exists_value_ne sound exposed
    exact changed (constant [event])
  · intro safe later
    have known := List.getElem?_eq_getElem number.isLt
    rw [value, value, made_run sound safe known later, known]

end Changing

/-- The configuration of a project without a file is exposed, and so the next load changes it. -/
theorem value_run_overridden :
    (empty.run [.fetch (bareWorld "HOME" "/") (World.pathOf [])]).value 0 = bundled ∧
      (empty.run [.fetch (bareWorld "HOME" "/") (World.pathOf []),
        .load depthWorld (World.pathOf []) false]).value 0 = bundledDeep ∧ bundledDeep ≠ bundled := by
  obtain ⟨entries, same, kept, fetched⟩ : ∃ entries, empty.bundledNow.1 = .mapping 0 entries ∧
      ∃ kept, empty.after (.fetch (bareWorld "HOME" "/") (World.pathOf [])) =
        ⟨some (.mapping 0 entries), [.mapping 4 entries], kept, 5⟩ := by
    obtain ⟨label, entries, same, drafted⟩ := draft_bareWorld sound_empty "HOME" "/"
    obtain ⟨rfl, rfl⟩ := Shared.mapping.inj same
    rw [after, fetch, kept?, make, drafted]
    exact ⟨_, rfl, _, rfl⟩
  obtain ⟨-, rfl⟩ := Shared.mapping.inj same
  have sound := sound_empty.after (.fetch (bareWorld "HOME" "/") (World.pathOf []))
  rw [fetched] at sound
  obtain ⟨_, draft, changed⟩ := @make_depthWorld _ sound 1 (by cbv)
  refine ⟨?_, ?_, bundledDeep_ne_bundled⟩
  · rw [run, List.foldl, List.foldl, fetched]
    cbv
  · rw [run, List.foldl, List.foldl, List.foldl, fetched, after, value, changed]
    cbv

end Configurations

end PromptWeave
