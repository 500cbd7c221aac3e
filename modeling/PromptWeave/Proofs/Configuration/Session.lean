/-
**Sessions.**

A session is a row of events, between which the environment and the files may change in any way: a
configuration is loaded, or fetched from those that are kept, or what is kept or bundled is forgotten.
Whatever happens, the bundled settings are a mapping with its own collections at one place each, and no
label is ever given twice. Main statements:

* `Configurations.run`: the configurations after a row of events;
* `Configurations.Stores`: what one override of a setting does;
* `Configurations.override_induction`: what each override preserves, all of them preserve;
* `Configurations.draft_eq`: what a draft begins with;
* `Configurations.draft_spec`: where the mappings of a draft come from;
* `Configurations.sound_run`: what holds after every session;
* `Configurations.make_overriding`: what an override does in a world without files.
-/

import Mathlib
import PromptWeave.Configuration.Configurations
import PromptWeave.Proofs.Configuration.Data
import PromptWeave.Proofs.Configuration.Walk

namespace PromptWeave

namespace Configurations

/-! ### Events -/

/-- What may happen in a session, each in the world as it then is. -/
inductive Event
  /-- A configuration is made, and checked on demand; it is not kept. -/
  | load (world : World) (root : Path) (isChecked : Bool)
  /-- The configuration of a project is asked for, and made and kept if none is kept. -/
  | fetch (world : World) (root : Path)
  /-- The configurations are kept no longer. -/
  | forget
  /-- The bundled settings are read anew when they are needed. -/
  | forgetBundled

/-- The configurations after an event. -/
def after (configurations : Configurations) : Event → Configurations
  | .load world root isChecked => (configurations.make world root isChecked).1
  | .fetch world root => (configurations.fetch world root).1
  | .forget => configurations.forget
  | .forgetBundled => configurations.forgetBundled

/-- What a fetch leaves: nothing new, or what a load leaves, with what was loaded kept or without. -/
theorem after_fetch_cases (configurations : Configurations) (world : World) (root : Path) :
    configurations.after (.fetch world root) = configurations ∨
      configurations.after (.fetch world root) = (configurations.make world root true).1 ∨
      ∃ number, (configurations.make world root true).2.result = .ok number ∧
        configurations.after (.fetch world root) =
          { (configurations.make world root true).1 with
            kept := (configurations.make world root true).1.kept ++
              [(Project.fingerprint world root, number)] } := by
  rw [after, fetch]
  cases configurations.kept? world root with
  | some number => exact .inl rfl
  | none =>
    rcases configurations.make world root true with ⟨later, ⟨fault | number, notices⟩⟩
    · exact .inr (.inl rfl)
    · exact .inr (.inr ⟨number, rfl, rfl⟩)

/-- The configurations after a row of events. -/
def run (configurations : Configurations) (events : List Event) : Configurations :=
  events.foldl after configurations

/-- What every event preserves, a session preserves. -/
theorem run_induction {property : Configurations → Prop}
    (step : ∀ configurations event, property configurations → property (configurations.after event))
    (events : List Event) {configurations : Configurations} (start : property configurations) :
    property (configurations.run events) := by
  induction events generalizing configurations with
  | nil => exact start
  | cons event events ih => exact ih (step configurations event start)

/-! ### What always holds -/

/-- A rule for labels, had or named, below a bound; what is not shared is flat. -/
def belowRule (bound : Nat) : Shared.Rule := ⟨fun l => l < bound, fun l => l < bound, Value.IsFlat⟩

theorem belowRule_implies {bound bound' : Nat} (raised : bound ≤ bound') :
    (belowRule bound).Implies (belowRule bound') :=
  ⟨fun low => Nat.lt_of_lt_of_le low raised, fun low => Nat.lt_of_lt_of_le low raised, id⟩

theorem belowRule_implies_flat (bound : Nat) : (belowRule bound).Implies .flat :=
  ⟨fun _ => trivial, fun _ => trivial, id⟩

theorem between_implies_belowRule (low bound : Nat) :
    (Shared.Rule.between low bound).Implies (belowRule bound) :=
  ⟨And.right, False.elim, Value.isFlat_of_isAtom⟩

/-- Bundled settings as they may become: a mapping whose collections stand in one place each and are
named nowhere. -/
structure IsBundle (bound : Nat) (bundled : Shared) : Prop where
  isMapping : ∃ label entries, bundled = .mapping label entries
  obeys : Shared.Obeys (.between 0 bound) bundled
  unique : bundled.labels.Nodup

/-- What holds of the configurations whatever happens. -/
structure Sound (configurations : Configurations) : Prop where
  bundle : ∀ bundled ∈ configurations.defaults, IsBundle configurations.labels bundled
  made : ∀ shared ∈ configurations.made, Shared.Obeys (belowRule configurations.labels) shared

theorem sound_empty : Sound empty where
  bundle _ inside := by cases inside
  made _ inside := by cases inside

section Steps

variable {configurations : Configurations} {draft : Shared}

/-- Labels may be left out. -/
theorem Sound.raise (sound : Sound configurations) {labels : Nat} (raised : configurations.labels ≤ labels) :
    Sound { configurations with labels } where
  bundle bundled inside :=
    have before := sound.bundle bundled inside
    ⟨before.isMapping, before.obeys.mono (Shared.Rule.between_implies (Nat.le_refl _) raised), before.unique⟩
  made shared inside := (sound.made shared inside).mono (belowRule_implies raised)

/-- The bundled settings as they are now are sound, also where they are read anew. -/
theorem Sound.bundledNow (sound : Sound configurations) :
    Sound configurations.bundledNow.2 ∧
      IsBundle configurations.bundledNow.2.labels configurations.bundledNow.1 ∧
      configurations.labels ≤ configurations.bundledNow.2.labels := by
  unfold Configurations.bundledNow
  split
  · rename_i bundled known
    exact ⟨sound, sound.bundle bundled known, Nat.le_refl _⟩
  · have raised := Shared.le_ofValue configurations.labels bundled
    have bundle : IsBundle (Shared.ofValue configurations.labels bundled).2
        (Shared.ofValue configurations.labels bundled).1 :=
      ⟨⟨_, _, rfl⟩, (Shared.obeys_ofValue configurations.labels bundled isData_bundled).mono
        (Shared.Rule.between_implies (Nat.zero_le _) (Nat.le_refl _)),
        Shared.nodup_ofValue configurations.labels bundled isData_bundled⟩
    refine ⟨⟨?_, fun shared inside => (sound.made shared inside).mono (belowRule_implies raised)⟩,
      bundle, raised⟩
    rintro _ ⟨⟩
    exact bundle

/-! ### One override -/

/-- What an override of a setting stores: the front of the path leads to the mapping that is changed, and
all labels of the item are new. -/
structure Stores (configurations : Configurations) (draft : Shared) (name : String) (labels : Nat)
    (assignment : Shared.Assignment) : Prop where
  leads : ∃ front rest, Override.path? name = some (front ++ assignment.key :: rest) ∧
    draft.mappingAt front = some assignment.label
  raised : configurations.labels ≤ labels
  obeys : Shared.Obeys (.between configurations.labels labels) assignment.item
  unique : assignment.item.labels.Nodup

theorem stores_of_assignment? {name : String} {path : List Key} {text : Text} {value : Value}
    {assignment : Shared.Assignment} (names : Override.path? name = some path)
    (read : Setting.ofText text = .ok value)
    (stored : Shared.assignment? (Shared.ofValue configurations.labels value).2
      (Shared.ofValue configurations.labels value).1 path draft = some assignment) :
    Stores configurations draft name
      ((Shared.ofValue configurations.labels value).2 + path.length) assignment := by
  have data := Setting.isData_of_ofText read
  have raised := Shared.le_ofValue configurations.labels value
  have obeys := Shared.obeys_ofValue configurations.labels value data
  obtain ⟨front, rest, rfl, leads, same⟩ := Shared.exists_mappingAt_of_assignment? stored
  refine ⟨⟨front, rest, names, leads⟩, Nat.le_add_right_of_le raised, ?_, ?_⟩
  · rw [same]
    refine Shared.Obeys.nest (obeys.mono (Shared.Rule.between_implies (Nat.le_refl _)
      (Nat.le_add_right ..))) rest fun l low high => ⟨Nat.le_trans raised low, ?_⟩
    simp only [List.length_append, List.length_cons]
    omega
  · rw [same]
    exact Shared.nodup_nest obeys (Shared.nodup_ofValue _ value data) (Nat.le_refl _) rest

/-- **What each override preserves, all of them preserve**, also if one of them cannot be read. -/
theorem override_induction {property : Configurations → Shared → Prop}
    (raised : ∀ {configurations draft labels}, property configurations draft →
      configurations.labels ≤ labels → property { configurations with labels } draft)
    (stored : ∀ {configurations draft name labels assignment}, property configurations draft →
      Stores configurations draft name labels assignment →
        property ({ configurations with labels }.assign assignment) (draft.assign assignment))
    (overrides : List (String × String)) (start : property configurations draft) :
    ∃ last, property (configurations.override draft overrides).1 last ∧
      ∀ found, (configurations.override draft overrides).2.result = .ok found → found = last := by
  induction overrides generalizing configurations draft with
  | nil =>
    refine ⟨draft, start, fun found same => ?_⟩
    cases same
    rfl
  | cons entry overrides ih =>
    obtain ⟨name, text⟩ := entry
    rw [override]
    cases leads : Override.path? name with
    | none => exact ih start
    | some path =>
      cases read : Setting.ofText text.toList with
      | error fault => exact ⟨draft, start, fun found same => by cases same⟩
      | ok value =>
        have more := Nat.le_add_right_of_le (k := path.length)
          (Shared.le_ofValue configurations.labels value)
        dsimp only
        cases assigned : Shared.assignment? (Shared.ofValue configurations.labels value).2
            (Shared.ofValue configurations.labels value).1 path draft with
        | none => exact ih (raised start more)
        | some assignment =>
          exact ih (stored start (stores_of_assignment? leads read assigned))

/-- A draft that the configurations know all labels of. -/
structure SoundDraft (configurations : Configurations) (draft : Shared) : Prop where
  sound : Sound configurations
  obeys : Shared.Obeys (belowRule configurations.labels) draft

theorem SoundDraft.raise (before : SoundDraft configurations draft) {labels : Nat}
    (raised : configurations.labels ≤ labels) : SoundDraft { configurations with labels } draft :=
  ⟨before.sound.raise raised, before.obeys.mono (belowRule_implies raised)⟩

theorem SoundDraft.assign (before : SoundDraft configurations draft) {name : String} {labels : Nat}
    {assignment : Shared.Assignment} (stores : Stores configurations draft name labels assignment) :
    SoundDraft ({ configurations with labels }.assign assignment) (draft.assign assignment) := by
  have given : Shared.Obeys (belowRule labels) assignment.item :=
    stores.obeys.mono (between_implies_belowRule ..)
  have raised := belowRule_implies stores.raised
  refine ⟨⟨fun bundled inside => ?_, fun shared inside => ?_⟩,
    given.update _ _ (before.obeys.mono raised)⟩
  · obtain ⟨earlier, known, rfl⟩ := Option.map_eq_some_iff.mp inside
    have bundle := before.sound.bundle earlier known
    obtain ⟨label, entries, mapping⟩ := bundle.isMapping
    refine ⟨⟨label, _, by rw [mapping, Shared.assign, Shared.update]⟩, ?_, ?_⟩
    · exact (stores.obeys.mono (Shared.Rule.between_implies (Nat.zero_le _) (Nat.le_refl _))).update _ _
        (bundle.obeys.mono (Shared.Rule.between_implies (Nat.le_refl _) stores.raised))
    · refine Shared.nodup_update stores.unique earlier bundle.unique fun l old new => ?_
      have low := (bundle.obeys.forall_labels l old).2
      have high := (stores.obeys.forall_labels l new).1
      exact Nat.lt_irrefl _ (Nat.lt_of_lt_of_le low high)
  · obtain ⟨earlier, known, rfl⟩ := List.mem_map.mp inside
    exact given.update _ _ ((before.sound.made earlier known).mono raised)

/-! ### Drafts -/

/-- A draft of a configuration: its old mappings stand where they stand in the bundled settings, and the
whole of it is new. -/
structure IsDraft (bundled : Shared) (old labels : Nat) (draft : Shared) : Prop where
  obeys : Shared.Obeys (belowRule labels) draft
  leads : ∀ {path label}, draft.mappingAt path = some label → label < old →
    path ≠ [] ∧ bundled.mappingAt path = some label

/-- The bundled settings laid over nothing are copied, and only the outermost mapping is new. -/
theorem covered_start {next label : Nat} {entries : List (Key × Shared)} {low high : Nat}
    (obeys : Shared.Obeys (.between low high) (.mapping label entries)) :
    Shared.covered (next + 1) (.mapping next []) (.mapping label entries) =
      (.mapping (next + 1) entries, next + 2) := by
  rw [Shared.covered_of_mapping (Shared.opened_of_unnamed (fun _ => id) obeys)]
  have all : Entries.without ([] : List (Key × Shared)) entries = entries :=
    List.filter_eq_self.mpr fun _ _ => rfl
  rw [all]
  rfl

theorem isDraft_copy {label new old high : Nat} {entries : List (Key × Shared)}
    (obeys : Shared.Obeys (.between 0 old) (.mapping label entries)) (later : old ≤ new)
    (below : new < high) : IsDraft (.mapping label entries) old high (.mapping new entries) where
  obeys := ⟨below, (obeys.2.mono (between_implies_belowRule ..)).mono
    (belowRule_implies (Nat.le_trans later (Nat.le_of_lt below)))⟩
  leads {path found} leads before := by
    have opens (label : Nat) : (Shared.mapping label entries).opened = .mapping label entries :=
      Shared.opened_mapping (fun _ => False.elim) obeys.2
    cases path with
    | nil =>
      rw [Shared.mappingAt, opens] at leads
      cases leads
      exact absurd later (Nat.not_le_of_lt before)
    | cons key path =>
      rw [Shared.mappingAt_cons (opens new)] at leads
      rw [Shared.mappingAt_cons (opens label)]
      exact ⟨List.cons_ne_nil key path, leads⟩

/-- Settings of a project laid over a draft change nothing about that, for all of them are new. -/
theorem IsDraft.covered {bundled : Shared} {old next : Nat} (copied : IsDraft bundled old next draft)
    (unnamed : Shared.Obeys (Shared.lowerRule next) draft) (later : old ≤ next) {settings : Shared}
    (flat : Shared.Obeys .flat settings) :
    next ≤ (Shared.covered (next + settings.bound) draft (settings.relabel next)).2 ∧
      IsDraft bundled old (Shared.covered (next + settings.bound) draft (settings.relabel next)).2
        (Shared.covered (next + settings.bound) draft (settings.relabel next)).1 := by
  have raised := Nat.le_trans (Nat.le_add_right next settings.bound)
    (Shared.le_covered (next + settings.bound) draft (settings.relabel next))
  have inside : Shared.Obeys (Shared.Rule.flat.below settings.bound) settings :=
    flat.below (Nat.le_refl _)
  have moved : (Shared.Rule.flat.below settings.bound).Implies
      ((Shared.upperRule next next (next + settings.bound)).moved next) :=
    ⟨fun _ => Nat.le_add_left .., fun low => ⟨Nat.le_add_left .., by have := low.2; omega⟩,
      fun _ => trivial⟩
  have moved' : (Shared.Rule.flat.below settings.bound).Implies
      ((belowRule (next + settings.bound)).moved next) :=
    ⟨fun {l} low => show l + next < next + settings.bound by have := low.2; omega,
      fun {l} low => show l + next < next + settings.bound by have := low.2; omega, id⟩
  have upper := (inside.mono moved).relabel.mono (Shared.upperRule_implies later (Nat.le_refl _))
  have given := (inside.mono moved').relabel
  refine ⟨raised, ?_, fun leads before => ?_⟩
  · exact Shared.Obeys.covered _ _ _ (copied.obeys.mono (belowRule_implies raised))
      (given.mono (belowRule_implies (Shared.le_covered ..))) fun l _ high => high
  · exact copied.leads (Shared.mappingAt_covered (Nat.le_trans later (Nat.le_add_right ..))
      (Nat.le_add_right ..) draft _ unnamed upper leads before) before

/-- **A draft begins with a copy of the bundled settings** under a new label, and the settings of the
project are laid over that. -/
theorem draft_eq {later : Configurations} {label : Nat} {entries : List (Key × Shared)}
    (begun : configurations.bundledNow = (.mapping label entries, later))
    (bundle : Shared.Obeys (.between 0 later.labels) (.mapping label entries)) (world : World)
    (root : Path) :
    configurations.draft world root =
      match Project.file? world root with
      | .error fault =>
        ({ later with labels := later.labels + 2 }, .quiet (.error (.host fault)))
      | .ok none =>
        ({ later with labels := later.labels + 2 },
          .quiet (.ok (.mapping (later.labels + 1) entries)))
      | .ok (some path) =>
        match Project.settings world path with
        | .error fault => ({ later with labels := later.labels + 2 }, .quiet (.error fault))
        | .ok settings =>
          let (settings, raised) := adopt { later with labels := later.labels + 2 } settings
          let (draft, last) := raised.layOver (.mapping (later.labels + 1) entries) settings
          (last, ⟨.ok draft, [.loadedSettings path]⟩) := by
  have copied := @covered_start later.labels _ _ _ _ bundle
  unfold Configurations.draft
  rw [begun]
  dsimp only [layOver]
  generalize Shared.covered (later.labels + 1) (.mapping later.labels []) _ = copy at copied ⊢
  subst copied
  rfl

/-- **Where the mappings of a draft come from**, and that a draft changes nothing but gives labels. -/
theorem draft_spec (sound : Sound configurations) (world : World) (root : Path) :
    ∃ labels, configurations.bundledNow.2.labels ≤ labels ∧
      (configurations.draft world root).1 = { configurations.bundledNow.2 with labels } ∧
      ∀ draft, (configurations.draft world root).2.result = .ok draft →
        IsDraft configurations.bundledNow.1 configurations.bundledNow.2.labels labels draft := by
  obtain ⟨_, bundle, _⟩ := sound.bundledNow
  generalize begun : configurations.bundledNow = now at bundle ⊢
  obtain ⟨bundled, later⟩ := now
  obtain ⟨label, entries, rfl⟩ := bundle.isMapping
  have copied := isDraft_copy bundle.obeys (Nat.le_succ later.labels) (Nat.lt_succ_self _)
  rw [draft_eq begun bundle.obeys]
  split
  · exact ⟨_, Nat.le_add_right .., rfl, fun draft same => by cases same⟩
  · refine ⟨_, Nat.le_add_right .., rfl, fun draft same => ?_⟩
    cases same
    exact copied
  · split
    · exact ⟨_, Nat.le_add_right .., rfl, fun draft same => by cases same⟩
    · rename_i settings read
      have implies : (Shared.Rule.between 0 later.labels).Implies
          (Shared.lowerRule (later.labels + 2)) :=
        ⟨fun inside => Nat.lt_add_right 2 inside.2, id, fun _ => trivial⟩
      have unnamed : Shared.Obeys (Shared.lowerRule (later.labels + 2))
          (.mapping (later.labels + 1) entries) := ⟨Nat.lt_succ_self _, bundle.obeys.2.mono implies⟩
      obtain ⟨raised, draft⟩ :=
        copied.covered unnamed (show later.labels ≤ later.labels + 2 by omega)
          (Project.obeys_settings read)
      refine ⟨_, Nat.le_trans (show later.labels ≤ later.labels + 2 by omega) raised, rfl,
        fun found same => ?_⟩
      cases same
      exact draft

/-! ### Loads -/

/-- A property of drafts that every step of a load preserves, and what it says of the configurations when
the load ends. -/
structure Carries (property : Configurations → Shared → Prop) (goal : Configurations → Prop) : Prop where
  raised : ∀ {configurations draft labels}, property configurations draft →
    configurations.labels ≤ labels → property { configurations with labels } draft
  stored : ∀ {configurations draft name labels assignment}, property configurations draft →
    Stores configurations draft name labels assignment →
      property ({ configurations with labels }.assign assignment) (draft.assign assignment)
  failed : ∀ {configurations draft}, property configurations draft → goal configurations
  added : ∀ {configurations draft}, property configurations draft →
    goal { configurations with made := configurations.made ++ [draft] }

/-- **A load preserves what its steps preserve**: it begins with a draft, stores overrides in it and in all
that it shares, and adds it to the configurations if nothing fails. -/
theorem make_induction {property : Configurations → Shared → Prop} {goal : Configurations → Prop}
    (carries : Carries property goal) (sound : Sound configurations) (world : World) (root : Path)
    (isChecked : Bool)
    (begun : ∀ {labels draft}, configurations.bundledNow.2.labels ≤ labels →
      IsDraft configurations.bundledNow.1 configurations.bundledNow.2.labels labels draft →
        property { configurations.bundledNow.2 with labels } draft)
    (idle : ∀ {labels}, configurations.bundledNow.2.labels ≤ labels →
      goal { configurations.bundledNow.2 with labels }) :
    goal (configurations.make world root isChecked).1 := by
  obtain ⟨labels, more, same, found⟩ := draft_spec sound world root
  unfold make
  generalize configurations.draft world root = begin at same found ⊢
  obtain ⟨later, ⟨result, notices⟩⟩ := begin
  cases result with
  | error fault => exact same ▸ idle more
  | ok draft =>
    obtain rfl : later = { configurations.bundledNow.2 with labels } := same
    have start : property { configurations.bundledNow.2 with labels } draft :=
      begun more (found draft rfl)
    obtain ⟨last, holds, whole⟩ := override_induction (@Carries.raised _ _ carries)
      (@Carries.stored _ _ carries) _ start
    dsimp only
    generalize override _ draft _ = overridden at holds whole ⊢
    obtain ⟨latest, ⟨result, more⟩⟩ := overridden
    cases result with
    | error fault => exact carries.failed holds
    | ok draft' =>
      obtain rfl := whole draft' rfl
      dsimp only
      split
      · exact carries.failed holds
      · exact carries.added holds

/-- What every event preserves that holds of loads and says nothing on what is kept. -/
theorem after_induction {goal : Configurations → Prop} (event : Event) (holds : goal configurations)
    (load : ∀ world root isChecked, goal (configurations.make world root isChecked).1)
    (kept : ∀ {configurations kept}, goal configurations → goal { configurations with kept })
    (forgotten : goal { configurations with defaults := none }) :
    goal (configurations.after event) := by
  cases event with
  | load world root isChecked => exact load world root isChecked
  | fetch world root =>
    obtain same | same | ⟨number, -, same⟩ := after_fetch_cases configurations world root
    · exact same.symm ▸ holds
    · exact same.symm ▸ load world root true
    · exact same.symm ▸ kept (load world root true)
  | forget => exact kept holds
  | forgetBundled => exact forgotten

theorem carries_soundDraft : Carries SoundDraft Sound where
  raised before more := before.raise more
  stored before stores := before.assign stores
  failed before := before.sound
  added before := by
    refine ⟨before.sound.bundle, fun shared inside => ?_⟩
    rcases List.mem_append.mp inside with inside | inside
    · exact before.sound.made shared inside
    · exact List.mem_singleton.mp inside ▸ before.obeys

theorem Sound.after (sound : Sound configurations) (event : Event) :
    Sound (configurations.after event) := by
  obtain ⟨now, _⟩ := sound.bundledNow
  refine after_induction event sound (fun world root isChecked => ?_) (fun holds => ⟨holds.1, holds.2⟩)
    ⟨fun _ known => (nomatch known), sound.made⟩
  exact make_induction carries_soundDraft sound world root isChecked
    (fun more draft => ⟨now.raise more, draft.obeys⟩) now.raise

/-- **Every session leaves sound configurations.** -/
theorem sound_run (events : List Event) : Sound (empty.run events) :=
  run_induction (fun _ event sound => sound.after event) events sound_empty

end Steps

/-! ### Worlds without files -/

/-- Without a project file a draft is a copy of the bundled settings. -/
theorem draft_of_no_file {configurations : Configurations} (sound : Sound configurations)
    {world : World} {root : Path} (absent : Project.file? world root = .ok none) :
    ∃ label entries, configurations.bundledNow.1 = .mapping label entries ∧
      configurations.draft world root =
        ({ configurations.bundledNow.2 with labels := configurations.bundledNow.2.labels + 2 },
          .quiet (.ok (.mapping (configurations.bundledNow.2.labels + 1) entries))) := by
  obtain ⟨_, bundle, _⟩ := sound.bundledNow
  generalize begun : configurations.bundledNow = now at bundle ⊢
  obtain ⟨bundled, later⟩ := now
  obtain ⟨label, entries, rfl⟩ := bundle.isMapping
  refine ⟨label, entries, rfl, ?_⟩
  rw [draft_eq begun bundle.obeys, absent]

/-- A name of which nothing is stored in the root directory is no file. -/
theorem isFile?_of_absent {world : World} {file : String} (search : world.files.maySearch [] = true)
    (absent : world.files.stored? [file] = none)
    (plain : ¬ (file = "" ∨ file = ".") ∧ file ≠ "..") (short : ¬ FileSystem.nameLimit < file.utf8ByteSize)
    (fits : ¬ FileSystem.spellingLimit < ((World.pathOf []).child file).text.utf8ByteSize) :
    world.isFile? ((World.pathOf []).child file) = .ok false := by
  have nowhere : world.lookUp ((World.pathOf []).child file) = .error .absent := by
    rw [World.lookUp, FileSystem.lookUp, if_neg fits]
    change FileSystem.walk world.files FileSystem.linkLimit [] [file] = .error .absent
    rw [FileSystem.walk, if_neg (FileSystem.not_bars_of_maySearch search _), if_neg plain.1, if_neg plain.2,
      if_neg short, List.nil_append, absent]
  rw [World.isFile?, nowhere]
  exact ite_self _

/-- A project in the root directory has no file if none is stored there. -/
theorem file?_of_absent {world : World} (search : world.files.maySearch [] = true)
    (absent : ∀ name ∈ Project.fileNames, world.files.stored? [name] = none) :
    Project.file? world (World.pathOf []) = .ok none := by
  have first := absent "fml.yaml" (by decide)
  have second := absent ".fml.yaml" (by decide)
  rw [Project.file?, Project.fileNames, Project.firstFile,
    isFile?_of_absent search first (by decide) (by decide) (by decide +kernel)]
  dsimp only
  rw [Project.firstFile, isFile?_of_absent search second (by decide) (by decide) (by decide +kernel)]
  rfl

/-- A world without any file and with one variable in its environment. -/
def bareWorld (name word : String) : World := { World.empty with environment := [(name, word)] }

theorem file?_bareWorld (name word : String) :
    Project.file? (bareWorld name word) (World.pathOf []) = .ok none :=
  file?_of_absent rfl fun _ _ => rfl

/-- In such a world a draft is a copy of the bundled settings. -/
theorem draft_bareWorld {configurations : Configurations} (sound : Sound configurations)
    (name word : String) : ∃ label entries,
      configurations.bundledNow.1 = .mapping label entries ∧
      configurations.draft (bareWorld name word) (World.pathOf []) =
        ({ configurations.bundledNow.2 with labels := configurations.bundledNow.2.labels + 2 },
          .quiet (.ok (.mapping (configurations.bundledNow.2.labels + 1) entries))) :=
  draft_of_no_file sound (file?_bareWorld name word)

/-- Whether the name of a variable begins as those that override settings do. -/
def IsOverride (name : String) : Prop := Override.start.toList.isPrefixOf name.toList = true

instance (name : String) : Decidable (IsOverride name) := inferInstanceAs (Decidable (_ = true))

theorem ofEnvironment_bareWorld {name : String} (overrides : IsOverride name) (word : String) :
    Override.ofEnvironment (bareWorld name word).environment = [(name, word)] := by
  unfold Override.ofEnvironment bareWorld
  dsimp only
  rw [List.filter_cons_of_pos (by exact overrides)]
  rfl

/-- The bundled settings are known from when they are needed. -/
theorem defaults_bundledNow (configurations : Configurations) :
    configurations.bundledNow.2.defaults = some configurations.bundledNow.1 := by
  unfold bundledNow
  split
  · assumption
  · rfl

theorem bundledNow_of_some {configurations : Configurations} {bundled : Shared}
    (known : configurations.defaults = some bundled) :
    configurations.bundledNow = (bundled, configurations) := by
  unfold bundledNow
  rw [known]

theorem made_bundledNow (configurations : Configurations) :
    configurations.bundledNow.2.made = configurations.made := by
  unfold bundledNow
  split <;> rfl

/-- **An override whose path leads to a mapping of the bundled settings changes it wherever it stands**, in
the bundled settings and in all configurations. -/
theorem make_overriding {configurations : Configurations} (sound : Sound configurations) {name : String}
    (overrides : IsOverride name) {path : List Key} {key : Key}
    (names : Override.path? name = some (path ++ [key])) (deep : path ≠ []) {label : Nat}
    (leads : configurations.bundledNow.1.mappingAt path = some label) {word : String} {atom : Atom}
    (read : Setting.ofText word.toList = .ok (.atom atom)) :
    (configurations.make (bareWorld name word) (World.pathOf []) false).1.defaults =
        some (configurations.bundledNow.1.assign ⟨label, key, .plain (.atom atom)⟩) ∧
      ∃ draft, (configurations.make (bareWorld name word) (World.pathOf []) false).1.made =
        configurations.made.map (Shared.assign ⟨label, key, .plain (.atom atom)⟩) ++ [draft] := by
  obtain ⟨_, bundle, _⟩ := sound.bundledNow
  obtain ⟨outer, entries, same, drafted⟩ := draft_bareWorld sound name word
  have known := configurations.defaults_bundledNow
  have made := configurations.made_bundledNow
  rw [same] at leads bundle known ⊢
  have opens (outer : Nat) : (Shared.mapping outer entries).opened = .mapping outer entries :=
    Shared.opened_mapping (fun _ => False.elim) bundle.obeys.2
  -- The draft is a copy of the outermost mapping only, so the path leads where it led.
  have leads' (outer : Nat) : (Shared.mapping outer entries).mappingAt path = some label := by
    obtain ⟨first, path, rfl⟩ := List.exists_cons_of_ne_nil deep
    rw [Shared.mappingAt_cons (opens _)] at leads ⊢
    exact leads
  have stored (next outer : Nat) :=
    Shared.assignment?_of_mappingAt next (.plain (.atom atom)) key (leads' outer)
  unfold make
  rw [drafted, ofEnvironment_bareWorld overrides]
  dsimp only [Outcome.quiet]
  rw [override, names]
  dsimp only
  rw [read]
  dsimp only [Shared.ofValue]
  rw [stored]
  dsimp only [assign, override, Outcome.quiet]
  rw [if_neg Bool.false_ne_true, known, made]
  exact ⟨rfl, _, rfl⟩

/-- A world without files in which a variable sets the depth. -/
def depthWorld : World := bareWorld "FML_RESOLUTION__MAX_DEPTH" "5"

/-- The bundled settings with the depth that the variable sets. -/
def bundledDeep : Value :=
  .record
    [("resolution", .record
      [("base_dir", .null), ("max_depth", .integer 5), ("trim_documents", .bool true)]),
    ("interpolation", .record [("json_indent", .integer 2)])]

theorem bundledDeep_ne_bundled : bundledDeep ≠ bundled := by
  simp [bundledDeep, bundled, Value.record, Value.integer]

theorem make_depthWorld {configurations : Configurations} (sound : Sound configurations) {label : Nat}
    (leads : configurations.bundledNow.1.mappingAt [Key.ofString "resolution"] = some label) :
    (configurations.make depthWorld (World.pathOf []) false).1.defaults =
        some (configurations.bundledNow.1.assign
          ⟨label, Key.ofString "max_depth", .plain (.integer 5)⟩) ∧
      ∃ draft, (configurations.make depthWorld (World.pathOf []) false).1.made =
        configurations.made.map (Shared.assign ⟨label, Key.ofString "max_depth", .plain (.integer 5)⟩) ++
          [draft] := by
  have overrides : IsOverride "FML_RESOLUTION__MAX_DEPTH" := by decide
  have parts : (Override.pieces ("FML_RESOLUTION__MAX_DEPTH".toList.drop Override.start.length)).map
      Text.lower = ["resolution".toList, "max_depth".toList] := by decide +kernel
  have names : Override.path? "FML_RESOLUTION__MAX_DEPTH" =
      some ([Key.ofString "resolution"] ++ [Key.ofString "max_depth"]) := by
    unfold Override.path?
    rw [parts]
    rfl
  have read : Setting.ofText "5".toList = .ok (.integer 5) := by cbv
  exact make_overriding sound overrides names (List.cons_ne_nil _ _) leads read

end Configurations

end PromptWeave
