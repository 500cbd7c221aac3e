/-
**Settings are data.**

What a JSON text holds is made of atoms, lists and mappings that can be changed, and so is every setting
of the environment and all that is bundled. Nothing in it stands inside itself. Main statements:

* `Json.isData_of_parse?`: a JSON text holds data;
* `Setting.isData_of_ofText`: a setting of the environment is data;
* `Project.obeys_settings`: what is not shared in the settings of a project is flat;
* `Value.isFinite_of_isData`: data nowhere stand inside themselves.
-/

import PromptWeave.Configuration.Configurations
import PromptWeave.Proofs.Value.Labels

namespace PromptWeave

open Text

namespace Value

theorem fieldsAreData_iff {entries : List (Key × Value)} :
    FieldsAreData entries ↔ ∀ entry ∈ entries, IsData entry.2 := by
  induction entries with
  | nil => simp [FieldsAreData]
  | cons entry entries ih =>
    obtain ⟨key, value⟩ := entry
    simp [FieldsAreData, ih]

theorem FieldsAreData.ofPairs {pairs : List (Key × Value)} (data : FieldsAreData pairs) :
    FieldsAreData (Mapping.ofPairs pairs) := by
  have more (entries : Mapping) (before : FieldsAreData entries) :
      FieldsAreData (pairs.foldl (fun entries pair => Entries.put Key.same pair.1 pair.2 entries)
        entries) := by
    induction pairs generalizing entries with
    | nil => exact before
    | cons pair pairs ih =>
      refine ih data.2 _ (fieldsAreData_iff.mpr fun entry inside => ?_)
      rcases Entries.mem_of_mem_put inside with stored | earlier
      · exact stored ▸ data.1
      · exact fieldsAreData_iff.mp before entry earlier
  exact more [] trivial

mutual

/-- Data nowhere stand inside themselves. -/
theorem isFinite_of_isData : (value : Value) → value.IsData → value.isFinite = true
  | .atom _, _ => by rw [isFinite]
  | .sequence _ items, data => by rw [isFinite, areFinite_of_areData items data.2]
  | .mapping _ entries, data => by rw [isFinite, fieldsAreFinite_of_fieldsAreData entries data.2]

theorem areFinite_of_areData : (values : List Value) → AreData values → areFinite values = true
  | [], _ => by rw [areFinite]
  | value :: values, data => by
    rw [areFinite, isFinite_of_isData value data.1, areFinite_of_areData values data.2, Bool.and_self]

theorem fieldsAreFinite_of_fieldsAreData :
    (entries : List (Key × Value)) → FieldsAreData entries → fieldsAreFinite entries = true
  | [], _ => by rw [fieldsAreFinite]
  | (_, value) :: entries, data => by
    rw [fieldsAreFinite, isFinite_of_isData value data.1,
      fieldsAreFinite_of_fieldsAreData entries data.2, Bool.and_self]

end

end Value

namespace Json

/-- What is read as a value, as items or as members is data. -/
structure ReadsData (fuel : Nat) : Prop where
  value : ∀ {text value after}, readValue fuel text = some (some value, after) → value.IsData
  items : ∀ {text items after}, readItems fuel text = some (some items, after) → Value.AreData items
  members : ∀ {text members after}, readMembers fuel text = some (some members, after) →
    Value.FieldsAreData members

section Step

variable {fuel : Nat} {text after : Text}

theorem ReadsData.isData_value (data : ReadsData fuel) {value : Value}
    (read : readValue (fuel + 1) text = some (some value, after)) : value.IsData := by
  unfold readValue at read
  split at read
  · obtain ⟨⟨_ | name, _⟩, _, same⟩ := Option.map_eq_some_iff.mp read
    · cases same
    · cases same
      trivial
  · split at read
    · cases read
      exact ⟨rfl, trivial⟩
    · obtain ⟨⟨_ | items, _⟩, inner, same⟩ := Option.map_eq_some_iff.mp read
      · cases same
      · cases same
        exact ⟨rfl, data.items inner⟩
  · split at read
    · cases read
      exact ⟨rfl, trivial⟩
    · obtain ⟨⟨_ | members, _⟩, inner, same⟩ := Option.map_eq_some_iff.mp read
      · cases same
      · cases same
        exact ⟨rfl, (data.members inner).ofPairs⟩
  · obtain ⟨_, _, same⟩ := Option.map_eq_some_iff.mp read
    cases same
    trivial

theorem ReadsData.areData_items (data : ReadsData fuel) {items : List Value}
    (read : readItems (fuel + 1) text = some (some items, after)) : Value.AreData items := by
  unfold readItems at read
  split at read
  · cases read
  · rename_i value? after first
    split at read
    · obtain ⟨⟨_ | others, _⟩, inner, same⟩ := Option.map_eq_some_iff.mp read
      · cases value? <;> cases same
      · cases value? with
        | none => cases same
        | some value =>
          cases same
          exact ⟨data.value first, data.items inner⟩
    · cases value? with
      | none => cases read
      | some value =>
        cases read
        exact ⟨data.value first, trivial⟩
    · cases read

theorem ReadsData.fieldsAreData_members (data : ReadsData fuel) {members : List (Key × Value)}
    (read : readMembers (fuel + 1) text = some (some members, after)) : Value.FieldsAreData members := by
  unfold readMembers at read
  split at read
  · split at read
    · cases read
    · rename_i name? _ _
      split at read
      · split at read
        · cases read
        · rename_i value? _ first
          split at read
          · obtain ⟨⟨others?, _⟩, inner, same⟩ := Option.map_eq_some_iff.mp read
            cases name? <;> cases value? <;> cases others? <;> cases same
            exact ⟨data.value first, data.members inner⟩
          · cases name? <;> cases value? <;> cases read
            exact ⟨data.value first, trivial⟩
          · cases read
      · cases read
  · cases read

end Step

theorem readsData (fuel : Nat) : ReadsData fuel := by
  induction fuel with
  | zero =>
    constructor
    · intro _ _ _ read
      rw [readValue] at read
      cases read
    · intro _ _ _ read
      rw [readItems] at read
      cases read
    · intro _ _ _ read
      rw [readMembers] at read
      cases read
  | succ fuel ih => exact ⟨ih.isData_value, ih.areData_items, ih.fieldsAreData_members⟩

/-- **A JSON text holds data.** -/
theorem isData_of_parse? {text : Text} {value : Value} (read : parse? text = some (some value)) :
    value.IsData := by
  unfold parse? at read
  split at read
  · cases read
  · rename_i found
    split at read
    · cases read
      exact (readsData _).value found
    · cases read

theorem isData_of_valueOf {text : Text} {value : Value} (read : valueOf text = .ok value) :
    value.IsData := by
  unfold valueOf at read
  split at read
  · cases read
    trivial
  · cases read
  · rename_i parsed
    cases read
    exact isData_of_parse? parsed

end Json

/-- **A setting of the environment is data.** -/
theorem Setting.isData_of_ofText {text : Text} {value : Value} (read : ofText text = .ok value) :
    value.IsData := by
  unfold ofText at read
  dsimp only at read
  split at read
  · cases read
    trivial
  split at read
  · cases read
    trivial
  split at read
  · cases read
    trivial
  split at read
  · split at read <;> cases read
    trivial
  split at read
  · split at read <;> cases read
    trivial
  split at read
  · exact Json.isData_of_valueOf read
  · cases read
    trivial

/-! ### Project files -/

namespace Yaml

theorem obeys_share (collections : Array Collection) (fuel : Nat) (around : List Nat) (item : Item) :
    Shared.Obeys .flat (item.share collections fuel around) := by
  induction fuel generalizing around item with
  | zero => trivial
  | succ fuel ih =>
    cases item with
    | atom value => trivial
    | collection label =>
      rw [Item.share]
      split
      · trivial
      dsimp only
      split
      · refine ⟨trivial, Shared.obeyAll_iff.mpr fun item inside => ?_⟩
        obtain ⟨before, _, rfl⟩ := List.mem_map.mp inside
        exact ih _ before
      · refine ⟨trivial, Shared.obeyFields_iff.mpr fun entry inside => ?_⟩
        obtain ⟨before, _, rfl⟩ := List.mem_map.mp inside
        exact ih _ before.2
      · trivial
      · trivial

theorem Document.obeys_value {document : Document} {shared : Shared}
    (read : document.value = .ok shared) : Shared.Obeys .flat shared := by
  unfold Document.value at read
  simp only [bind, Except.bind] at read
  split at read
  · cases read
  · cases read
    exact obeys_share ..

theorem obeys_readShared {text : Text} {shared : Shared} (read : readShared text = .ok shared) :
    Shared.Obeys .flat shared := by
  unfold readShared at read
  simp only [bind, Except.bind] at read
  split at read
  · cases read
  · split at read
    · cases read
      trivial
    · exact Document.obeys_value read

end Yaml

/-- A value that is loaded is that of a whole text. -/
theorem Loader.exists_whole_of_loadFrom {loader : Loader} {past : Text} {held bytes : List UInt8}
    {shared : Shared} (loaded : loader.loadFrom past held bytes = .ok shared) :
    ∃ text, loader.whole text = .ok shared := by
  fun_induction loadFrom loader past held bytes with
  | case1 => cases loaded
  | case2 => exact ⟨_, loaded⟩
  | case3 => cases loaded
  | case4 _ _ _ _ _ _ _ _ ih => exact ih loaded
  | case5 => cases loaded

theorem World.obeys_readData {world : World} {path : Path} {shared : Shared}
    (read : world.readData path = .ok shared) : Shared.Obeys .flat shared := by
  unfold World.readData World.loadFile at read
  simp only [bind, Except.bind] at read
  split at read
  · cases read
  · split at read
    · split at read
      · cases read
      · obtain ⟨text, made⟩ := Loader.exists_whole_of_loadFrom read
        exact Yaml.obeys_readShared made
    · cases read

/-- **What is not shared in the settings of a project is flat.** -/
theorem Project.obeys_settings {world : World} {path : Path} {settings : Shared}
    (read : Project.settings world path = .ok settings) : Shared.Obeys .flat settings := by
  unfold Project.settings at read
  split at read
  · cases read
  · cases read
  · cases read
    exact ⟨trivial, trivial⟩
  · rename_i found
    cases read
    exact World.obeys_readData found
  · cases read

/-- The settings of a project are a mapping. -/
theorem Project.exists_mapping {world : World} {path : Path} {settings : Shared}
    (read : Project.settings world path = .ok settings) :
    ∃ label entries, settings = .mapping label entries := by
  unfold Project.settings at read
  split at read
  · cases read
  · cases read
  · cases read
    exact ⟨_, _, rfl⟩
  · cases read
    exact ⟨_, _, rfl⟩
  · cases read

/-- The bundled settings are data. -/
theorem Configurations.isData_bundled : bundled.IsData :=
  ⟨rfl, ⟨rfl, trivial, trivial, trivial, trivial⟩, ⟨rfl, trivial, trivial⟩, trivial⟩

end PromptWeave
