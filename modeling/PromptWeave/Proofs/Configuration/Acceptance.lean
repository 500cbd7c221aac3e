/-
**What a configuration that is accepted looks like.**

A schema accepts a value when nothing in it violates the schema: a value of a kind that it allows, and
for a mapping no entries but the ones it names, each accepted in its turn. A configuration that the
schema of configurations accepts, and that nowhere stands inside itself, has all its settings but the
base directory, whose home may not be known. Main statements:

* `Schema.check_eq_ok_iff`: a check passes exactly when the value is accepted;
* `Schema.accepts_fields_iff`: which mappings are accepted;
* `Settings.Valid.exists_settings`: the settings of a configuration that is accepted;
* `Settings.Valid.baseDir_eq`: its base directory.
-/

import PromptWeave.Configuration.Settings
import PromptWeave.Configuration.Schema
import PromptWeave.Proofs.Value.Labels

namespace PromptWeave

open Text

/-! ### Acceptance -/

namespace Schema

/-- The entries that a schema names. -/
def properties : Schema → List (String × Schema)
  | fields properties => properties
  | _ => []

theorem kindViolations_eq_nil_iff {schema : Schema} {location : List String} {value : Value} :
    kindViolations schema location value = [] ↔ schema.isOfKind value = true := by
  unfold kindViolations
  split
  · rename_i allowed
    simp [allowed]
  · rename_i other
    simp [other]

/-- Only an entry whose key is none of the names is surplus. -/
theorem surplusViolations_eq_nil_iff {names location : List String} {value : Value}
    {entries : Mapping} (opens : value.opened = .mapping false entries) :
    surplusViolations names location value = [] ↔
      ∀ entry ∈ entries, ∃ name ∈ names, Key.same entry.1 (Key.ofString name) = true := by
  unfold surplusViolations
  rw [opens]
  simp only [List.isEmpty_iff, List.filter_eq_nil_iff, List.mem_map]
  split
  · rename_i known
    simpa using known
  · rename_i unknown
    simpa using unknown

mutual

/-- Whether there are violations does not hang on where the value is. -/
theorem violations_eq_nil_iff (first second : List String) (value : Value) :
    (schema : Schema) →
      (schema.violations first value = [] ↔ schema.violations second value = [])
  | .fields properties => by
    have surplus : surplusViolations (properties.map (·.1)) first value = [] ↔
        surplusViolations (properties.map (·.1)) second value = [] := by
      unfold surplusViolations
      split
      · dsimp only
        split <;> simp
      · exact Iff.rfl
    rw [violations, violations, List.append_eq_nil_iff, List.append_eq_nil_iff,
      List.append_eq_nil_iff, List.append_eq_nil_iff, kindViolations_eq_nil_iff,
      kindViolations_eq_nil_iff, surplus,
      propertyViolations_eq_nil_iff first second value properties]
  | .integer minimum => by
    rw [violations, violations, List.append_eq_nil_iff, List.append_eq_nil_iff,
      kindViolations_eq_nil_iff, kindViolations_eq_nil_iff]
    split <;> simp
  | .optionalString => by
    rw [violations, violations, kindViolations_eq_nil_iff, kindViolations_eq_nil_iff]
  | .boolean => by
    rw [violations, violations, kindViolations_eq_nil_iff, kindViolations_eq_nil_iff]

theorem propertyViolations_eq_nil_iff (first second : List String) (value : Value) :
    (properties : List (String × Schema)) →
      (propertyViolations first value properties = [] ↔
        propertyViolations second value properties = [])
  | [] => by rw [propertyViolations, propertyViolations]
  | (name, schema) :: properties => by
    rw [propertyViolations, propertyViolations, List.append_eq_nil_iff, List.append_eq_nil_iff,
      propertyViolations_eq_nil_iff first second value properties]
    refine and_congr_left fun _ => ?_
    split
    · split
      · exact violations_eq_nil_iff (first ++ [name]) (second ++ [name]) _ schema
      · exact Iff.rfl
    · exact Iff.rfl

end

theorem accepts_iff {schema : Schema} {value : Value} (location : List String) :
    schema.accepts value = true ↔ schema.violations location value = [] := by
  rw [accepts, List.isEmpty_iff]
  exact violations_eq_nil_iff [] location value schema

/-- The properties of a mapping are violated nowhere when each that is there is accepted. -/
theorem propertyViolations_eq_nil {location : List String} {value : Value} {entries : Mapping}
    (opens : value.opened = .mapping false entries) (properties : List (String × Schema)) :
    propertyViolations location value properties = [] ↔
      ∀ property ∈ properties, ∀ item, Mapping.named? property.1 entries = some item →
        property.2.accepts item = true := by
  induction properties with
  | nil => simp [propertyViolations]
  | cons property properties ih =>
    obtain ⟨name, schema⟩ := property
    rw [propertyViolations, List.append_eq_nil_iff, ih, List.forall_mem_cons, opens]
    refine and_congr_left fun _ => ?_
    dsimp only
    cases found : Mapping.named? name entries with
    | none => simp
    | some item => simpa using (accepts_iff (location ++ [name])).symm

/-- **A mapping is accepted** when it has no entries but those that are named, each accepted. -/
theorem accepts_fields_iff {properties : List (String × Schema)} {value : Value} :
    (fields properties).accepts value = true ↔
      ∃ entries, value.opened = .mapping false entries ∧
        (∀ property ∈ properties, ∀ item, Mapping.named? property.1 entries = some item →
          property.2.accepts item = true) ∧
        ∀ entry ∈ entries, ∃ property ∈ properties,
          Key.same entry.1 (Key.ofString property.1) = true := by
  rw [accepts_iff [], violations, List.append_eq_nil_iff, List.append_eq_nil_iff,
    kindViolations_eq_nil_iff]
  constructor
  · rintro ⟨⟨kind, named⟩, known⟩
    unfold isOfKind at kind
    split at kind
    · rename_i entries _ opens
      refine ⟨entries, opens, (propertyViolations_eq_nil opens properties).mp named, ?_⟩
      simpa using (surplusViolations_eq_nil_iff opens).mp known
    all_goals simp_all
  · rintro ⟨entries, opens, named, known⟩
    refine ⟨⟨by simp [isOfKind, opens], (propertyViolations_eq_nil opens properties).mpr named⟩, ?_⟩
    rw [surplusViolations_eq_nil_iff opens]
    simpa using known

theorem accepts_integer_iff {minimum : Int} {value : Value} :
    (integer minimum).accepts value = true ↔
      (integer minimum).isOfKind value = true ∧ isBelow minimum value = false := by
  rw [accepts_iff [], violations, List.append_eq_nil_iff, kindViolations_eq_nil_iff]
  split <;> simp_all

theorem accepts_optionalString_iff {value : Value} :
    optionalString.accepts value = true ↔ optionalString.isOfKind value = true := by
  rw [accepts_iff [], violations, kindViolations_eq_nil_iff]

/-- **A check passes exactly when the value is accepted.** -/
theorem check_eq_ok_iff {schema : Schema} {value : Value} :
    schema.check value = .ok () ↔ schema.accepts value = true := by
  rw [accepts_iff [], check]
  split
  · rename_i none
    simp [none]
  · rename_i first others some
    rw [some]
    refine iff_of_false ?_ (List.cons_ne_nil _ _)
    split
    · simp
    · dsimp only
      split <;> simp

end Schema

/-! ### Settings of a configuration that is accepted -/

namespace Settings

/-- A configuration that the schema of configurations accepts. Its sections hold no collections, so
that nothing in it stands inside itself. -/
structure Valid (configuration : Mapping) : Prop where
  accepted : Schema.configuration.accepts (.mapping false configuration) = true
  finite : Value.fieldsAreFinite configuration = true

theorem isFinite_of_named? {name : String} {entries : Mapping} {item : Value}
    (finite : Value.fieldsAreFinite entries = true)
    (found : Mapping.named? name entries = some item) : item.isFinite = true := by
  obtain ⟨key, inside⟩ := Entries.exists_mem_of_get? found
  exact Value.fieldsAreFinite_iff.mp finite _ inside

/-- An accepted integer is one. -/
theorem exists_integerOf {minimum : Int} {value : Value} (finite : value.isFinite = true)
    (accepted : (Schema.integer minimum).accepts value = true) :
    ∃ number, integerOf value = .ok number := by
  have kind := (Schema.accepts_integer_iff.mp accepted).1
  unfold Schema.isOfKind at kind
  rw [Value.opened_of_isFinite finite] at kind
  split at kind
  case h_4 => exact ⟨_, rfl⟩
  case h_5 fraction _ =>
    unfold Binary64.isIntegral at kind
    split at kind
    · cases kind
    · cases kind
    · exact ⟨_, rfl⟩
  all_goals simp_all

/-- What a section of a configuration that is accepted holds: finite values, each accepted. -/
structure HasSection (properties : List (String × Schema)) (entries : Mapping) : Prop where
  finite : Value.fieldsAreFinite entries = true
  accepted : ∀ property ∈ properties, ∀ item, Mapping.named? property.1 entries = some item →
    property.2.accepts item = true

theorem hasSection_nil (properties : List (String × Schema)) : HasSection properties [] where
  finite := rfl
  accepted := by
    intro property _ item found
    cases found

/-- **A section that the schema names can be read**, and holds what the schema says. -/
theorem Valid.exists_section {configuration : Mapping} (valid : Valid configuration) (name : String)
    {properties : List (String × Schema)}
    (named : (name, Schema.fields properties) ∈ Schema.configuration.properties) :
    ∃ entries, sectionOf name configuration = .ok entries ∧ HasSection properties entries := by
  obtain ⟨top, opens, each, _⟩ := Schema.accepts_fields_iff.mp valid.accepted
  cases opens
  unfold sectionOf
  cases found : Mapping.named? name configuration with
  | none => exact ⟨[], rfl, hasSection_nil properties⟩
  | some value =>
    have finite := isFinite_of_named? valid.finite found
    obtain ⟨entries, opens, accepted, _⟩ :=
      Schema.accepts_fields_iff.mp (each _ named value found)
    rw [Value.opened_of_isFinite finite] at opens
    subst opens
    dsimp only
    unfold entriesOf
    split
    · exact ⟨[], rfl, hasSection_nil properties⟩
    · exact ⟨entries, rfl, by rwa [Value.isFinite] at finite, accepted⟩

/-- An integer that is set is one, and so is the one that stands for it where none is set. -/
theorem HasSection.exists_integer {properties : List (String × Schema)} {entries : Mapping}
    (holds : HasSection properties entries) (name : String) {minimum : Int}
    (named : (name, Schema.integer minimum) ∈ properties) (default : Int) :
    ∃ number, integerOf ((Mapping.named? name entries).getD (.integer default)) = .ok number := by
  cases found : Mapping.named? name entries with
  | none => exact ⟨default, rfl⟩
  | some item =>
    exact exists_integerOf (isFinite_of_named? holds.finite found) (holds.accepted _ named item found)

/-- **The settings of a configuration that is accepted** are there, but for the base directory. -/
theorem Valid.exists_settings {configuration : Mapping} (valid : Valid configuration)
    (world : World) :
    ∃ depth trims indent, (ofConfiguration world configuration).maxDepth = .ok depth ∧
      (ofConfiguration world configuration).trims = .ok trims ∧
      (ofConfiguration world configuration).indent = .ok indent := by
  obtain ⟨resolution, found, holds⟩ := valid.exists_section "resolution" (.head _)
  obtain ⟨interpolation, foundToo, holdsToo⟩ :=
    valid.exists_section "interpolation" (.tail _ (.head _))
  obtain ⟨depth, deep⟩ := holds.exists_integer "max_depth" (.tail _ (.head _)) 32
  obtain ⟨indent, indented⟩ := holdsToo.exists_integer "json_indent" (.head _) 2
  refine ⟨depth, trimsOf resolution, indent, ?_, ?_, ?_⟩
  · rw [ofConfiguration, ofSections, resolutionName, found]
    exact deep
  · rw [ofConfiguration, ofSections, resolutionName, found]
    rfl
  · rw [ofConfiguration, ofSections, interpolationName, foundToo]
    exact indented

/-- **The base directory of a configuration that is accepted**: none, or the one that is spelled,
if its home is known. -/
theorem Valid.baseDir_eq {configuration : Mapping} (valid : Valid configuration) (world : World) :
    (ofConfiguration world configuration).baseDir = .ok none ∨
      ∃ spelling, (ofConfiguration world configuration).baseDir =
        (world.expandHome (Path.parse spelling)).map some := by
  obtain ⟨resolution, found, holds⟩ := valid.exists_section "resolution" (.head _)
  rw [ofConfiguration, ofSections, resolutionName, found]
  show baseDirOf world resolution = _ ∨ ∃ spelling, baseDirOf world resolution = _
  unfold baseDirOf
  cases set : Mapping.named? "base_dir" resolution with
  | none => exact Or.inl rfl
  | some item =>
    have kind := Schema.accepts_optionalString_iff.mp
      (holds.accepted ("base_dir", .optionalString) (.head _) item set)
    unfold Schema.isOfKind at kind
    rw [Value.opened_of_isFinite (isFinite_of_named? holds.finite set)] at kind
    split at kind
    case h_2 spelling _ =>
      simp only [Option.getD_some]
      split
      · exact Or.inl rfl
      · refine Or.inr ⟨spelling, ?_⟩
        show (world.expandHome (Path.parse (String.ofList spelling.toList))).map some = _
        rw [String.ofList_toList]
    case h_3 => exact Or.inl rfl
    all_goals simp_all

end Settings

end PromptWeave
