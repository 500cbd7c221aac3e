/-
**What the schema accepts can be used.**

The schema looks at a configuration on its own, and so does each reader of a setting. They read it alike: in a
configuration that is accepted the depth, the trimming and the indentation are there as they are set, or as
they are by default where nothing is set, and the two numbers are not below their bounds. A fraction may be
set for an integer that it equals. Main statements:

* `Value.LabelsCollections`: every label stands before a collection, and `Shared.labelsCollections_value`: so
  it does in values that are made of shared ones;
* `Value.number?`: the number that a value is;
* `Settings.exists_integerOf_of_accepts`: an accepted integer is read as the number that it is;
* `Settings.exists_sectionOf_of_accepts`: a section of an accepted configuration is read as it stands there;
* `Settings.usable_of_check`: the settings of a configuration that is accepted.
-/

import Mathlib
import PromptWeave.Proofs.Configuration.Acceptance
import PromptWeave.Proofs.Number.Fraction
import PromptWeave.Proofs.Value.Paths

namespace PromptWeave

/-! ### Labels -/

namespace Value

/-- Whether a value is a collection. -/
def isCollection : Value → Bool
  | .sequence _ _ => true
  | .mapping _ _ => true
  | .set _ => true
  | _ => false

mutual

/-- Every label in a value stands before a collection: nothing else can stand inside itself. -/
def LabelsCollections : Value → Prop
  | .atom _ => True
  | .sequence _ items => AllLabelCollections items
  | .mapping _ entries => FieldsLabelCollections entries
  | .set _ => True
  | .loop _ inside => inside.isCollection = true ∧ LabelsCollections inside
  | .again _ => True

/-- The same for a row of values. -/
def AllLabelCollections : List Value → Prop
  | [] => True
  | value :: values => LabelsCollections value ∧ AllLabelCollections values

/-- The same for the values of entries. -/
def FieldsLabelCollections : List (Key × Value) → Prop
  | [] => True
  | (_, value) :: entries => LabelsCollections value ∧ FieldsLabelCollections entries

end

theorem fieldsLabelCollections_iff {entries : List (Key × Value)} :
    FieldsLabelCollections entries ↔ ∀ entry ∈ entries, LabelsCollections entry.2 := by
  induction entries with
  | nil => simp [FieldsLabelCollections]
  | cons entry entries ih => rw [FieldsLabelCollections, ih, List.forall_mem_cons]

theorem isCollection_replace (label : Nat) (whole : Value) {value : Value}
    (collection : value.isCollection = true) : (replace label whole value).isCollection = true := by
  cases value with
  | sequence frozen items => rfl
  | mapping frozen entries => rfl
  | set members => rfl
  | atom value => cases collection
  | loop other inside => cases collection
  | again other => cases collection

mutual

theorem LabelsCollections.replace {label : Nat} {whole : Value} (labels : whole.LabelsCollections) :
    (value : Value) → value.LabelsCollections → (Value.replace label whole value).LabelsCollections
  | .atom _, _ => trivial
  | .sequence _ items, inside => by
    rw [Value.replace]
    exact labels.replaceAll items inside
  | .mapping _ entries, inside => by
    rw [Value.replace]
    exact labels.replaceFields entries inside
  | .set _, _ => trivial
  | .loop other body, inside => by
    rw [Value.replace]
    split
    · exact inside
    · exact ⟨isCollection_replace _ _ inside.1, labels.replace body inside.2⟩
  | .again other, _ => by
    rw [Value.replace]
    split
    · exact labels
    · trivial

theorem LabelsCollections.replaceAll {label : Nat} {whole : Value} (labels : whole.LabelsCollections) :
    (values : List Value) → AllLabelCollections values → AllLabelCollections (Value.replaceAll label whole values)
  | [], _ => trivial
  | value :: values, inside => ⟨labels.replace value inside.1, labels.replaceAll values inside.2⟩

theorem LabelsCollections.replaceFields {label : Nat} {whole : Value} (labels : whole.LabelsCollections) :
    (entries : List (Key × Value)) → FieldsLabelCollections entries →
      FieldsLabelCollections (Value.replaceFields label whole entries)
  | [], _ => trivial
  | (_, value) :: entries, inside => ⟨labels.replace value inside.1, labels.replaceFields entries inside.2⟩

end

theorem LabelsCollections.opened {value : Value} (labels : value.LabelsCollections) :
    value.opened.LabelsCollections := by
  cases value with
  | loop label inside => exact labels.replace inside labels.2
  | atom value => exact labels
  | sequence frozen items => exact labels
  | mapping frozen entries => exact labels
  | set members => exact labels
  | again label => exact labels

/-- **An opened value is an atom only if the value is.** -/
theorem LabelsCollections.eq_atom {value : Value} {content : Atom} (labels : value.LabelsCollections)
    (opens : value.opened = .atom content) : value = .atom content := by
  cases value with
  | loop label inside =>
    have collection := isCollection_replace label (.loop label inside) labels.1
    rw [Value.opened] at opens
    rw [opens] at collection
    cases collection
  | atom value => exact opens
  | sequence frozen items => exact opens
  | mapping frozen entries => exact opens
  | set members => exact opens
  | again label => exact opens

/-- A value under a key of an opened mapping labels collections if the mapping does. -/
theorem LabelsCollections.of_get? {value item : Value} {frozen : Bool} {entries : Mapping} {key : Key}
    (labels : value.LabelsCollections) (opens : value.opened = .mapping frozen entries)
    (found : Mapping.get? key entries = some item) : item.LabelsCollections := by
  obtain ⟨other, inside⟩ := Entries.exists_mem_of_get? found
  have all := labels.opened
  rw [opens] at all
  exact fieldsLabelCollections_iff.mp all _ inside

/-- What is set in a configuration under the name of a section and a key there, or a default. -/
def setting (value : Value) (name key : String) (default : Value) : Value :=
  (value.at? [Key.ofString name, Key.ofString key]).getD default

/-- The number that a value is, if it is one; a truth value is none. -/
def number? : Value → Option ℚ
  | .atom (.integer value) => some value
  | .atom (.fraction value) => value.number?
  | _ => none

end Value

namespace Shared

theorem labelsCollections_labelled (label : Nat) {inside : Value} (collection : inside.isCollection = true)
    (labels : inside.LabelsCollections) : (inside.labelled label).LabelsCollections := by
  unfold Value.labelled
  split
  · exact ⟨collection, labels⟩
  · exact labels

mutual

/-- **A value that is made of shared ones labels collections**, as what data files hold does. -/
theorem labelsCollections_value : (shared : Shared) → Obeys .flat shared → shared.value.LabelsCollections
  | .plain (.atom _), _ => trivial
  | .plain (.set _), _ => trivial
  | .sequence label frozen items, obeys => by
    rw [value]
    exact labelsCollections_labelled label rfl (allLabelCollections_values items obeys.2)
  | .mapping label entries, obeys => by
    rw [value]
    exact labelsCollections_labelled label rfl (fieldsLabelCollections_fields entries obeys.2)
  | .again _, _ => trivial

theorem allLabelCollections_values :
    (items : List Shared) → ObeyAll .flat items → Value.AllLabelCollections (values items)
  | [], _ => trivial
  | item :: items, obeys => ⟨labelsCollections_value item obeys.1, allLabelCollections_values items obeys.2⟩

theorem fieldsLabelCollections_fields :
    (entries : List (Key × Shared)) → ObeyFields .flat entries → Value.FieldsLabelCollections (fields entries)
  | [], _ => trivial
  | (_, item) :: entries, obeys =>
    ⟨labelsCollections_value item obeys.1, fieldsLabelCollections_fields entries obeys.2⟩

end

end Shared

/-! ### Settings -/

namespace Settings

open Schema

/-- **An accepted integer is read as the number that it is**, which is not below its bound. -/
theorem exists_integerOf_of_accepts {minimum : Int} {value : Value} (labels : value.LabelsCollections)
    (accepted : (Schema.integer minimum).accepts value = true) :
    ∃ number : Int, integerOf value = .ok number ∧ value.number? = some (number : ℚ) ∧ minimum ≤ number := by
  obtain ⟨kind, above⟩ := accepts_integer_iff.mp accepted
  unfold isOfKind at kind
  split at kind
  case h_4 number _ opens =>
    obtain rfl := labels.eq_atom opens
    refine ⟨number, rfl, rfl, ?_⟩
    simpa [isBelow] using above
  case h_5 fraction _ opens =>
    obtain rfl := labels.eq_atom opens
    obtain ⟨whole, cut, stands⟩ := Binary64.exists_truncate kind
    refine ⟨whole, by rw [integerOf, cut]; rfl, stands, ?_⟩
    have notLess : ¬ (whole : ℚ) < minimum := by
      rw [← Binary64.ltInt_iff stands, Bool.not_eq_true]
      exact above
    exact_mod_cast not_lt.mp notLess
  all_goals simp_all

/-- An accepted truth value is one. -/
theorem exists_bool_of_accepts {value : Value} (labels : value.LabelsCollections)
    (accepted : Schema.boolean.accepts value = true) : ∃ truth, value = .bool truth := by
  have kind : Schema.boolean.isOfKind value = true := by
    rwa [accepts_iff [], violations, kindViolations_eq_nil_iff] at accepted
  unfold isOfKind at kind
  split at kind
  case h_6 truth _ opens => exact ⟨truth, labels.eq_atom opens⟩
  all_goals simp_all

/-- A mapping counts as true when it has entries. -/
theorem isTruthy_of_opened {value : Value} {entries : Mapping} (opens : value.opened = .mapping false entries) :
    value.isTruthy = !entries.isEmpty := by
  cases value with
  | mapping frozen fields =>
    cases opens
    rfl
  | loop label inside =>
    rw [Value.opened] at opens
    cases inside with
    | mapping frozen fields =>
      rw [Value.replace] at opens
      cases opens
      cases fields <;> rfl
    | loop other body =>
      rw [Value.replace] at opens
      split at opens <;> cases opens
    | again other =>
      rw [Value.replace] at opens
      split at opens <;> cases opens
    | atom value => cases opens
    | sequence frozen items => cases opens
    | set members => cases opens
  | atom value => cases opens
  | sequence frozen items => cases opens
  | set members => cases opens
  | again label => cases opens

/-- A mapping stands for the section of its entries. -/
theorem entriesOf_of_opened {value : Value} {entries : Mapping} (opens : value.opened = .mapping false entries) :
    entriesOf value = .ok entries := by
  rw [entriesOf, isTruthy_of_opened opens, opens]
  cases entries <;> rfl

/-- What the section of a name holds in a configuration that is accepted. -/
structure Holds (value : Value) (name : String) (properties : List (String × Schema)) (entries : Mapping) :
    Prop where
  /-- What stands in the configuration under the name and another one stands in the section. -/
  at? : ∀ key, value.at? [Key.ofString name, Key.ofString key] = Mapping.named? key entries
  accepted : ∀ property ∈ properties, ∀ item, Mapping.named? property.1 entries = some item →
    property.2.accepts item = true
  labels : ∀ key item, Mapping.named? key entries = some item → item.LabelsCollections

/-- **A section of an accepted configuration is read** as it stands there. -/
theorem exists_sectionOf_of_accepts {value : Value} (labels : value.LabelsCollections)
    (accepted : Schema.configuration.accepts value = true) (name : String)
    {properties : List (String × Schema)}
    (named : (name, Schema.fields properties) ∈ Schema.configuration.properties) :
    ∃ entries, sectionOf name value.entriesOf = .ok entries ∧ Holds value name properties entries := by
  obtain ⟨top, opens, each, -⟩ := accepts_fields_iff.mp accepted
  have known : value.entriesOf = top := by rw [Value.entriesOf, opens]
  rw [known, sectionOf]
  cases found : Mapping.named? name top with
  | none =>
    refine ⟨[], rfl, fun key => ?_, ?_, ?_⟩
    · rw [Value.at?, opens]
      dsimp only
      rw [← Mapping.named?, found]
      rfl
    · exact fun property _ item absent => by cases absent
    · exact fun key item absent => by cases absent
  | some item =>
    obtain ⟨entries, unfolds, inside, -⟩ := accepts_fields_iff.mp (each _ named item found)
    refine ⟨entries, entriesOf_of_opened unfolds, fun key => ?_, inside, fun key part stored => ?_⟩
    · rw [Value.at?, opens]
      dsimp only
      rw [← Mapping.named?, found, Option.bind_some, Value.at?, unfolds]
      dsimp only
      rw [← Mapping.named?]
      cases Mapping.named? key entries <;> rfl
    · exact (labels.of_get? opens found).of_get? unfolds stored

/-- An integer that is set, or the default in its place, is read as the number that it is. -/
theorem Holds.exists_integerOf {value : Value} {name : String} {properties : List (String × Schema)}
    {entries : Mapping} (holds : Holds value name properties entries) (key : String) {minimum : Int}
    (named : (key, Schema.integer minimum) ∈ properties) (default : Int) (above : minimum ≤ default) :
    ∃ number : Int, integerOf ((Mapping.named? key entries).getD (.integer default)) = .ok number ∧
      (value.setting name key (.integer default)).number? = some (number : ℚ) ∧ minimum ≤ number := by
  rw [Value.setting, holds.at?]
  cases found : Mapping.named? key entries with
  | none => exact ⟨default, rfl, rfl, above⟩
  | some item =>
    exact exists_integerOf_of_accepts (holds.labels key item found) (holds.accepted _ named item found)

/-- A truth value is set, or the default stands in its place. -/
theorem Holds.exists_bool {value : Value} {name : String} {properties : List (String × Schema)}
    {entries : Mapping} (holds : Holds value name properties entries) (key : String)
    (named : (key, Schema.boolean) ∈ properties) (default : Bool) :
    ∃ truth, value.setting name key (.bool default) = .bool truth := by
  rw [Value.setting, holds.at?]
  cases found : Mapping.named? key entries with
  | none => exact ⟨default, rfl⟩
  | some item =>
    exact exists_bool_of_accepts (holds.labels key item found) (holds.accepted _ named item found)

/-- **What the schema accepts can be used.** In a configuration that passes the check the depth, the trimming
and the indentation are there: the two numbers are integers equal to those that are set, or to the default
ones, and not below their bounds, and the truth value is the one that is set, or the default one. -/
theorem usable_of_check {value : Value} (labels : value.LabelsCollections)
    (checked : Schema.configuration.check value = .ok ()) (world : World) :
    (∃ depth : Int, (ofConfiguration world value.entriesOf).maxDepth = .ok depth ∧ 1 ≤ depth ∧
      (value.setting "resolution" "max_depth" (.integer 32)).number? = some (depth : ℚ)) ∧
    (∃ trims : Bool, (ofConfiguration world value.entriesOf).trims = .ok trims ∧
      value.setting "resolution" "trim_documents" (.bool true) = .bool trims) ∧
    ∃ indent : Int, (ofConfiguration world value.entriesOf).indent = .ok indent ∧ 0 ≤ indent ∧
      (value.setting "interpolation" "json_indent" (.integer 2)).number? = some (indent : ℚ) := by
  have accepted := Schema.check_eq_ok_iff.mp checked
  obtain ⟨resolution, read, holds⟩ :=
    exists_sectionOf_of_accepts labels accepted "resolution" (.head _)
  obtain ⟨interpolation, readToo, holdsToo⟩ :=
    exists_sectionOf_of_accepts labels accepted "interpolation" (.tail _ (.head _))
  obtain ⟨depth, deep, isDepth, least⟩ :=
    holds.exists_integerOf "max_depth" (.tail _ (.head _)) 32 (by decide)
  obtain ⟨indent, wide, isIndent, leastToo⟩ :=
    holdsToo.exists_integerOf "json_indent" (.head _) 2 (by decide)
  refine ⟨⟨depth, ?_, least, isDepth⟩, ?_, indent, ?_, leastToo, isIndent⟩
  · rw [ofConfiguration, ofSections, resolutionName, read]
    exact deep
  · obtain ⟨trims, truth⟩ := holds.exists_bool "trim_documents" (.tail _ (.tail _ (.head _))) true
    refine ⟨trims, ?_, truth⟩
    rw [Value.setting, holds.at?] at truth
    rw [ofConfiguration, ofSections, resolutionName, read]
    show Except.ok (trimsOf resolution) = _
    rw [trimsOf, truth]
    rfl
  · rw [ofConfiguration, ofSections, interpolationName, readToo]
    exact wide

/-- A configuration that sets nothing but the depth, as the fraction 12. -/
def sparse : Value :=
  .record [("resolution", .record [("max_depth", .atom (.fraction (.finite false 6755399441055744 (-49))))])]

/-- The fraction is the depth, and the other settings are the default ones. -/
theorem usable_of_check_sparse :
    sparse.LabelsCollections ∧ Schema.configuration.check sparse = .ok () ∧
      (ofConfiguration .empty sparse.entriesOf).maxDepth = .ok 12 ∧
      (ofConfiguration .empty sparse.entriesOf).trims = .ok true ∧
      (ofConfiguration .empty sparse.entriesOf).indent = .ok 2 := by
  have labels : sparse.LabelsCollections := ⟨⟨trivial, trivial⟩, trivial⟩
  have checked : Schema.configuration.check sparse = .ok () :=
    Schema.check_eq_ok_iff.mpr (by decide +kernel)
  obtain ⟨⟨depth, deep, -, isDepth⟩, ⟨trims, trimmed, isTruth⟩, indent, wide, -, isIndent⟩ :=
    usable_of_check labels checked .empty
  have twelve : (sparse.setting "resolution" "max_depth" (.integer 32)).number? = some ((12 : Int) : ℚ) := by
    show some ((1 : ℚ) * ((6755399441055744 : ℕ) * 2 ^ (-49 : ℤ))) = _
    norm_num
  have two : (sparse.setting "interpolation" "json_indent" (.integer 2)).number? = some ((2 : Int) : ℚ) := rfl
  rw [twelve, Option.some.injEq, Int.cast_inj] at isDepth
  rw [two, Option.some.injEq, Int.cast_inj] at isIndent
  cases (isTruth : Value.bool true = .bool trims)
  rw [isDepth, isIndent]
  exact ⟨labels, checked, deep, trimmed, wide⟩

end Settings

end PromptWeave
