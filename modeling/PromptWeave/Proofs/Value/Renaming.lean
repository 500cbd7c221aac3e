/-
**Labels are only names.**

The label of a collection that stands inside itself can be any number, as long as different collections
have different ones. So whatever is asked of a value, the answer for the value with other labels is the
same. Main statements:

* `Value.rename`: a value with other labels;
* `Value.rename_of_isFinite`: a value that nowhere stands inside itself has no labels;
* `Value.labelled_rename`, `Value.opened_rename`: labelling and opening renamed values;
* `Value.literal_rename`: a literal shows no labels.
-/

import PromptWeave.Proofs.Value.Labels
import PromptWeave.Value.Literal

namespace PromptWeave

namespace Value

section Renaming

variable (f : Nat → Nat)

mutual

/-- A value with other labels. -/
def rename : Value → Value
  | .atom value => .atom value
  | .sequence frozen items => .sequence frozen (renameAll items)
  | .mapping frozen entries => .mapping frozen (renameFields entries)
  | .set members => .set members
  | .loop label inside => .loop (f label) (rename inside)
  | .again label => .again (f label)

/-- The same for a row. -/
def renameAll : List Value → List Value
  | [] => []
  | value :: values => rename value :: renameAll values

/-- The same for a mapping's entries. -/
def renameFields : List (Key × Value) → List (Key × Value)
  | [] => []
  | (key, value) :: entries => (key, rename value) :: renameFields entries

end

theorem renameFields_eq_map (entries : List (Key × Value)) :
    renameFields f entries = entries.map fun entry => (entry.1, entry.2.rename f) := by
  induction entries with
  | nil => rfl
  | cons entry entries ih => rw [renameFields, ih, List.map_cons]

theorem get?_renameFields (key : Key) (entries : Mapping) :
    Mapping.get? key (renameFields f entries) = (Mapping.get? key entries).map (rename f) := by
  rw [renameFields_eq_map, Mapping.get?, Entries.get?_mapped (rename f)]
  rfl

theorem keys_renameFields (entries : List (Key × Value)) :
    (renameFields f entries).map (·.1) = entries.map (·.1) := by
  rw [renameFields_eq_map, List.map_map]
  rfl

mutual

/-- A value that nowhere stands inside itself has no labels. -/
theorem rename_of_isFinite : (value : Value) → value.isFinite = true → value.rename f = value
  | .atom _, _ => rfl
  | .sequence _ items, finite => by
    rw [isFinite] at finite
    rw [rename, renameAll_of_areFinite items finite]
  | .mapping _ entries, finite => by
    rw [isFinite] at finite
    rw [rename, renameFields_of_fieldsAreFinite entries finite]
  | .set _, _ => rfl
  | .loop _ _, finite => by
    rw [isFinite] at finite
    cases finite
  | .again _, finite => by
    rw [isFinite] at finite
    cases finite

theorem renameAll_of_areFinite : (values : List Value) → areFinite values = true →
    renameAll f values = values
  | [], _ => rfl
  | value :: values, finite => by
    rw [areFinite, Bool.and_eq_true] at finite
    rw [renameAll, rename_of_isFinite value finite.1, renameAll_of_areFinite values finite.2]

theorem renameFields_of_fieldsAreFinite : (entries : List (Key × Value)) →
    fieldsAreFinite entries = true → renameFields f entries = entries
  | [], _ => rfl
  | (_, value) :: entries, finite => by
    rw [fieldsAreFinite, Bool.and_eq_true] at finite
    rw [renameFields, rename_of_isFinite value finite.1,
      renameFields_of_fieldsAreFinite entries finite.2]

end

end Renaming

/-! ### Labelling and opening -/

section Injective

variable {f : Nat → Nat}

theorem contains_map (injective : Function.Injective f) (labels : List Nat) (label : Nat) :
    (labels.map f).contains (f label) = labels.contains label := by
  rw [Bool.eq_iff_iff, List.contains_iff_mem, List.contains_iff_mem]
  refine ⟨fun inside => ?_, List.mem_map_of_mem⟩
  obtain ⟨other, inside, same⟩ := List.mem_map.mp inside
  exact injective same ▸ inside

mutual

theorem isOpen_rename (injective : Function.Injective f) (labels : List Nat) :
    (value : Value) → (value.rename f).isOpen (labels.map f) = value.isOpen labels
  | .atom _ => rfl
  | .sequence _ items => areOpen_renameAll injective labels items
  | .mapping _ entries => fieldsAreOpen_renameFields injective labels entries
  | .set _ => rfl
  | .loop label inside => isOpen_rename injective (label :: labels) inside
  | .again label => congrArg (!·) (contains_map injective labels label)

theorem areOpen_renameAll (injective : Function.Injective f) (labels : List Nat) :
    (values : List Value) → areOpen (labels.map f) (renameAll f values) = areOpen labels values
  | [] => rfl
  | value :: values => by
    rw [renameAll, areOpen, areOpen, isOpen_rename injective labels value,
      areOpen_renameAll injective labels values]

theorem fieldsAreOpen_renameFields (injective : Function.Injective f) (labels : List Nat) :
    (entries : List (Key × Value)) →
      fieldsAreOpen (labels.map f) (renameFields f entries) = fieldsAreOpen labels entries
  | [] => rfl
  | (_, value) :: entries => by
    rw [renameFields, fieldsAreOpen, fieldsAreOpen, isOpen_rename injective labels value,
      fieldsAreOpen_renameFields injective labels entries]

end

theorem same_rename (injective : Function.Injective f) (label label' : Nat) :
    (f label == f label') = (label == label') := by
  rw [Bool.eq_iff_iff, beq_iff_eq, beq_iff_eq]
  exact ⟨fun same => injective same, congrArg f⟩

mutual

theorem holds_rename (injective : Function.Injective f) (label : Nat) :
    (value : Value) → (value.rename f).holds (f label) = value.holds label
  | .atom _ => rfl
  | .sequence _ items => anyHolds_renameAll injective label items
  | .mapping _ entries => anyFieldHolds_renameFields injective label entries
  | .set _ => rfl
  | .loop other inside => by
    rw [rename, holds, holds, same_rename injective, holds_rename injective label inside]
  | .again other => same_rename injective other label

theorem anyHolds_renameAll (injective : Function.Injective f) (label : Nat) : (values : List Value) →
    anyHolds (f label) (renameAll f values) = anyHolds label values
  | [] => rfl
  | value :: values => by
    rw [renameAll, anyHolds, anyHolds, holds_rename injective label value,
      anyHolds_renameAll injective label values]

theorem anyFieldHolds_renameFields (injective : Function.Injective f) (label : Nat) :
    (entries : List (Key × Value)) →
      anyFieldHolds (f label) (renameFields f entries) = anyFieldHolds label entries
  | [] => rfl
  | (_, value) :: entries => by
    rw [renameFields, anyFieldHolds, anyFieldHolds, holds_rename injective label value,
      anyFieldHolds_renameFields injective label entries]

end

/-- **A renamed collection is labelled as the collection is.** -/
theorem labelled_rename (injective : Function.Injective f) (label : Nat) (inside : Value) :
    labelled (f label) (inside.rename f) = (labelled label inside).rename f := by
  have opens := isOpen_rename injective [] inside
  rw [List.map_nil] at opens
  rw [labelled, labelled, opens, holds_rename injective label inside]
  split
  · rw [rename]
  · rfl

mutual

theorem replace_rename (injective : Function.Injective f) (label : Nat) (whole : Value) :
    (value : Value) →
      replace (f label) (whole.rename f) (value.rename f) = (replace label whole value).rename f
  | .atom _ => rfl
  | .sequence _ items => by
    rw [rename, replace, replace, rename, replaceAll_renameAll injective label whole items]
  | .mapping _ entries => by
    rw [rename, replace, replace, rename, replaceFields_renameFields injective label whole entries]
  | .set _ => rfl
  | .loop other inside => by
    rw [rename, replace, replace]
    by_cases here : other = label
    · rw [if_pos here, if_pos (congrArg f here), rename]
    · rw [if_neg here, if_neg fun same => here (injective same), rename,
        replace_rename injective label whole inside]
  | .again other => by
    rw [rename, replace, replace]
    by_cases here : other = label
    · rw [if_pos here, if_pos (congrArg f here)]
    · rw [if_neg here, if_neg fun same => here (injective same), rename]

theorem replaceAll_renameAll (injective : Function.Injective f) (label : Nat) (whole : Value) :
    (values : List Value) → replaceAll (f label) (whole.rename f) (renameAll f values) =
      renameAll f (replaceAll label whole values)
  | [] => rfl
  | value :: values => by
    rw [renameAll, replaceAll, replaceAll, renameAll, replace_rename injective label whole value,
      replaceAll_renameAll injective label whole values]

theorem replaceFields_renameFields (injective : Function.Injective f) (label : Nat) (whole : Value) :
    (entries : List (Key × Value)) →
      replaceFields (f label) (whole.rename f) (renameFields f entries) =
        renameFields f (replaceFields label whole entries)
  | [] => rfl
  | (_, value) :: entries => by
    rw [renameFields, replaceFields, replaceFields, renameFields,
      replace_rename injective label whole value,
      replaceFields_renameFields injective label whole entries]

end

/-- **A renamed value is opened as the value is.** -/
theorem opened_rename (injective : Function.Injective f) (value : Value) :
    (value.rename f).opened = value.opened.rename f := by
  cases value with
  | loop label inside => exact replace_rename injective label (.loop label inside) inside
  | _ => rfl

/-! ### Literals -/

theorem bracketed_rename (text : Text) :
    (value : Value) → bracketed text (value.rename f) = bracketed text value
  | .atom _ => rfl
  | .sequence true _ => rfl
  | .sequence false _ => rfl
  | .mapping true _ => rfl
  | .mapping false _ => rfl
  | .set _ => rfl
  | .loop _ inside => bracketed_rename text inside
  | .again _ => rfl

/-- The texts of labels under other names. -/
def renameAround (f : Nat → Nat) (around : List (Nat × Text)) : List (Nat × Text) :=
  around.map fun entry => (f entry.1, entry.2)

theorem get?_renameAround (injective : Function.Injective f) (label : Nat) (around : List (Nat × Text)) :
    Entries.get? (· == ·) (f label) (renameAround f around) = Entries.get? (· == ·) label around := by
  induction around with
  | nil => rfl
  | cons entry around ih =>
    obtain ⟨other, text⟩ := entry
    rw [renameAround, List.map_cons, Entries.get?, Entries.get?, same_rename injective]
    split
    · rfl
    · exact ih

mutual

theorem literalWithin_rename (injective : Function.Injective f) (around : List (Nat × Text)) :
    (value : Value) →
      (value.rename f).literalWithin (renameAround f around) = value.literalWithin around
  | .atom _ => rfl
  | .sequence true items =>
    congrArg (Except.map tupleText) (literalsWithin_renameAll injective around items)
  | .sequence false items => by
    rw [rename, literalWithin, literalWithin, literalsWithin_renameAll injective around items]
  | .mapping frozen entries => by
    rw [rename, literalWithin, literalWithin, entryLiteralsWithin_renameFields injective around entries]
    cases frozen <;> rfl
  | .set _ => rfl
  | .loop label inside => by
    have inner :=
      literalWithin_rename injective ((label, bracketed "...".toList inside) :: around) inside
    rw [rename, literalWithin, literalWithin, get?_renameAround injective, ← inner,
      bracketed_rename]
    rfl
  | .again label => by
    rw [rename, literalWithin, literalWithin, get?_renameAround injective]

theorem literalsWithin_renameAll (injective : Function.Injective f) (around : List (Nat × Text)) :
    (values : List Value) →
      literalsWithin (renameAround f around) (renameAll f values) = literalsWithin around values
  | [] => rfl
  | value :: values => by
    rw [renameAll, literalsWithin, literalsWithin, literalWithin_rename injective around value,
      literalsWithin_renameAll injective around values]

theorem entryLiteralsWithin_renameFields (injective : Function.Injective f)
    (around : List (Nat × Text)) : (entries : List (Key × Value)) →
      entryLiteralsWithin (renameAround f around) (renameFields f entries) =
        entryLiteralsWithin around entries
  | [] => rfl
  | (_, value) :: entries => by
    rw [renameFields, entryLiteralsWithin, entryLiteralsWithin,
      literalWithin_rename injective around value,
      entryLiteralsWithin_renameFields injective around entries]

end

/-- **A literal shows no labels.** -/
theorem literal_rename (injective : Function.Injective f) (value : Value) :
    (value.rename f).literal = value.literal := literalWithin_rename injective [] value

end Injective

end Value

end PromptWeave
