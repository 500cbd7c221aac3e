/-
**Collections that stand inside themselves.**

The label of such a collection stands for the whole of it wherever it is named inside. A collection
is opened before its parts are looked at: then no part names a label of the collections around it.
Main statements:

* `Value.opened`: a value with its label replaced by the value itself;
* `Value.labelled`: a collection with its label, if it stands inside itself;
* `Value.opened_of_isFinite`: a value that nowhere stands inside itself is open already.
-/

import PromptWeave.Value

namespace PromptWeave

namespace Value

mutual

/-- Whether a value nowhere stands inside itself. -/
def isFinite : Value → Bool
  | .atom _ => true
  | .sequence _ items => areFinite items
  | .mapping _ entries => fieldsAreFinite entries
  | .set _ => true
  | .loop _ _ => false
  | .again _ => false

/-- The same for a row of values. -/
def areFinite : List Value → Bool
  | [] => true
  | value :: values => isFinite value && areFinite values

/-- The same for the values of entries. -/
def fieldsAreFinite : List (Key × Value) → Bool
  | [] => true
  | (_, value) :: entries => isFinite value && fieldsAreFinite entries

end

mutual

/-- Whether a value names a label other than these outside the collection of that label. -/
def isOpen (labels : List Nat) : Value → Bool
  | .atom _ => false
  | .sequence _ items => areOpen labels items
  | .mapping _ entries => fieldsAreOpen labels entries
  | .set _ => false
  | .loop label inside => isOpen (label :: labels) inside
  | .again label => !labels.contains label

/-- The same for a row of values. -/
def areOpen (labels : List Nat) : List Value → Bool
  | [] => false
  | value :: values => isOpen labels value || areOpen labels values

/-- The same for the values of entries. -/
def fieldsAreOpen (labels : List Nat) : List (Key × Value) → Bool
  | [] => false
  | (_, value) :: entries => isOpen labels value || fieldsAreOpen labels entries

end

mutual

/-- Whether the collection of a label stands in a value or is named there. -/
def holds (label : Nat) : Value → Bool
  | .atom _ => false
  | .sequence _ items => anyHolds label items
  | .mapping _ entries => anyFieldHolds label entries
  | .set _ => false
  | .loop other inside => other == label || holds label inside
  | .again other => other == label

/-- The same for a row of values. -/
def anyHolds (label : Nat) : List Value → Bool
  | [] => false
  | value :: values => holds label value || anyHolds label values

/-- The same for the values of entries. -/
def anyFieldHolds (label : Nat) : List (Key × Value) → Bool
  | [] => false
  | (_, value) :: entries => holds label value || anyFieldHolds label entries

end

/-- A collection with its label, if it stands inside itself: then it holds its label or names one of
those around it. -/
def labelled (label : Nat) (inside : Value) : Value :=
  if isOpen [] inside || holds label inside then .loop label inside else inside

mutual

/-- A value with a collection in the place of its label. -/
def replace (label : Nat) (whole : Value) : Value → Value
  | .atom value => .atom value
  | .sequence frozen items => .sequence frozen (replaceAll label whole items)
  | .mapping frozen entries => .mapping frozen (replaceFields label whole entries)
  | .set members => .set members
  | .loop other inside =>
    if other = label then .loop other inside else .loop other (replace label whole inside)
  | .again other => if other = label then whole else .again other

/-- The same in a row of values. -/
def replaceAll (label : Nat) (whole : Value) : List Value → List Value
  | [] => []
  | value :: values => replace label whole value :: replaceAll label whole values

/-- The same in the values of entries. -/
def replaceFields (label : Nat) (whole : Value) : List (Key × Value) → List (Key × Value)
  | [] => []
  | (key, value) :: entries => (key, replace label whole value) :: replaceFields label whole entries

end

/-- A value with its label replaced by the value itself. -/
def opened : Value → Value
  | .loop label inside => replace label (.loop label inside) inside
  | other => other

/-- A value that nowhere stands inside itself is open already. -/
theorem opened_of_isFinite {value : Value} (finite : value.isFinite = true) :
    value.opened = value := by
  cases value <;> simp_all [opened, isFinite]

mutual

/-- A value that nowhere stands inside itself names no labels. -/
theorem isOpen_of_isFinite (labels : List Nat) :
    (value : Value) → value.isFinite = true → value.isOpen labels = false
  | .atom _, _ => by simp [isOpen]
  | .sequence _ items, finite => by
    simp only [isFinite] at finite
    simp [isOpen, areOpen_of_areFinite labels items finite]
  | .mapping _ entries, finite => by
    simp only [isFinite] at finite
    simp [isOpen, fieldsAreOpen_of_fieldsAreFinite labels entries finite]
  | .set _, _ => by simp [isOpen]
  | .loop _ _, finite => by simp [isFinite] at finite
  | .again _, finite => by simp [isFinite] at finite

theorem areOpen_of_areFinite (labels : List Nat) :
    (values : List Value) → areFinite values = true → areOpen labels values = false
  | [], _ => by simp [areOpen]
  | value :: values, finite => by
    simp only [areFinite, Bool.and_eq_true] at finite
    simp [areOpen, isOpen_of_isFinite labels value finite.1,
      areOpen_of_areFinite labels values finite.2]

theorem fieldsAreOpen_of_fieldsAreFinite (labels : List Nat) :
    (entries : List (Key × Value)) → fieldsAreFinite entries = true →
      fieldsAreOpen labels entries = false
  | [], _ => by simp [fieldsAreOpen]
  | (_, value) :: entries, finite => by
    simp only [fieldsAreFinite, Bool.and_eq_true] at finite
    simp [fieldsAreOpen, isOpen_of_isFinite labels value finite.1,
      fieldsAreOpen_of_fieldsAreFinite labels entries finite.2]

end

mutual

/-- A value that nowhere stands inside itself holds no collection with a label. -/
theorem holds_of_isFinite (label : Nat) :
    (value : Value) → value.isFinite = true → value.holds label = false
  | .atom _, _ => by simp [holds]
  | .sequence _ items, finite => by
    simp only [isFinite] at finite
    simp [holds, anyHolds_of_areFinite label items finite]
  | .mapping _ entries, finite => by
    simp only [isFinite] at finite
    simp [holds, anyFieldHolds_of_fieldsAreFinite label entries finite]
  | .set _, _ => by simp [holds]
  | .loop _ _, finite => by simp [isFinite] at finite
  | .again _, finite => by simp [isFinite] at finite

theorem anyHolds_of_areFinite (label : Nat) :
    (values : List Value) → areFinite values = true → anyHolds label values = false
  | [], _ => by simp [anyHolds]
  | value :: values, finite => by
    simp only [areFinite, Bool.and_eq_true] at finite
    simp [anyHolds, holds_of_isFinite label value finite.1,
      anyHolds_of_areFinite label values finite.2]

theorem anyFieldHolds_of_fieldsAreFinite (label : Nat) :
    (entries : List (Key × Value)) → fieldsAreFinite entries = true →
      anyFieldHolds label entries = false
  | [], _ => by simp [anyFieldHolds]
  | (_, value) :: entries, finite => by
    simp only [fieldsAreFinite, Bool.and_eq_true] at finite
    simp [anyFieldHolds, holds_of_isFinite label value finite.1,
      anyFieldHolds_of_fieldsAreFinite label entries finite.2]

end

/-- A collection that nowhere stands inside itself needs no label. -/
theorem labelled_of_isFinite (label : Nat) {inside : Value} (finite : inside.isFinite = true) :
    labelled label inside = inside := by
  simp [labelled, isOpen_of_isFinite [] inside finite, holds_of_isFinite label inside finite]

end Value

end PromptWeave
