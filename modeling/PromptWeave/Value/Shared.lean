/-
**Values with shared collections.**

A mapping that can be changed may stand at several places at once: then a change to it shows at all
of them. Such collections are known by a label; two collections of one label are one collection.
Inside itself a collection is only named. Main statements:

* `Shared.value`: the value without the labels that nothing inside names;
* `Shared.opened`: a collection whose parts name it no longer, because it stands in those places;
* `Shared.update`: a change to the mapping of a label wherever it stands;
* `Shared.value_ofValue`: giving labels to a value's collections does not change the value.
-/

import PromptWeave.Value.Loop

namespace PromptWeave

/-- A value whose collections have labels. Two collections of one label are the same. -/
inductive Shared
  /-- A value in which nothing is shared. -/
  | plain (value : Value)
  | sequence (label : Nat) (frozen : Bool) (items : List Shared)
  | mapping (label : Nat) (entries : List (Key × Shared))
  /-- The collection of a label around this place. -/
  | again (label : Nat)
deriving Repr

namespace Shared

mutual

/-- The value without the labels that nothing inside names. -/
def value : Shared → Value
  | .plain value => value
  | .sequence label frozen items => (Value.sequence frozen (values items)).labelled label
  | .mapping label entries => (Value.mapping false (fields entries)).labelled label
  | .again label => .again label

/-- The values of a row. -/
def values : List Shared → List Value
  | [] => []
  | item :: items => value item :: values items

/-- The values of a mapping's entries. -/
def fields : List (Key × Shared) → Mapping
  | [] => []
  | (key, item) :: entries => (key, value item) :: fields entries

end

/-! ### Opening -/

mutual

/-- A shared value with a collection in the places that name its label. -/
def replace (label : Nat) (whole : Shared) : Shared → Shared
  | .plain value => .plain value
  | .sequence other frozen items =>
    if other = label then .sequence other frozen items
    else .sequence other frozen (replaceAll label whole items)
  | .mapping other entries =>
    if other = label then .mapping other entries
    else .mapping other (replaceFields label whole entries)
  | .again other => if other = label then whole else .again other

/-- The same in a row. -/
def replaceAll (label : Nat) (whole : Shared) : List Shared → List Shared
  | [] => []
  | item :: items => replace label whole item :: replaceAll label whole items

/-- The same in a mapping's entries. -/
def replaceFields (label : Nat) (whole : Shared) : List (Key × Shared) → List (Key × Shared)
  | [] => []
  | (key, item) :: entries => (key, replace label whole item) :: replaceFields label whole entries

end

/-- A shared value whose parts do not name it, because it stands in those places. -/
def opened : Shared → Shared
  | .sequence label frozen items =>
    .sequence label frozen (replaceAll label (.sequence label frozen items) items)
  | .mapping label entries =>
    .mapping label (replaceFields label (.mapping label entries) entries)
  | other => other

/-! ### Changes -/

mutual

/-- Changes the entries of the mapping of a label wherever it stands. -/
def update (label : Nat) (change : Entries Key Shared → Entries Key Shared) : Shared → Shared
  | .plain value => .plain value
  | .sequence other frozen items => .sequence other frozen (updateAll label change items)
  | .mapping other entries =>
    let entries := updateFields label change entries
    .mapping other (if other = label then change entries else entries)
  | .again other => .again other

/-- The same in a row. -/
def updateAll (label : Nat) (change : Entries Key Shared → Entries Key Shared) :
    List Shared → List Shared
  | [] => []
  | item :: items => update label change item :: updateAll label change items

/-- The same in a mapping's entries. -/
def updateFields (label : Nat) (change : Entries Key Shared → Entries Key Shared) :
    List (Key × Shared) → List (Key × Shared)
  | [] => []
  | (key, item) :: entries => (key, update label change item) :: updateFields label change entries

end

/-! ### Labels -/

mutual

/-- Moves all labels up. -/
def relabel (distance : Nat) : Shared → Shared
  | .plain value => .plain value
  | .sequence label frozen items =>
    .sequence (label + distance) frozen (relabelAll distance items)
  | .mapping label entries => .mapping (label + distance) (relabelFields distance entries)
  | .again label => .again (label + distance)

/-- The same in a row. -/
def relabelAll (distance : Nat) : List Shared → List Shared
  | [] => []
  | item :: items => relabel distance item :: relabelAll distance items

/-- The same in a mapping's entries. -/
def relabelFields (distance : Nat) : List (Key × Shared) → List (Key × Shared)
  | [] => []
  | (key, item) :: entries => (key, relabel distance item) :: relabelFields distance entries

end

mutual

/-- A label above all labels of a value. -/
def bound : Shared → Nat
  | .plain _ => 0
  | .sequence label _ items => max (label + 1) (boundAll items)
  | .mapping label entries => max (label + 1) (boundFields entries)
  | .again label => label + 1

/-- A label above all labels in a row. -/
def boundAll : List Shared → Nat
  | [] => 0
  | item :: items => max (bound item) (boundAll items)

/-- A label above all labels in a mapping's entries. -/
def boundFields : List (Key × Shared) → Nat
  | [] => 0
  | (_, item) :: entries => max (bound item) (boundFields entries)

end

mutual

/-- A value whose collections get labels of their own, from a label on, and the next free label. -/
def ofValue (next : Nat) : Value → Shared × Nat
  | .sequence frozen items =>
    let (items, after) := ofValues (next + 1) items
    (.sequence next frozen items, after)
  | .mapping false entries =>
    let (entries, after) := ofFields (next + 1) entries
    (.mapping next entries, after)
  | value => (.plain value, next)

/-- The same for a row. -/
def ofValues (next : Nat) : List Value → List Shared × Nat
  | [] => ([], next)
  | value :: values =>
    let (item, next) := ofValue next value
    let (items, next) := ofValues next values
    (item :: items, next)

/-- The same for a mapping's entries. -/
def ofFields (next : Nat) : List (Key × Value) → List (Key × Shared) × Nat
  | [] => ([], next)
  | (key, value) :: entries =>
    let (item, next) := ofValue next value
    let (items, next) := ofFields next entries
    ((key, item) :: items, next)

end

mutual

/-- Giving labels to the collections of a value without loops does not change the value. -/
theorem value_ofValue (next : Nat) :
    (given : Value) → given.isFinite = true → (ofValue next given).1.value = given
  | .atom _, _ => by simp [ofValue, value]
  | .sequence frozen items, finite => by
    have same := values_ofValues (next + 1) items (by simpa [Value.isFinite] using finite)
    simp [ofValue, value, same, Value.labelled_of_isFinite next finite]
  | .mapping true _, _ => by simp [ofValue, value]
  | .mapping false entries, finite => by
    have same := fields_ofFields (next + 1) entries (by simpa [Value.isFinite] using finite)
    simp [ofValue, value, same, Value.labelled_of_isFinite next finite]
  | .set _, _ => by simp [ofValue, value]
  | .loop _ _, _ => by simp [ofValue, value]
  | .again _, _ => by simp [ofValue, value]

theorem values_ofValues (next : Nat) :
    (given : List Value) → Value.areFinite given = true →
      values (ofValues next given).1 = given
  | [], _ => by simp [ofValues, values]
  | item :: items, finite => by
    simp only [Value.areFinite, Bool.and_eq_true] at finite
    simp [ofValues, values, value_ofValue next item finite.1,
      values_ofValues (ofValue next item).2 items finite.2]

theorem fields_ofFields (next : Nat) :
    (given : List (Key × Value)) → Value.fieldsAreFinite given = true →
      fields (ofFields next given).1 = given
  | [], _ => by simp [ofFields, fields]
  | (_, item) :: entries, finite => by
    simp only [Value.fieldsAreFinite, Bool.and_eq_true] at finite
    simp [ofFields, fields, value_ofValue next item finite.1,
      fields_ofFields (ofValue next item).2 entries finite.2]

end

end Shared

end PromptWeave
