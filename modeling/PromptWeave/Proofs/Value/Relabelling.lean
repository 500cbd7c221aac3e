/-
**Shared values with other labels.**

Which labels the collections of shared values have does not matter either. Where two processes give out
labels side by side, what they make of values that differ only in labels differs only in labels. Main
statements:

* `Shared.rename`: a shared value with other labels;
* `Shared.Shifts`: two processes give out labels side by side;
* `Shared.value_rename`, `Shared.opened_rename`, `Shared.update_rename`, `Shared.covered_rename`,
  `Shared.ofValue_rename`, `Shared.rename_relabel`: the operations on renamed values;
* `Shared.rename_ofValue`: a value whose collections stand in one place each is, but for its labels, the
  value with new labels.
-/

import PromptWeave.Proofs.Value.Distinct
import PromptWeave.Proofs.Value.Renaming

namespace PromptWeave

namespace Shared

section Renaming

variable (f : Nat → Nat)

mutual

/-- A shared value with other labels. -/
def rename : Shared → Shared
  | .plain value => .plain value
  | .sequence label frozen items => .sequence (f label) frozen (renameAll items)
  | .mapping label entries => .mapping (f label) (renameFields entries)
  | .again label => .again (f label)

/-- The same for a row. -/
def renameAll : List Shared → List Shared
  | [] => []
  | item :: items => rename item :: renameAll items

/-- The same for a mapping's entries. -/
def renameFields : List (Key × Shared) → List (Key × Shared)
  | [] => []
  | (key, item) :: entries => (key, rename item) :: renameFields entries

end

theorem renameFields_eq_map (entries : List (Key × Shared)) :
    renameFields f entries = entries.map fun entry => (entry.1, entry.2.rename f) := by
  induction entries with
  | nil => rfl
  | cons entry entries ih => rw [renameFields, ih, List.map_cons]

theorem get?_renameFields (key : Key) (entries : List (Key × Shared)) :
    Entries.get? Key.same key (renameFields f entries) =
      (Entries.get? Key.same key entries).map (rename f) := by
  rw [renameFields_eq_map, Entries.get?_mapped (rename f)]

theorem put_renameFields (key : Key) (item : Shared) (entries : List (Key × Shared)) :
    Entries.put Key.same key (item.rename f) (renameFields f entries) =
      renameFields f (Entries.put Key.same key item entries) := by
  rw [renameFields_eq_map, Entries.put_mapped (rename f), renameFields_eq_map]

theorem without_renameFields (others entries : List (Key × Shared)) :
    Entries.without (renameFields f others) (renameFields f entries) =
      renameFields f (Entries.without others entries) := by
  rw [renameFields_eq_map, renameFields_eq_map, Entries.without_mapped (rename f) (rename f),
    renameFields_eq_map]

theorem renameFields_append (first second : List (Key × Shared)) :
    renameFields f (first ++ second) = renameFields f first ++ renameFields f second := by
  rw [renameFields_eq_map, renameFields_eq_map, renameFields_eq_map, List.map_append]

end Renaming

/-! ### Operations that give out no labels -/

section Injective

variable {f : Nat → Nat}

mutual

theorem replace_rename (injective : Function.Injective f) (label : Nat) (whole : Shared) :
    (shared : Shared) →
      replace (f label) (whole.rename f) (shared.rename f) = (replace label whole shared).rename f
  | .plain _ => by rw [rename, replace, replace, rename]
  | .sequence other _ items => by
    rw [rename, replace, replace]
    by_cases here : other = label
    · rw [if_pos here, if_pos (congrArg f here), rename]
    · rw [if_neg here, if_neg fun same => here (injective same), rename,
        replaceAll_renameAll injective label whole items]
  | .mapping other entries => by
    rw [rename, replace, replace]
    by_cases here : other = label
    · rw [if_pos here, if_pos (congrArg f here), rename]
    · rw [if_neg here, if_neg fun same => here (injective same), rename,
        replaceFields_renameFields injective label whole entries]
  | .again other => by
    rw [rename, replace, replace]
    by_cases here : other = label
    · rw [if_pos here, if_pos (congrArg f here)]
    · rw [if_neg here, if_neg fun same => here (injective same), rename]

theorem replaceAll_renameAll (injective : Function.Injective f) (label : Nat) (whole : Shared) :
    (items : List Shared) → replaceAll (f label) (whole.rename f) (renameAll f items) =
      renameAll f (replaceAll label whole items)
  | [] => by rw [renameAll, replaceAll, replaceAll, renameAll]
  | item :: items => by
    rw [renameAll, replaceAll, replaceAll, renameAll, replace_rename injective label whole item,
      replaceAll_renameAll injective label whole items]

theorem replaceFields_renameFields (injective : Function.Injective f) (label : Nat) (whole : Shared) :
    (entries : List (Key × Shared)) →
      replaceFields (f label) (whole.rename f) (renameFields f entries) =
        renameFields f (replaceFields label whole entries)
  | [] => by rw [renameFields, replaceFields, replaceFields, renameFields]
  | (_, item) :: entries => by
    rw [renameFields, replaceFields, replaceFields, renameFields,
      replace_rename injective label whole item, replaceFields_renameFields injective label whole entries]

end

theorem opened_rename (injective : Function.Injective f) (shared : Shared) :
    (shared.rename f).opened = shared.opened.rename f := by
  cases shared with
  | plain => rfl
  | sequence label frozen items =>
    rw [opened, rename, rename, opened,
      ← replaceAll_renameAll injective label (.sequence label frozen items) items, rename]
  | mapping label entries =>
    rw [opened, rename, rename, opened,
      ← replaceFields_renameFields injective label (.mapping label entries) entries, rename]
  | again => rfl

theorem opened_rename_mapping (injective : Function.Injective f) {shared : Shared} {label : Nat}
    {entries : List (Key × Shared)} (opens : shared.opened = .mapping label entries) :
    (shared.rename f).opened = .mapping (f label) (renameFields f entries) := by
  rw [opened_rename injective, opens, rename]

theorem opened_rename_other (injective : Function.Injective f) {shared : Shared}
    (other : ∀ label entries, shared.opened ≠ .mapping label entries) (label : Nat)
    (entries : List (Key × Shared)) : (shared.rename f).opened ≠ .mapping label entries := by
  intro same
  rw [opened_rename injective] at same
  cases opens : shared.opened with
  | mapping label entries => exact other label entries opens
  | _ =>
    rw [opens] at same
    cases same

mutual

theorem update_rename (injective : Function.Injective f) (label : Nat) (key : Key) (item : Shared) :
    (shared : Shared) →
      (shared.rename f).update (f label) (Entries.put Key.same key (item.rename f)) =
        (shared.update label (Entries.put Key.same key item)).rename f
  | .plain _ => by rw [rename, update, update, rename]
  | .sequence _ _ items => by
    rw [rename, update, update, rename, updateAll_renameAll injective label key item items]
  | .mapping other entries => by
    rw [rename, update, update, rename, updateFields_renameFields injective label key item entries]
    by_cases here : other = label
    · rw [if_pos here, if_pos (congrArg f here), put_renameFields]
    · rw [if_neg here, if_neg fun same => here (injective same)]
  | .again _ => by rw [rename, update, update, rename]

theorem updateAll_renameAll (injective : Function.Injective f) (label : Nat) (key : Key)
    (item : Shared) : (items : List Shared) →
      updateAll (f label) (Entries.put Key.same key (item.rename f)) (renameAll f items) =
        renameAll f (updateAll label (Entries.put Key.same key item) items)
  | [] => by rw [renameAll, updateAll, updateAll, renameAll]
  | first :: items => by
    rw [renameAll, updateAll, updateAll, renameAll, update_rename injective label key item first,
      updateAll_renameAll injective label key item items]

theorem updateFields_renameFields (injective : Function.Injective f) (label : Nat) (key : Key)
    (item : Shared) : (entries : List (Key × Shared)) →
      updateFields (f label) (Entries.put Key.same key (item.rename f)) (renameFields f entries) =
        renameFields f (updateFields label (Entries.put Key.same key item) entries)
  | [] => by rw [renameFields, updateFields, updateFields, renameFields]
  | (_, first) :: entries => by
    rw [renameFields, updateFields, updateFields, renameFields,
      update_rename injective label key item first,
      updateFields_renameFields injective label key item entries]

end

end Injective

/-! ### Operations that give out labels -/

mutual

theorem relabel_eq_rename (distance : Nat) :
    (shared : Shared) → shared.relabel distance = shared.rename (· + distance)
  | .plain _ => rfl
  | .sequence _ _ items => by rw [relabel, rename, relabelAll_eq_renameAll distance items]
  | .mapping _ entries => by rw [relabel, rename, relabelFields_eq_renameFields distance entries]
  | .again _ => rfl

theorem relabelAll_eq_renameAll (distance : Nat) :
    (items : List Shared) → relabelAll distance items = renameAll (· + distance) items
  | [] => rfl
  | item :: items => by
    rw [relabelAll, renameAll, relabel_eq_rename distance item, relabelAll_eq_renameAll distance items]

theorem relabelFields_eq_renameFields (distance : Nat) : (entries : List (Key × Shared)) →
    relabelFields distance entries = renameFields (· + distance) entries
  | [] => rfl
  | (_, item) :: entries => by
    rw [relabelFields, renameFields, relabel_eq_rename distance item,
      relabelFields_eq_renameFields distance entries]

end

/-- From some label on, the labels of one process are those of another one, side by side. -/
def Shifts (f : Nat → Nat) (next next' : Nat) : Prop := ∀ i, f (next + i) = next' + i

section Shifting

variable {f : Nat → Nat} {next next' : Nat}

theorem Shifts.here (shifts : Shifts f next next') : f next = next' := shifts 0

theorem Shifts.add (shifts : Shifts f next next') (more : Nat) : Shifts f (next + more) (next' + more) :=
  fun i => by rw [Nat.add_assoc, shifts, Nat.add_assoc]

mutual

theorem covered_rename (injective : Function.Injective f) {next next' : Nat}
    (shifts : Shifts f next next') : (below item : Shared) →
      (covered next' (below.rename f) (item.rename f)).1 = (covered next below item).1.rename f ∧
        Shifts f (covered next below item).2 (covered next' (below.rename f) (item.rename f)).2
  | .mapping label base, item => by
    rw [rename]
    by_cases opens : ∃ other upper, item.opened = .mapping other upper
    · obtain ⟨other, upper, opens⟩ := opens
      rw [covered_of_mapping opens, covered_of_mapping (opened_rename_mapping injective opens)]
      obtain ⟨same, after⟩ := coveredFields_renameFields injective (shifts.add 1) base upper
      refine ⟨?_, after⟩
      dsimp only
      rw [same, rename, renameFields_append, without_renameFields,
        ← replaceFields_renameFields injective label (.mapping label base), rename, shifts.here]
    · have other : ∀ other upper, item.opened ≠ .mapping other upper :=
        fun other upper same => opens ⟨other, upper, same⟩
      rw [covered_of_other fun _ _ other' upper _ => other other' upper,
        covered_of_other fun _ _ other' upper _ => opened_rename_other injective other other' upper]
      exact ⟨rfl, shifts⟩
  | .plain _, _ => ⟨rfl, shifts⟩
  | .sequence _ _ _, _ => ⟨rfl, shifts⟩
  | .again _, _ => ⟨rfl, shifts⟩

theorem coveredFields_renameFields (injective : Function.Injective f) {next next' : Nat}
    (shifts : Shifts f next next') : (base upper : List (Key × Shared)) →
      (coveredFields next' (renameFields f base) (renameFields f upper)).1 =
          renameFields f (coveredFields next base upper).1 ∧
        Shifts f (coveredFields next base upper).2
          (coveredFields next' (renameFields f base) (renameFields f upper)).2
  | [], _ => ⟨rfl, shifts⟩
  | (key, below) :: base, upper => by
    rw [renameFields, coveredFields_cons, coveredFields_cons, laid, laid, get?_renameFields]
    cases Entries.get? Key.same key upper with
    | none =>
      obtain ⟨same, after⟩ := coveredFields_renameFields injective shifts base upper
      refine ⟨?_, after⟩
      dsimp only [Option.map_none]
      rw [same, renameFields]
    | some item =>
      obtain ⟨here, inner⟩ := covered_rename injective shifts below item
      obtain ⟨same, after⟩ := coveredFields_renameFields injective inner base upper
      refine ⟨?_, after⟩
      dsimp only [Option.map_some]
      rw [here, same, renameFields]

end

mutual

theorem ofValue_rename {next next' : Nat} (shifts : Shifts f next next') : (value : Value) →
    (ofValue next' value).1 = (ofValue next value).1.rename f ∧
      Shifts f (ofValue next value).2 (ofValue next' value).2
  | .atom _ => ⟨rfl, shifts⟩
  | .sequence _ items => by
    obtain ⟨same, after⟩ := ofValues_rename (shifts.add 1) items
    refine ⟨?_, after⟩
    rw [ofValue, ofValue]
    dsimp only
    rw [same, rename, shifts.here]
  | .mapping false entries => by
    obtain ⟨same, after⟩ := ofFields_rename (shifts.add 1) entries
    refine ⟨?_, after⟩
    rw [ofValue, ofValue]
    dsimp only
    rw [same, rename, shifts.here]
  | .mapping true _ => ⟨rfl, shifts⟩
  | .set _ => ⟨rfl, shifts⟩
  | .loop _ _ => ⟨rfl, shifts⟩
  | .again _ => ⟨rfl, shifts⟩

theorem ofValues_rename {next next' : Nat} (shifts : Shifts f next next') : (values : List Value) →
    (ofValues next' values).1 = renameAll f (ofValues next values).1 ∧
      Shifts f (ofValues next values).2 (ofValues next' values).2
  | [] => ⟨rfl, shifts⟩
  | value :: values => by
    obtain ⟨here, inner⟩ := ofValue_rename shifts value
    obtain ⟨same, after⟩ := ofValues_rename inner values
    refine ⟨?_, after⟩
    rw [ofValues, ofValues]
    dsimp only
    rw [here, same, renameAll]

theorem ofFields_rename {next next' : Nat} (shifts : Shifts f next next') :
    (entries : List (Key × Value)) →
      (ofFields next' entries).1 = renameFields f (ofFields next entries).1 ∧
        Shifts f (ofFields next entries).2 (ofFields next' entries).2
  | [] => ⟨rfl, shifts⟩
  | (_, value) :: entries => by
    obtain ⟨here, inner⟩ := ofValue_rename shifts value
    obtain ⟨same, after⟩ := ofFields_rename inner entries
    refine ⟨?_, after⟩
    rw [ofFields, ofFields]
    dsimp only
    rw [here, same, renameFields]

end

mutual

theorem rename_relabel (shifts : Shifts f next next') :
    (shared : Shared) → (shared.relabel next).rename f = shared.relabel next'
  | .plain _ => rfl
  | .sequence label _ items => by
    rw [relabel, relabel, rename, rename_relabelAll shifts items, Nat.add_comm, shifts, Nat.add_comm]
  | .mapping label entries => by
    rw [relabel, relabel, rename, rename_relabelFields shifts entries, Nat.add_comm, shifts,
      Nat.add_comm]
  | .again label => by rw [relabel, relabel, rename, Nat.add_comm, shifts, Nat.add_comm]

theorem rename_relabelAll (shifts : Shifts f next next') :
    (items : List Shared) → renameAll f (relabelAll next items) = relabelAll next' items
  | [] => rfl
  | item :: items => by
    rw [relabelAll, relabelAll, renameAll, rename_relabel shifts item, rename_relabelAll shifts items]

theorem rename_relabelFields (shifts : Shifts f next next') : (entries : List (Key × Shared)) →
    renameFields f (relabelFields next entries) = relabelFields next' entries
  | [] => rfl
  | (_, item) :: entries => by
    rw [relabelFields, relabelFields, renameFields, rename_relabel shifts item,
      rename_relabelFields shifts entries]

end

end Shifting

/-! ### Values -/

section Flat

variable {f : Nat → Nat}

mutual

/-- **The value of a renamed shared value.** -/
theorem value_rename (injective : Function.Injective f) :
    (shared : Shared) → Obeys .flat shared → (shared.rename f).value = shared.value.rename f
  | .plain value, flat => (Value.rename_of_isFinite f value (Value.isFinite_of_isFlat flat)).symm
  | .sequence label frozen items, flat => by
    rw [rename, value, value, values_renameAll injective items flat.2, ← Value.labelled_rename injective,
      Value.rename]
  | .mapping label entries, flat => by
    rw [rename, value, value, fields_renameFields injective entries flat.2,
      ← Value.labelled_rename injective, Value.rename]
  | .again _, _ => rfl

theorem values_renameAll (injective : Function.Injective f) : (items : List Shared) →
    ObeyAll .flat items → values (renameAll f items) = Value.renameAll f (values items)
  | [], _ => rfl
  | item :: items, flat => by
    rw [renameAll, values, values, Value.renameAll, value_rename injective item flat.1,
      values_renameAll injective items flat.2]

theorem fields_renameFields (injective : Function.Injective f) : (entries : List (Key × Shared)) →
    ObeyFields .flat entries → fields (renameFields f entries) = Value.renameFields f (fields entries)
  | [], _ => rfl
  | (_, item) :: entries, flat => by
    rw [renameFields, fields, fields, Value.renameFields, value_rename injective item flat.1,
      fields_renameFields injective entries flat.2]

end

end Flat

/-! ### Nothing inside itself -/

section Loopless

mutual

theorem isFinite_value : (shared : Shared) → Obeys .loopless shared → shared.value.isFinite = true
  | .plain _, flat => Value.isFinite_of_isFlat flat
  | .sequence label frozen items, obeys => by
    have finite : (Value.sequence frozen (values items)).isFinite = true := by
      rw [Value.isFinite, areFinite_values items obeys.2]
    rw [value, Value.labelled_of_isFinite label finite, finite]
  | .mapping label entries, obeys => by
    have finite : (Value.mapping false (fields entries)).isFinite = true := by
      rw [Value.isFinite, fieldsAreFinite_fields entries obeys.2]
    rw [value, Value.labelled_of_isFinite label finite, finite]

theorem areFinite_values : (items : List Shared) → ObeyAll .loopless items →
    Value.areFinite (values items) = true
  | [], _ => rfl
  | item :: items, obey => by
    rw [values, Value.areFinite, isFinite_value item obey.1, areFinite_values items obey.2, Bool.and_self]

theorem fieldsAreFinite_fields : (entries : List (Key × Shared)) →
    ObeyFields .loopless entries → Value.fieldsAreFinite (fields entries) = true
  | [], _ => rfl
  | (_, item) :: entries, obey => by
    rw [fields, Value.fieldsAreFinite, isFinite_value item obey.1, fieldsAreFinite_fields entries obey.2,
      Bool.and_self]

end

/-- The value of a sequence that does not stand inside itself. -/
theorem value_sequence {label : Nat} {frozen : Bool} {items : List Shared}
    (obey : ObeyAll .loopless items) :
    (sequence label frozen items).value = .sequence frozen (values items) := by
  rw [value, Value.labelled_of_isFinite label]
  rw [Value.isFinite, areFinite_values items obey]

/-- The value of a mapping that does not stand inside itself. -/
theorem value_mapping {label : Nat} {entries : List (Key × Shared)}
    (obey : ObeyFields .loopless entries) :
    (mapping label entries).value = .mapping false (fields entries) := by
  rw [value, Value.labelled_of_isFinite label]
  rw [Value.isFinite, fieldsAreFinite_fields entries obey]

end Loopless

/-! ### Labels of their own -/

section Own

variable {low high : Nat}

/-- Whether a function takes the labels from one on to those of a list. -/
def Lists (f : Nat → Nat) (next : Nat) (labels : List Nat) : Prop :=
  ∀ i label, labels[i]? = some label → f (next + i) = label

variable {f : Nat → Nat} {next : Nat}

theorem Lists.cons {label : Nat} {labels : List Nat} (lists : Lists f next (label :: labels)) :
    f next = label ∧ Lists f (next + 1) labels :=
  ⟨lists 0 label rfl, fun i other found => by
    rw [Nat.add_assoc, Nat.add_comm 1 i]
    exact lists (i + 1) other found⟩

theorem Lists.append {first second : List Nat} (lists : Lists f next (first ++ second)) :
    Lists f next first ∧ Lists f (next + first.length) second := by
  refine ⟨fun i label found => lists i label ?_, fun i label found => ?_⟩
  · obtain ⟨low, _⟩ := List.getElem?_eq_some_iff.mp found
    rw [List.getElem?_append_left low, found]
  · rw [Nat.add_assoc]
    refine lists (first.length + i) label ?_
    rw [List.getElem?_append_right (Nat.le_add_right ..), Nat.add_sub_cancel_left, found]

mutual

/-- **A value whose collections have labels of their own is the value with new labels, but for the names
of the labels.** -/
theorem rename_ofValue {next : Nat} : (shared : Shared) → Obeys (.between low high) shared →
    Lists f next shared.labels → (ofValue next shared.value).1.rename f = shared ∧
      (ofValue next shared.value).2 = next + shared.labels.length
  | .plain (.atom _), _, _ => ⟨rfl, rfl⟩
  | .sequence label frozen items, obeys, lists => by
    obtain ⟨here, later⟩ := lists.cons
    obtain ⟨same, after⟩ := rename_ofValues items obeys.2 later
    rw [value_sequence (obeys.2.mono Rule.between_implies_loopless), ofValue]
    dsimp only
    rw [rename, same, here, after, labels, List.length_cons]
    exact ⟨rfl, by omega⟩
  | .mapping label entries, obeys, lists => by
    obtain ⟨here, later⟩ := lists.cons
    obtain ⟨same, after⟩ := rename_ofFields entries obeys.2 later
    rw [value_mapping (obeys.2.mono Rule.between_implies_loopless), ofValue]
    dsimp only
    rw [rename, same, here, after, labels, List.length_cons]
    exact ⟨rfl, by omega⟩

theorem rename_ofValues {next : Nat} : (items : List Shared) → ObeyAll (.between low high) items →
    Lists f next (labelsAll items) → renameAll f (ofValues next (values items)).1 = items ∧
      (ofValues next (values items)).2 = next + (labelsAll items).length
  | [], _, _ => ⟨rfl, rfl⟩
  | item :: items, obey, lists => by
    obtain ⟨here, later⟩ := lists.append
    obtain ⟨first, middle⟩ := rename_ofValue item obey.1 here
    rw [← middle] at later
    obtain ⟨same, after⟩ := rename_ofValues items obey.2 later
    rw [values, ofValues]
    dsimp only
    rw [renameAll, first, same, after, middle, labelsAll, List.length_append]
    exact ⟨rfl, by omega⟩

theorem rename_ofFields {next : Nat} : (entries : List (Key × Shared)) →
    ObeyFields (.between low high) entries → Lists f next (labelsFields entries) →
      renameFields f (ofFields next (fields entries)).1 = entries ∧
        (ofFields next (fields entries)).2 = next + (labelsFields entries).length
  | [], _, _ => ⟨rfl, rfl⟩
  | (_, item) :: entries, obey, lists => by
    obtain ⟨here, later⟩ := lists.append
    obtain ⟨first, middle⟩ := rename_ofValue item obey.1 here
    rw [← middle] at later
    obtain ⟨same, after⟩ := rename_ofFields entries obey.2 later
    rw [fields, ofFields]
    dsimp only
    rw [renameFields, first, same, after, middle, labelsFields, List.length_append]
    exact ⟨rfl, by omega⟩

end

end Own

end Shared

end PromptWeave
