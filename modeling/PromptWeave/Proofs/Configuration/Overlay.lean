/-
**The values of shared values that are changed.**

A shared value that does not stand inside itself has a value without loops. Laying one over another lays
their values over each other. A change to one of its mappings stores an item in the value at one path, if
the mapping that is changed stands in one place only. Main statements:

* `Shared.value_relabel`: new labels make no difference to the value;
* `Shared.value_covered`: the value of one shared value laid over another one;
* `Shared.value_assign`: the value after a setting was stored.
-/

import PromptWeave.Proofs.Configuration.Alone

namespace PromptWeave

namespace Shared

section Loopless

variable {shared item : Shared} {label : Nat} {entries : List (Key × Shared)}

theorem opened_of_loopless (loopless : Obeys .loopless shared) : shared.opened = shared :=
  opened_of_unnamed (fun _ => id) loopless

theorem opened_value (loopless : Obeys .loopless shared) : shared.value.opened = shared.value :=
  Value.opened_of_isFinite (isFinite_value shared loopless)

theorem entriesOf_value_mapping (loopless : ObeyFields .loopless entries) :
    (mapping label entries).value.entriesOf = fields entries := by
  rw [value_mapping loopless, Value.entriesOf_mapping]

/-- What is no mapping has no value that is one. -/
theorem value_ne_mapping (loopless : Obeys .loopless shared)
    (other : ∀ label entries, shared ≠ .mapping label entries) (entries : Mapping) :
    shared.value ≠ .mapping false entries := by
  cases shared with
  | plain value =>
    intro same
    have flat : value.IsFlat := loopless
    rw [show value = .mapping false entries from same] at flat
    exact flat
  | sequence label frozen items =>
    rw [value_sequence loopless.2]
    exact fun same => nomatch same
  | mapping label entries => exact absurd rfl (other label entries)
  | again label => exact fun same => nomatch same

theorem entriesOf_value_other (loopless : Obeys .loopless shared)
    (other : ∀ label entries, shared ≠ .mapping label entries) : shared.value.entriesOf = [] := by
  rw [Value.entriesOf, opened_value loopless]
  split
  · rename_i entries same
    exact absurd same (value_ne_mapping loopless other entries)
  · rfl

/-! ### New labels -/

theorem Obeys.loopless_relabel (loopless : Obeys .loopless shared) (distance : Nat) :
    Obeys .loopless (shared.relabel distance) := Obeys.relabel loopless

/-- **New labels make no difference to the value.** -/
theorem value_relabel (loopless : Obeys .loopless shared) (distance : Nat) :
    (shared.relabel distance).value = shared.value := by
  have injective : Function.Injective (· + distance) := fun _ _ => Nat.add_right_cancel
  have flat : Obeys .flat shared := loopless.mono Rule.loopless_implies_flat
  rw [relabel_eq_rename, value_rename injective shared flat,
    Value.rename_of_isFinite _ _ (isFinite_value shared loopless)]

/-! ### One value over another -/

mutual

/-- **The value of one shared value laid over another one** is the one value laid over the other. -/
theorem value_covered (next : Nat) : (below item : Shared) → Obeys .loopless below →
    Obeys .loopless item → (covered next below item).1.value = Value.covered below.value item.value
  | .mapping label base, item, lower, loopless => by
    rw [value_mapping lower.2, Value.covered, opened_value loopless]
    cases item with
    | mapping other upper =>
      have fresh := ObeyFields.coveredFields (next + 1) base upper lower.2 loopless.2
        fun _ _ _ => trivial
      have back := loopless.2.without base
      rw [covered_of_mapping (opened_of_loopless loopless), value_mapping loopless.2]
      dsimp only
      rw [replaceFields_of_unnamed (fun _ => False.elim) _ _ fresh, value_mapping (fresh.append back),
        fields_append, fields_coveredFields (next + 1) base upper lower.2 loopless.2,
        fields_without base upper]
    | _ =>
      have other := value_ne_mapping loopless (by rintro _ _ ⟨⟩)
      rw [covered_of_other (by rw [opened_of_loopless loopless]; rintro _ _ _ _ - ⟨⟩)]
      split
      · rename_i same
        exact absurd same (other _)
      · rfl
  | .plain (.atom _), _, _, _ => rfl
  | .plain (.set _), _, _, _ => rfl
  | .sequence _ _ _, _, lower, _ => by
    rw [value_sequence lower.2]
    rfl

theorem fields_coveredFields (next : Nat) : (base : List (Key × Shared)) →
    (upper : Entries Key Shared) → ObeyFields .loopless base → ObeyFields .loopless upper →
      fields (coveredFields next base upper).1 = Mapping.covered (fields base) (fields upper)
  | [], _, _, _ => rfl
  | (key, below) :: base, upper, lower, loopless => by
    rw [coveredFields_cons, laid, fields, fields, Mapping.covered, get?_fields]
    cases found : Entries.get? Key.same key upper with
    | none =>
      dsimp only [Option.map_none]
      rw [fields_coveredFields _ base upper lower.2 loopless]
    | some item =>
      dsimp only [Option.map_some]
      rw [value_covered next below item lower.1 (loopless.get? found),
        fields_coveredFields _ base upper lower.2 loopless]

end

/-! ### A setting that is stored -/

/-- The value of new mappings around an item. -/
theorem value_nest (loopless : Obeys .loopless item) (next : Nat) (key : Key) (path : List Key)
    {value : Value} (empty : value.entriesOf = []) :
    (nest next item (key :: path)).value = value.store (key :: path) item.value := by
  induction path generalizing next key value with
  | nil =>
    have single : ObeyFields .loopless [(key, item)] := ⟨loopless, trivial⟩
    rw [nest, nest, value_mapping single, Value.store, Value.store, empty]
    rfl
  | cons part path ih =>
    have single : ObeyFields .loopless [(key, nest (next + 1) item (part :: path))] :=
      ⟨loopless.nest (part :: path) fun _ _ _ => trivial, trivial⟩
    rw [nest, value_mapping single, Value.store, empty, fields, fields, @ih (next + 1) part .null rfl]
    rfl

/-- A change to a mapping that stands in one place only is a change at the key that it stands under. -/
theorem updateFields_eq_put {key : Key} {inner : Shared} {change : Entries Key Shared → Entries Key Shared}
    (found : Entries.get? Key.same key entries = some inner) (inside : label ∈ inner.mappings)
    (single : (mappingsFields entries).count label ≤ 1) :
    updateFields label change entries =
      Entries.put Key.same key (inner.update label change) entries := by
  induction entries with
  | nil => cases found
  | cons entry entries ih =>
    obtain ⟨other, first⟩ := entry
    have there : 1 ≤ inner.mappings.count label := List.one_le_count_iff.mpr inside
    rw [mappingsFields, List.count_append] at single
    rw [Entries.get?] at found
    rw [updateFields, Entries.put]
    split at found
    · rename_i here
      cases found
      have behind : label ∉ mappingsFields entries := List.count_eq_zero.mp (by omega)
      rw [if_pos here, updateFields_of_notMem change entries behind]
    · rename_i elsewhere
      have among := count_get? found label
      have before : label ∉ first.mappings := List.count_eq_zero.mp (by omega)
      rw [if_neg elsewhere, update_of_notMem change first before, ih found (by omega)]

/-- An item stored in a mapping that stands nowhere inside itself. -/
theorem value_assign_here {key : Key} {stored : Shared} (loopless : ObeyFields .loopless entries)
    (plain : Obeys .loopless stored) (single : (mapping label entries).mappings.count label ≤ 1) :
    ((mapping label entries).assign ⟨label, key, stored⟩).value =
      .mapping false (Mapping.put key stored.value (fields entries)) := by
  have absent : label ∉ mappingsFields entries := by
    rw [mappings, List.count_cons_self] at single
    exact List.count_eq_zero.mp (by omega)
  rw [assign, update, if_pos rfl, updateFields_of_notMem _ entries absent,
    value_mapping (loopless.put plain key), fields_put]

/-- An item stored in a mapping that stands under a key of another one and nowhere else. -/
theorem value_assign_inside {key : Key} {inner : Shared} {assignment : Assignment}
    (loopless : ObeyFields .loopless entries) (plain : Obeys .loopless assignment.item)
    (found : Entries.get? Key.same key entries = some inner)
    (inside : assignment.label ∈ inner.mappings)
    (single : (mapping label entries).mappings.count assignment.label ≤ 1) :
    ((mapping label entries).assign assignment).value =
      .mapping false (Mapping.put key (inner.assign assignment).value (fields entries)) := by
  have there : 1 ≤ inner.mappings.count assignment.label := List.one_le_count_iff.mpr inside
  have among := count_get? found assignment.label
  have apart : label ≠ assignment.label := by
    intro here
    rw [mappings, here, List.count_cons_self] at single
    omega
  rw [mappings, List.count_cons_of_ne apart] at single
  have obeys : Obeys .loopless (inner.assign assignment) :=
    plain.update assignment.label assignment.key (loopless.get? found)
  have changed : (mapping label entries).assign assignment =
      .mapping label (Entries.put Key.same key (inner.assign assignment) entries) := by
    rw [assign, update, if_neg apart, updateFields_eq_put found inside single]
    rfl
  rw [changed, value_mapping (loopless.put obeys key), fields_put]

/-- Where no mapping stands under a key, there are no entries under it. -/
theorem entriesOf_get?_eq_nil (loopless : ObeyFields .loopless entries) {key : Key}
    (other : ∀ inner inside, Entries.get? Key.same key entries ≠ some (.mapping inner inside)) :
    (((Entries.get? Key.same key entries).map value).getD .null).entriesOf = [] := by
  cases found : Entries.get? Key.same key entries with
  | none => rfl
  | some first =>
    exact entriesOf_value_other (loopless.get? found)
      fun inner inside same => other inner inside (same ▸ found)

/-- **The value after a setting was stored** is the value with the setting stored in it, if the mapping that
is changed stands in one place only. -/
theorem value_assign {next : Nat} {assignment : Assignment} {path : List Key}
    (loopless : Obeys .loopless shared) (plain : Obeys .loopless item)
    (stored : assignment? next item path shared = some assignment)
    (single : shared.mappings.count assignment.label ≤ 1) :
    (shared.assign assignment).value = shared.value.store path item.value := by
  induction path generalizing shared with
  | nil => cases stored
  | cons key path ih =>
    have opens := opened_of_loopless loopless
    cases shared with
    | mapping label entries =>
      rw [value_mapping loopless.2]
      cases path with
      | nil =>
        rw [assignment?_last opens] at stored
        cases stored
        rw [value_assign_here loopless.2 plain single, Value.store, Value.store,
          Value.entriesOf_mapping]
      | cons part path =>
        rw [Value.store, Value.entriesOf_mapping, get?_fields]
        by_cases inner : ∃ inner inside, Entries.get? Key.same key entries =
            some (.mapping inner inside)
        · obtain ⟨inner, inside, found⟩ := inner
          have loopless' := loopless.2.get? found
          rw [assignment?_step opens found] at stored
          obtain ⟨front, rest, _, leads, same⟩ := exists_mappingAt_of_assignment? stored
          have nested : Obeys .loopless assignment.item :=
            same ▸ plain.nest rest fun _ _ _ => trivial
          have among := mem_mappings_of_mappingAt loopless' leads
          have fewer : (mapping inner inside).mappings.count assignment.label ≤ 1 :=
            calc (mapping inner inside).mappings.count assignment.label
                ≤ (mappingsFields entries).count assignment.label := count_get? found _
              _ ≤ (mapping label entries).mappings.count assignment.label := List.count_le_count_cons
              _ ≤ 1 := single
          rw [value_assign_inside loopless.2 nested found among single, ih loopless' stored fewer, found]
          rfl
        · have other : ∀ inner inside, Entries.get? Key.same key entries ≠
              some (.mapping inner inside) := fun inner' inside found => inner ⟨inner', inside, found⟩
          have nested : Obeys .loopless (nest next item (part :: path)) :=
            plain.nest (part :: path) fun _ _ _ => trivial
          rw [assignment?_nest opens other] at stored
          cases stored
          rw [value_assign_here loopless.2 nested single,
            value_nest plain next part path (entriesOf_get?_eq_nil loopless.2 other)]
    | _ =>
      rw [assignment?_other (by rw [opens]; rintro _ _ ⟨⟩)] at stored
      cases stored

/-- In a mapping a setting can be stored at every path but the empty one. -/
theorem exists_assignment (loopless : ObeyFields .loopless entries) (next : Nat) (item : Shared)
    {path : List Key} (full : path ≠ []) :
    ∃ assignment, assignment? next item path (.mapping label entries) = some assignment := by
  induction path generalizing label entries with
  | nil => exact absurd rfl full
  | cons key path ih =>
    have opens : (mapping label entries).opened = .mapping label entries :=
      opened_mapping (fun _ => False.elim) loopless
    cases path with
    | nil => exact ⟨_, assignment?_last opens⟩
    | cons part path =>
      by_cases inner : ∃ inner inside, Entries.get? Key.same key entries = some (.mapping inner inside)
      · obtain ⟨inner, inside, found⟩ := inner
        rw [assignment?_step opens found]
        exact ih (loopless.get? found).2 (List.cons_ne_nil part path)
      · exact ⟨_, assignment?_nest opens fun inner' inside found => inner ⟨inner', inside, found⟩⟩

end Loopless

end Shared

end PromptWeave
