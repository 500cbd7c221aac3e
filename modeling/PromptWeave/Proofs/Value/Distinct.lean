/-
**Collections that stand in one place only.**

The labels of a value are listed, outer ones first, and those of its mappings apart. If no label is listed
twice, then no collection stands at two places of the value, and a change to a mapping shows at one place
of it. Storing a new item keeps it so. Main statements:

* `Shared.obeys_iff_labels`: a rule for labels is a statement on the list;
* `Shared.update_of_notMem`: a change to a mapping that does not stand in a value leaves the value alone;
* `Shared.nodup_ofValue`: the collections of a value with new labels stand in one place each;
* `Shared.nodup_update`: and so they do after an item with new labels is stored.
-/

import PromptWeave.Proofs.Value.Labels

namespace PromptWeave

namespace Shared

mutual

/-- The labels of the collections of a value, outer ones first. -/
def labels : Shared → List Nat
  | .plain _ => []
  | .sequence label _ items => label :: labelsAll items
  | .mapping label entries => label :: labelsFields entries
  | .again _ => []

/-- The same for a row. -/
def labelsAll : List Shared → List Nat
  | [] => []
  | item :: items => labels item ++ labelsAll items

/-- The same for a mapping's entries. -/
def labelsFields : List (Key × Shared) → List Nat
  | [] => []
  | (_, item) :: entries => labels item ++ labelsFields entries

end

mutual

/-- The labels of the mappings of a value. -/
def mappings : Shared → List Nat
  | .plain _ => []
  | .sequence _ _ items => mappingsAll items
  | .mapping label entries => label :: mappingsFields entries
  | .again _ => []

/-- The same for a row. -/
def mappingsAll : List Shared → List Nat
  | [] => []
  | item :: items => mappings item ++ mappingsAll items

/-- The same for a mapping's entries. -/
def mappingsFields : List (Key × Shared) → List Nat
  | [] => []
  | (_, item) :: entries => mappings item ++ mappingsFields entries

end

mutual

theorem mappings_sublist_labels : (shared : Shared) → shared.mappings.Sublist shared.labels
  | .plain _ => List.Sublist.refl _
  | .sequence label _ items => (mappingsAll_sublist_labelsAll items).cons label
  | .mapping _ entries => (mappingsFields_sublist_labelsFields entries).cons_cons _
  | .again _ => List.Sublist.refl _

theorem mappingsAll_sublist_labelsAll : (items : List Shared) →
    (mappingsAll items).Sublist (labelsAll items)
  | [] => List.Sublist.refl _
  | item :: items => (mappings_sublist_labels item).append (mappingsAll_sublist_labelsAll items)

theorem mappingsFields_sublist_labelsFields : (entries : List (Key × Shared)) →
    (mappingsFields entries).Sublist (labelsFields entries)
  | [] => List.Sublist.refl _
  | (_, item) :: entries =>
    (mappings_sublist_labels item).append (mappingsFields_sublist_labelsFields entries)

end

theorem mappings_subset_labels (shared : Shared) : shared.mappings ⊆ shared.labels :=
  (mappings_sublist_labels shared).subset

theorem mappingsAll_subset_labelsAll (items : List Shared) : mappingsAll items ⊆ labelsAll items :=
  (mappingsAll_sublist_labelsAll items).subset

theorem mappingsFields_subset_labelsFields (entries : List (Key × Shared)) :
    mappingsFields entries ⊆ labelsFields entries :=
  (mappingsFields_sublist_labelsFields entries).subset

section Absent

variable {label : Nat} (change : Entries Key Shared → Entries Key Shared)

mutual

/-- **A change to a mapping that does not stand in a value leaves the value alone.** -/
theorem update_of_notMem : (shared : Shared) → label ∉ shared.mappings →
    shared.update label change = shared
  | .plain _, _ => by rw [update]
  | .sequence _ _ items, absent => by rw [update, updateAll_of_notMem items absent]
  | .mapping other entries, absent => by
    have apart : other ≠ label := fun same => absent (same ▸ List.mem_cons_self)
    rw [update, updateFields_of_notMem entries fun inside => absent (List.mem_cons_of_mem _ inside)]
    exact congrArg _ (if_neg apart)
  | .again _, _ => by rw [update]

theorem updateAll_of_notMem : (items : List Shared) → label ∉ mappingsAll items →
    updateAll label change items = items
  | [], _ => by rw [updateAll]
  | item :: items, absent => by
    rw [updateAll, update_of_notMem item fun inside => absent (List.mem_append_left _ inside),
      updateAll_of_notMem items fun inside => absent (List.mem_append_right _ inside)]

theorem updateFields_of_notMem : (entries : List (Key × Shared)) →
    label ∉ mappingsFields entries → updateFields label change entries = entries
  | [], _ => by rw [updateFields]
  | (_, item) :: entries, absent => by
    rw [updateFields, update_of_notMem item fun inside => absent (List.mem_append_left _ inside),
      updateFields_of_notMem entries fun inside => absent (List.mem_append_right _ inside)]

end

end Absent

/-- The labels of collections are of some kind. -/
def Rule.onLabels (kind : Nat → Prop) : Rule := ⟨kind, fun _ => True, fun _ => True⟩

section Lists

variable {kind : Nat → Prop}

mutual

/-- **A rule for labels is a statement on the list of labels.** -/
theorem obeys_iff_labels : (shared : Shared) →
    (Obeys (.onLabels kind) shared ↔ ∀ label ∈ shared.labels, kind label)
  | .plain _ => by simp [Obeys, labels, Rule.onLabels]
  | .sequence label _ items => by
    rw [Obeys, labels, List.forall_mem_cons, obeyAll_iff_labels items]
    rfl
  | .mapping label entries => by
    rw [Obeys, labels, List.forall_mem_cons, obeyFields_iff_labels entries]
    rfl
  | .again _ => by simp [Obeys, labels, Rule.onLabels]

theorem obeyAll_iff_labels : (items : List Shared) →
    (ObeyAll (.onLabels kind) items ↔ ∀ label ∈ labelsAll items, kind label)
  | [] => by simp [ObeyAll, labelsAll]
  | item :: items => by
    rw [ObeyAll, labelsAll, List.forall_mem_append, obeys_iff_labels item, obeyAll_iff_labels items]

theorem obeyFields_iff_labels : (entries : List (Key × Shared)) →
    (ObeyFields (.onLabels kind) entries ↔ ∀ label ∈ labelsFields entries, kind label)
  | [] => by simp [ObeyFields, labelsFields]
  | (_, item) :: entries => by
    rw [ObeyFields, labelsFields, List.forall_mem_append, obeys_iff_labels item,
      obeyFields_iff_labels entries]

end

theorem Rule.implies_onLabels {rule : Rule} (label : ∀ {l}, rule.label l → kind l) :
    rule.Implies (.onLabels kind) := ⟨label, fun _ => trivial, fun _ => trivial⟩

/-- What is known of the labels of a value that obeys a rule. -/
theorem Obeys.forall_labels {rule : Rule} {shared : Shared} (obeys : Obeys rule shared) :
    ∀ label ∈ shared.labels, rule.label label :=
  (obeys_iff_labels shared).mp (obeys.mono (Rule.implies_onLabels id))

theorem ObeyAll.forall_labels {rule : Rule} {items : List Shared} (obey : ObeyAll rule items) :
    ∀ label ∈ labelsAll items, rule.label label :=
  (obeyAll_iff_labels items).mp (obey.mono (Rule.implies_onLabels id))

theorem ObeyFields.forall_labels {rule : Rule} {entries : List (Key × Shared)}
    (obey : ObeyFields rule entries) : ∀ label ∈ labelsFields entries, rule.label label :=
  (obeyFields_iff_labels entries).mp (obey.mono (Rule.implies_onLabels id))

end Lists

/-! ### New labels -/

mutual

/-- **The collections of a value with new labels stand in one place each.** -/
theorem nodup_ofValue (next : Nat) : (value : Value) → value.IsData →
    (ofValue next value).1.labels.Nodup
  | .atom _, _ => List.nodup_nil
  | .sequence _ items, data =>
    List.nodup_cons.mpr ⟨fun inside => Nat.lt_irrefl next
      ((obeyAll_ofValues (next + 1) items data.2).forall_labels next inside).1,
      nodup_ofValues (next + 1) items data.2⟩
  | .mapping false entries, data =>
    List.nodup_cons.mpr ⟨fun inside => Nat.lt_irrefl next
      ((obeyFields_ofFields (next + 1) entries data.2).forall_labels next inside).1,
      nodup_ofFields (next + 1) entries data.2⟩

theorem nodup_ofValues (next : Nat) : (values : List Value) → Value.AreData values →
    (labelsAll (ofValues next values).1).Nodup
  | [], _ => List.nodup_nil
  | value :: values, data => by
    refine List.nodup_append.mpr ⟨nodup_ofValue next value data.1, nodup_ofValues _ values data.2, ?_⟩
    rintro label first _ later rfl
    have before := ((obeys_ofValue next value data.1).forall_labels label first).2
    have behind := ((obeyAll_ofValues _ values data.2).forall_labels label later).1
    exact Nat.lt_irrefl _ (Nat.lt_of_lt_of_le before behind)

theorem nodup_ofFields (next : Nat) : (entries : List (Key × Value)) →
    Value.FieldsAreData entries → (labelsFields (ofFields next entries).1).Nodup
  | [], _ => List.nodup_nil
  | (_, value) :: entries, data => by
    refine List.nodup_append.mpr ⟨nodup_ofValue next value data.1, nodup_ofFields _ entries data.2, ?_⟩
    rintro label first _ later rfl
    have before := ((obeys_ofValue next value data.1).forall_labels label first).2
    have behind := ((obeyFields_ofFields _ entries data.2).forall_labels label later).1
    exact Nat.lt_irrefl _ (Nat.lt_of_lt_of_le before behind)

end

/-! ### Changes -/

section Changes

variable {label : Nat} {key : Key} {item : Shared}

theorem mem_labels_update {shared : Shared} {other : Nat}
    (inside : other ∈ (shared.update label (Entries.put Key.same key item)).labels) :
    other ∈ shared.labels ∨ other ∈ item.labels := by
  have given : Obeys (.onLabels fun l => l ∈ shared.labels ∨ l ∈ item.labels) item :=
    (obeys_iff_labels item).mpr fun _ => Or.inr
  have before : Obeys (.onLabels fun l => l ∈ shared.labels ∨ l ∈ item.labels) shared :=
    (obeys_iff_labels shared).mpr fun _ => Or.inl
  exact (given.update label key before).forall_labels other inside

theorem mem_labelsAll_updateAll {items : List Shared} {other : Nat}
    (inside : other ∈ labelsAll (updateAll label (Entries.put Key.same key item) items)) :
    other ∈ labelsAll items ∨ other ∈ item.labels := by
  have given : Obeys (.onLabels fun l => l ∈ labelsAll items ∨ l ∈ item.labels) item :=
    (obeys_iff_labels item).mpr fun _ => Or.inr
  have before : ObeyAll (.onLabels fun l => l ∈ labelsAll items ∨ l ∈ item.labels) items :=
    (obeyAll_iff_labels items).mpr fun _ => Or.inl
  exact (before.updateAll label key given).forall_labels other inside

theorem mem_labelsFields_updateFields {entries : List (Key × Shared)} {other : Nat}
    (inside : other ∈ labelsFields (updateFields label (Entries.put Key.same key item) entries)) :
    other ∈ labelsFields entries ∨ other ∈ item.labels := by
  have given : Obeys (.onLabels fun l => l ∈ labelsFields entries ∨ l ∈ item.labels) item :=
    (obeys_iff_labels item).mpr fun _ => Or.inr
  have before : ObeyFields (.onLabels fun l => l ∈ labelsFields entries ∨ l ∈ item.labels) entries :=
    (obeyFields_iff_labels entries).mpr fun _ => Or.inl
  exact (before.updateFields label key given).forall_labels other inside

theorem mem_labelsFields_put {entries : List (Key × Shared)} {other : Nat}
    (inside : other ∈ labelsFields (Entries.put Key.same key item entries)) :
    other ∈ labelsFields entries ∨ other ∈ item.labels := by
  have given : Obeys (.onLabels fun l => l ∈ labelsFields entries ∨ l ∈ item.labels) item :=
    (obeys_iff_labels item).mpr fun _ => Or.inr
  have before : ObeyFields (.onLabels fun l => l ∈ labelsFields entries ∨ l ∈ item.labels) entries :=
    (obeyFields_iff_labels entries).mpr fun _ => Or.inl
  exact (before.put given key).forall_labels other inside

theorem nodup_put (unique : item.labels.Nodup) : {entries : List (Key × Shared)} →
    (labelsFields entries).Nodup → (∀ l ∈ labelsFields entries, l ∉ item.labels) →
      (labelsFields (Entries.put Key.same key item entries)).Nodup
  | [], _, _ => by
    rw [Entries.put, labelsFields, labelsFields, List.append_nil]
    exact unique
  | (other, first) :: entries, distinct, fresh => by
    obtain ⟨front, back, apart⟩ := List.nodup_append.mp distinct
    have behind : ∀ l ∈ labelsFields entries, l ∉ item.labels :=
      fun l later => fresh l (List.mem_append_right _ later)
    rw [Entries.put]
    split
    · refine List.nodup_append.mpr ⟨unique, back, ?_⟩
      rintro l inside _ later rfl
      exact behind l later inside
    · refine List.nodup_append.mpr ⟨front, nodup_put unique back behind, ?_⟩
      rintro l inside _ later rfl
      rcases mem_labelsFields_put later with later | stored
      · exact apart l inside l later rfl
      · exact fresh l (List.mem_append_left _ inside) stored

/-- A change shows in the front or in the back of a row, for the label is listed once. -/
theorem nodup_append_update {first first' second second' : List Nat}
    (distinct : (first ++ second).Nodup) (front : first'.Nodup) (back : second'.Nodup)
    (early : label ∉ first → first' = first) (late : label ∉ second → second' = second)
    (more : ∀ l ∈ first', l ∈ first ∨ l ∈ item.labels)
    (more' : ∀ l ∈ second', l ∈ second ∨ l ∈ item.labels)
    (fresh : ∀ l ∈ first ++ second, l ∉ item.labels) : (first' ++ second').Nodup := by
  obtain ⟨_, _, apart⟩ := List.nodup_append.mp distinct
  refine List.nodup_append.mpr ⟨front, back, ?_⟩
  rintro l inside _ later rfl
  by_cases here : label ∈ first
  · rw [late fun there => apart label here label there rfl] at later
    rcases more l inside with before | stored
    · exact apart l before l later rfl
    · exact fresh l (List.mem_append_right _ later) stored
  · rw [early here] at inside
    rcases more' l later with before | stored
    · exact apart l inside l before rfl
    · exact fresh l (List.mem_append_left _ inside) stored

mutual

/-- **Storing an item with new labels leaves every collection in one place.** -/
theorem nodup_update (unique : item.labels.Nodup) : (shared : Shared) → shared.labels.Nodup →
    (∀ l ∈ shared.labels, l ∉ item.labels) →
      (shared.update label (Entries.put Key.same key item)).labels.Nodup
  | .plain _, distinct, _ => distinct
  | .sequence other _ items, distinct, fresh => by
    obtain ⟨outer, distinct⟩ := List.nodup_cons.mp distinct
    have later : ∀ l ∈ labelsAll items, l ∉ item.labels :=
      fun l inside => fresh l (List.mem_cons_of_mem _ inside)
    refine List.nodup_cons.mpr ⟨fun inside => ?_, nodup_updateAll unique items distinct later⟩
    rcases mem_labelsAll_updateAll inside with before | stored
    · exact outer before
    · exact fresh other List.mem_cons_self stored
  | .mapping other entries, distinct, fresh => by
    obtain ⟨outer, distinct⟩ := List.nodup_cons.mp distinct
    have later : ∀ l ∈ labelsFields entries, l ∉ item.labels :=
      fun l inside => fresh l (List.mem_cons_of_mem _ inside)
    rw [update]
    split
    · rename_i same
      have absent : label ∉ mappingsFields entries :=
        fun inside => outer (same ▸ mappingsFields_subset_labelsFields entries inside)
      rw [updateFields_of_notMem _ entries absent]
      refine List.nodup_cons.mpr ⟨fun inside => ?_, nodup_put unique distinct later⟩
      rcases mem_labelsFields_put inside with before | stored
      · exact outer before
      · exact fresh other List.mem_cons_self stored
    · refine List.nodup_cons.mpr ⟨fun inside => ?_, nodup_updateFields unique entries distinct later⟩
      rcases mem_labelsFields_updateFields inside with before | stored
      · exact outer before
      · exact fresh other List.mem_cons_self stored
  | .again _, distinct, _ => distinct

theorem nodup_updateAll (unique : item.labels.Nodup) : (items : List Shared) →
    (labelsAll items).Nodup → (∀ l ∈ labelsAll items, l ∉ item.labels) →
      (labelsAll (updateAll label (Entries.put Key.same key item) items)).Nodup
  | [], distinct, _ => distinct
  | first :: items, distinct, fresh => by
    obtain ⟨front, back, _⟩ := List.nodup_append.mp distinct
    exact nodup_append_update distinct
      (nodup_update unique first front fun l inside => fresh l (List.mem_append_left _ inside))
      (nodup_updateAll unique items back fun l inside => fresh l (List.mem_append_right _ inside))
      (fun absent => congrArg labels
        (update_of_notMem _ first fun inside => absent (mappings_subset_labels first inside)))
      (fun absent => congrArg labelsAll
        (updateAll_of_notMem _ items fun inside => absent (mappingsAll_subset_labelsAll items inside)))
      (fun _ => mem_labels_update) (fun _ => mem_labelsAll_updateAll) fresh

theorem nodup_updateFields (unique : item.labels.Nodup) : (entries : List (Key × Shared)) →
    (labelsFields entries).Nodup → (∀ l ∈ labelsFields entries, l ∉ item.labels) →
      (labelsFields (updateFields label (Entries.put Key.same key item) entries)).Nodup
  | [], distinct, _ => distinct
  | (_, first) :: entries, distinct, fresh => by
    obtain ⟨front, back, _⟩ := List.nodup_append.mp distinct
    exact nodup_append_update distinct
      (nodup_update unique first front fun l inside => fresh l (List.mem_append_left _ inside))
      (nodup_updateFields unique entries back fun l inside => fresh l (List.mem_append_right _ inside))
      (fun absent => congrArg labels
        (update_of_notMem _ first fun inside => absent (mappings_subset_labels first inside)))
      (fun absent => congrArg labelsFields (updateFields_of_notMem _ entries
        fun inside => absent (mappingsFields_subset_labelsFields entries inside)))
      (fun _ => mem_labels_update) (fun _ => mem_labelsFields_updateFields) fresh

end

end Changes

end Shared

end PromptWeave
