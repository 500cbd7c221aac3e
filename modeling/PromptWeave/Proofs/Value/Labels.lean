/-
**What the labels of shared values obey.**

A rule says of which kind the labels of collections are, the labels that are only named, and the values
in which nothing is shared. What is made of values that obey a rule obeys it too, if it holds for the new
labels. A collection that is named nowhere in a value makes no difference to it. Main statements:

* `Shared.Obeys`: a value obeys a rule;
* `Shared.opened_of_unnamed`: a value in which no label is named is open;
* `Shared.opened_update`: opening a value and changing a mapping in it may be done in either order;
* `Shared.obeys_ofValue`, `Shared.Obeys.update`, `Shared.Obeys.covered`: the rules
  that the results of the operations on shared values obey.
-/

import PromptWeave.Value.Merge

namespace PromptWeave

/-! ### Entries -/

namespace Entries

variable {κ ν : Type} {same : κ → κ → Bool} {key other : κ} {value : ν} {entries : Entries κ ν}

theorem exists_mem_of_get? (found : get? same key entries = some value) :
    ∃ other, (other, value) ∈ entries := by
  induction entries with
  | nil => cases found
  | cons entry entries ih =>
    obtain ⟨first, inside⟩ := entry
    rw [get?] at found
    split at found
    · cases found
      exact ⟨first, List.mem_cons_self⟩
    · obtain ⟨other, later⟩ := ih found
      exact ⟨other, List.mem_cons_of_mem _ later⟩

theorem get?_put (reflexive : same key key = true) : get? same key (put same key value entries) =
    some value := by
  induction entries with
  | nil => rw [put, get?, if_pos reflexive]
  | cons entry entries ih =>
    obtain ⟨first, inside⟩ := entry
    rw [put]
    split
    · rename_i here
      rw [get?, if_pos here]
    · rename_i elsewhere
      rw [get?, if_neg elsewhere, ih]

/-- Behind a stored value everything is as before. -/
theorem get?_put_or (other : κ) : get? same other (put same key value entries) = some value ∨
    get? same other (put same key value entries) = get? same other entries := by
  induction entries with
  | nil =>
    by_cases here : same other key = true
    · exact Or.inl (if_pos here)
    · exact Or.inr (if_neg here)
  | cons entry entries ih =>
    obtain ⟨first, inside⟩ := entry
    rw [put]
    split
    · rw [get?, get?]
      split
      · exact Or.inl rfl
      · exact Or.inr rfl
    · rw [get?, get?]
      split
      · exact Or.inr rfl
      · exact ih

theorem get?_append (key : κ) (first second : Entries κ ν) :
    get? same key (first ++ second) = (get? same key first).or (get? same key second) := by
  induction first with
  | nil => rfl
  | cons entry first ih =>
    obtain ⟨other, value⟩ := entry
    rw [List.cons_append, get?, get?]
    split
    · rfl
    · exact ih

theorem mem_of_mem_put {entry : κ × ν} (inside : entry ∈ put same key value entries) :
    entry.2 = value ∨ entry ∈ entries := by
  induction entries with
  | nil =>
    rw [put, List.mem_singleton] at inside
    exact Or.inl (congrArg Prod.snd inside)
  | cons first entries ih =>
    rw [put] at inside
    split at inside
    · rcases List.mem_cons.mp inside with rfl | later
      · exact Or.inl rfl
      · exact Or.inr (List.mem_cons_of_mem _ later)
    · rcases List.mem_cons.mp inside with rfl | later
      · exact Or.inr List.mem_cons_self
      · exact (ih later).imp_right (List.mem_cons_of_mem _)

/-! ### Entries with something done to every value -/

section Mapped

variable {ω : Type} (f : ν → ω)

theorem get?_mapped (key : κ) (entries : Entries κ ν) :
    get? same key (entries.map fun entry => (entry.1, f entry.2)) = (get? same key entries).map f := by
  induction entries with
  | nil => rfl
  | cons entry entries ih =>
    obtain ⟨other, value⟩ := entry
    rw [List.map_cons, get?, get?]
    split
    · rfl
    · exact ih

theorem put_mapped (key : κ) (value : ν) (entries : Entries κ ν) :
    put same key (f value) (entries.map fun entry => (entry.1, f entry.2)) =
      (put same key value entries).map fun entry => (entry.1, f entry.2) := by
  induction entries with
  | nil => rfl
  | cons entry entries ih =>
    obtain ⟨other, first⟩ := entry
    rw [List.map_cons, put, put]
    split
    · rfl
    · rw [ih, List.map_cons]

theorem without_mapped {ν' ω' : Type} (g : ν' → ω') (others : Entries Key ν)
    (entries : Entries Key ν') :
    without (others.map fun entry => (entry.1, f entry.2))
        (entries.map fun entry => (entry.1, g entry.2)) =
      (without others entries).map fun entry => (entry.1, g entry.2) := by
  rw [without, without, List.filter_map]
  congr 2
  funext entry
  rw [Function.comp_apply, get?_mapped, Option.isNone_map]

end Mapped

end Entries

namespace Shared

/-! ### Values of entries -/

theorem fields_eq_map (entries : List (Key × Shared)) :
    fields entries = entries.map fun entry => (entry.1, entry.2.value) := by
  induction entries with
  | nil => rfl
  | cons entry entries ih => rw [fields, ih, List.map_cons]

theorem get?_fields (key : Key) (entries : List (Key × Shared)) :
    Mapping.get? key (fields entries) = (Entries.get? Key.same key entries).map value := by
  rw [Mapping.get?, fields_eq_map, Entries.get?_mapped value]

theorem fields_append (first second : List (Key × Shared)) :
    fields (first ++ second) = fields first ++ fields second := by
  rw [fields_eq_map, fields_eq_map, fields_eq_map, List.map_append]

theorem fields_without (others entries : List (Key × Shared)) :
    fields (Entries.without others entries) = Entries.without (fields others) (fields entries) := by
  rw [fields_eq_map, fields_eq_map, fields_eq_map, Entries.without_mapped value value]

theorem fields_put (key : Key) (item : Shared) (entries : List (Key × Shared)) :
    fields (Entries.put Key.same key item entries) = Mapping.put key item.value (fields entries) := by
  rw [fields_eq_map, fields_eq_map, Mapping.put, Entries.put_mapped value]

/-! ### Rules -/

/-- What labels and unshared values are like. -/
structure Rule where
  /-- Of which kind the label of a collection is. -/
  label : Nat → Prop
  /-- Of which kind a label is that is only named. -/
  name : Nat → Prop
  /-- Of which kind a value is in which nothing is shared. -/
  plain : Value → Prop

mutual

/-- Whether everything in a shared value is as a rule says. -/
def Obeys (rule : Rule) : Shared → Prop
  | .plain value => rule.plain value
  | .sequence label _ items => rule.label label ∧ ObeyAll rule items
  | .mapping label entries => rule.label label ∧ ObeyFields rule entries
  | .again label => rule.name label

/-- The same for a row. -/
def ObeyAll (rule : Rule) : List Shared → Prop
  | [] => True
  | item :: items => Obeys rule item ∧ ObeyAll rule items

/-- The same for a mapping's entries. -/
def ObeyFields (rule : Rule) : List (Key × Shared) → Prop
  | [] => True
  | (_, item) :: entries => Obeys rule item ∧ ObeyFields rule entries

end

section Rules

variable {rule rule' : Rule}

theorem obeyAll_iff {items : List Shared} : ObeyAll rule items ↔ ∀ item ∈ items, Obeys rule item := by
  induction items with
  | nil => simp [ObeyAll]
  | cons item items ih => simp [ObeyAll, ih]

theorem obeyFields_iff {entries : List (Key × Shared)} :
    ObeyFields rule entries ↔ ∀ entry ∈ entries, Obeys rule entry.2 := by
  induction entries with
  | nil => simp [ObeyFields]
  | cons entry entries ih =>
    obtain ⟨key, item⟩ := entry
    simp [ObeyFields, ih]

/-- A rule that is stronger than another one. -/
structure Rule.Implies (rule rule' : Rule) : Prop where
  label : ∀ {l}, rule.label l → rule'.label l
  name : ∀ {l}, rule.name l → rule'.name l
  plain : ∀ {v}, rule.plain v → rule'.plain v

theorem Rule.Implies.trans {rule'' : Rule} (first : rule.Implies rule') (second : rule'.Implies rule'') :
    rule.Implies rule'' :=
  ⟨second.label ∘ first.label, second.name ∘ first.name, second.plain ∘ first.plain⟩

mutual

/-- What obeys a stronger rule obeys a weaker one. -/
theorem Obeys.mono (implies : rule.Implies rule') :
    {shared : Shared} → Obeys rule shared → Obeys rule' shared
  | .plain _, obeys => implies.plain obeys
  | .sequence _ _ _, obeys => ⟨implies.label obeys.1, obeys.2.mono implies⟩
  | .mapping _ _, obeys => ⟨implies.label obeys.1, obeys.2.mono implies⟩
  | .again _, obeys => implies.name obeys

theorem ObeyAll.mono (implies : rule.Implies rule') :
    {items : List Shared} → ObeyAll rule items → ObeyAll rule' items
  | [], _ => trivial
  | _ :: _, obeys => ⟨obeys.1.mono implies, obeys.2.mono implies⟩

theorem ObeyFields.mono (implies : rule.Implies rule') :
    {entries : List (Key × Shared)} → ObeyFields rule entries → ObeyFields rule' entries
  | [], _ => trivial
  | (_, _) :: _, obeys => ⟨obeys.1.mono implies, obeys.2.mono implies⟩

end

theorem ObeyFields.get? {key : Key} {entries : List (Key × Shared)} {item : Shared}
    (obey : ObeyFields rule entries) (found : Entries.get? Key.same key entries = some item) :
    Obeys rule item := by
  obtain ⟨other, inside⟩ := Entries.exists_mem_of_get? found
  exact obeyFields_iff.mp obey _ inside

theorem ObeyFields.put {entries : List (Key × Shared)} {item : Shared}
    (obey : ObeyFields rule entries) (obeys : Obeys rule item) (key : Key) :
    ObeyFields rule (Entries.put Key.same key item entries) := by
  refine obeyFields_iff.mpr fun entry inside => ?_
  rcases Entries.mem_of_mem_put inside with stored | before
  · exact stored ▸ obeys
  · exact obeyFields_iff.mp obey entry before

theorem ObeyFields.append {first second : List (Key × Shared)} (front : ObeyFields rule first)
    (back : ObeyFields rule second) : ObeyFields rule (first ++ second) := by
  refine obeyFields_iff.mpr fun entry inside => ?_
  rcases List.mem_append.mp inside with inside | inside
  · exact obeyFields_iff.mp front entry inside
  · exact obeyFields_iff.mp back entry inside

theorem ObeyFields.without {ν : Type} {entries : List (Key × Shared)} (obey : ObeyFields rule entries)
    (others : Entries Key ν) : ObeyFields rule (Entries.without others entries) :=
  obeyFields_iff.mpr fun entry inside =>
    obeyFields_iff.mp obey entry (List.mem_filter.mp inside).1

/-! ### Opening -/

mutual

theorem Obeys.replace (label : Nat) {whole : Shared} (given : Obeys rule whole) :
    {shared : Shared} → Obeys rule shared → Obeys rule (Shared.replace label whole shared)
  | .plain _, obeys => obeys
  | .sequence other _ items, obeys => by
    rw [Shared.replace]
    split
    · exact obeys
    · exact ⟨obeys.1, ObeyAll.replaceAll label given obeys.2⟩
  | .mapping other entries, obeys => by
    rw [Shared.replace]
    split
    · exact obeys
    · exact ⟨obeys.1, ObeyFields.replaceFields label given obeys.2⟩
  | .again other, obeys => by
    rw [Shared.replace]
    split
    · exact given
    · exact obeys

theorem ObeyAll.replaceAll (label : Nat) {whole : Shared} (given : Obeys rule whole) :
    {items : List Shared} → ObeyAll rule items → ObeyAll rule (Shared.replaceAll label whole items)
  | [], _ => trivial
  | _ :: _, obeys => ⟨Obeys.replace label given obeys.1, ObeyAll.replaceAll label given obeys.2⟩

theorem ObeyFields.replaceFields (label : Nat) {whole : Shared} (given : Obeys rule whole) :
    {entries : List (Key × Shared)} → ObeyFields rule entries →
      ObeyFields rule (Shared.replaceFields label whole entries)
  | [], _ => trivial
  | (_, _) :: _, obeys =>
    ⟨Obeys.replace label given obeys.1, ObeyFields.replaceFields label given obeys.2⟩

end

theorem Obeys.opened {shared : Shared} (obeys : Obeys rule shared) : Obeys rule shared.opened := by
  cases shared with
  | plain => exact obeys
  | sequence label frozen items => exact ⟨obeys.1, ObeyAll.replaceAll label obeys obeys.2⟩
  | mapping label entries => exact ⟨obeys.1, ObeyFields.replaceFields label obeys obeys.2⟩
  | again => exact obeys

mutual

/-- Where a label is not named, no collection is put in its place. -/
theorem replace_of_unnamed {label : Nat} (other : ∀ l, rule.name l → l ≠ label) (whole : Shared) :
    (shared : Shared) → Obeys rule shared → replace label whole shared = shared
  | .plain _, _ => by rw [replace]
  | .sequence _ _ items, obeys => by
    rw [replace, replaceAll_of_unnamed other whole items obeys.2, ite_self]
  | .mapping _ entries, obeys => by
    rw [replace, replaceFields_of_unnamed other whole entries obeys.2, ite_self]
  | .again _, obeys => by rw [replace, if_neg (other _ obeys)]

theorem replaceAll_of_unnamed {label : Nat} (other : ∀ l, rule.name l → l ≠ label) (whole : Shared) :
    (items : List Shared) → ObeyAll rule items → replaceAll label whole items = items
  | [], _ => by rw [replaceAll]
  | item :: items, obeys => by
    rw [replaceAll, replace_of_unnamed other whole item obeys.1,
      replaceAll_of_unnamed other whole items obeys.2]

theorem replaceFields_of_unnamed {label : Nat} (other : ∀ l, rule.name l → l ≠ label)
    (whole : Shared) : (entries : List (Key × Shared)) → ObeyFields rule entries →
      replaceFields label whole entries = entries
  | [], _ => by rw [replaceFields]
  | (_, item) :: entries, obeys => by
    rw [replaceFields, replace_of_unnamed other whole item obeys.1,
      replaceFields_of_unnamed other whole entries obeys.2]

end

/-- A mapping that is not named in its entries is open. -/
theorem opened_mapping {label : Nat} {entries : List (Key × Shared)} (other : ∀ l, rule.name l → l ≠ label)
    (obey : ObeyFields rule entries) : (mapping label entries).opened = .mapping label entries := by
  rw [opened, replaceFields_of_unnamed other _ entries obey]

/-- A value in which no label is named is open. -/
theorem opened_of_unnamed {shared : Shared} (none : ∀ l, ¬ rule.name l) (obeys : Obeys rule shared) :
    shared.opened = shared := by
  have other (label : Nat) : ∀ l, rule.name l → l ≠ label := fun l named => absurd named (none l)
  cases shared with
  | plain => rfl
  | sequence label frozen items => rw [opened, replaceAll_of_unnamed (other label) _ items obeys.2]
  | mapping label entries => exact opened_mapping (other label) obeys.2
  | again => rfl

/-! ### Changes -/

mutual

/-- What is stored in a mapping has to obey the rule too. -/
theorem Obeys.update (label : Nat) (key : Key) {item : Shared} (given : Obeys rule item) :
    {shared : Shared} → Obeys rule shared →
      Obeys rule (shared.update label (Entries.put Key.same key item))
  | .plain _, obeys => obeys
  | .sequence _ _ _, obeys => ⟨obeys.1, ObeyAll.updateAll label key given obeys.2⟩
  | .mapping other _, obeys => by
    refine ⟨obeys.1, ?_⟩
    split
    · exact (ObeyFields.updateFields label key given obeys.2).put given key
    · exact ObeyFields.updateFields label key given obeys.2
  | .again _, obeys => obeys

theorem ObeyAll.updateAll (label : Nat) (key : Key) {item : Shared} (given : Obeys rule item) :
    {items : List Shared} → ObeyAll rule items →
      ObeyAll rule (Shared.updateAll label (Entries.put Key.same key item) items)
  | [], _ => trivial
  | _ :: _, obeys => ⟨Obeys.update label key given obeys.1, ObeyAll.updateAll label key given obeys.2⟩

theorem ObeyFields.updateFields (label : Nat) (key : Key) {item : Shared} (given : Obeys rule item) :
    {entries : List (Key × Shared)} → ObeyFields rule entries →
      ObeyFields rule (Shared.updateFields label (Entries.put Key.same key item) entries)
  | [], _ => trivial
  | (_, _) :: _, obeys =>
    ⟨Obeys.update label key given obeys.1, ObeyFields.updateFields label key given obeys.2⟩

end

theorem updateFields_eq_map (label : Nat) (change : Entries Key Shared → Entries Key Shared)
    (entries : List (Key × Shared)) :
    updateFields label change entries = entries.map fun entry => (entry.1, entry.2.update label change) := by
  induction entries with
  | nil => rfl
  | cons entry entries ih => rw [updateFields, ih, List.map_cons]

theorem get?_updateFields (label : Nat) (change : Entries Key Shared → Entries Key Shared) (key : Key)
    (entries : List (Key × Shared)) :
    Entries.get? Key.same key (updateFields label change entries) =
      (Entries.get? Key.same key entries).map (update label change) := by
  rw [updateFields_eq_map, Entries.get?_mapped (update label change)]

theorem replaceFields_eq_map (label : Nat) (whole : Shared) (entries : List (Key × Shared)) :
    replaceFields label whole entries = entries.map fun entry => (entry.1, replace label whole entry.2) := by
  induction entries with
  | nil => rw [replaceFields, List.map_nil]
  | cons entry entries ih => rw [replaceFields, ih, List.map_cons]

/-- What is stored stays as it is where nothing is put into it. -/
theorem replaceFields_put {label : Nat} {whole item : Shared} (same : replace label whole item = item)
    (key : Key) (entries : List (Key × Shared)) :
    replaceFields label whole (Entries.put Key.same key item entries) =
      Entries.put Key.same key item (replaceFields label whole entries) := by
  have stored := @Entries.put_mapped _ _ Key.same _ (replace label whole) key item entries
  rw [same] at stored
  rw [replaceFields_eq_map, replaceFields_eq_map, stored]

mutual

theorem update_replace {label : Nat} {key : Key} {item : Shared} {named : Nat} {whole : Shared}
    (same : ∀ whole, replace named whole item = item) : (shared : Shared) →
      (replace named whole shared).update label (Entries.put Key.same key item) =
        replace named (whole.update label (Entries.put Key.same key item))
          (shared.update label (Entries.put Key.same key item))
  | .plain _ => by rw [replace, update, replace]
  | .sequence other _ items => by
    rw [replace, update, replace]
    split
    · rw [update]
    · rw [update, updateAll_replaceAll same items]
  | .mapping other entries => by
    rw [replace, update, replace]
    split
    · rw [update]
    · rw [update, updateFields_replaceFields same entries]
      split
      · rw [replaceFields_put (same _)]
      · rfl
  | .again other => by
    rw [replace, update, replace]
    split
    · rfl
    · rw [update]

theorem updateAll_replaceAll {label : Nat} {key : Key} {item : Shared} {named : Nat} {whole : Shared}
    (same : ∀ whole, replace named whole item = item) : (items : List Shared) →
      updateAll label (Entries.put Key.same key item) (replaceAll named whole items) =
        replaceAll named (whole.update label (Entries.put Key.same key item))
          (updateAll label (Entries.put Key.same key item) items)
  | [] => by rw [replaceAll, updateAll, replaceAll]
  | _ :: items => by
    rw [replaceAll, updateAll, updateAll, replaceAll, update_replace same,
      updateAll_replaceAll same items]

theorem updateFields_replaceFields {label : Nat} {key : Key} {item : Shared} {named : Nat}
    {whole : Shared} (same : ∀ whole, replace named whole item = item) :
    (entries : List (Key × Shared)) →
      updateFields label (Entries.put Key.same key item) (replaceFields named whole entries) =
        replaceFields named (whole.update label (Entries.put Key.same key item))
          (updateFields label (Entries.put Key.same key item) entries)
  | [] => by rw [replaceFields, updateFields, replaceFields]
  | (_, _) :: entries => by
    rw [replaceFields, updateFields, updateFields, replaceFields, update_replace same,
      updateFields_replaceFields same entries]

end

/-- **Opening a value and storing an item in it may be done in either order**, if the item names no
labels. -/
theorem opened_update {item : Shared} (none : ∀ l, ¬ rule.name l) (obeys : Obeys rule item)
    (label : Nat) (key : Key) (shared : Shared) :
    (shared.update label (Entries.put Key.same key item)).opened =
      shared.opened.update label (Entries.put Key.same key item) := by
  have same (named : Nat) (whole : Shared) : replace named whole item = item :=
    replace_of_unnamed (fun l named => absurd named (none l)) whole item obeys
  cases shared with
  | plain => rfl
  | sequence other frozen items =>
    rw [opened, update, update, opened, updateAll_replaceAll (same other), update]
  | mapping other entries =>
    rw [opened, update, update, opened, updateFields_replaceFields (same other), update]
    split
    · rw [replaceFields_put (same other _)]
    · rfl
  | again => rfl

end Rules

end Shared

/-! ### Labels of values -/

namespace Value

/-- Whether a value has no parts. -/
def IsAtom : Value → Prop
  | .atom _ => True
  | _ => False

/-- Whether a value is one of those that are not shared: an atom or a set. -/
def IsFlat : Value → Prop
  | .atom _ => True
  | .set _ => True
  | _ => False

theorem isFlat_of_isAtom : {value : Value} → value.IsAtom → value.IsFlat
  | .atom _, _ => trivial

theorem areFinite_iff {values : List Value} :
    areFinite values = true ↔ ∀ value ∈ values, value.isFinite = true := by
  induction values with
  | nil => simp [areFinite]
  | cons value values ih => simp [areFinite, ih]

theorem fieldsAreFinite_iff {entries : List (Key × Value)} :
    fieldsAreFinite entries = true ↔ ∀ entry ∈ entries, entry.2.isFinite = true := by
  induction entries with
  | nil => simp [fieldsAreFinite]
  | cons entry entries ih => simp [fieldsAreFinite, ih]

theorem isFinite_of_isFlat : {value : Value} → value.IsFlat → value.isFinite = true
  | .atom _, _ => rfl
  | .set _, _ => rfl

mutual

/-- Whether a value is made of atoms, lists and mappings that can be changed. -/
def IsData : Value → Prop
  | .atom _ => True
  | .sequence frozen items => frozen = false ∧ AreData items
  | .mapping frozen entries => frozen = false ∧ FieldsAreData entries
  | _ => False

/-- The same for a row. -/
def AreData : List Value → Prop
  | [] => True
  | value :: values => IsData value ∧ AreData values

/-- The same for a mapping's entries. -/
def FieldsAreData : List (Key × Value) → Prop
  | [] => True
  | (_, value) :: entries => IsData value ∧ FieldsAreData entries

end

end Value

namespace Shared

mutual

theorem le_ofValue (next : Nat) : (value : Value) → next ≤ (ofValue next value).2
  | .atom _ => Nat.le_refl _
  | .sequence _ items => Nat.le_of_succ_le (le_ofValues (next + 1) items)
  | .mapping false entries => Nat.le_of_succ_le (le_ofFields (next + 1) entries)
  | .mapping true _ => Nat.le_refl _
  | .set _ => Nat.le_refl _
  | .loop _ _ => Nat.le_refl _
  | .again _ => Nat.le_refl _

theorem le_ofValues (next : Nat) : (values : List Value) → next ≤ (ofValues next values).2
  | [] => Nat.le_refl _
  | value :: values => Nat.le_trans (le_ofValue next value) (le_ofValues _ values)

theorem le_ofFields (next : Nat) : (entries : List (Key × Value)) → next ≤ (ofFields next entries).2
  | [] => Nat.le_refl _
  | (_, value) :: entries => Nat.le_trans (le_ofValue next value) (le_ofFields _ entries)

end

/-- A rule by which what is not shared is flat. -/
def Rule.flat : Rule := ⟨fun _ => True, fun _ => True, Value.IsFlat⟩

/-- A rule by which nothing stands inside itself: no label is named. -/
def Rule.loopless : Rule := ⟨fun _ => True, fun _ => False, Value.IsFlat⟩

/-- The labels from one on and up to another one; none is named; what is not shared has no parts. -/
def Rule.between (next after : Nat) : Rule := ⟨fun l => next ≤ l ∧ l < after, fun _ => False, Value.IsAtom⟩

theorem Rule.between_implies {next next' after after' : Nat} (low : next' ≤ next) (high : after ≤ after') :
    (Rule.between next after).Implies (.between next' after') where
  label inside := ⟨Nat.le_trans low inside.1, Nat.lt_of_lt_of_le inside.2 high⟩
  name := id
  plain := id

theorem Rule.loopless_implies_flat : Rule.loopless.Implies .flat := ⟨id, False.elim, id⟩

theorem Rule.between_implies_loopless {next after : Nat} : (Rule.between next after).Implies .loopless :=
  ⟨fun _ => trivial, id, Value.isFlat_of_isAtom⟩

mutual

/-- **The labels of a value's collections are new**, and none is named. -/
theorem obeys_ofValue (next : Nat) : (value : Value) → value.IsData →
    Obeys (.between next (ofValue next value).2) (ofValue next value).1
  | .atom _, _ => trivial
  | .sequence _ items, data =>
    ⟨⟨Nat.le_refl _, le_ofValues (next + 1) items⟩,
      (obeyAll_ofValues (next + 1) items data.2).mono
        (Rule.between_implies (Nat.le_succ next) (Nat.le_refl _))⟩
  | .mapping false entries, data =>
    ⟨⟨Nat.le_refl _, le_ofFields (next + 1) entries⟩,
      (obeyFields_ofFields (next + 1) entries data.2).mono
        (Rule.between_implies (Nat.le_succ next) (Nat.le_refl _))⟩

theorem obeyAll_ofValues (next : Nat) : (values : List Value) → Value.AreData values →
    ObeyAll (.between next (ofValues next values).2) (ofValues next values).1
  | [], _ => trivial
  | value :: values, data =>
    ⟨(obeys_ofValue next value data.1).mono (Rule.between_implies (Nat.le_refl _) (le_ofValues _ values)),
      (obeyAll_ofValues _ values data.2).mono
        (Rule.between_implies (le_ofValue next value) (Nat.le_refl _))⟩

theorem obeyFields_ofFields (next : Nat) : (entries : List (Key × Value)) →
    Value.FieldsAreData entries →
      ObeyFields (.between next (ofFields next entries).2) (ofFields next entries).1
  | [], _ => trivial
  | (_, value) :: entries, data =>
    ⟨(obeys_ofValue next value data.1).mono (Rule.between_implies (Nat.le_refl _) (le_ofFields _ entries)),
      (obeyFields_ofFields _ entries data.2).mono
        (Rule.between_implies (le_ofValue next value) (Nat.le_refl _))⟩

end

section Relabelling

variable {rule : Rule} {distance bound : Nat}

/-- What labels have to be like so that a rule holds after they are moved up. -/
def Rule.moved (rule : Rule) (distance : Nat) : Rule :=
  ⟨fun l => rule.label (l + distance), fun l => rule.name (l + distance), rule.plain⟩

mutual

theorem Obeys.relabel : {shared : Shared} → Obeys (rule.moved distance) shared →
    Obeys rule (shared.relabel distance)
  | .plain _, obeys => obeys
  | .sequence _ _ _, obeys => ⟨obeys.1, obeys.2.relabelAll⟩
  | .mapping _ _, obeys => ⟨obeys.1, obeys.2.relabelFields⟩
  | .again _, obeys => obeys

theorem ObeyAll.relabelAll : {items : List Shared} → ObeyAll (rule.moved distance) items →
    ObeyAll rule (Shared.relabelAll distance items)
  | [], _ => trivial
  | _ :: _, obeys => ⟨obeys.1.relabel, obeys.2.relabelAll⟩

theorem ObeyFields.relabelFields : {entries : List (Key × Shared)} →
    ObeyFields (rule.moved distance) entries → ObeyFields rule (Shared.relabelFields distance entries)
  | [], _ => trivial
  | (_, _) :: _, obeys => ⟨obeys.1.relabel, obeys.2.relabelFields⟩

end

/-- A rule for labels below a bound. -/
def Rule.below (rule : Rule) (bound : Nat) : Rule :=
  ⟨fun l => rule.label l ∧ l < bound, fun l => rule.name l ∧ l < bound, rule.plain⟩

theorem Rule.below_implies : (rule.below bound).Implies rule := ⟨And.left, And.left, id⟩

theorem Rule.between_implies_loopless_below {low : Nat} :
    (Rule.between low bound).Implies (Rule.loopless.below bound) :=
  ⟨fun inside => ⟨trivial, inside.2⟩, False.elim, Value.isFlat_of_isAtom⟩

theorem Rule.below_implies_below {bound' : Nat} (raised : bound ≤ bound') :
    (rule.below bound).Implies (rule.below bound') where
  label low := ⟨low.1, Nat.lt_of_lt_of_le low.2 raised⟩
  name low := ⟨low.1, Nat.lt_of_lt_of_le low.2 raised⟩
  plain := id

mutual

/-- All labels of a value are below its bound. -/
theorem Obeys.below : {shared : Shared} → Obeys rule shared → shared.bound ≤ bound →
    Obeys (rule.below bound) shared
  | .plain _, obeys, _ => obeys
  | .sequence _ _ _, obeys, high =>
    ⟨⟨obeys.1, Nat.le_trans (Nat.le_max_left ..) high⟩,
      obeys.2.below (Nat.le_trans (Nat.le_max_right ..) high)⟩
  | .mapping _ _, obeys, high =>
    ⟨⟨obeys.1, Nat.le_trans (Nat.le_max_left ..) high⟩,
      obeys.2.below (Nat.le_trans (Nat.le_max_right ..) high)⟩
  | .again _, obeys, high => ⟨obeys, high⟩

theorem ObeyAll.below : {items : List Shared} → ObeyAll rule items → boundAll items ≤ bound →
    ObeyAll (rule.below bound) items
  | [], _, _ => trivial
  | _ :: _, obeys, high =>
    ⟨obeys.1.below (Nat.le_trans (Nat.le_max_left ..) high),
      obeys.2.below (Nat.le_trans (Nat.le_max_right ..) high)⟩

theorem ObeyFields.below : {entries : List (Key × Shared)} → ObeyFields rule entries →
    boundFields entries ≤ bound → ObeyFields (rule.below bound) entries
  | [], _, _ => trivial
  | (_, _) :: _, obeys, high =>
    ⟨obeys.1.below (Nat.le_trans (Nat.le_max_left ..) high),
      obeys.2.below (Nat.le_trans (Nat.le_max_right ..) high)⟩

end

end Relabelling

/-! ### Laying one value over another -/

section Covering

variable {rule : Rule}

/-- What stands under a key of a mapping that others are laid over, and the next free label. -/
def laid (next : Nat) (key : Key) (below : Shared) (upper : Entries Key Shared) : Shared × Nat :=
  match Entries.get? Key.same key upper with
  | none => (below, next)
  | some item => covered next below item

theorem coveredFields_cons (next : Nat) (key : Key) (below : Shared) (base : List (Key × Shared))
    (upper : Entries Key Shared) :
    coveredFields next ((key, below) :: base) upper =
      ((key, (laid next key below upper).1) ::
          (coveredFields (laid next key below upper).2 base upper).1,
        (coveredFields (laid next key below upper).2 base upper).2) := by
  rw [coveredFields]
  rfl

theorem covered_of_mapping {next label other : Nat} {base : List (Key × Shared)} {item : Shared}
    {upper : List (Key × Shared)} (opens : item.opened = .mapping other upper) :
    covered next (.mapping label base) item =
      (.mapping next (replaceFields label (.mapping label base)
          (coveredFields (next + 1) base upper).1 ++ Entries.without base upper),
        (coveredFields (next + 1) base upper).2) := by
  rw [covered, opens]

theorem covered_of_other {next : Nat} {below item : Shared}
    (other : ∀ label base label' upper, below = .mapping label base → item.opened ≠ .mapping label' upper) :
    covered next below item = (item, next) := by
  unfold covered
  split
  · rename_i label base
    split
    · rename_i opens
      exact absurd opens (other _ _ _ _ rfl)
    · rfl
  · rfl

mutual

theorem le_covered (next : Nat) : (below item : Shared) → next ≤ (covered next below item).2
  | .mapping label base, item => by
    rw [covered]
    split
    · exact Nat.le_of_succ_le (le_coveredFields (next + 1) base _)
    · exact Nat.le_refl _
  | .plain _, _ => Nat.le_refl _
  | .sequence _ _ _, _ => Nat.le_refl _
  | .again _, _ => Nat.le_refl _

theorem le_coveredFields (next : Nat) : (base : List (Key × Shared)) → (upper : Entries Key Shared) →
    next ≤ (coveredFields next base upper).2
  | [], _ => Nat.le_refl _
  | (key, below) :: base, upper => by
    rw [coveredFields_cons, laid]
    refine Nat.le_trans ?_ (le_coveredFields _ base upper)
    split
    · exact Nat.le_refl _
    · exact le_covered next below _

end

theorem le_laid (next : Nat) (key : Key) (below : Shared) (upper : Entries Key Shared) :
    next ≤ (laid next key below upper).2 := by
  rw [laid]
  split
  · exact Nat.le_refl _
  · exact le_covered next below _

mutual

/-- **One value laid over another obeys the rule of both**, if it holds for the new labels. -/
theorem Obeys.covered (next : Nat) : (below item : Shared) → Obeys rule below → Obeys rule item →
    (∀ l, next ≤ l → l < (Shared.covered next below item).2 → rule.label l) →
      Obeys rule (Shared.covered next below item).1
  | .mapping label base, item, lower, obeys, fresh => by
    cases opens : item.opened with
    | mapping other upper =>
      rw [covered_of_mapping opens] at fresh ⊢
      have raised := le_coveredFields (next + 1) base upper
      have inside : ObeyFields rule upper := (opens ▸ obeys.opened : Obeys rule (.mapping _ _)).2
      have fields := ObeyFields.coveredFields (next + 1) base upper lower.2 inside
        fun l low high => fresh l (Nat.le_of_succ_le low) high
      exact ⟨fresh next (Nat.le_refl _) raised,
        (fields.replaceFields label lower).append (inside.without base)⟩
    | _ =>
      rw [covered_of_other (by rintro _ _ _ _ - opens'; rw [opens] at opens'; cases opens')]
      exact obeys
  | .plain _, _, _, obeys, _ => obeys
  | .sequence _ _ _, _, _, obeys, _ => obeys
  | .again _, _, _, obeys, _ => obeys

theorem ObeyFields.coveredFields (next : Nat) : (base : List (Key × Shared)) →
    (upper : Entries Key Shared) → ObeyFields rule base → ObeyFields rule upper →
      (∀ l, next ≤ l → l < (Shared.coveredFields next base upper).2 → rule.label l) →
        ObeyFields rule (Shared.coveredFields next base upper).1
  | [], _, _, _, _ => trivial
  | (key, below) :: base, upper, lower, obey, fresh => by
    rw [coveredFields_cons, laid] at fresh ⊢
    cases found : Entries.get? Key.same key upper with
    | none =>
      rw [found] at fresh
      exact ⟨lower.1, ObeyFields.coveredFields next base upper lower.2 obey fresh⟩
    | some item =>
      rw [found] at fresh
      dsimp only at fresh ⊢
      have raised := le_covered next below item
      have more := le_coveredFields (Shared.covered next below item).2 base upper
      exact ⟨Obeys.covered next below item lower.1 (obey.get? found)
          fun l low high => fresh l low (Nat.lt_of_lt_of_le high more),
        ObeyFields.coveredFields _ base upper lower.2 obey
          fun l low high => fresh l (Nat.le_trans raised low) high⟩

end

end Covering

end Shared

end PromptWeave
