/-
**Mappings that stand in one place only.**

A setting is stored in a mapping wherever that mapping stands. So it matters how often a mapping stands in
a value. Storing an item adds the mappings of the item once for each place of the mapping that is changed.
Laying one value over another uses every mapping of both at most once, if the keys of the lower one are
names that are not repeated. Main statements:

* `Shared.Alone`: all mappings that a path leads through stand in one place only;
* `Shared.count_update` and `Shared.Alone.assign`: what storing an item makes of that;
* `Shared.count_covered` and `Shared.Alone.covered`: what laying one value over another makes of it.
-/

import Mathlib.Data.List.Count
import Mathlib.Data.List.Nodup
import PromptWeave.Proofs.Configuration.Walk
import PromptWeave.Proofs.Value.Paths
import PromptWeave.Proofs.Value.Relabelling
import PromptWeave.Proofs.Value.Sameness

namespace PromptWeave

/-! ### Names as keys of entries -/

namespace Entries

section Names

variable {ν : Type} {key : Key} {entries : Entries Key ν}

theorem get?_eq_none_of_notMem (named : key.IsName) (absent : key ∉ entries.map Prod.fst) :
    get? Key.same key entries = none :=
  get?_eq_none_iff.mpr fun _ inside => Bool.eq_false_iff.mpr fun alike =>
    absent (named.same_left.mp alike ▸ List.mem_map_of_mem inside)

/-- The entries without the keys of others are those without each of the keys. -/
theorem without_cons {ω : Type} (key : Key) (value : ω) (others : Entries Key ω) :
    without ((key, value) :: others) entries =
      (without others entries).filter fun entry => !Key.same entry.1 key := by
  rw [without, without, List.filter_filter]
  congr 1
  funext entry
  rw [get?]
  cases Key.same entry.1 key <;> simp

end Names

end Entries

namespace Shared

variable {rule : Rule} {shared item : Shared} {key : Key} {label : Nat} {entries : List (Key × Shared)}

theorem mappingsFields_append (first second : List (Key × Shared)) :
    mappingsFields (first ++ second) = mappingsFields first ++ mappingsFields second := by
  induction first with
  | nil => rfl
  | cons entry first ih =>
    rw [List.cons_append, mappingsFields, mappingsFields, ih, List.append_assoc]

theorem count_get? (found : Entries.get? Key.same key entries = some item) (label : Nat) :
    item.mappings.count label ≤ (mappingsFields entries).count label := by
  induction entries with
  | nil => cases found
  | cons entry entries ih =>
    obtain ⟨other, first⟩ := entry
    rw [mappingsFields, List.count_append]
    rw [Entries.get?] at found
    split at found
    · cases found
      exact Nat.le_add_right _ _
    · exact Nat.le_add_left_of_le (ih found)

/-- The mapping that a path leads to stands in the value. -/
theorem mem_mappings_of_mappingAt {path : List Key} (loopless : Obeys .loopless shared)
    (leads : shared.mappingAt path = some label) : label ∈ shared.mappings := by
  induction path generalizing shared with
  | nil =>
    rw [mappingAt, opened_of_unnamed (fun _ => id) loopless] at leads
    split at leads
    · cases leads
      exact List.mem_cons_self
    · cases leads
  | cons key path ih =>
    obtain ⟨other, entries, inner, opens, found, deeper⟩ := exists_of_mappingAt_cons leads
    rw [opened_of_unnamed (fun _ => id) loopless] at opens
    subst opens
    have among : 1 ≤ inner.mappings.count label :=
      List.one_le_count_iff.mpr (ih (loopless.2.get? found) deeper)
    refine List.mem_cons_of_mem _ (List.one_le_count_iff.mp ?_)
    exact Nat.le_trans among (count_get? found label)

/-! ### Storing an item -/

theorem count_put (key : Key) (item : Shared) (entries : List (Key × Shared)) (label : Nat) :
    (mappingsFields (Entries.put Key.same key item entries)).count label ≤
      (mappingsFields entries).count label + item.mappings.count label := by
  induction entries with
  | nil =>
    rw [Entries.put, mappingsFields, mappingsFields, List.count_append]
    exact Nat.le_of_eq (Nat.add_comm _ _)
  | cons entry entries ih =>
    obtain ⟨other, first⟩ := entry
    rw [Entries.put, mappingsFields, List.count_append]
    split
    · rw [mappingsFields, List.count_append]
      omega
    · rw [mappingsFields, List.count_append]
      omega

mutual

/-- **An item that is stored in a mapping stands then where the mapping stands**, and nowhere else. -/
theorem count_update (changed : Nat) (key : Key) (item : Shared) (label : Nat) : (shared : Shared) →
    (shared.update changed (Entries.put Key.same key item)).mappings.count label ≤
      shared.mappings.count label + shared.mappings.count changed * item.mappings.count label
  | .plain _ => Nat.zero_le _
  | .sequence _ _ items => countAll_updateAll changed key item label items
  | .mapping other entries => by
    have inside := countFields_updateFields changed key item label entries
    have outer (rest : List Nat) : (other :: rest).count label =
      rest.count label + if other == label then 1 else 0 := List.count_cons
    rw [update, mappings, mappings, outer, outer]
    by_cases here : other = changed
    · subst here
      have stored := count_put key item (updateFields other (Entries.put Key.same key item) entries) label
      rw [if_pos rfl, List.count_cons_self, Nat.add_mul, Nat.one_mul]
      omega
    · rw [if_neg here, List.count_cons_of_ne here]
      omega
  | .again _ => Nat.zero_le _

theorem countAll_updateAll (changed : Nat) (key : Key) (item : Shared) (label : Nat) :
    (items : List Shared) →
      (mappingsAll (updateAll changed (Entries.put Key.same key item) items)).count label ≤
        (mappingsAll items).count label +
          (mappingsAll items).count changed * item.mappings.count label
  | [] => Nat.zero_le _
  | first :: items => by
    have here := count_update changed key item label first
    have there := countAll_updateAll changed key item label items
    rw [updateAll, mappingsAll, mappingsAll, List.count_append, List.count_append, List.count_append,
      Nat.add_mul]
    omega

theorem countFields_updateFields (changed : Nat) (key : Key) (item : Shared) (label : Nat) :
    (entries : List (Key × Shared)) →
      (mappingsFields (updateFields changed (Entries.put Key.same key item) entries)).count label ≤
        (mappingsFields entries).count label +
          (mappingsFields entries).count changed * item.mappings.count label
  | [] => Nat.zero_le _
  | (_, first) :: entries => by
    have here := count_update changed key item label first
    have there := countFields_updateFields changed key item label entries
    rw [updateFields, mappingsFields, mappingsFields, List.count_append, List.count_append,
      List.count_append, Nat.add_mul]
    omega

end

/-- Whether all mappings that a path leads through stand in one place only. What the whole path leads to
does not matter. -/
def Alone (path : List Key) (shared : Shared) : Prop :=
  ∀ front label, front <+: path → front ≠ path → shared.mappingAt front = some label →
    shared.mappings.count label ≤ 1

/-- **Storing a new item leaves in one place what a path leads through**, if the mapping that is changed
stands in one place. -/
theorem Alone.assign {old : Nat} {path : List Key} {assignment : Assignment} (alone : shared.Alone path)
    (low : ∀ label ∈ shared.mappings, label < old) (new : Obeys (newUnnamed old) assignment.item)
    (unique : assignment.item.labels.Nodup) (single : shared.mappings.count assignment.label ≤ 1) :
    (shared.assign assignment).Alone path := by
  intro front label begins inner leads
  refine Nat.le_trans (count_update assignment.label assignment.key assignment.item label shared) ?_
  by_cases before : label < old
  · have none : assignment.item.mappings.count label = 0 := List.count_eq_zero.mpr fun inside =>
      Nat.not_le_of_lt before (new.forall_labels label (mappings_subset_labels _ inside))
    rw [none, Nat.mul_zero]
    exact alone front label begins inner (mappingAt_update new leads before)
  · have none : shared.mappings.count label = 0 :=
      List.count_eq_zero.mpr fun inside => before (low label inside)
    have once : assignment.item.mappings.count label ≤ 1 :=
      List.nodup_iff_count_le_one.mp (unique.sublist (mappings_sublist_labels _)) label
    rw [none, Nat.zero_add]
    exact Nat.mul_le_mul single once

/-! ### Other labels -/

section Renaming

variable {f : Nat → Nat}

mutual

theorem mappings_rename : (shared : Shared) → (shared.rename f).mappings = shared.mappings.map f
  | .plain _ => rfl
  | .sequence _ _ items => mappingsAll_renameAll items
  | .mapping label entries => congrArg (f label :: ·) (mappingsFields_renameFields entries)
  | .again _ => rfl

theorem mappingsAll_renameAll :
    (items : List Shared) → mappingsAll (renameAll f items) = (mappingsAll items).map f
  | [] => rfl
  | item :: items => by
    rw [renameAll, mappingsAll, mappingsAll, mappings_rename item, mappingsAll_renameAll items,
      List.map_append]

theorem mappingsFields_renameFields : (entries : List (Key × Shared)) →
    mappingsFields (renameFields f entries) = (mappingsFields entries).map f
  | [] => rfl
  | (_, item) :: entries => by
    rw [renameFields, mappingsFields, mappingsFields, mappings_rename item,
      mappingsFields_renameFields entries, List.map_append]

end

theorem mappingAt_rename (injective : Function.Injective f) (path : List Key) (shared : Shared) :
    (shared.rename f).mappingAt path = (shared.mappingAt path).map f := by
  induction path generalizing shared with
  | nil =>
    rw [mappingAt, mappingAt, opened_rename injective]
    cases shared.opened <;> rfl
  | cons key path ih =>
    by_cases opens : ∃ label entries, shared.opened = .mapping label entries
    · obtain ⟨label, entries, opens⟩ := opens
      rw [mappingAt_cons opens, mappingAt_cons (opened_rename_mapping injective opens),
        get?_renameFields]
      cases Entries.get? Key.same key entries with
      | none => rfl
      | some inner => exact ih inner
    · have other : ∀ label entries, shared.opened ≠ .mapping label entries :=
        fun label entries same => opens ⟨label, entries, same⟩
      rw [mappingAt_other other, mappingAt_other (opened_rename_other injective other)]
      rfl

theorem Alone.rename {path : List Key} (alone : shared.Alone path) (injective : Function.Injective f) :
    (shared.rename f).Alone path := by
  intro front label begins inner leads
  rw [mappingAt_rename injective] at leads
  obtain ⟨before, there, rfl⟩ := Option.map_eq_some_iff.mp leads
  rw [mappings_rename, List.count_map_of_injective _ f injective]
  exact alone front before begins inner there

end Renaming

/-! ### One value over another -/

/-- Entries whose keys are names, each of them once. -/
structure Named {ν : Type} (entries : Entries Key ν) : Prop where
  unique : (entries.map Prod.fst).Nodup
  named : ∀ entry ∈ entries, entry.1.IsName

theorem Named.of_names {ν : Type} {entries : Entries Key ν} {row : List String} (unique : row.Nodup)
    (same : entries.map Prod.fst = row.map Key.ofString) : Named entries where
  unique := by
    have injective : Function.Injective Key.ofString := fun _ _ same => by
      cases same
      rfl
    exact same ▸ unique.map injective
  named entry inside := by
    have among : entry.1 ∈ row.map Key.ofString := same ▸ List.mem_map_of_mem inside
    obtain ⟨name, _, spelled⟩ := List.mem_map.mp among
    exact ⟨name, spelled.symm⟩

mutual

/-- Whether the keys of all mappings in mappings are names, each of them once. -/
def IsTidy : Shared → Prop
  | .plain _ => True
  | .sequence _ _ _ => True
  | .mapping _ entries => Named entries ∧ FieldsAreTidy entries
  | .again _ => True

/-- The same for a mapping's entries. -/
def FieldsAreTidy : List (Key × Shared) → Prop
  | [] => True
  | (_, item) :: entries => IsTidy item ∧ FieldsAreTidy entries

end

/-- How often a mapping stands in what lies over the keys of entries. -/
def drawn (label : Nat) (upper : Entries Key Shared) : List (Key × Shared) → Nat
  | [] => 0
  | (key, _) :: base =>
    ((Entries.get? Key.same key upper).elim 0 fun item => item.mappings.count label) +
      drawn label upper base

section Covering

theorem count_get?_add_filter (named : key.IsName) (label : Nat) (entries : Entries Key Shared) :
    ((Entries.get? Key.same key entries).elim 0 fun item => item.mappings.count label) +
      (mappingsFields (entries.filter fun entry => !Key.same entry.1 key)).count label ≤
        (mappingsFields entries).count label := by
  induction entries with
  | nil => exact Nat.le_refl _
  | cons entry entries ih =>
    obtain ⟨other, first⟩ := entry
    have fewer : (mappingsFields (entries.filter fun entry => !Key.same entry.1 key)).count label ≤
        (mappingsFields entries).count label := by
      omega
    rw [Entries.get?, mappingsFields, List.count_append]
    by_cases here : other = key
    · subst here
      rw [if_pos (Key.same_refl other), List.filter_cons_of_neg (by simp [Key.same_refl other])]
      exact Nat.add_le_add_left fewer _
    · rw [if_neg fun alike => here (named.same_left.mp alike), List.filter_cons_of_pos
        (by simpa using fun alike => here (named.same_right.mp alike)), mappingsFields,
        List.count_append]
      omega

/-- **What lies over the keys of a mapping and what stands beside them** is drawn from the upper mapping
without repetition. -/
theorem drawn_add_without (label : Nat) (upper : Entries Key Shared) {base : List (Key × Shared)}
    (tidy : Named base) :
    drawn label upper base + (mappingsFields (Entries.without base upper)).count label ≤
      (mappingsFields upper).count label := by
  induction base with
  | nil =>
    have all : Entries.without ([] : List (Key × Shared)) upper = upper :=
      List.filter_eq_self.mpr fun _ _ => rfl
    exact Nat.le_of_eq (by rw [all, drawn, Nat.zero_add])
  | cons entry base ih =>
    obtain ⟨key, below⟩ := entry
    obtain ⟨absent, unique⟩ := List.nodup_cons.mp tidy.unique
    have named : key.IsName := tidy.named _ List.mem_cons_self
    have later := ih ⟨unique, fun entry inside => tidy.named entry (List.mem_cons_of_mem _ inside)⟩
    -- The key is none of the others, so what lies over it is still there when they are taken out.
    have there : Entries.get? Key.same key (Entries.without base upper) =
        Entries.get? Key.same key upper := by
      rw [Entries.get?_without, Entries.get?_eq_none_of_notMem named absent]
      rfl
    have here := count_get?_add_filter named label (Entries.without base upper)
    rw [there] at here
    rw [drawn, Entries.without_cons]
    omega

mutual

/-- **How often a mapping stands in one value laid over another**: as often as in both, and a new one
once. -/
theorem count_covered (label next : Nat) : (below item : Shared) → below.IsTidy →
    Obeys .loopless below → Obeys .loopless item →
      (covered next below item).1.mappings.count label ≤
        below.mappings.count label + item.mappings.count label +
          if next ≤ label ∧ label < (covered next below item).2 then 1 else 0
  | .mapping lowest base, item, tidy, lower, loopless => by
    by_cases opens : ∃ other upper, item = .mapping other upper
    · obtain ⟨other, upper, rfl⟩ := opens
      have fresh := ObeyFields.coveredFields (next + 1) base upper lower.2 loopless.2
        fun _ _ _ => trivial
      have inner := countFields_coveredFields label (next + 1) base upper tidy.2 lower.2 loopless.2
      have raised := le_coveredFields (next + 1) base upper
      have once := drawn_add_without label upper tidy.1
      rw [covered_of_mapping (opened_of_unnamed (fun _ => id) loopless)]
      dsimp only
      rw [replaceFields_of_unnamed (fun _ => False.elim) _ _ fresh, mappings, mappings, mappings,
        mappingsFields_append]
      simp only [List.count_cons, List.count_append, beq_iff_eq]
      split at inner <;> split_ifs <;> omega
    · rw [covered_of_other fun _ _ other upper _ same => opens ⟨other, upper, by
        rwa [opened_of_unnamed (fun _ => id) loopless] at same⟩]
      exact Nat.le_add_right_of_le (Nat.le_add_left _ _)
  | .plain _, _, _, _, _ => Nat.le_add_right_of_le (Nat.le_add_left _ _)
  | .sequence _ _ _, _, _, _, _ => Nat.le_add_right_of_le (Nat.le_add_left _ _)
  | .again _, _, _, _, _ => Nat.le_add_right_of_le (Nat.le_add_left _ _)

theorem countFields_coveredFields (label next : Nat) : (base : List (Key × Shared)) →
    (upper : Entries Key Shared) → FieldsAreTidy base → ObeyFields .loopless base →
      ObeyFields .loopless upper →
        (mappingsFields (coveredFields next base upper).1).count label ≤
          (mappingsFields base).count label + drawn label upper base +
            if next ≤ label ∧ label < (coveredFields next base upper).2 then 1 else 0
  | [], _, _, _, _ => Nat.zero_le _
  | (key, below) :: base, upper, tidy, lower, loopless => by
    rw [coveredFields_cons, mappingsFields, mappingsFields, List.count_append, List.count_append, drawn]
    cases found : Entries.get? Key.same key upper with
    | none =>
      have later := countFields_coveredFields label next base upper tidy.2 lower.2 loopless
      rw [laid, found]
      dsimp only [Option.elim]
      omega
    | some item =>
      have here := count_covered label next below item tidy.1 lower.1 (loopless.get? found)
      have later := countFields_coveredFields label (covered next below item).2 base upper tidy.2 lower.2
        loopless
      have raised := le_covered next below item
      have more := le_coveredFields (covered next below item).2 base upper
      rw [laid, found]
      dsimp only [Option.elim]
      split at here <;> split at later <;> split_ifs <;> omega

end

mutual

/-- **Where a path leads in one value laid over another**: to a new mapping, or where it leads in one of
them. -/
theorem mappingAt_covered_or {label : Nat} (next : Nat) : (below item : Shared) →
    Obeys .loopless below → Obeys .loopless item → ∀ {path}, (∀ key ∈ path, key.IsName) →
      mappingAt path (covered next below item).1 = some label →
        next ≤ label ∨ mappingAt path below = some label ∨ mappingAt path item = some label
  | .mapping lowest base, item, lower, loopless, path, named, leads => by
    by_cases opens : ∃ other upper, item = .mapping other upper
    · obtain ⟨other, upper, rfl⟩ := opens
      have opens : (Shared.mapping other upper).opened = .mapping other upper :=
        opened_of_unnamed (fun _ => id) loopless
      have fresh := ObeyFields.coveredFields (next + 1) base upper lower.2 loopless.2
        fun _ _ _ => trivial
      have whole : (Shared.mapping next ((coveredFields (next + 1) base upper).1 ++
          Entries.without base upper)).opened = .mapping next _ :=
        opened_mapping (fun _ => False.elim) (fresh.append (loopless.2.without base))
      rw [covered_of_mapping opens, replaceFields_of_unnamed (fun _ => False.elim) _ _ fresh] at leads
      cases path with
      | nil =>
        rw [mappingAt, whole] at leads
        cases leads
        exact Or.inl (Nat.le_refl _)
      | cons key path =>
        obtain ⟨first, named⟩ := List.forall_mem_cons.mp named
        rw [mappingAt_cons whole, Entries.get?_append] at leads
        rw [mappingAt_cons (opened_of_unnamed (fun _ => id) lower), mappingAt_cons opens]
        obtain ⟨inner, found, leads⟩ := Option.bind_eq_some_iff.mp leads
        rcases Option.or_eq_some_iff.mp found with found | ⟨_, found⟩
        · exact (mappingAt_coveredFields_or (next + 1) base upper lower.2 loopless.2 first named found
            leads).imp_left Nat.le_of_succ_le
        · rw [Entries.get?_without] at found
          split at found
          · rw [found, Option.bind_some]
            exact Or.inr (Or.inr leads)
          · cases found
    · rw [covered_of_other fun _ _ other upper _ same => opens ⟨other, upper, by
        rwa [opened_of_unnamed (fun _ => id) loopless] at same⟩] at leads
      exact Or.inr (Or.inr leads)
  | .plain _, _, _, _, _, _, leads => Or.inr (Or.inr leads)
  | .sequence _ _ _, _, _, _, _, _, leads => Or.inr (Or.inr leads)
  | .again _, _, _, _, _, _, leads => Or.inr (Or.inr leads)

theorem mappingAt_coveredFields_or {label : Nat} (next : Nat) : (base : List (Key × Shared)) →
    (upper : Entries Key Shared) → ObeyFields .loopless base → ObeyFields .loopless upper →
      ∀ {key : Key} {path inner}, key.IsName → (∀ key ∈ path, key.IsName) →
        Entries.get? Key.same key (coveredFields next base upper).1 = some inner →
          mappingAt path inner = some label →
            next ≤ label ∨ (Entries.get? Key.same key base).bind (mappingAt path) = some label ∨
              (Entries.get? Key.same key upper).bind (mappingAt path) = some label
  | [], _, _, _, _, _, _, _, _, found, _ => nomatch found
  | (other, below) :: base, upper, lower, loopless, key, path, inner, first, named, found, leads => by
    rw [coveredFields_cons, Entries.get?] at found
    rw [Entries.get?]
    by_cases here : other = key
    · subst here
      rw [if_pos (Key.same_refl other)] at found ⊢
      cases found
      rw [laid] at leads
      cases drawn : Entries.get? Key.same other upper with
      | none =>
        rw [drawn] at leads
        exact Or.inr (Or.inl leads)
      | some item =>
        rw [drawn] at leads
        exact mappingAt_covered_or next below item lower.1 (loopless.get? drawn) named leads
    · have elsewhere : ¬ Key.same key other = true := fun alike => here (first.same_left.mp alike)
      rw [if_neg elsewhere] at found ⊢
      exact (mappingAt_coveredFields_or _ base upper lower.2 loopless first named found leads).imp_left
        (Nat.le_trans (le_laid next other below upper))

end

/-- **One value laid over another leaves in one place what a path leads through**, if their labels are
apart. -/
theorem Alone.covered {low next : Nat} {below item : Shared} {path : List Key}
    (alone : below.Alone path) (alone' : item.Alone path) (named : ∀ key ∈ path, key.IsName)
    (tidy : below.IsTidy) (lower : Obeys .loopless below) (loopless : Obeys .loopless item)
    (low_below : ∀ label ∈ below.mappings, label < low) (later : low ≤ next)
    (high_item : ∀ label ∈ item.mappings, low ≤ label ∧ label < next) :
    (Shared.covered next below item).1.Alone path := by
  intro front label begins inner leads
  have counted := count_covered label next below item tidy lower loopless
  have absent_below (high : low ≤ label) : below.mappings.count label = 0 :=
    List.count_eq_zero.mpr fun inside => Nat.not_le_of_lt (low_below label inside) high
  have absent_item (apart : ¬ (low ≤ label ∧ label < next)) : item.mappings.count label = 0 :=
    List.count_eq_zero.mpr fun inside => apart (high_item label inside)
  have namedFront : ∀ key ∈ front, key.IsName := fun key inside => named key (begins.subset inside)
  rcases mappingAt_covered_or next below item lower loopless namedFront leads with new | leads | leads
  · have none := absent_below (Nat.le_trans later new)
    have none' := absent_item fun inside => Nat.not_le_of_lt inside.2 new
    split at counted <;> omega
  · have once := alone front label begins inner leads
    have before := low_below label (mem_mappings_of_mappingAt lower leads)
    have none := absent_item fun inside => Nat.not_le_of_lt before inside.1
    rw [if_neg (by omega)] at counted
    omega
  · have once := alone' front label begins inner leads
    have inside := high_item label (mem_mappings_of_mappingAt loopless leads)
    have none := absent_below inside.1
    rw [if_neg (by omega)] at counted
    omega

end Covering

end Shared

end PromptWeave
