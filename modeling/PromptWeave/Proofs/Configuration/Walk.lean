/-
**Where a setting is stored.**

The path of a setting leads through nested mappings, and the last mapping on the way is the one that is
changed. A path that leads to an old mapping after a change, or after new settings were laid over the
others, led to that mapping before. Main statements:

* `Shared.mappingAt`: the mapping that a path leads to;
* `Shared.exists_mappingAt_of_assignment?` and `Shared.assignment?_of_mappingAt`: storing a setting changes
  the mapping that a front of its path leads to, and any such mapping can be changed;
* `Shared.mappingAt_update` and `Shared.mappingAt_covered`: no old mapping comes to stand elsewhere.
-/

import PromptWeave.Configuration.Override
import PromptWeave.Proofs.Value.Distinct

namespace PromptWeave

namespace Shared

/-- The label of the mapping that a path leads to. -/
def mappingAt : (path : List Key) → Shared → Option Nat
  | [], shared =>
    match shared.opened with
    | .mapping label _ => some label
    | _ => none
  | key :: path, shared =>
    match shared.opened with
    | .mapping _ entries => (Entries.get? Key.same key entries).bind (mappingAt path)
    | _ => none

section Steps

variable {rule : Rule} {path : List Key} {key : Key} {label : Nat} {shared item : Shared}

theorem mappingAt_cons {other : Nat} {entries : List (Key × Shared)}
    (opens : shared.opened = .mapping other entries) :
    mappingAt (key :: path) shared = (Entries.get? Key.same key entries).bind (mappingAt path) := by
  rw [mappingAt, opens]

theorem mappingAt_other (other : ∀ label entries, shared.opened ≠ .mapping label entries) :
    mappingAt (key :: path) shared = none := by
  rw [mappingAt]
  split
  · rename_i opens
    exact absurd opens (other _ _)
  · rfl

/-- The first step of a path that leads somewhere. -/
theorem exists_of_mappingAt_cons (leads : mappingAt (key :: path) shared = some label) :
    ∃ other entries inner, shared.opened = .mapping other entries ∧
      Entries.get? Key.same key entries = some inner ∧ mappingAt path inner = some label := by
  cases opens : shared.opened with
  | mapping other entries =>
    rw [mappingAt_cons opens] at leads
    obtain ⟨inner, found, leads⟩ := Option.bind_eq_some_iff.mp leads
    exact ⟨other, entries, inner, rfl, found, leads⟩
  | _ =>
    rw [mappingAt, opens] at leads
    cases leads

/-- A path leads to the labels that are there. -/
theorem Obeys.mappingAt (obeys : Obeys rule shared)
    (leads : Shared.mappingAt path shared = some label) : rule.label label := by
  induction path generalizing shared with
  | nil =>
    have opened := obeys.opened
    rw [Shared.mappingAt] at leads
    split at leads
    · rename_i opens
      rw [opens] at opened
      cases leads
      exact opened.1
    · cases leads
  | cons key path ih =>
    obtain ⟨other, entries, inner, opens, found, leads⟩ := exists_of_mappingAt_cons leads
    have opened := obeys.opened
    rw [opens] at opened
    exact ih (ObeyFields.get? opened.2 found) leads

/-! ### Storing a setting -/

section Assignments

variable {next : Nat} {part : Key} {entries : List (Key × Shared)}

theorem assignment?_last (opens : shared.opened = .mapping label entries) :
    assignment? next item [key] shared = some ⟨label, key, item⟩ := by
  rw [assignment?.eq_def]
  simp only [opens]

theorem assignment?_step {inner : Nat} {inside : List (Key × Shared)}
    (opens : shared.opened = .mapping label entries)
    (found : Entries.get? Key.same key entries = some (.mapping inner inside)) :
    assignment? next item (key :: part :: path) shared =
      assignment? next item (part :: path) (.mapping inner inside) := by
  rw [assignment?.eq_def]
  simp only [opens, found]

theorem assignment?_nest (opens : shared.opened = .mapping label entries)
    (other : ∀ inner inside, Entries.get? Key.same key entries ≠ some (.mapping inner inside)) :
    assignment? next item (key :: part :: path) shared =
      some ⟨label, key, nest next item (part :: path)⟩ := by
  rw [assignment?.eq_def]
  simp only [opens]

theorem assignment?_other (other : ∀ label entries, shared.opened ≠ .mapping label entries) :
    assignment? next item path shared = none := by
  rw [assignment?.eq_def]
  split
  · rfl
  · split
    · rename_i opens
      exact absurd opens (other _ _)
    · rename_i opens
      exact absurd opens (other _ _)
    · rfl

end Assignments

/-- **Storing a setting changes the mapping that a front of its path leads to.** What is left of the path
makes new mappings. -/
theorem exists_mappingAt_of_assignment? {next : Nat} {assignment : Assignment}
    (stored : assignment? next item path shared = some assignment) :
    ∃ front rest, path = front ++ assignment.key :: rest ∧
      mappingAt front shared = some assignment.label ∧ assignment.item = nest next item rest := by
  induction path generalizing shared with
  | nil => cases stored
  | cons key path ih =>
    by_cases opens : ∃ label entries, shared.opened = .mapping label entries
    · obtain ⟨label, entries, opens⟩ := opens
      have here : mappingAt [] shared = some label := by rw [mappingAt, opens]
      cases path with
      | nil =>
        rw [assignment?_last opens] at stored
        cases stored
        exact ⟨[], [], rfl, here, rfl⟩
      | cons part path =>
        by_cases inner : ∃ inner inside, Entries.get? Key.same key entries =
            some (.mapping inner inside)
        · obtain ⟨inner, inside, found⟩ := inner
          rw [assignment?_step opens found] at stored
          obtain ⟨front, rest, split, leads, same⟩ := ih stored
          refine ⟨key :: front, rest, by rw [split, List.cons_append], ?_, same⟩
          rw [mappingAt_cons opens, found, Option.bind_some, leads]
        · rw [assignment?_nest opens fun l es found => inner ⟨l, es, found⟩] at stored
          cases stored
          exact ⟨[], part :: path, rfl, here, rfl⟩
    · rw [assignment?_other fun l es same => opens ⟨l, es, same⟩] at stored
      cases stored

theorem exists_mapping_of_mappingAt (leads : mappingAt path shared = some label) :
    ∃ label entries, shared = .mapping label entries := by
  cases shared with
  | mapping label entries => exact ⟨label, entries, rfl⟩
  | _ => cases path <;> cases leads

/-- **Any mapping that a path leads to can be changed.** -/
theorem assignment?_of_mappingAt (next : Nat) (item : Shared) (key : Key)
    (leads : mappingAt path shared = some label) :
    assignment? next item (path ++ [key]) shared = some ⟨label, key, item⟩ := by
  induction path generalizing shared with
  | nil =>
    rw [mappingAt] at leads
    split at leads
    · rename_i opens
      cases leads
      exact assignment?_last opens
    · cases leads
  | cons first path ih =>
    obtain ⟨other, entries, inner, opens, found, leads⟩ := exists_of_mappingAt_cons leads
    obtain ⟨inner, inside, rfl⟩ := exists_mapping_of_mappingAt leads
    have later := ih leads
    obtain ⟨part, more, behind⟩ := List.exists_cons_of_ne_nil (List.concat_ne_nil key path)
    rw [behind] at later
    rw [List.cons_append, behind, assignment?_step opens found]
    exact later

end Steps

/-- New mappings around an item obey its rule, if it holds for their labels. -/
theorem Obeys.nest {rule : Rule} {next : Nat} {item : Shared} (obeys : Obeys rule item)
    (path : List Key) (fresh : ∀ l, next ≤ l → l < next + path.length → rule.label l) :
    Obeys rule (Shared.nest next item path) := by
  induction path generalizing next with
  | nil => exact obeys
  | cons key path ih =>
    rw [List.length_cons] at fresh
    exact ⟨fresh next (Nat.le_refl _) (by omega), ih fun l low high => fresh l (by omega) (by omega),
      trivial⟩

/-- New mappings around an item stand in one place each. -/
theorem nodup_nest {first bound next : Nat} {item : Shared} (obeys : Obeys (.between first bound) item)
    (unique : item.labels.Nodup) (later : bound ≤ next) (path : List Key) :
    (nest next item path).labels.Nodup := by
  induction path generalizing next with
  | nil => exact unique
  | cons key path ih =>
    have inside : Obeys (.onLabels (· ≠ next)) (nest (next + 1) item path) := by
      refine Obeys.nest (obeys.mono (Rule.implies_onLabels fun inside => ?_)) path
        fun l low _ => Nat.ne_of_gt low
      exact Nat.ne_of_lt (Nat.lt_of_lt_of_le inside.2 later)
    have labels : (nest next item (key :: path)).labels =
        next :: ((nest (next + 1) item path).labels ++ []) := rfl
    rw [labels, List.append_nil]
    exact List.nodup_cons.mpr ⟨fun here => inside.forall_labels next here rfl,
      ih (Nat.le_succ_of_le later)⟩

/-! ### Old mappings -/

section Old

variable {old : Nat} {path : List Key} {label : Nat}

/-- A rule by which all labels are new and none is named. -/
def newUnnamed (old : Nat) : Rule := ⟨fun l => old ≤ l, fun _ => False, fun _ => True⟩

/-- **After a new item is stored somewhere, a path that leads to an old mapping led there before.** -/
theorem mappingAt_update {item : Shared} (new : Obeys (newUnnamed old) item) {changed : Nat} {key : Key}
    {shared : Shared}
    (leads : mappingAt path (shared.update changed (Entries.put Key.same key item)) = some label)
    (before : label < old) : mappingAt path shared = some label := by
  have opening (shared : Shared) := opened_update (fun _ => id) new changed key shared
  induction path generalizing shared with
  | nil =>
    rw [mappingAt, opening] at leads
    rw [mappingAt]
    cases opens : shared.opened with
    | mapping other entries =>
      rw [opens, update] at leads
      exact leads
    | _ =>
      rw [opens, update] at leads
      cases leads
  | cons first path ih =>
    obtain ⟨other, entries, inner, opens, found, leads⟩ := exists_of_mappingAt_cons leads
    rw [opening] at opens
    cases opens' : shared.opened with
    | mapping other' entries' =>
      rw [opens', update] at opens
      obtain ⟨rfl, same⟩ := Shared.mapping.inj opens
      rw [mappingAt_cons opens']
      -- What is found is the new item, in which no path leads to an old mapping, or it was there.
      have there : Entries.get? Key.same first
          (updateFields changed (Entries.put Key.same key item) entries') = some inner := by
        split at same
        · rw [← same] at found
          rcases Entries.get?_put_or first with stored | kept
          · rw [stored] at found
            cases found
            exact absurd (Obeys.mappingAt new leads) (Nat.not_le_of_lt before)
          · rw [← kept, found]
        · rw [same, found]
      rw [get?_updateFields] at there
      obtain ⟨inner', found', rfl⟩ := Option.map_eq_some_iff.mp there
      rw [found', Option.bind_some]
      exact ih leads
    | _ =>
      rw [opens', update] at opens
      cases opens

/-- Settings that are laid over others: all their labels are new, and the labels that they name are above
those of the others and below the next free one. -/
def upperRule (old low next : Nat) : Rule :=
  ⟨fun l => old ≤ l, fun l => low ≤ l ∧ l < next, fun _ => True⟩

/-- Settings that others are laid over: they name no labels. -/
def lowerRule (low : Nat) : Rule := ⟨fun l => l < low, fun _ => False, fun _ => True⟩

theorem upperRule_implies {old old' low next next' : Nat} (early : old' ≤ old) (raised : next ≤ next') :
    (upperRule old low next).Implies (upperRule old' low next') where
  label := Nat.le_trans early
  name inside := ⟨inside.1, Nat.lt_of_lt_of_le inside.2 raised⟩
  plain := id

theorem lowerRule_implies (low next : Nat) : (lowerRule low).Implies (upperRule 0 low next) where
  label _ := Nat.zero_le _
  name := False.elim
  plain := id

section Covering

variable {low : Nat}

mutual

/-- **After new settings are laid over others, a path that leads to an old mapping led there before.** -/
theorem mappingAt_covered {next : Nat} (later : old ≤ next) (apart : low ≤ next) :
    (below item : Shared) → Obeys (lowerRule low) below → Obeys (upperRule old low next) item →
      ∀ {path}, mappingAt path (covered next below item).1 = some label → label < old →
        mappingAt path below = some label
  | .mapping lowest base, item, lower, new, path, leads, before => by
    by_cases opens : ∃ other upper, item.opened = .mapping other upper
    · obtain ⟨other, upper, opens⟩ := opens
      have inside : ObeyFields (upperRule old low next) upper :=
        (opens ▸ new.opened : Obeys _ (.mapping other upper)).2
      have named : ObeyFields (upperRule 0 low next) upper :=
        inside.mono (upperRule_implies (Nat.zero_le _) (Nat.le_refl _))
      have fields : ObeyFields (upperRule 0 low next) (coveredFields (next + 1) base upper).1 :=
        ObeyFields.coveredFields (next + 1) base upper (lower.2.mono (lowerRule_implies ..)) named
          fun _ _ _ => Nat.zero_le _
      have notNext : ∀ l, (upperRule 0 low next).name l → l ≠ next := fun _ name => Nat.ne_of_lt name.2
      have notLowest : ∀ l, (upperRule 0 low next).name l → l ≠ lowest :=
        fun _ name => Nat.ne_of_gt (Nat.lt_of_lt_of_le lower.1 name.1)
      have whole : (Shared.mapping next ((coveredFields (next + 1) base upper).1 ++
          Entries.without base upper)).opened = .mapping next _ :=
        opened_mapping notNext (fields.append (named.without base))
      rw [covered_of_mapping opens, replaceFields_of_unnamed notLowest _ _ fields] at leads
      cases path with
      | nil =>
        rw [mappingAt, whole] at leads
        cases leads
        exact absurd later (Nat.not_le_of_lt before)
      | cons key path =>
        rw [mappingAt_cons whole, Entries.get?_append] at leads
        rw [mappingAt_cons (opened_of_unnamed (fun _ => id) lower)]
        obtain ⟨inner, found, leads⟩ := Option.bind_eq_some_iff.mp leads
        rcases Option.or_eq_some_iff.mp found with found | ⟨_, found⟩
        · obtain ⟨below, found, leads⟩ := mappingAt_coveredFields (Nat.le_succ_of_le later)
            (Nat.le_succ_of_le apart) base upper lower.2
            (inside.mono (upperRule_implies (Nat.le_refl _) (Nat.le_succ next))) found leads before
          rw [found, Option.bind_some, leads]
        · have new := (inside.without base).get? found
          exact absurd (Obeys.mappingAt new leads) (Nat.not_le_of_lt before)
    · rw [covered_of_other (by rintro _ _ other upper - same; exact opens ⟨other, upper, same⟩)] at leads
      exact absurd (Obeys.mappingAt new leads) (Nat.not_le_of_lt before)
  | .plain _, _, _, new, _, leads, before =>
    absurd (Obeys.mappingAt new leads) (Nat.not_le_of_lt before)
  | .sequence _ _ _, _, _, new, _, leads, before =>
    absurd (Obeys.mappingAt new leads) (Nat.not_le_of_lt before)
  | .again _, _, _, new, _, leads, before =>
    absurd (Obeys.mappingAt new leads) (Nat.not_le_of_lt before)

theorem mappingAt_coveredFields {next : Nat} (later : old ≤ next) (apart : low ≤ next) :
    (base : List (Key × Shared)) → (upper : Entries Key Shared) → ObeyFields (lowerRule low) base →
      ObeyFields (upperRule old low next) upper → ∀ {key inner path},
        Entries.get? Key.same key (coveredFields next base upper).1 = some inner →
          mappingAt path inner = some label → label < old →
            ∃ below, Entries.get? Key.same key base = some below ∧ mappingAt path below = some label
  | [], _, _, _, _, _, _, found, _, _ => by cases found
  | (other, below) :: base, upper, lower, new, key, inner, path, found, leads, before => by
    rw [coveredFields_cons, Entries.get?] at found
    rw [Entries.get?]
    split at found
    · rename_i here
      cases found
      rw [if_pos here]
      refine ⟨below, rfl, ?_⟩
      rw [laid] at leads
      split at leads
      · exact leads
      · rename_i item found
        exact mappingAt_covered later apart below item lower.1 (new.get? found) leads before
    · rename_i elsewhere
      rw [if_neg elsewhere]
      have raised := le_laid next other below upper
      exact mappingAt_coveredFields (Nat.le_trans later raised) (Nat.le_trans apart raised) base upper
        lower.2 (new.mono (upperRule_implies (Nat.le_refl _) raised)) found leads before

end

end Covering

end Old

end Shared

end PromptWeave
