/-
**Keys that are the same.**

Being the same is an equivalence of keys. So the keys that are the same as one key name the same entry
everywhere, and entries can be searched for any of them. Main statements:

* `Key.same_congr`: two keys that are the same are the same as the same keys;
* `Entries.get?_congr`: and name the same entry;
* `Entries.get?_without`: what is under a key in the entries whose keys others do not have.
-/

import PromptWeave.Value.Merge

namespace PromptWeave

namespace Moment

theorem same_congr {first second : Moment} (alike : first.same second = true) (third : Moment) :
    first.same third = second.same third := by
  unfold same at alike ⊢
  cases here : first.offset <;> cases there : second.offset <;> rw [here, there] at alike
  · rw [beq_iff_eq.mp alike]
  · cases alike
  · cases alike
  · cases third.offset with
    | none => rfl
    | some offset => simp only [beq_iff_eq.mp alike]

end Moment

namespace Atom

/-- Atoms of which one is no moment are compared by what they count as. -/
theorem same_of_ne_moment {first : Atom} (other : ∀ moment, first ≠ .moment moment) (second : Atom) :
    same first second = (first.canonical == second.canonical) := by
  cases first with
  | moment moment => exact absurd rfl (other moment)
  | _ => rfl

/-- Only a moment counts as a moment. -/
theorem canonical_eq_moment {atom : Atom} {moment : Moment} (counts : atom.canonical = .moment moment) :
    atom = .moment moment := by
  unfold canonical at counts
  split at counts
  · cases counts
  · split at counts <;> cases counts
  · exact counts

/-- Only moments are the same as a moment. -/
theorem exists_moment_of_same {moment : Moment} {other : Atom} (alike : same (.moment moment) other = true) :
    ∃ moment', other = .moment moment' := by
  cases other with
  | moment moment' => exact ⟨moment', rfl⟩
  | _ => exact ⟨moment, canonical_eq_moment (beq_iff_eq.mp alike).symm⟩

theorem same_congr {first second : Atom} (alike : same first second = true) (third : Atom) :
    same first third = same second third := by
  by_cases clock : ∃ moment, first = .moment moment
  · obtain ⟨moment, rfl⟩ := clock
    obtain ⟨moment', rfl⟩ := exists_moment_of_same alike
    by_cases clock : ∃ moment'', third = .moment moment''
    · obtain ⟨moment'', rfl⟩ := clock
      exact Moment.same_congr alike moment''
    · rw [Bool.eq_false_iff.mpr (mt exists_moment_of_same clock),
        Bool.eq_false_iff.mpr (mt exists_moment_of_same clock)]
  · have other : ∀ moment, first ≠ .moment moment := fun moment same => clock ⟨moment, same⟩
    rw [same_of_ne_moment other, beq_iff_eq] at alike
    have other' : ∀ moment, second ≠ .moment moment := fun moment same =>
      other moment (canonical_eq_moment (alike.trans (congrArg canonical same)))
    rw [same_of_ne_moment other, same_of_ne_moment other', alike]

end Atom

namespace Key

mutual

/-- **Two keys that are the same are the same as the same keys.** -/
theorem same_congr : {first second : Key} → same first second = true → (third : Key) →
    same first third = same second third
  | .atom _, .atom _, alike, .atom _ => Atom.same_congr alike _
  | .atom _, .atom _, _, .tuple _ => rfl
  | .tuple _, .tuple _, _, .atom _ => rfl
  | .tuple _, .tuple _, alike, .tuple _ => sameAll_congr alike _
  | .atom _, .tuple _, alike, _ => by cases alike
  | .tuple _, .atom _, alike, _ => by cases alike

theorem sameAll_congr : {firsts seconds : List Key} → sameAll firsts seconds = true →
    (thirds : List Key) → sameAll firsts thirds = sameAll seconds thirds
  | [], [], _, _ => rfl
  | [], _ :: _, alike, _ => by cases alike
  | _ :: _, [], alike, _ => by cases alike
  | first :: firsts, second :: seconds, alike, thirds => by
    rw [sameAll, Bool.and_eq_true] at alike
    cases thirds with
    | nil => rfl
    | cons third thirds =>
      rw [sameAll, sameAll, same_congr alike.1 third, sameAll_congr alike.2 thirds]

end

theorem same_symm {first second : Key} (alike : same first second = true) : same second first = true :=
  (same_congr alike first).symm.trans (same_refl first)

end Key

/-! ### Entries searched for a key -/

namespace Entries

variable {ν ω : Type} {key other : Key} {entries : Entries Key ν}

/-- **Two keys that are the same name the same entry.** -/
theorem get?_congr (alike : Key.same key other = true) (entries : Entries Key ν) :
    get? Key.same key entries = get? Key.same other entries := by
  induction entries with
  | nil => rfl
  | cons entry entries ih => rw [get?, get?, Key.same_congr alike, ih]

theorem get?_eq_none_iff : get? Key.same key entries = none ↔
    ∀ entry ∈ entries, Key.same key entry.1 = false := by
  induction entries with
  | nil => exact ⟨fun _ _ none => absurd none List.not_mem_nil, fun _ => rfl⟩
  | cons entry entries ih =>
    rw [get?, List.forall_mem_cons]
    split
    · rename_i here
      exact ⟨nofun, fun apart => absurd here (Bool.eq_false_iff.mp apart.1)⟩
    · rename_i elsewhere
      rw [ih]
      exact ⟨fun apart => ⟨Bool.eq_false_iff.mpr elsewhere, apart⟩, And.right⟩

theorem get?_filter_of_kept {keep : Key × ν → Bool}
    (kept : ∀ entry, Key.same key entry.1 = true → keep entry = true) :
    get? Key.same key (entries.filter keep) = get? Key.same key entries := by
  induction entries with
  | nil => rfl
  | cons entry entries ih =>
    by_cases here : Key.same key entry.1 = true
    · rw [List.filter_cons_of_pos (kept entry here), get?, get?, if_pos here, if_pos here]
    · rw [List.filter_cons]
      split
      · rw [get?, get?, if_neg here, if_neg here, ih]
      · rw [get?, if_neg here, ih]

theorem get?_filter_of_dropped {keep : Key × ν → Bool}
    (dropped : ∀ entry, Key.same key entry.1 = true → keep entry = false) :
    get? Key.same key (entries.filter keep) = none := by
  refine get?_eq_none_iff.mpr fun entry inside => Bool.eq_false_iff.mpr fun alike => ?_
  rw [List.mem_filter, dropped entry alike] at inside
  exact Bool.false_ne_true inside.2

/-- What is under a key in the entries whose keys others do not have. -/
theorem get?_without (others : Entries Key ω) :
    get? Key.same key (without others entries) =
      if (get? Key.same key others).isNone then get? Key.same key entries else none := by
  split
  · rename_i absent
    exact get?_filter_of_kept fun entry alike => by rwa [← get?_congr alike]
  · rename_i present
    refine get?_filter_of_dropped fun entry alike => ?_
    rwa [← get?_congr alike, ← Bool.not_eq_true]

end Entries

end PromptWeave
