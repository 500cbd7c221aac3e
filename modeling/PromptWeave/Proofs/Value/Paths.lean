/-
**Values under paths of keys.**

A path of keys leads through nested mappings. Storing a value at a path makes the mappings on the way that
are not there, and replaces what is on the way and is no mapping. It changes what is at that path and
nothing at a path that is apart from it. Main statements:

* `Value.at?`: what is at a path;
* `Value.store`: a value with an item stored at a path;
* `Value.at?_store_self` and `Value.at?_store_of_apart`: what is where after that;
* `Value.at?_storeAll`: after a row of stores the last one at a path counts.
-/

import Mathlib.Data.List.Induction
import PromptWeave.Proofs.Value.Labels

namespace PromptWeave

/-! ### Names as keys -/

namespace Key

theorem same_ofString_right {name : String} {key : Key}
    (alike : same key (ofString name) = true) : key = ofString name := by
  cases key with
  | tuple items => simp [ofString, same] at alike
  | atom value =>
    simp only [ofString, same, Atom.same, Atom.canonical, beq_iff_eq] at alike
    cases value with
    | string other => exact congrArg (atom ∘ Atom.string) (Atom.string.inj alike)
    | fraction value =>
      dsimp only at alike
      split at alike <;> cases alike
    | _ => cases alike

/-- **A name is the same as no other key.** -/
theorem same_ofString_iff {name : String} {key : Key} :
    same (ofString name) key = true ↔ key = ofString name := by
  constructor
  · intro alike
    cases key with
    | tuple items => simp [ofString, same] at alike
    | atom value =>
      simp only [ofString, same, Atom.same, Atom.canonical, beq_iff_eq] at alike
      cases value with
      | string other => exact congrArg (atom ∘ Atom.string) (Atom.string.inj alike.symm)
      | fraction value =>
        dsimp only at alike
        split at alike <;> cases alike
      | _ => cases alike
  · rintro rfl
    exact same_refl _

/-- Whether a key is a name. -/
def IsName (key : Key) : Prop := ∃ name, key = ofString name

theorem IsName.same_left {key other : Key} (named : key.IsName) : same key other = true ↔ other = key := by
  obtain ⟨name, rfl⟩ := named
  exact same_ofString_iff

theorem IsName.same_right {key other : Key} (named : key.IsName) :
    same other key = true ↔ other = key := by
  obtain ⟨name, rfl⟩ := named
  exact ⟨same_ofString_right, fun alike => alike ▸ same_refl _⟩

end Key

namespace Mapping

variable {key other : Key} {entries : Mapping}

/-- Storing a value under a name leaves what is under other keys. -/
theorem get?_put_of_ne (named : key.IsName) (apart : other ≠ key) (value : Value) :
    get? other (put key value entries) = get? other entries := by
  obtain ⟨name, rfl⟩ := named
  have elsewhere : Key.same other (Key.ofString name) = false :=
    Bool.eq_false_iff.mpr fun alike => apart (Key.same_ofString_right alike)
  unfold get? put
  induction entries with
  | nil => simp [Entries.put, Entries.get?, elsewhere]
  | cons entry entries ih =>
    obtain ⟨first, old⟩ := entry
    rw [Entries.put]
    split
    · rename_i here
      rw [Key.same_ofString_iff.mp here, Entries.get?, Entries.get?, elsewhere]
      rfl
    · rw [Entries.get?, Entries.get?, ih]

end Mapping

/-! ### Paths -/

namespace Value

/-- What is at a path of keys, if the path leads through mappings. -/
def at? : List Key → Value → Option Value
  | [], value => some value
  | key :: path, value =>
    match value.opened with
    | .mapping false entries => (Mapping.get? key entries).bind (at? path)
    | _ => none

/-- The entries of a mapping; what is none has no entries. -/
def entriesOf (value : Value) : Mapping :=
  match value.opened with
  | .mapping false entries => entries
  | _ => []

/-- A value with an item stored at a path. Whatever is on the way and is no mapping is replaced by a new
one. -/
def store : (path : List Key) → (value item : Value) → Value
  | [], _, item => item
  | key :: path, value, item =>
    let inner := (Mapping.get? key value.entriesOf).getD .null
    .mapping false (Mapping.put key (store path inner item) value.entriesOf)

theorem at?_cons (key : Key) (path : List Key) (value : Value) :
    value.at? (key :: path) = (Mapping.get? key value.entriesOf).bind (at? path) := by
  rw [at?, entriesOf]
  split
  · rfl
  · rfl

theorem entriesOf_mapping (entries : Mapping) : entriesOf (.mapping false entries) = entries := rfl

/-- **What was stored at a path is there.** -/
theorem at?_store_self (path : List Key) (value item : Value) :
    (value.store path item).at? path = some item := by
  induction path generalizing value with
  | nil => rfl
  | cons key path ih =>
    rw [store, at?_cons, entriesOf_mapping, Mapping.get?, Mapping.put,
      Entries.get?_put (Key.same_refl key)]
    exact ih _

/-- Two paths of which neither leads to a part of what the other one leads to. -/
def Apart (path other : List Key) : Prop := ¬ path <+: other ∧ ¬ other <+: path

theorem apart_of_ne {first second : Key} (different : first ≠ second) {path other : List Key} :
    Apart (first :: path) (second :: other) :=
  ⟨fun begins => different (List.cons_prefix_cons.mp begins).1,
    fun begins => different (List.cons_prefix_cons.mp begins).1.symm⟩

/-- **What is stored at a path of names changes nothing apart from it.** -/
theorem at?_store_of_apart {path other : List Key} (named : ∀ key ∈ path, key.IsName)
    (apart : Apart path other) (value item : Value) :
    (value.store path item).at? other = value.at? other := by
  induction path generalizing other value with
  | nil => exact absurd List.nil_prefix apart.1
  | cons key path ih =>
    cases other with
    | nil => exact absurd List.nil_prefix apart.2
    | cons first other =>
      rw [List.forall_mem_cons] at named
      rw [store, at?_cons, at?_cons, entriesOf_mapping]
      by_cases same : first = key
      · subst same
        have inside : Apart path other :=
          ⟨fun begins => apart.1 (List.cons_prefix_cons.mpr ⟨rfl, begins⟩),
            fun begins => apart.2 (List.cons_prefix_cons.mpr ⟨rfl, begins⟩)⟩
        obtain ⟨part, rest, rfl⟩ := List.exists_cons_of_ne_nil
          (show other ≠ [] from fun none => inside.2 (none ▸ List.nil_prefix))
        rw [Mapping.get?, Mapping.put, Entries.get?_put (Key.same_refl first), Option.bind_some,
          ih named.2 inside]
        cases Mapping.get? first value.entriesOf with
        | none => rfl
        | some inner => rfl
      · rw [Mapping.get?_put_of_ne named.1 same]

/-- A value after a row of stores. -/
def storeAll (layers : List (List Key × Value)) (value : Value) : Value :=
  layers.foldl (fun value layer => value.store layer.1 layer.2) value

/-- A path of names is the same as no other path. -/
theorem sameAll_iff_of_named {path other : List Key} (named : ∀ key ∈ path, key.IsName) :
    Key.sameAll path other = true ↔ other = path := by
  induction path generalizing other with
  | nil => cases other <;> simp [Key.sameAll]
  | cons key path ih =>
    rw [List.forall_mem_cons] at named
    obtain ⟨⟨name, rfl⟩, named⟩ := named
    cases other with
    | nil => simp [Key.sameAll]
    | cons first other =>
      rw [Key.sameAll, Bool.and_eq_true, Key.same_ofString_iff, ih named, List.cons.injEq]

/-- **After a row of stores the last one at a path counts**, if all others are apart from it. -/
theorem at?_storeAll {layers : List (List Key × Value)} {path : List Key}
    (named : ∀ layer ∈ layers, ∀ key ∈ layer.1, key.IsName)
    (apart : ∀ layer ∈ layers, layer.1 ≠ path → Apart layer.1 path) (value : Value) :
    (value.storeAll layers).at? path =
      ((layers.reverse.find? fun layer => Key.sameAll layer.1 path).map (·.2)).or
        (value.at? path) := by
  induction layers using List.reverseRecOn with
  | nil => rfl
  | append_singleton layers last ih =>
    rw [List.forall_mem_append, List.forall_mem_singleton] at named apart
    have stored : value.storeAll (layers ++ [last]) = (value.storeAll layers).store last.1 last.2 := by
      rw [storeAll, List.foldl_append]
      rfl
    rw [stored, List.reverse_concat, List.find?_cons]
    by_cases same : last.1 = path
    · subst same
      rw [(sameAll_iff_of_named named.2).mpr rfl, at?_store_self]
      rfl
    · have other : Key.sameAll last.1 path = false := by
        rw [← Bool.not_eq_true, sameAll_iff_of_named named.2]
        exact Ne.symm same
      rw [other, at?_store_of_apart named.2 (apart.2 same)]
      exact ih named.1 apart.1

end Value

end PromptWeave
