/-
**Laying one mapping over another.**

Where both mappings hold mappings under a key, those are laid over each other; otherwise the upper
value counts. The keys of the lower mapping come first. The upper mapping may stand inside itself:
how deep the mappings are laid over each other depends on the lower one alone. Main statements:

* `Mapping.merge`: a mapping laid over another one;
* `Shared.covered`: the same for shared values. The mappings that were laid over each other are
  new, all others stay shared;
* `Mapping.merge_nil`: nothing laid over a mapping leaves it as it is.
-/

import PromptWeave.Value.Shared

namespace PromptWeave

/-- The entries whose keys another mapping does not have. -/
def Entries.without {ν ω : Type} (others : Entries Key ν) (entries : Entries Key ω) :
    Entries Key ω :=
  entries.filter fun entry => (Entries.get? Key.same entry.1 others).isNone

mutual

/-- The entries of a mapping with what is laid over them. -/
def Mapping.covered : List (Key × Value) → (upper : Mapping) → Mapping
  | [], _ => []
  | (key, below) :: base, upper =>
    (key, match Mapping.get? key upper with
      | none => below
      | some value => Value.covered below value) :: Mapping.covered base upper

/-- A value with what is laid over it. -/
def Value.covered : (below value : Value) → Value
  | .mapping false base, value =>
    match value.opened with
    | .mapping false upper =>
      .mapping false (Mapping.covered base upper ++ Entries.without base upper)
    | _ => value
  | .loop label inside, value =>
    Value.replace label (.loop label inside) (Value.covered inside value)
  | _, value => value

end

/-- The entries of a mapping laid over those of another one. -/
def Mapping.merge (base upper : Mapping) : Mapping :=
  Mapping.covered base upper ++ Entries.without base upper

/-- Nothing laid over the entries of a mapping leaves them as they are. -/
theorem Mapping.covered_nil (base : Mapping) : Mapping.covered base [] = base := by
  induction base with
  | nil => simp [Mapping.covered]
  | cons entry base ih => simp [Mapping.covered, Mapping.get?, Entries.get?, ih]

/-- Nothing laid over a mapping leaves it as it is. -/
theorem Mapping.merge_nil (base : Mapping) : Mapping.merge base [] = base := by
  simp [Mapping.merge, Mapping.covered_nil, Entries.without]

mutual

/-- The entries of a shared mapping with what is laid over them, and the next free label. -/
def Shared.coveredFields (next : Nat) :
    List (Key × Shared) → (upper : Entries Key Shared) → Entries Key Shared × Nat
  | [], _ => ([], next)
  | (key, below) :: base, upper =>
    let (item, next) := match Entries.get? Key.same key upper with
      | none => (below, next)
      | some item => Shared.covered next below item
    let (entries, next) := Shared.coveredFields next base upper
    ((key, item) :: entries, next)

/-- A shared value with what is laid over it, and the next free label. Two mappings make a new
one. -/
def Shared.covered (next : Nat) : (below item : Shared) → Shared × Nat
  | .mapping label base, item =>
    match item.opened with
    | .mapping _ upper =>
      let (entries, after) := Shared.coveredFields (next + 1) base upper
      let entries := Shared.replaceFields label (.mapping label base) entries
      (.mapping next (entries ++ Entries.without base upper), after)
    | _ => (item, next)
  | _, item => (item, next)

end

end PromptWeave
