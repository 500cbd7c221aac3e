/-
**When looking a name up fails.**

On its way through values a name fails in one case only: a part of it that is a row of digits asks for an item
of a sequence and cannot be read, because there are too many of them or because one of them only stands alone. A
name of the first characters fails only by too many digits. Main statements:

* `Value.Stumbles`: some part of a name does;
* `Value.walk_eq_error_iff` and `Mapping.exists_lookup_error_iff`: just then the search fails;
* `Mapping.lookup_eq_error_iff`: the same for names of the first characters.
-/

import PromptWeave.Proofs.Number.Numeral
import PromptWeave.Value.Lookup

namespace PromptWeave

open Text

/-! ### The parts of a name -/

namespace Value

/-- A row of more digits than are read. -/
def IsOverlong (part : Text) : Prop :=
  (∀ c ∈ part, c.isDigit = true) ∧ Numeral.digitLimit < part.length

/-- On their way through a value the parts of a name come to a sequence with a row of too many digits. -/
inductive AsksTooFar : List Text → Value → Prop
  | here {part : Text} {parts : List Text} {value : Value} {frozen : Bool} {items : List Value}
    (met : value.opened = .sequence frozen items) (overlong : IsOverlong part) : AsksTooFar (part :: parts) value
  | inside {part : Text} {parts : List Text} {value inner : Value} (leads : value.step part = .ok (some inner))
    (more : AsksTooFar parts inner) : AsksTooFar (part :: parts) value

/-- A row of digits that cannot be read: there are too many of them, or one of them only stands alone. -/
def IsUnreadable (part : Text) : Prop :=
  (∀ c ∈ part, isDigit c = true) ∧ (Numeral.digitLimit < part.length ∨ ∃ c ∈ part, decimalValue? c = none)

/-- On their way through a value the parts of a name come to a sequence with digits that cannot be read. -/
inductive Stumbles : List Text → Value → Prop
  | here {part : Text} {parts : List Text} {value : Value} {frozen : Bool} {items : List Value}
    (met : value.opened = .sequence frozen items) (unreadable : IsUnreadable part) : Stumbles (part :: parts) value
  | inside {part : Text} {parts : List Text} {value inner : Value} (leads : value.step part = .ok (some inner))
    (more : Stumbles parts inner) : Stumbles (part :: parts) value

theorem IsUnreadable.ne_nil {part : Text} (unreadable : IsUnreadable part) : part ≠ [] := by
  rintro rfl
  rcases unreadable.2 with long | ⟨_, none, -⟩
  · cases long
  · cases none

/-- **One part fails** exactly if it is a row of unreadable digits at a sequence. -/
theorem step_eq_error_iff (part : Text) (value : Value) :
    (∃ fault, value.step part = .error fault) ↔
      (∃ frozen items, value.opened = .sequence frozen items) ∧ IsUnreadable part := by
  cases met : value.opened with
  | sequence frozen items =>
    unfold step
    rw [met]
    dsimp only
    by_cases digits : part ≠ [] ∧ part.all isDigit = true
    · have all := List.all_eq_true.mp digits.2
      have reads := Numeral.read_eq_error_iff all digits.1
      rw [if_pos digits]
      constructor
      · rintro ⟨fault, stops⟩
        cases read : Numeral.read 10 part with
        | error fault => exact ⟨⟨_, _, rfl⟩, all, reads.mp ⟨fault, read⟩⟩
        | ok position =>
          rw [read] at stops
          cases stops
      · rintro ⟨-, -, unreadable⟩
        obtain ⟨fault, read⟩ := reads.mpr unreadable
        rw [read]
        exact ⟨fault, rfl⟩
    · rw [if_neg digits]
      constructor
      · rintro ⟨_, same⟩
        cases same
      · rintro ⟨-, unreadable⟩
        exact absurd ⟨unreadable.ne_nil, List.all_eq_true.mpr unreadable.1⟩ digits
  | _ =>
    unfold step
    rw [met]
    constructor
    · rintro ⟨_, same⟩
      cases same
    · rintro ⟨⟨_, _, same⟩, -⟩
      cases same

/-- **A search fails** exactly if it stumbles. -/
theorem walk_eq_error_iff (parts : List Text) (value : Value) :
    (∃ fault, walk parts value = .error fault) ↔ Stumbles parts value := by
  induction parts generalizing value with
  | nil =>
    constructor
    · rintro ⟨_, same⟩
      cases same
    · intro stumbles
      cases stumbles
  | cons part parts ih =>
    have first := step_eq_error_iff part value
    rw [walk]
    constructor
    · rintro ⟨fault, fails⟩
      split at fails
      · rename_i stops
        obtain ⟨⟨frozen, items, met⟩, unreadable⟩ := first.mp ⟨_, stops⟩
        exact .here met unreadable
      · cases fails
      · rename_i inner leads
        exact .inside leads ((ih inner).mp ⟨fault, fails⟩)
    · intro stumbles
      cases stumbles with
      | here met unreadable =>
        obtain ⟨fault, stops⟩ := first.mpr ⟨⟨_, _, met⟩, unreadable⟩
        rw [stops]
        exact ⟨fault, rfl⟩
      | inside leads more =>
        rw [leads]
        exact (ih _).mpr more

/-! ### Parts of the first characters -/

/-- Among the first characters all digits have a place in a numeral, so only their number counts. -/
theorem isUnreadable_iff_of_small {part : Text} (small : ∀ c ∈ part, c.toNat < 128) :
    IsUnreadable part ↔ IsOverlong part := by
  have valued : ∀ c ∈ part, isDigit c = true → decimalValue? c ≠ none := fun c inside =>
    forall_small (small c inside) (by decide +kernel)
  have row : (∀ c ∈ part, isDigit c = true) ↔ ∀ c ∈ part, c.isDigit = true :=
    forall₂_congr fun c inside => isDigit_iff_of_small (small c inside)
  rw [IsUnreadable, IsOverlong, ← row]
  refine and_congr_right fun digits => or_iff_left ?_
  rintro ⟨c, inside, none⟩
  exact valued c inside (digits c inside) none

theorem stumbles_iff_of_small {parts : List Text} (small : ∀ part ∈ parts, ∀ c ∈ part, c.toNat < 128)
    (value : Value) : Stumbles parts value ↔ AsksTooFar parts value := by
  induction parts generalizing value with
  | nil => exact ⟨nofun, nofun⟩
  | cons part parts ih =>
    obtain ⟨first, later⟩ := List.forall_mem_cons.mp small
    constructor
    · intro stumbles
      cases stumbles with
      | here met unreadable => exact .here met ((isUnreadable_iff_of_small first).mp unreadable)
      | inside leads more => exact .inside leads ((ih later _).mp more)
    · intro far
      cases far with
      | here met overlong => exact .here met ((isUnreadable_iff_of_small first).mpr overlong)
      | inside leads more => exact .inside leads ((ih later _).mpr more)

end Value

namespace Mapping

/-- A name that is no key asks for an item of a sequence by a row of too many digits. -/
def AsksTooFar (bindings : Mapping) (name : Text) : Prop :=
  get? (Key.ofText name) bindings = none ∧ Value.AsksTooFar (splitOn '.' name) (.mapping true bindings)

/-- A name that is no key asks for an item of a sequence by digits that cannot be read. -/
def Stumbles (bindings : Mapping) (name : Text) : Prop :=
  get? (Key.ofText name) bindings = none ∧ Value.Stumbles (splitOn '.' name) (.mapping true bindings)

/-- **Looking a name up fails** exactly if it stumbles. -/
theorem exists_lookup_error_iff (bindings : Mapping) (name : Text) :
    (∃ fault, lookup bindings name = .error fault) ↔ bindings.Stumbles name := by
  have walk := Value.walk_eq_error_iff (splitOn '.' name) (.mapping true bindings)
  unfold lookup
  cases found : get? (Key.ofText name) bindings with
  | some value =>
    constructor
    · rintro ⟨_, same⟩
      cases same
    · rintro ⟨absent, -⟩
      rw [found] at absent
      cases absent
  | none =>
    rw [Stumbles, found, walk]
    exact ⟨fun stumbles => ⟨rfl, stumbles⟩, fun stumbles => stumbles.2⟩

theorem stumbles_iff_of_small {name : Text} (small : ∀ c ∈ name, c.toNat < 128) {bindings : Mapping} :
    bindings.Stumbles name ↔ bindings.AsksTooFar name :=
  and_congr_right fun _ => Value.stumbles_iff_of_small
    (fun _ inside c among => small c ((of_mem_splitOn inside).2 among)) _

/-- **Looking a name of the first characters up fails** exactly if it asks for too much. -/
theorem lookup_eq_error_iff {name : Text} (small : ∀ c ∈ name, c.toNat < 128) {bindings : Mapping} :
    (∃ fault, lookup bindings name = .error fault) ↔ bindings.AsksTooFar name :=
  (exists_lookup_error_iff bindings name).trans (stumbles_iff_of_small small)

end Mapping

end PromptWeave
