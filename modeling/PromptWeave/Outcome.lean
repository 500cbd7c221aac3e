/-
**Outcomes.**

An operation gives a value or ends with a fault, and either way it has notices to show. Main
definitions:

* `Outcome`: a value or a fault, with notices;
* `Outcome.andThen`: one operation after another, the notices of both in order;
* `Outcome.result_andThen`: what it gives is what the second one gives for the first one's value.
-/

import PromptWeave.Failure
import PromptWeave.Notice

namespace PromptWeave

/-- The outcome of an operation together with its notices. -/
structure Outcome (α : Type) where
  result : Except Fault α
  notices : List Notice

namespace Outcome

variable {α β : Type}

/-- An outcome without notices. -/
def quiet (result : Except Fault α) : Outcome α := ⟨result, []⟩

/-- The outcome with a function applied to what it gives. -/
def map (f : α → β) (outcome : Outcome α) : Outcome β := ⟨outcome.result.map f, outcome.notices⟩

/-- The outcome after earlier notices. -/
def after (notices : List Notice) (outcome : Outcome α) : Outcome α :=
  ⟨outcome.result, notices ++ outcome.notices⟩

/-- Goes on with what an outcome gives. -/
def andThen (outcome : Outcome α) (next : α → Outcome β) : Outcome β :=
  match outcome.result with
  | .error fault => ⟨.error fault, outcome.notices⟩
  | .ok value => (next value).after outcome.notices

theorem result_andThen (outcome : Outcome α) (next : α → Outcome β) :
    (outcome.andThen next).result = outcome.result.bind fun value => (next value).result := by
  unfold andThen
  cases outcome.result with
  | error fault => rfl
  | ok value => rfl

/-- Two results in a row give a value if the first one does and the second one does for it. -/
theorem bind_eq_ok_iff {result : Except Fault α} {next : α → Except Fault β} {value : β} :
    result.bind next = .ok value ↔ ∃ given, result = .ok given ∧ next given = .ok value := by
  cases result with
  | error fault => exact ⟨fun same => (by cases same), fun ⟨_, same, _⟩ => (by cases same)⟩
  | ok given =>
    constructor
    · intro same
      exact ⟨given, rfl, same⟩
    · rintro ⟨other, same, given⟩
      cases same
      exact given

end Outcome

end PromptWeave
