/-
**Checks do not depend on labels.**

A configuration and the same one with other labels violate a schema in the same way, with the same words.
Main statements:

* `Schema.violations_rename`: the violations of a renamed value;
* `Schema.check_rename`: a check of a renamed value.
-/

import PromptWeave.Configuration.Schema
import PromptWeave.Proofs.Value.Renaming

namespace PromptWeave.Schema

variable {f : Nat → Nat}

theorem isOfKind_rename (injective : Function.Injective f) (schema : Schema) (value : Value) :
    schema.isOfKind (value.rename f) = schema.isOfKind value := by
  unfold isOfKind
  rw [Value.opened_rename injective]
  cases value.opened with
  | mapping frozen entries => cases schema <;> cases frozen <;> rfl
  | _ => cases schema <;> rfl

theorem isBelow_rename (minimum : Int) (value : Value) :
    isBelow minimum (value.rename f) = isBelow minimum value := by
  cases value <;> rfl

theorem kindViolations_rename (injective : Function.Injective f) (schema : Schema)
    (location : List String) (value : Value) :
    kindViolations schema location (value.rename f) = kindViolations schema location value := by
  rw [kindViolations, kindViolations, isOfKind_rename injective, kindWords, kindWords,
    Value.literal_rename injective]

theorem surplusViolations_rename (injective : Function.Injective f) (names location : List String)
    (value : Value) :
    surplusViolations names location (value.rename f) = surplusViolations names location value := by
  rw [surplusViolations, surplusViolations, Value.opened_rename injective]
  cases value.opened with
  | mapping frozen entries =>
    cases frozen
    · dsimp only [Value.rename]
      rw [Value.keys_renameFields]
    · rfl
  | _ => rfl

mutual

/-- **The violations of a renamed value**: the same, with the same words. -/
theorem violations_rename (injective : Function.Injective f) (location : List String) (value : Value) :
    (schema : Schema) → schema.violations location (value.rename f) = schema.violations location value
  | .fields properties => by
    rw [violations, violations, kindViolations_rename injective, surplusViolations_rename injective,
      propertyViolations_rename injective location value properties]
  | .integer minimum => by
    rw [violations, violations, kindViolations_rename injective, isBelow_rename, minimumWords,
      minimumWords, Value.literal_rename injective]
  | .optionalString => by rw [violations, violations, kindViolations_rename injective]
  | .boolean => by rw [violations, violations, kindViolations_rename injective]

theorem propertyViolations_rename (injective : Function.Injective f) (location : List String)
    (value : Value) : (properties : List (String × Schema)) →
      propertyViolations location (value.rename f) properties =
        propertyViolations location value properties
  | [] => by rw [propertyViolations, propertyViolations]
  | (name, schema) :: properties => by
    rw [propertyViolations, propertyViolations, Value.opened_rename injective,
      propertyViolations_rename injective location value properties]
    congr 1
    cases value.opened with
    | mapping frozen entries =>
      cases frozen
      · dsimp only [Value.rename]
        rw [Mapping.named?, Mapping.named?, Value.get?_renameFields]
        cases Mapping.get? (Key.ofString name) entries with
        | none => rfl
        | some item => exact violations_rename injective (location ++ [name]) item schema
      · rfl
    | _ => rfl

end

/-- **A renamed value passes a check exactly if the value does**, or fails with the same words. -/
theorem check_rename (injective : Function.Injective f) (schema : Schema) (value : Value) :
    schema.check (value.rename f) = schema.check value := by
  rw [check, check, violations_rename injective]

end PromptWeave.Schema
