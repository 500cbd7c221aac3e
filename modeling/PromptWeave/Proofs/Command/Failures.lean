/-
**Failures of a prompt, and reports of them.**

A failure carries named values, and as JSON it is reported with them. Nothing of what a document can fail with
stands in the way of that but its numbers: the limit of the depth, and the place of a directive. If one of them
has more digits than are written, the report comes to nothing. Main statements:

* `Json.Writes`: what can be written;
* `Failure.IsOfPrompt`: the failures that a document can end with;
* `Request.isOfPrompt_of_resolve`: a request that fails ends with one of these;
* `Report.exists_failure_iff`: when such a failure can be reported.
-/

import PromptWeave.Proofs.Command.Documents
import PromptWeave.Proofs.Expansion.Lineage

namespace PromptWeave

open Text

/-- Two results in a row end with a fault of the first one, or of the second one for what the first one gives. -/
theorem Outcome.bind_eq_error {α β : Type} {result : Except Fault α} {next : α → Except Fault β} {fault : Fault}
    (fails : result.bind next = .error fault) :
    result = .error fault ∨ ∃ given, result = .ok given ∧ next given = .error fault := by
  cases result with
  | error cause => exact .inl (congrArg Except.error (Except.error.inj fails))
  | ok given => exact .inr ⟨given, rfl, fails⟩

/-! ### What can be written -/

/-- A number whose digits are not too many to be written. -/
def Numeral.IsShort (number : Int) : Prop := (digits number.natAbs).length ≤ digitLimit

namespace Json

/-- A value can be written inside so many collections. -/
def Writes (style : Style) (depth : Nat) (value : Value) : Prop := ∃ text, writeAt style depth value = .ok text

variable {style : Style} {depth : Nat}

@[simp]
theorem writes_null : Writes style depth .null := ⟨_, rfl⟩

@[simp]
theorem writes_string (word : String) : Writes style depth (.string word) := ⟨_, rfl⟩

/-- **A number can be written** unless it has too many digits. -/
@[simp]
theorem writes_integer_iff (number : Int) : Writes style depth (.integer number) ↔ Numeral.IsShort number := by
  show (∃ text, writeInteger number = .ok text) ↔ _
  unfold writeInteger Numeral.write? Numeral.IsShort
  dsimp only
  split
  · rename_i long
    refine iff_of_false ?_ (Nat.not_le.mpr long)
    rintro ⟨text, same⟩
    cases same
  · rename_i short
    exact iff_of_true ⟨_, rfl⟩ (Nat.not_lt.mp short)

theorem writeItems_iff {items : List Value} :
    (∃ texts, writeItems style depth items = .ok texts) ↔ ∀ item ∈ items, Writes style depth item := by
  induction items with
  | nil => exact iff_of_true ⟨_, rfl⟩ (List.forall_mem_nil _)
  | cons item items ih =>
    rw [List.forall_mem_cons, ← ih, writeItems, Writes]
    cases writeAt style depth item with
    | error fault => simp [bind, Except.bind]
    | ok first =>
      cases writeItems style depth items with
      | error fault => simp [bind, Except.bind]
      | ok others => simp [bind, Except.bind, pure, Except.pure]

@[simp]
theorem writes_list_iff {items : List Value} :
    Writes style depth (.list items) ↔ ∀ item ∈ items, Writes style (depth + 1) item := by
  rw [← writeItems_iff, Writes, Value.list, writeAt]
  cases writeItems style (depth + 1) items with
  | error fault => simp [Except.map]
  | ok texts => simp [Except.map]

theorem writeEntries_fields_iff {named : List (String × Value)} :
    (∃ texts, writeEntries style depth (Failure.fields named) = .ok texts) ↔
      ∀ field ∈ named, Writes style depth field.2 := by
  induction named with
  | nil => exact iff_of_true ⟨_, rfl⟩ (List.forall_mem_nil _)
  | cons field named ih =>
    have key : writeKey (Key.ofString field.1) = .ok field.1.toList := rfl
    rw [List.forall_mem_cons, ← ih, Failure.fields, List.map_cons, writeEntries, key, Writes, ← Failure.fields]
    cases writeAt style depth field.2 with
    | error fault => simp [bind, Except.bind]
    | ok content =>
      cases writeEntries style depth (Failure.fields named) with
      | error fault => simp [bind, Except.bind]
      | ok others => simp [bind, Except.bind, pure, Except.pure]

/-- **Named values can be written** exactly if each of them can. -/
@[simp]
theorem writes_fields_iff {named : List (String × Value)} :
    Writes style depth (.mapping false (Failure.fields named)) ↔
      ∀ field ∈ named, Writes style (depth + 1) field.2 := by
  rw [← writeEntries_fields_iff, Writes, writeAt]
  cases writeEntries style (depth + 1) (Failure.fields named) with
  | error fault => simp [Except.map]
  | ok texts => simp [Except.map]

@[simp]
theorem writes_optionalPath (path : Option Path) : Writes style depth (Failure.optionalPath path) := by
  cases path with
  | none => exact writes_null
  | some path => exact writes_string _

@[simp]
theorem writes_pathList (paths : List Path) : Writes style depth (Failure.pathList paths) := by
  rw [Failure.pathList, writes_list_iff, List.forall_mem_map]
  exact fun path _ => writes_string _

end Json

/-! ### Failures of prompts -/

namespace Failure

/-- The numbers that a failure carries. -/
def numbers : Failure → List Int
  | tooDeep limit _ => [limit]
  | malformedDirective _ _ (some offset) => [offset]
  | malformedDocument _ _ _ (some line) => [line]
  | unbalanced _ _ _ (some line) => [line]
  | _ => []

/-- The failures that a document can end with. -/
inductive IsOfPrompt : Failure → Prop
  | unusable (message : String) (named : List (String × String)) :
    IsOfPrompt (configuration message (fields (named.map fun field => (field.1, .string field.2))))
  | absent (path : Path) (includedFrom : Option Path) (chain : List Path) :
    IsOfPrompt (notFound path includedFrom chain)
  | unreadable (path : Path) (reason : String) (includedFrom : Option Path) :
    IsOfPrompt (unreadable path reason includedFrom)
  | circular (chain : List Path) : IsOfPrompt (circular chain)
  | tooDeep (limit : Int) (chain : List Path) : IsOfPrompt (tooDeep limit chain)
  | malformed (reason : String) (document : Option Path) (offset : Int) :
    IsOfPrompt (malformedDirective reason document (some offset))

theorem isOfPrompt_setting (message key : String) : (setting message key).IsOfPrompt :=
  .unusable message [("key", key)]

end Failure

namespace Fault

/-- The numbers that a fault carries. -/
def numbers : Fault → List Int
  | failure cause => cause.numbers
  | _ => []

/-- A fault that is no failure, or one of those that a document can end with. -/
inductive IsOfPrompt : Fault → Prop
  | failure {cause : Failure} (known : cause.IsOfPrompt) : IsOfPrompt (failure cause)
  | host (cause : HostFault) : IsOfPrompt (host cause)
  | endless : IsOfPrompt endless

theorem isOfPrompt_of_mapError {α : Type} {result : Except HostFault α} {fault : Fault}
    (fails : result.mapError host = .error fault) : fault.IsOfPrompt := by
  cases result with
  | ok value => cases fails
  | error cause =>
    cases fails
    exact .host cause

end Fault

/-! ### Documents -/

namespace World

variable {world : World} {fault : Fault}

theorem isOfPrompt_of_readDocument {path : Path} {includedFrom : Option Path} {chain : List Path}
    (fails : world.readDocument path includedFrom chain = .error fault) : fault.IsOfPrompt := by
  unfold readDocument at fails
  split at fails
  · cases fails
    exact .host _
  · cases fails
    exact .failure (.absent _ _ _)
  · split at fails
    · cases fails
    · cases fails
      exact .failure (.unreadable _ _ _)
    · cases fails
      exact .failure (.unreadable _ _ _)
    · cases fails
      exact .failure (.unreadable _ _ _)
    · cases fails
      exact .host _

theorem isOfPrompt_of_resolveBase {spelling : String} {given configured : Option Path}
    (fails : world.resolveBase spelling given configured = .error fault) : fault.IsOfPrompt := by
  unfold resolveBase at fails
  split at fails
  · exact Fault.isOfPrompt_of_mapError fails
  · exact Fault.isOfPrompt_of_mapError fails
  · split at fails
    · cases fails
      exact .host _
    · split at fails
      · exact Fault.isOfPrompt_of_mapError fails
      · cases fails
        exact .failure (.unusable _ [("key", _), ("path", _)])

end World

namespace Expansion

variable {reading : Reading} {fault : Fault}

/-- **A step of an expansion** raises a failure of the document at work, or of the one that it names. -/
theorem isOfPrompt_of_step {frame : Frame} (raises : step reading frame = .ends (.error fault)) :
    fault.IsOfPrompt := by
  rcases step_eq_ends_error raises with ⟨flaw, -, rfl⟩ | ⟨directive, -, fails⟩
  · exact .failure (.malformed _ _ _)
  · rcases load_eq_error fails with ⟨cause, rfl⟩ | ⟨target, failure, refused, rfl⟩ | ⟨target, branch, -, unread⟩
    · exact .host cause
    · rcases Chain.extend_eq_error refused with ⟨-, rfl⟩ | ⟨-, -, rfl⟩
      · exact .failure (.circular _)
      · exact .failure (.tooDeep _ _)
    · exact World.isOfPrompt_of_readDocument unread

/-- Hence so does a run of it. -/
theorem isOfPrompt_of_transform {baseDirectory rootPath : Option Path} {trace : Trace} {text : Text}
    (fails : (transform reading baseDirectory rootPath trace text).2 = .error fault) : fault.IsOfPrompt := by
  unfold transform at fails
  cases ends : transform? reading baseDirectory rootPath trace text with
  | none =>
    rw [ends] at fails
    cases fails
    exact .endless
  | some done =>
    obtain ⟨after, outcome⟩ := done
    rw [ends] at fails
    obtain rfl : outcome = .error fault := fails
    obtain ⟨failure, refused, -, same⟩ | ⟨root, reads, -, derived, -⟩ :=
      transform?_eq_some_iff.mp ends
    · obtain ⟨message, rfl⟩ := rootDocument_eq_error refused
      cases same
      exact .failure (Failure.isOfPrompt_setting _ _)
    · obtain ⟨place, -, raised⟩ := exists_raised derived
      exact isOfPrompt_of_step raised

end Expansion

namespace Resolver

variable {world : World} {fault : Fault}

theorem isOfPrompt_of_locate {configured : Except HostFault (Option Path)} {spelling : String}
    {given : Option Path} (fails : (locate world configured spelling given).result = .error fault) :
    fault.IsOfPrompt := by
  unfold locate at fails
  split at fails
  · cases fails
    exact .host _
  · split at fails
    · rename_i unbased
      cases fails
      exact World.isOfPrompt_of_resolveBase unbased
    · split at fails
      · cases fails
        exact .host _
      · split at fails
        · rename_i unread
          cases fails
          exact World.isOfPrompt_of_readDocument unread
        · cases fails

theorem isOfPrompt_of_assemble {settings : Settings} {base : Path} {path : Option Path}
    {bindings : Option Mapping} {text : Text}
    (fails : assemble world settings base path bindings text = .error fault) : fault.IsOfPrompt := by
  unfold assemble at fails
  split at fails
  · cases fails
    exact .host _
  · rename_i recipe made
    split at fails
    · rename_i progress cause ran
      cases fails
      rw [Pipeline.run_includes] at ran
      exact Expansion.isOfPrompt_of_transform (congrArg Prod.snd ran)
    · cases fails

/-- Filling in values raises no failure. -/
theorem isOfPrompt_of_finish {prompt : Assembled} (fails : prompt.finish = .error fault) :
    fault.IsOfPrompt := by
  unfold Assembled.finish finish at fails
  split at fails
  · rename_i cause stops
    cases fails
    rw [Pipeline.run_bindings, Pipeline.fillStage] at stops
    split at stops
    · cases stops
    · cases filling : (Template.fill prompt.recipe.indent _ (Template.ofText prompt.text)).text with
      | ok shown =>
        dsimp only at stops
        rw [filling] at stops
        cases stops
      | error wrong =>
        dsimp only at stops
        rw [filling] at stops
        cases stops
        exact .host _
  · cases fails

/-- **What a document can end with.** -/
theorem isOfPrompt_of_resolveDocument {settings : Settings} {spelling : String} {bindings : Option Mapping}
    {given : Option Path} (fails : (resolveDocument world settings spelling bindings given).result = .error fault) :
    fault.IsOfPrompt := by
  rw [resolveDocument_result, assembleDocument] at fails
  rcases Outcome.bind_eq_error fails with failed | ⟨prompt, assembled, failed⟩
  · rcases Outcome.bind_eq_error failed with lost | ⟨located, -, failed⟩
    · exact isOfPrompt_of_locate lost
    · exact isOfPrompt_of_assemble failed
  · exact isOfPrompt_of_finish failed

end Resolver

/-! ### Configurations -/

namespace Configurations

variable {world : World} {fault : Fault}

theorem isOfPrompt_of_settings {path : Path} (fails : Project.settings world path = .error fault) :
    fault.IsOfPrompt := by
  unfold Project.settings at fails
  split at fails
  · cases fails
    exact .host _
  · cases fails
    exact .failure (Failure.isOfPrompt_setting _ _)
  · cases fails
  · cases fails
  · cases fails
    exact .failure (Failure.isOfPrompt_setting _ _)

theorem isOfPrompt_of_check {schema : Schema} {value : Value} (fails : schema.check value = .error fault) :
    fault.IsOfPrompt := by
  unfold Schema.check at fails
  split at fails
  · cases fails
  · split at fails
    · cases fails
      exact .host _
    · dsimp only at fails
      split at fails
      · cases fails
        exact .host _
      · cases fails
        exact .failure (Failure.isOfPrompt_setting _ _)

/-- Variables of the environment raise no failure. -/
theorem isOfPrompt_of_override {overrides : List (String × String)} {configurations : Configurations}
    {draft : Shared} (fails : (configurations.override draft overrides).2.result = .error fault) :
    fault.IsOfPrompt := by
  induction overrides generalizing configurations draft with
  | nil => cases fails
  | cons first overrides ih =>
    rw [override] at fails
    split at fails
    · exact ih fails
    · split at fails
      · cases fails
        exact .host _
      · dsimp only at fails
        split at fails
        · exact ih fails
        · exact ih fails

theorem isOfPrompt_of_draft {configurations : Configurations} {root : Path}
    (fails : (configurations.draft world root).2.result = .error fault) : fault.IsOfPrompt := by
  unfold draft at fails
  dsimp only at fails
  split at fails
  · cases fails
    exact .host _
  · cases fails
  · split at fails
    · rename_i wrong
      cases fails
      exact isOfPrompt_of_settings wrong
    · cases fails

theorem isOfPrompt_of_make {configurations : Configurations} {root : Path} {isChecked : Bool}
    (fails : (configurations.make world root isChecked).2.result = .error fault) : fault.IsOfPrompt := by
  unfold make at fails
  split at fails
  · rename_i drafted
    cases fails
    exact isOfPrompt_of_draft (congrArg (fun made => made.2.result) drafted)
  · split at fails
    · rename_i overridden
      cases fails
      exact isOfPrompt_of_override (congrArg (fun made => made.2.result) overridden)
    · split at fails
      · rename_i wrong
        cases fails
        split at wrong
        · exact isOfPrompt_of_check wrong
        · cases wrong
      · cases fails

theorem isOfPrompt_of_fetch {configurations : Configurations} {root : Path}
    (fails : (configurations.fetch world root).2.result = .error fault) : fault.IsOfPrompt := by
  unfold fetch at fails
  split at fails
  · cases fails
  · split at fails
    · cases fails
    · exact isOfPrompt_of_make fails

end Configurations

namespace Command

/-- **A request that fails** ends with a failure that a document can end with, or with none at all. -/
theorem Request.isOfPrompt_of_resolve {configurations : Configurations} {world : World} {request : Request}
    {bindings : Option Mapping} {fault : Fault}
    (fails : request.resolve configurations world bindings = .error fault) : fault.IsOfPrompt := by
  unfold Request.resolve at fails
  rcases Outcome.bind_eq_error fails with failed | ⟨root, -, failed⟩
  · exact Fault.isOfPrompt_of_mapError failed
  · rcases Outcome.bind_eq_error failed with failed | ⟨number, -, failed⟩
    · exact Configurations.isOfPrompt_of_fetch failed
    · rcases Outcome.bind_eq_error failed with failed | ⟨base, -, failed⟩
      · unfold baseDirectory at failed
        split at failed
        · split at failed
          · cases failed
            exact .host _
          · cases failed
        · split at failed
          · cases failed
            exact .host _
          · cases failed
          · cases failed
      · exact Resolver.isOfPrompt_of_resolveDocument failed

/-! ### Reports -/

namespace Report

theorem writes_context_iff {style : Json.Style} {depth : Nat} {failure : Failure} (known : failure.IsOfPrompt) :
    Json.Writes style depth (.mapping false failure.context) ↔ ∀ number ∈ failure.numbers, Numeral.IsShort number := by
  cases known with
  | unusable message named =>
    refine iff_of_true ?_ (List.forall_mem_nil _)
    rw [Failure.context, Json.writes_fields_iff, List.forall_mem_map]
    exact fun field _ => Json.writes_string field.2
  | absent path includedFrom chain => simp [Failure.context, Failure.numbers]
  | unreadable path reason includedFrom => simp [Failure.context, Failure.numbers]
  | circular chain => simp [Failure.context, Failure.numbers]
  | tooDeep limit chain => simp [Failure.context, Failure.numbers]
  | malformed reason document offset => simp [Failure.context, Failure.numbers, Failure.optionalInteger]

theorem writes_faultValue_iff {style : Json.Style} {depth : Nat} {fault : Fault} (known : fault.IsOfPrompt)
    (code words : String) :
    Json.Writes style depth (faultValue code words fault) ↔ ∀ number ∈ fault.numbers, Numeral.IsShort number := by
  show Json.Writes style depth (.mapping false (Failure.fields _)) ↔ _
  cases known with
  | failure known => simp [Fault.numbers, writes_context_iff known]
  | host cause => simp [Fault.numbers]
  | endless => simp [Fault.numbers]

/-- **When a failure of a document can be reported**: always in plain words, and as JSON if its numbers are short. -/
theorem exists_failure_iff {fault : Fault} (known : fault.IsOfPrompt) (asJson : Bool) (code words : String) :
    (∃ shown, failure asJson code words fault = .ok shown) ↔
      (asJson = true → ∀ number ∈ fault.numbers, Numeral.IsShort number) := by
  cases asJson with
  | false => exact iff_of_true ⟨_, rfl⟩ fun asJson => absurd asJson Bool.false_ne_true
  | true =>
    let style : Json.Style := ⟨some 2, true⟩
    let value := faultValue code (if words = "" then fault.message else words) fault
    have written : Json.Writes style 0 value ↔ ∀ number ∈ fault.numbers, Numeral.IsShort number :=
      writes_faultValue_iff known _ _
    show (∃ shown, (Json.writeAt style 0 value).map line = .ok shown) ↔ _
    rw [← written, Json.Writes, forall_prop_of_true rfl]
    cases Json.writeAt style 0 value with
    | error wrong => simp [Except.map]
    | ok text => simp [Except.map]

end Report

end Command

end PromptWeave
