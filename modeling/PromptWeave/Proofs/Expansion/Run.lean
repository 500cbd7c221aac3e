/-
**Runs of an expansion.**

A run that ends is a derivation: a document whose text is done with, or one whose first directive
is replaced by another document and which is expanded from there on. Beside the outcome a derivation
lists the documents in the order in which they were read. Runs that never end have no derivation;
what they come by is said by the frames that are reached.
Main statements:

* `Expansion.expand?_eq_some_iff`: an expansion ends as it does exactly by a derivation;
* `Expansion.transform?_eq_some_iff`: so does the run of a root text that has a document to stand under;
* `Expansion.Expands.of_enters`: how a document that enters another one is expanded;
* `Expansion.Expands.unique`: the documents that are read and the outcome are determined;
* `Expansion.Reached`: the frames that a run comes by, whether or not it ends;
* `Expansion.exists_raised`: a fault is raised at a frame that is reached;
* `Expansion.room_lt_of_load`: every document that is loaded leaves less room for others.
-/

import Mathlib
import PromptWeave.Composition.Expansion
import PromptWeave.Proofs.Storage.Document

namespace PromptWeave

open Text

/-- Documents in the root directory, by name, read with the usual settings. -/
def Reading.ofDocuments (documents : List (String × String)) : Reading where
  world := .ofDocuments documents
  maxDepth := 32
  trims := true

namespace Expansion

/-- A document in the root directory at work, by the names on its chain. -/
def Frame.ofNames (names : List String) (text : Text) : Frame where
  document := ⟨.root, names.getLast?.toList⟩
  chain := ⟨names.map fun name => ⟨.root, [name]⟩⟩
  text := text

variable {reading : Reading}

/-! ### Loading -/

/-- **What loading a document gives**: its canonical path, new on the chain, and its text. -/
theorem load_eq_ok {frame inner : Frame} {source : Text}
    (loads : load reading frame source = .ok inner) :
    reading.world.resolvePath frame.document.parent (Path.parse (String.ofList source)) =
        .ok inner.document ∧
      frame.chain.extend inner.document (some reading.maxDepth) = .ok inner.chain ∧
      ∃ text, reading.world.readDocument inner.document (displayed frame.document)
          frame.chain.paths = .ok text ∧
        inner.text = if reading.trims then strip text else text := by
  unfold load at loads
  split at loads
  · cases loads
  · rename_i target found
    split at loads
    · cases loads
    · rename_i branch extended
      split at loads
      · cases loads
      · rename_i text read
        cases loads
        exact ⟨found, extended, text, read, rfl⟩

/-- Why a document is not loaded: its path cannot be resolved, the chain forbids it, or it cannot
be read. -/
theorem load_eq_error {frame : Frame} {source : Text} {fault : Fault}
    (fails : load reading frame source = .error fault) :
    (∃ cause, fault = .host cause) ∨
      (∃ target failure, frame.chain.extend target (some reading.maxDepth) = .error failure ∧
        fault = .failure failure) ∨
      ∃ target branch, frame.chain.extend target (some reading.maxDepth) = .ok branch ∧
        reading.world.readDocument target (displayed frame.document) frame.chain.paths =
          .error fault := by
  unfold load at fails
  split at fails
  · rename_i cause _
    cases fails
    exact Or.inl ⟨cause, rfl⟩
  · rename_i target _
    split at fails
    · rename_i failure extended
      cases fails
      exact Or.inr (Or.inl ⟨target, failure, extended, rfl⟩)
    · rename_i branch extended
      split at fails
      · rename_i cause read
        cases fails
        exact Or.inr (Or.inr ⟨target, branch, extended, read⟩)
      · cases fails

/-- How many documents may still be put on a chain. -/
def room (reading : Reading) (frame : Frame) : Nat :=
  (reading.maxDepth + 1 - frame.chain.paths.length).toNat

/-- **A document that is loaded has less room than the one it is loaded from.** -/
theorem room_lt_of_load {frame inner : Frame} {source : Text}
    (loads : load reading frame source = .ok inner) : room reading inner < room reading frame := by
  obtain ⟨_, extended, _⟩ := load_eq_ok loads
  have paths := (Chain.extend_paths extended).2
  have depth := Chain.extend_depth_le extended
  unfold Chain.depth at depth
  rw [paths, List.length_append, List.length_singleton] at depth
  unfold room
  rw [paths, List.length_append, List.length_singleton]
  omega

/-! ### Steps -/

/-- **A document enters another one** when its first directive names it and it is loaded. -/
theorem step_eq_enters_iff {frame inner : Frame} {directive : Directive} :
    step reading frame = .enters directive inner ↔
      Directive.first frame.text = .ok (some directive) ∧
        load reading frame directive.source = .ok inner := by
  unfold step
  constructor
  · intro enters
    split at enters
    · cases enters
    · cases enters
    · rename_i found
      split at enters
      · cases enters
      · rename_i loads
        cases enters
        exact ⟨found, loads⟩
  · rintro ⟨found, loads⟩
    rw [found]
    simp only [loads]

/-- A document is done with a text when that has no directives. -/
theorem step_eq_ends_ok_iff {frame : Frame} {text : Text} :
    step reading frame = .ends (.ok text) ↔
      Directive.first frame.text = .ok none ∧ text = frame.text := by
  unfold step
  constructor
  · intro ends
    split at ends
    · cases ends
    · rename_i found
      cases ends
      exact ⟨found, rfl⟩
    · split at ends <;> cases ends
  · rintro ⟨found, rfl⟩
    rw [found]

/-- A document fails by the flaw of its first directive, or in loading what that names. -/
theorem step_eq_ends_error {frame : Frame} {fault : Fault}
    (ends : step reading frame = .ends (.error fault)) :
    (∃ flaw, Directive.first frame.text = .error flaw ∧
        fault = .failure (malformed (displayed frame.document) flaw)) ∨
      ∃ directive, Directive.first frame.text = .ok (some directive) ∧
        load reading frame directive.source = .error fault := by
  unfold step at ends
  split at ends
  · rename_i flaw found
    cases ends
    exact Or.inl ⟨flaw, found, rfl⟩
  · cases ends
  · rename_i directive found
    split at ends
    · rename_i fails
      cases ends
      exact Or.inr ⟨directive, found, fails⟩
    · cases ends

/-! ### Derivations -/

/-- A document is expanded to an outcome, by way of documents that are read in this order. -/
inductive Expands (reading : Reading) : Frame → List Frame → Except Fault Text → Prop
  | ended {frame : Frame} {outcome : Except Fault Text}
      (ends : step reading frame = .ends outcome) : Expands reading frame [] outcome
  | broken {frame inner : Frame} {directive : Directive} {reads : List Frame} {fault : Fault}
      (enters : step reading frame = .enters directive inner)
      (inside : Expands reading inner reads (.error fault)) :
      Expands reading frame (inner :: reads) (.error fault)
  | spliced {frame inner : Frame} {directive : Directive} {reads later : List Frame} {text : Text}
      {outcome : Except Fault Text} (enters : step reading frame = .enters directive inner)
      (inside : Expands reading inner reads (.ok text))
      (rest : Expands reading (frame.splice directive text) later outcome) :
      Expands reading frame (inner :: reads ++ later) outcome

/-- The trace after documents have been read in order. -/
def recorded (trace : Trace) (reads : List Frame) : Trace :=
  reads.foldl (fun trace frame => trace.record frame.document frame.chain.depth) trace

@[simp] theorem recorded_nil (trace : Trace) : recorded trace [] = trace := rfl

@[simp] theorem recorded_cons (trace : Trace) (frame : Frame) (reads : List Frame) :
    recorded trace (frame :: reads) =
      recorded (trace.record frame.document frame.chain.depth) reads := rfl

@[simp] theorem recorded_append (trace : Trace) (reads later : List Frame) :
    recorded trace (reads ++ later) = recorded (recorded trace reads) later := by
  simp [recorded, List.foldl_append]

/-- Every outcome of an expansion has a derivation, which leaves the trace of what was read. -/
theorem expands_of_expand? {frame : Frame} {trace : Trace} {result : Trace × Except Fault Text}
    (ends : frame.expand? reading trace = some result) :
    ∃ reads, Expands reading frame reads result.2 ∧ result.1 = recorded trace reads := by
  -- The expansion is a least fixed point: what holds of the outcomes of one unfolding, if it holds
  -- of those of the calls inside, holds of all outcomes.
  refine Frame.expand?.partial_correctness reading
    (fun frame trace result =>
      ∃ reads, Expands reading frame reads result.2 ∧ result.1 = recorded trace reads)
    (fun expand ih frame trace result ends => ?_) frame trace result ends
  split at ends
  · rename_i outcome stops
    cases ends
    exact ⟨[], .ended stops, rfl⟩
  · rename_i directive inner enters
    obtain ⟨⟨after, outcome⟩, inside, ends⟩ := Option.bind_eq_some_iff.mp ends
    obtain ⟨reads, derived, left⟩ := ih _ _ _ inside
    simp only at derived left ends
    subst left
    cases outcome with
    | error fault =>
      cases ends
      exact ⟨inner :: reads, .broken enters derived, rfl⟩
    | ok text =>
      obtain ⟨later, rest, traced⟩ := ih _ _ _ ends
      refine ⟨inner :: reads ++ later, .spliced enters derived rest, ?_⟩
      rw [traced, List.cons_append, recorded_cons, recorded_append]

/-- Every derivation is an expansion that ends. -/
theorem expand?_of_expands {frame : Frame} {reads : List Frame} {outcome : Except Fault Text}
    (derived : Expands reading frame reads outcome) (trace : Trace) :
    frame.expand? reading trace = some (recorded trace reads, outcome) := by
  induction derived generalizing trace with
  | ended ends => rw [Frame.expand?, ends, recorded_nil]
  | broken enters _ ih =>
    rw [Frame.expand?, enters]
    simp only [ih, Option.bind_eq_bind, Option.bind_some, recorded_cons]
  | spliced enters _ _ ihInside ihRest =>
    rw [Frame.expand?, enters]
    simp only [ihInside, ihRest, Option.bind_eq_bind, Option.bind_some, List.cons_append,
      recorded_cons, recorded_append]

/-- **An expansion ends as it does exactly by a derivation.** -/
theorem expand?_eq_some_iff {frame : Frame} {trace after : Trace} {outcome : Except Fault Text} :
    frame.expand? reading trace = some (after, outcome) ↔
      ∃ reads, Expands reading frame reads outcome ∧ after = recorded trace reads := by
  constructor
  · exact expands_of_expand?
  · rintro ⟨reads, derived, rfl⟩
    exact expand?_of_expands derived trace

/-- **The run of a root text**: it has no document to stand under, or ends as its document does. -/
theorem transform?_eq_some_iff {baseDirectory rootPath : Option Path} {trace after : Trace}
    {text : Text} {outcome : Except Fault Text} :
    transform? reading baseDirectory rootPath trace text = some (after, outcome) ↔
      (∃ failure, rootDocument baseDirectory rootPath = .error failure ∧ after = trace ∧
        outcome = .error (.failure failure)) ∨
      ∃ root reads, rootDocument baseDirectory rootPath = .ok root ∧
        Expands reading (.root root text) reads outcome ∧ after = recorded trace reads := by
  unfold transform?
  cases found : rootDocument baseDirectory rootPath with
  | error failure => simp [eq_comm]
  | ok root => simp [expand?_eq_some_iff]

/-- A root text without a document to stand under is a flaw of the settings. -/
theorem rootDocument_eq_error {baseDirectory rootPath : Option Path} {failure : Failure}
    (none : rootDocument baseDirectory rootPath = .error failure) : ∃ message,
      failure = .setting message "resolution.base_dir" := by
  unfold rootDocument at none
  split at none
  · cases none
  · cases none
  · cases none
    exact ⟨_, rfl⟩

/-- The expansion of a document ends. -/
def Ends (reading : Reading) (frame : Frame) : Prop :=
  ∃ reads outcome, Expands reading frame reads outcome

/-- Whether an expansion ends does not hang on the trace. -/
theorem expand?_isSome_iff {frame : Frame} {trace : Trace} :
    (frame.expand? reading trace).isSome = true ↔ Ends reading frame := by
  rw [Option.isSome_iff_exists]
  constructor
  · rintro ⟨⟨after, outcome⟩, ends⟩
    obtain ⟨reads, derived, _⟩ := expands_of_expand? ends
    exact ⟨reads, outcome, derived⟩
  · rintro ⟨reads, outcome, derived⟩
    exact ⟨_, expand?_of_expands derived trace⟩

/-- A document whose first step ends is expanded by that step. -/
theorem Expands.of_ends {frame : Frame} {reads : List Frame} {outcome result : Except Fault Text}
    (derived : Expands reading frame reads outcome) (ends : step reading frame = .ends result) :
    reads = [] ∧ outcome = result := by
  cases derived with
  | ended again => rw [ends] at again; cases again; exact ⟨rfl, rfl⟩
  | broken enters => rw [ends] at enters; cases enters
  | spliced enters => rw [ends] at enters; cases enters

/-- **A document whose first step enters another one** fails as that does, or goes on with the text of
that in place. -/
theorem Expands.of_enters {frame inner : Frame} {directive : Directive} {reads : List Frame}
    {outcome : Except Fault Text} (derived : Expands reading frame reads outcome)
    (enters : step reading frame = .enters directive inner) :
    (∃ inside fault, reads = inner :: inside ∧ outcome = .error fault ∧
      Expands reading inner inside (.error fault)) ∨
    ∃ inside text later, reads = inner :: inside ++ later ∧
      Expands reading inner inside (.ok text) ∧
      Expands reading (frame.splice directive text) later outcome := by
  cases derived with
  | ended ends => rw [enters] at ends; cases ends
  | broken again inside =>
    rw [enters] at again
    cases again
    exact .inl ⟨_, _, rfl, rfl, inside⟩
  | spliced again inside rest =>
    rw [enters] at again
    cases again
    exact .inr ⟨_, _, _, rfl, inside, rest⟩

/-- **What is read and the outcome are determined.** -/
theorem Expands.unique {frame : Frame} {reads others : List Frame}
    {outcome other : Except Fault Text} (derived : Expands reading frame reads outcome)
    (again : Expands reading frame others other) : others = reads ∧ other = outcome := by
  induction derived generalizing others other with
  | ended ends => exact again.of_ends ends
  | broken enters _ ih =>
    obtain ⟨_, _, rfl, rfl, inside⟩ | ⟨_, _, _, rfl, inside, _⟩ := again.of_enters enters
    · obtain ⟨rfl, same⟩ := ih inside
      exact ⟨rfl, same⟩
    · cases (ih inside).2
  | spliced enters _ _ ihInside ihRest =>
    obtain ⟨_, _, rfl, rfl, inside⟩ | ⟨_, _, _, rfl, inside, rest⟩ := again.of_enters enters
    · cases (ihInside inside).2
    · obtain ⟨rfl, same⟩ := ihInside inside
      cases same
      obtain ⟨rfl, same⟩ := ihRest rest
      exact ⟨rfl, same⟩

/-- A run that enters a document expands it. -/
theorem Expands.ends_inside {frame inner : Frame} {directive : Directive} {reads : List Frame}
    {outcome : Except Fault Text} (derived : Expands reading frame reads outcome)
    (enters : step reading frame = .enters directive inner) : Ends reading inner := by
  obtain ⟨_, _, -, -, inside⟩ | ⟨_, _, _, -, inside, -⟩ := derived.of_enters enters
  · exact ⟨_, _, inside⟩
  · exact ⟨_, _, inside⟩

/-- A run that puts a text in place goes on from there, and reads less than the whole run. -/
theorem Expands.exists_after {frame inner : Frame} {directive : Directive}
    {reads before : List Frame} {text : Text} {outcome : Except Fault Text}
    (derived : Expands reading frame reads outcome)
    (enters : step reading frame = .enters directive inner)
    (done : Expands reading inner before (.ok text)) :
    ∃ later, Expands reading (frame.splice directive text) later outcome ∧
      later.length < reads.length := by
  obtain ⟨_, _, rfl, rfl, inside⟩ | ⟨_, _, later, rfl, inside, rest⟩ := derived.of_enters enters
  · cases (inside.unique done).2
  · cases (inside.unique done).2
    refine ⟨later, rest, ?_⟩
    rw [List.length_append, List.length_cons]
    omega

/-- A text that is put in place holds no directive any more. -/
theorem Expands.first_eq_none {frame : Frame} {reads : List Frame} {text : Text}
    (derived : Expands reading frame reads (.ok text)) : Directive.first text = .ok none := by
  generalize same : (.ok text : Except Fault Text) = outcome at derived
  induction derived with
  | ended ends =>
    subst same
    obtain ⟨found, rfl⟩ := step_eq_ends_ok_iff.mp ends
    exact found
  | broken => cases same
  | spliced _ _ _ _ ih => exact ih same

/-! ### Frames that are reached -/

/-- The frames that an expansion comes by: the documents that it enters, and each of them after
every directive that was replaced. -/
inductive Reached (reading : Reading) (start : Frame) : Frame → Prop
  | start : Reached reading start start
  | descent {frame inner : Frame} {directive : Directive} (before : Reached reading start frame)
      (enters : step reading frame = .enters directive inner) : Reached reading start inner
  | turn {frame inner : Frame} {directive : Directive} {reads : List Frame} {text : Text}
      (before : Reached reading start frame)
      (enters : step reading frame = .enters directive inner)
      (inside : Expands reading inner reads (.ok text)) :
      Reached reading start (frame.splice directive text)

theorem Reached.trans {start middle last : Frame} (first : Reached reading start middle)
    (second : Reached reading middle last) : Reached reading start last := by
  induction second with
  | start => exact first
  | descent _ enters ih => exact .descent ih enters
  | turn _ enters inside ih => exact .turn ih enters inside

/-- **A fault is raised by the last step at a frame that is reached.** -/
theorem exists_raised {frame : Frame} {reads : List Frame} {fault : Fault}
    (derived : Expands reading frame reads (.error fault)) :
    ∃ place, Reached reading frame place ∧ step reading place = .ends (.error fault) := by
  generalize same : (.error fault : Except Fault Text) = outcome at derived
  induction derived with
  | ended ends => subst same; exact ⟨_, .start, ends⟩
  | broken enters _ ih =>
    obtain ⟨place, reached, raises⟩ := ih same
    exact ⟨place, (Reached.descent .start enters).trans reached, raises⟩
  | spliced enters inside _ _ ih =>
    obtain ⟨place, reached, raises⟩ := ih same
    exact ⟨place, (Reached.turn .start enters inside).trans reached, raises⟩

/-! ### A greeting -/

/-- A document, the greeting that it includes, and a document that it has nothing to do with. -/
def greetingReading : Reading :=
  .ofDocuments [("r", "See <include src=\"a\"/>!"), ("a", " A.\n"), ("old", "")]

theorem step_greeting :
    step greetingReading (.ofNames ["r"] "See <include src=\"a\"/>!".toList) =
      .enters ⟨['a'], 4, 22, true⟩ (.ofNames ["r", "a"] "A.".toList) := by cbv

theorem step_greeting_inside :
    step greetingReading (.ofNames ["r", "a"] "A.".toList) = .ends (.ok "A.".toList) := by cbv

theorem step_greeting_done :
    step greetingReading (.ofNames ["r"] "See A.!".toList) = .ends (.ok "See A.!".toList) := by cbv

end Expansion

end PromptWeave
