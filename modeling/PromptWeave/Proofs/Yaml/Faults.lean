/-
**What can be wrong with a data file.**

A text is malformed as a data file, or it is well formed and one of its scalars has no value: a numeral
too long to be read, a character beyond the last one, half of a pair of code units, a day that is not in
the calendar. Nothing else ends the reading. Every step of it has a specification of one form, that it
fails with a fault of data only; the scanner hands its fault on to the reader of nodes, which keeps it
(`Reader.IsSound`). Main statements:

* `HostFault.IsOfData`: the faults of data, and `HostFault.IsOfData.isExcused_iff`: which of them count
  as a malformed file;
* `Yaml.Scanner.step_spec` and `Yaml.Reads.spec_of_fuel`: one step of the scanner, and the nodes;
* `Yaml.readShared_eq_error`: what can be wrong with the text of a data file.
-/

import Mathlib
import PromptWeave.Storage.DataFile

open Std.Do

set_option mvcgen.warning false

namespace PromptWeave

/-- The faults that the text of a data file can have. -/
inductive HostFault.IsOfData : HostFault → Prop
  | malformed : IsOfData .malformedData
  | character (huge : Bool) : IsOfData (.noSuchCharacter huge)
  | surrogate : IsOfData .surrogate
  | numeral (fault : NumeralFault) : IsOfData (.numeral fault)
  /-- An integer or a fraction without a digit. -/
  | numberless : IsOfData (.noSuchItem "string")
  | tooLarge : IsOfData .tooLargeForFraction
  | word (word : String) : IsOfData (.notTruth word)
  | calendar (fault : CalendarFault) : IsOfData (.calendar fault)
  /-- A timestamp that is none. -/
  | timeless : IsOfData (.noProperty Atom.null.kind "groupdict")
  /-- A timestamp that is written as a mapping. -/
  | textless : IsOfData (.notText (Value.list []).kind)
  /-- A mapping that is its own main value. -/
  | endless : IsOfData (.endless .mainValue)

/-- **Only a malformed text counts as one**; a scalar without a value does not. -/
theorem HostFault.IsOfData.isExcused_iff {fault : HostFault} (data : fault.IsOfData) :
    fault.isExcused = true ↔ fault = .malformedData := by
  cases data <;> simp [HostFault.isExcused]

namespace Yaml

/-! ### Steps that fail with a fault of data only -/

/-- Any value, or a fault of data. -/
abbrev orAtFault {α : Type} : PostCond α (.except HostFault .pure) :=
  post⟨fun _ => ⌜True⌝, fun fault => ⌜fault.IsOfData⌝⟩

section Steps

variable {α β : Type}

@[spec]
theorem ok_spec {value : α} :
    ⦃⌜True⌝⦄ (Except.ok value : Except HostFault α) ⦃orAtFault⦄ :=
  fun done => done

@[spec]
theorem error_spec {fault : HostFault} :
    ⦃⌜fault.IsOfData⌝⦄ (Except.error fault : Except HostFault α) ⦃orAtFault⦄ :=
  fun data => data

@[spec 2000]
theorem throw_spec {fault : HostFault} :
    ⦃⌜fault.IsOfData⌝⦄ (throw fault : Except HostFault α) ⦃orAtFault⦄ :=
  fun data => data

/-- The specification of a step, as a statement about its error. -/
theorem spec_iff {work : Except HostFault α} :
    ⦃⌜True⌝⦄ work ⦃orAtFault⦄ ↔ ∀ fault, work = .error fault → fault.IsOfData := by
  cases work with
  | ok value => simp [(ok_spec : ⦃⌜True⌝⦄ (Except.ok value : Except HostFault α) ⦃orAtFault⦄)]
  | error fault =>
    constructor
    · rintro spec _ ⟨⟩
      exact spec trivial
    · intro data _
      exact data fault rfl

theorem bind_spec {work : Except HostFault α} {next : α → Except HostFault β}
    (spec : ⦃⌜True⌝⦄ work ⦃orAtFault⦄) (nextSpec : ∀ value, ⦃⌜True⌝⦄ next value ⦃orAtFault⦄) :
    ⦃⌜True⌝⦄ (work >>= next) ⦃orAtFault⦄ := by
  mvcgen [spec, nextSpec]

@[spec]
theorem map_spec {f : α → β} {work : Except HostFault α} (spec : ⦃⌜True⌝⦄ work ⦃orAtFault⦄) :
    ⦃⌜True⌝⦄ work.map f ⦃orAtFault⦄ := by
  cases work with
  | ok value => exact ok_spec
  | error fault => exact spec

@[spec]
theorem mapError_spec {ε : Type} {f : ε → HostFault} {work : Except ε α}
    (data : ∀ cause, (f cause).IsOfData) : ⦃⌜True⌝⦄ work.mapError f ⦃orAtFault⦄ := by
  cases work with
  | ok value => exact ok_spec
  | error cause => exact fun _ => data cause

@[spec]
theorem mapM_spec {step : α → Except HostFault β} {items : List α}
    (spec : ∀ item, ⦃⌜True⌝⦄ step item ⦃orAtFault⦄) :
    ⦃⌜True⌝⦄ items.mapM step ⦃orAtFault⦄ := by
  induction items with
  | nil => mvcgen
  | cons item items ih =>
    rw [List.mapM_cons]
    mvcgen [spec, ih]

end Steps

/-! ### Scalars -/

namespace Scalar

@[spec]
theorem flowBreaks_spec (fuel : Nat) (cursor : Cursor) (breaks : Text) :
    ⦃⌜True⌝⦄ flowBreaks fuel cursor breaks ⦃orAtFault⦄ := by
  induction fuel generalizing cursor breaks with
  | zero => mvcgen [flowBreaks]
  | succ fuel ih =>
    mvcgen [flowBreaks, ih]
    exact .malformed

@[spec]
theorem flowBreaksAt_spec (cursor : Cursor) : ⦃⌜True⌝⦄ flowBreaksAt cursor ⦃orAtFault⦄ := by
  mvcgen [flowBreaksAt]

@[spec]
theorem character_spec (cursor : Cursor) : ⦃⌜True⌝⦄ character cursor ⦃orAtFault⦄ := by
  mvcgen [character]
  · exact .malformed
  · exact .character _
  · exact .surrogate

@[spec]
theorem flowWords_spec (isDouble : Bool) (fuel : Nat) (cursor : Cursor) (text : Text) :
    ⦃⌜True⌝⦄ flowWords isDouble fuel cursor text ⦃orAtFault⦄ := by
  induction fuel generalizing cursor text with
  | zero => mvcgen [flowWords]
  | succ fuel ih =>
    mvcgen [flowWords, ih]
    · next fails => exact spec_iff.mp (flowBreaksAt_spec _) _ fails
    · next fails => exact spec_iff.mp (character_spec _) _ fails

@[spec]
theorem flowGap_spec (cursor : Cursor) : ⦃⌜True⌝⦄ flowGap cursor ⦃orAtFault⦄ := by
  mvcgen [flowGap]
  · exact .malformed
  · next fails => exact spec_iff.mp (flowBreaksAt_spec _) _ fails

@[spec]
theorem flowFrom_spec (quote : Char) (fuel : Nat) (cursor : Cursor) (text : Text) :
    ⦃⌜True⌝⦄ flowFrom quote fuel cursor text ⦃orAtFault⦄ := by
  induction fuel generalizing cursor text with
  | zero =>
    mvcgen [flowFrom]
    exact .malformed
  | succ fuel ih =>
    mvcgen [flowFrom, ih]
    · next fails => exact spec_iff.mp (flowGap_spec _) _ fails
    · next fails => exact spec_iff.mp (flowWords_spec _ _ _ _) _ fails

@[spec]
theorem flow_spec (cursor : Cursor) : ⦃⌜True⌝⦄ flow cursor ⦃orAtFault⦄ := by
  mvcgen [flow]
  next fails => exact spec_iff.mp (flowWords_spec _ _ _ _) _ fails

@[spec]
theorem header_spec (cursor : Cursor) : ⦃⌜True⌝⦄ header cursor ⦃orAtFault⦄ := by
  mvcgen [header]
  exact .malformed

@[spec]
theorem ignoredLine_spec (cursor : Cursor) : ⦃⌜True⌝⦄ ignoredLine cursor ⦃orAtFault⦄ := by
  mvcgen [ignoredLine]
  exact .malformed

@[spec]
theorem block_spec (isFolded : Bool) (outer : Int) (cursor : Cursor) :
    ⦃⌜True⌝⦄ block isFolded outer cursor ⦃orAtFault⦄ := by
  mvcgen [block]
  · next fails => exact spec_iff.mp (header_spec _) _ fails
  · next fails => exact spec_iff.mp (ignoredLine_spec _) _ fails

end Scalar

/-! ### Properties and directives -/

@[spec]
theorem escapedBytes_spec (fuel : Nat) (cursor : Cursor) (bytes : List UInt8) :
    ⦃⌜True⌝⦄ escapedBytes fuel cursor bytes ⦃orAtFault⦄ := by
  induction fuel generalizing cursor bytes with
  | zero => mvcgen [escapedBytes]
  | succ fuel ih =>
    mvcgen [escapedBytes, ih]
    exact .malformed

@[spec]
theorem addressFrom_spec (fuel : Nat) (cursor : Cursor) (text : Text) :
    ⦃⌜True⌝⦄ addressFrom fuel cursor text ⦃orAtFault⦄ := by
  induction fuel generalizing cursor text with
  | zero => mvcgen [addressFrom]
  | succ fuel ih =>
    mvcgen [addressFrom, ih]
    · next fails => exact spec_iff.mp (escapedBytes_spec _ _ _) _ fails
    · exact .malformed

@[spec]
theorem address_spec (cursor : Cursor) : ⦃⌜True⌝⦄ address cursor ⦃orAtFault⦄ := by
  mvcgen [address]
  · next fails => exact spec_iff.mp (addressFrom_spec _ _ _) _ fails
  · exact .malformed

@[spec]
theorem handle_spec (cursor : Cursor) : ⦃⌜True⌝⦄ handle cursor ⦃orAtFault⦄ := by
  mvcgen [handle]
  all_goals exact .malformed

@[spec]
theorem tag_spec (cursor : Cursor) : ⦃⌜True⌝⦄ tag cursor ⦃orAtFault⦄ := by
  mvcgen [tag]
  all_goals exact .malformed

@[spec]
theorem anchorName_spec (cursor : Cursor) : ⦃⌜True⌝⦄ anchorName cursor ⦃orAtFault⦄ := by
  mvcgen [anchorName]
  exact .malformed

@[spec]
theorem versionNumber_spec (cursor : Cursor) : ⦃⌜True⌝⦄ versionNumber cursor ⦃orAtFault⦄ := by
  mvcgen [versionNumber]
  · exact .malformed
  · exact .numeral _

@[spec]
theorem directive_spec (cursor : Cursor) : ⦃⌜True⌝⦄ directive cursor ⦃orAtFault⦄ := by
  mvcgen [directive]
  all_goals exact .malformed

/-! ### The scanner -/

namespace Scanner

@[spec]
theorem dropStale_spec (scanner : Scanner) : ⦃⌜True⌝⦄ scanner.dropStale ⦃orAtFault⦄ := by
  mvcgen [dropStale]
  exact .malformed

@[spec]
theorem dropCandidate_spec (scanner : Scanner) : ⦃⌜True⌝⦄ scanner.dropCandidate ⦃orAtFault⦄ := by
  mvcgen [dropCandidate]
  exact .malformed

@[spec]
theorem addCandidate_spec (scanner : Scanner) : ⦃⌜True⌝⦄ scanner.addCandidate ⦃orAtFault⦄ := by
  mvcgen [addCandidate]
  next fails => exact spec_iff.mp (dropCandidate_spec _) _ fails

@[spec]
theorem indentHere_spec (scanner : Scanner) (token : Token) :
    ⦃⌜True⌝⦄ scanner.indentHere token ⦃orAtFault⦄ := by
  mvcgen [indentHere]
  exact .malformed

@[spec]
theorem close_spec (scanner : Scanner) : ⦃⌜True⌝⦄ scanner.close ⦃orAtFault⦄ := by
  mvcgen [close]
  next fails => exact spec_iff.mp (dropCandidate_spec _) _ fails

@[spec]
theorem markValue_spec (scanner : Scanner) : ⦃⌜True⌝⦄ scanner.markValue ⦃orAtFault⦄ := by
  mvcgen [markValue]

@[spec]
theorem markWord_spec (scanner : Scanner) (read : Cursor → Except HostFault (Token × Cursor))
    (spec : ∀ cursor, ⦃⌜True⌝⦄ read cursor ⦃orAtFault⦄) :
    ⦃⌜True⌝⦄ scanner.markWord read ⦃orAtFault⦄ := by
  mvcgen [markWord, spec]

@[spec]
theorem markPlain_spec (scanner : Scanner) : ⦃⌜True⌝⦄ scanner.markPlain ⦃orAtFault⦄ := by
  mvcgen [markPlain]

@[spec]
theorem openFlow_spec (scanner : Scanner) (token : Token) :
    ⦃⌜True⌝⦄ scanner.openFlow token ⦃orAtFault⦄ := by
  mvcgen [openFlow]

@[spec]
theorem closeFlow_spec (scanner : Scanner) (token : Token) :
    ⦃⌜True⌝⦄ scanner.closeFlow token ⦃orAtFault⦄ := by
  mvcgen [closeFlow]
  exact .malformed

/-- **One step of the scanner fails with a fault of data only.** -/
@[spec]
theorem step_spec (scanner : Scanner) : ⦃⌜True⌝⦄ scanner.step ⦃orAtFault⦄ := by
  mvcgen [step]
  exact .malformed

-- Without this the comparison of the two sides evaluates the step.
attribute [local irreducible] step in
theorem run_succ (fuel : Nat) (scanner : Scanner) :
    scanner.run (fuel + 1) =
      match scanner.step with
      | .error fault => (scanner.settled, some fault)
      | .ok (some scanner) => run fuel scanner
      | .ok none =>
        match scanner.close with
        | .error fault => (scanner.settled, some fault)
        | .ok scanner => (scanner.scanned, none) :=
  rfl

/-- So does a run. -/
theorem isOfData_of_run {fuel : Nat} {scanner : Scanner} {tokens : List Token} {fault : HostFault}
    (ran : scanner.run fuel = (tokens, some fault)) : fault.IsOfData := by
  induction fuel generalizing scanner with
  | zero =>
    cases ran
    exact .malformed
  | succ fuel ih =>
    rw [run_succ] at ran
    cases stepped : scanner.step with
    | error cause =>
      simp only [stepped, Prod.mk.injEq, Option.some.injEq] at ran
      exact ran.2 ▸ spec_iff.mp (step_spec _) _ stepped
    | ok after =>
      cases after with
      | some scanner =>
        simp only [stepped] at ran
        exact ih ran
      | none =>
        cases closed : scanner.close with
        | error cause =>
          simp only [stepped, closed, Prod.mk.injEq, Option.some.injEq] at ran
          exact ran.2 ▸ spec_iff.mp (close_spec _) _ closed
        | ok after => simp [stepped, closed] at ran

end Scanner

theorem Token.isOfData_of_scan {text : Text} {tokens : List Token} {fault : HostFault}
    (found : Token.scan text = (tokens, some fault)) : fault.IsOfData := by
  unfold Token.scan at found
  by_cases readable : text.all isReadable = true
  · rw [if_pos readable] at found
    cases ran : (Scanner.start text).run (text.length + 2) with
    | mk scanned stop =>
      simp only [ran, Prod.mk.injEq] at found
      exact Scanner.isOfData_of_run (found.2 ▸ ran)
  · rw [if_neg readable] at found
    cases found
    exact .malformed

/-! ### Nodes -/

/-- If the tokens have stopped early it is because of a fault of data. -/
def Reader.IsSound (reader : Reader) : Prop :=
  ∀ fault, reader.fault = some fault → fault.IsOfData

namespace Reads

/-- The reader is sound. -/
abbrev ifSound : Assertion (.arg Reader (.except HostFault .pure)) :=
  fun reader => ⌜reader.IsSound⌝

/-- Any value and a reader that is still sound, or a fault of data. -/
abbrev orAtFault {α : Type} : PostCond α (.arg Reader (.except HostFault .pure)) :=
  post⟨fun _ reader => ⌜reader.IsSound⌝, fun fault => ⌜fault.IsOfData⌝⟩

@[spec 2000]
theorem throw_spec {α : Type} {fault : HostFault} :
    ⦃⌜fault.IsOfData⌝⦄ (throw fault : Reads α) ⦃orAtFault⦄ :=
  fun _ data => data

@[spec]
theorem malformed_spec {α : Type} : ⦃ifSound⦄ (malformed : Reads α) ⦃orAtFault⦄ :=
  fun _ _ => .malformed

@[spec]
theorem peek_spec : ⦃ifSound⦄ peek ⦃orAtFault⦄ := by
  mvcgen [peek]
  next sound _ stopped _ => exact sound _ stopped

@[spec]
theorem skip_spec : ⦃ifSound⦄ skip ⦃orAtFault⦄ := by
  mvcgen [skip]

@[spec]
theorem accept_spec (token : Token) : ⦃ifSound⦄ accept token ⦃orAtFault⦄ := by
  mvcgen [accept]

@[spec]
theorem isAt_spec (tokens : List Token) : ⦃ifSound⦄ isAt tokens ⦃orAtFault⦄ := by
  mvcgen [isAt]

@[spec]
theorem addressOf_spec (handle : Option Text) (suffix : Text) :
    ⦃ifSound⦄ addressOf handle suffix ⦃orAtFault⦄ := by
  mvcgen [addressOf]

@[spec]
theorem acceptName_spec : ⦃ifSound⦄ acceptName ⦃orAtFault⦄ := by
  mvcgen [acceptName]

@[spec]
theorem acceptTag_spec : ⦃ifSound⦄ acceptTag ⦃orAtFault⦄ := by
  mvcgen [acceptTag]

@[spec]
theorem properties_spec : ⦃ifSound⦄ properties ⦃orAtFault⦄ := by
  mvcgen [properties]

@[spec]
theorem add_spec (node : Node) : ⦃ifSound⦄ add node ⦃orAtFault⦄ := by
  mvcgen [add]

@[spec]
theorem addEmpty_spec : ⦃ifSound⦄ addEmpty ⦃orAtFault⦄ := by
  mvcgen [addEmpty]

@[spec]
theorem enter_spec (name : Option Text) (node : Node) : ⦃ifSound⦄ enter name node ⦃orAtFault⦄ := by
  mvcgen [enter]

@[spec]
theorem fill_spec (number : Nat) (content : Content) : ⦃ifSound⦄ fill number content ⦃orAtFault⦄ := by
  mvcgen [fill]

@[spec]
theorem named_spec (name : Text) : ⦃ifSound⦄ named name ⦃orAtFault⦄ := by
  mvcgen [named]

@[spec]
theorem bare_spec (properties : Properties) : ⦃ifSound⦄ bare properties ⦃orAtFault⦄ := by
  mvcgen [bare]

/-- Nodes, items and entries are read with faults of data only. -/
structure Spec (fuel : Nat) : Prop where
  node (place : Place) : ⦃ifSound⦄ node place fuel ⦃orAtFault⦄
  items (followers : List Token) : ⦃ifSound⦄ items fuel followers ⦃orAtFault⦄
  fields : ⦃ifSound⦄ fields fuel ⦃orAtFault⦄
  flowItems (isFirst : Bool) : ⦃ifSound⦄ flowItems fuel isFirst ⦃orAtFault⦄
  flowFields (isFirst : Bool) : ⦃ifSound⦄ flowFields fuel isFirst ⦃orAtFault⦄
  flowField (closing : Token) : ⦃ifSound⦄ flowField fuel closing ⦃orAtFault⦄

theorem spec_of_fuel (fuel : Nat) : Spec fuel := by
  induction fuel with
  | zero =>
    constructor
    · intro place
      mvcgen [node]
    · intro followers
      mvcgen [items]
    · mvcgen [fields]
    · intro isFirst
      mvcgen [flowItems]
    · intro isFirst
      mvcgen [flowFields]
    · intro closing
      mvcgen [flowField]
  | succ fuel ih =>
    obtain ⟨onNode, onItems, onFields, onFlowItems, onFlowFields, onFlowField⟩ := ih
    constructor
    · intro place
      mvcgen [node, onItems, onFields, onFlowItems, onFlowFields]
    · intro followers
      mvcgen [items, onNode, onItems]
    · mvcgen [fields, onNode, onFields]
    · intro isFirst
      mvcgen [flowItems, onNode, onFlowItems, onFlowField]
    · intro isFirst
      mvcgen [flowFields, onNode, onFlowFields, onFlowField]
    · intro closing
      mvcgen [flowField, onNode]

@[spec]
theorem node_spec (place : Place) (fuel : Nat) : ⦃ifSound⦄ node place fuel ⦃orAtFault⦄ :=
  (spec_of_fuel fuel).node place

@[spec]
theorem directives_spec (fuel : Nat) (hasVersion : Bool) (handles : List (Text × Text)) :
    ⦃ifSound⦄ directives fuel hasVersion handles ⦃orAtFault⦄ := by
  induction fuel generalizing hasVersion handles with
  | zero => mvcgen [directives]
  | succ fuel ih => mvcgen [directives, ih]

@[spec]
theorem skipEnds_spec (fuel : Nat) : ⦃ifSound⦄ skipEnds fuel ⦃orAtFault⦄ := by
  induction fuel with
  | zero => mvcgen [skipEnds]
  | succ fuel ih => mvcgen [skipEnds, ih]

@[spec]
theorem atDirective_spec : ⦃ifSound⦄ atDirective ⦃orAtFault⦄ := by
  mvcgen [atDirective]

@[spec]
theorem document_spec (fuel : Nat) : ⦃ifSound⦄ document fuel ⦃orAtFault⦄ := by
  mvcgen [document]

/-- A sound reader stops with a fault of data only. -/
theorem isOfData_of_run {α : Type} {work : Reads α} {reader : Reader} {fault : HostFault}
    (spec : ⦃ifSound⦄ work ⦃orAtFault⦄) (sound : reader.IsSound)
    (fails : work.run reader = .error fault) : fault.IsOfData := by
  have stopped : (wp⟦work.run reader⟧ post⟨fun pair => ⌜pair.2.IsSound⌝,
      fun fault => ⌜fault.IsOfData⌝⟩).down := spec reader sound
  rw [fails] at stopped
  exact stopped

end Reads

@[spec]
theorem Document.ofText?_spec (text : Text) : ⦃⌜True⌝⦄ Document.ofText? text ⦃orAtFault⦄ := by
  refine spec_iff.mpr fun fault fails => ?_
  unfold Document.ofText? at fails
  cases scanned : Token.scan text with
  | mk tokens stop =>
    rw [scanned] at fails
    dsimp only at fails
    split at fails
    · next cause ran =>
      cases fails
      refine Reads.isOfData_of_run (Reads.document_spec _) ?_ ran
      rintro cause ⟨⟩
      exact Token.isOfData_of_scan scanned
    · cases fails

/-! ### Atoms -/

namespace Tag

@[spec]
theorem signed_spec (text : Text) : ⦃⌜True⌝⦄ signed text ⦃orAtFault⦄ := by
  mvcgen [signed]
  exact .numberless

@[spec]
theorem numeral_spec (base : Nat) (text : Text) : ⦃⌜True⌝⦄ numeral base text ⦃orAtFault⦄ :=
  mapError_spec .numeral

@[spec]
theorem integerOf_spec (text : Text) : ⦃⌜True⌝⦄ integerOf text ⦃orAtFault⦄ := by
  mvcgen [integerOf]
  exact .numberless

@[spec]
theorem decimal_spec (text : Text) : ⦃⌜True⌝⦄ decimal text ⦃orAtFault⦄ :=
  mapError_spec .numeral

@[spec]
theorem sixtieths_spec (total : Binary64) (base : Nat) (parts : List Binary64) :
    ⦃⌜True⌝⦄ sixtieths total base parts ⦃orAtFault⦄ := by
  induction parts generalizing total base with
  | nil => mvcgen [sixtieths]
  | cons part parts ih =>
    mvcgen [sixtieths, ih]
    exact .tooLarge

@[spec]
theorem fractionOf_spec (mark : Nat) (text : Text) : ⦃⌜True⌝⦄ fractionOf mark text ⦃orAtFault⦄ := by
  mvcgen [fractionOf]

@[spec]
theorem truthOf_spec (text : Text) : ⦃⌜True⌝⦄ truthOf text ⦃orAtFault⦄ := by
  mvcgen [truthOf]
  exact .word _

@[spec]
theorem bytesOf_spec (text : Text) : ⦃⌜True⌝⦄ bytesOf text ⦃orAtFault⦄ := by
  mvcgen [bytesOf]
  all_goals exact .malformed

@[spec]
theorem timestampOf_spec (text : Text) : ⦃⌜True⌝⦄ timestampOf text ⦃orAtFault⦄ := by
  mvcgen [timestampOf]
  · exact .calendar
  · exact .timeless

@[spec]
theorem atom_spec (mark : Nat) (text : Text) (tag : Tag) :
    ⦃⌜True⌝⦄ tag.atom mark text ⦃orAtFault⦄ := by
  cases tag <;> mvcgen [atom]
  all_goals exact .malformed

end Tag

namespace Nodes

@[spec]
theorem textOf_spec (nodes : Nodes) (fuel number : Nat) :
    ⦃⌜True⌝⦄ nodes.textOf fuel number ⦃orAtFault⦄ := by
  induction fuel generalizing number with
  | zero =>
    mvcgen [textOf]
    exact .endless
  | succ fuel ih =>
    mvcgen [textOf, ih]
    all_goals exact .malformed

@[spec]
theorem atomOf_spec (nodes : Nodes) (number : Nat) : ⦃⌜True⌝⦄ nodes.atomOf number ⦃orAtFault⦄ := by
  mvcgen [atomOf]
  · exact .malformed
  · exact .textless
  · exact .textless

/-! ### Merging -/

@[spec]
theorem mergedInto_spec (fuel : Nat) (nodes : Nodes) (number : Nat) (before : Fields) :
    ⦃⌜True⌝⦄ mergedInto fuel nodes number before ⦃orAtFault⦄ := by
  induction fuel generalizing nodes number before with
  | zero =>
    mvcgen [mergedInto]
    exact .malformed
  | succ fuel ih =>
    mvcgen [mergedInto, ih]
    case inv1 => exact post⟨fun _ => ⌜True⌝, fun fault => ⌜fault.IsOfData⌝⟩
    · exact .malformed
    · exact trivial
    · exact id
    · exact trivial
    · exact ExceptConds.entails.rfl

@[spec]
theorem merge_spec (nodes : Nodes) (number : Nat) : ⦃⌜True⌝⦄ nodes.merge number ⦃orAtFault⦄ := by
  mvcgen [merge]

end Nodes

/-! ### Values -/

namespace Making

/-- Any value, or a fault of data. -/
abbrev orAtFault {α : Type} : PostCond α (.arg Making (.except HostFault .pure)) :=
  post⟨fun _ _ => ⌜True⌝, fun fault => ⌜fault.IsOfData⌝⟩

@[spec 2000]
theorem throw_spec {α : Type} {fault : HostFault} :
    ⦃⌜fault.IsOfData⌝⦄ (throw fault : Makes α) ⦃orAtFault⦄ :=
  fun _ data => data

@[spec]
theorem mapM_spec {α β : Type} {step : α → Makes β} {items : List α}
    (spec : ∀ item, ⦃⌜True⌝⦄ step item ⦃orAtFault⦄) :
    ⦃⌜True⌝⦄ items.mapM step ⦃orAtFault⦄ := by
  induction items with
  | nil => mvcgen
  | cons item items ih =>
    rw [List.mapM_cons]
    mvcgen [spec, ih]

@[spec]
theorem add_spec (collection : Collection) : ⦃⌜True⌝⦄ add collection ⦃orAtFault⦄ := by
  mvcgen [add]

@[spec]
theorem item_spec (number : Nat) : ⦃⌜True⌝⦄ item number ⦃orAtFault⦄ := by
  mvcgen [item]

@[spec]
theorem key_spec (number : Nat) : ⦃⌜True⌝⦄ key number ⦃orAtFault⦄ := by
  mvcgen [key]
  exact .malformed

@[spec]
theorem pair_spec (number : Nat) : ⦃⌜True⌝⦄ pair number ⦃orAtFault⦄ := by
  mvcgen [pair]
  exact .malformed

@[spec]
theorem entries_spec (number : Nat) : ⦃⌜True⌝⦄ entries number ⦃orAtFault⦄ := by
  mvcgen [entries]

@[spec]
theorem contentOf_spec (number : Nat) (node : Node) :
    ⦃⌜True⌝⦄ contentOf number node ⦃orAtFault⦄ := by
  mvcgen [contentOf]
  exact .malformed

@[spec]
theorem fill_spec (number label : Nat) : ⦃⌜True⌝⦄ fill number label ⦃orAtFault⦄ := by
  mvcgen [fill]
  exact .malformed

@[spec]
theorem fillAll_spec (fuel : Nat) : ⦃⌜True⌝⦄ fillAll fuel ⦃orAtFault⦄ := by
  induction fuel with
  | zero =>
    mvcgen [fillAll]
    exact .malformed
  | succ fuel ih => mvcgen [fillAll, ih]

theorem run_spec {α : Type} {work : Makes α} {making : Making}
    (spec : ⦃⌜True⌝⦄ work ⦃orAtFault⦄) : ⦃⌜True⌝⦄ work.run making ⦃Yaml.orAtFault⦄ :=
  fun start => spec making start

end Making

@[spec]
theorem Document.value_spec (document : Document) : ⦃⌜True⌝⦄ document.value ⦃orAtFault⦄ := by
  unfold Document.value
  refine bind_spec (Making.run_spec ?_) fun _ => ok_spec
  mvcgen

@[spec]
theorem readShared_spec (text : Text) : ⦃⌜True⌝⦄ readShared text ⦃orAtFault⦄ := by
  mvcgen [readShared]

/-- **What can be wrong with the text of a data file.** -/
theorem readShared_eq_error {text : Text} {fault : HostFault}
    (fails : readShared text = .error fault) : fault.IsOfData :=
  spec_iff.mp (readShared_spec text) fault fails

end Yaml

end PromptWeave
