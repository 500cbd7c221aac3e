/-
**Expansions that never end.**

Chains bound how deeply documents are nested, but not how often the directives of one document are
replaced: a text that is put in place can join with what stands beside it into new directives. An
expansion that never ends comes by a document that is at work for ever. It has to join on both
sides again and again: without joining in front less and less of the text would be left, and
without joining behind fewer and fewer directives would begin. Main statements:

* `Expansion.Loop`: a document that is at work for ever;
* `Expansion.ends_of_no_loop`: an expansion that comes by no such document ends;
* `Expansion.Loop.joinsInFront_again`, `Expansion.Loop.joinsBehind_again`: both sides are needed;
* `Expansion.ends_of_apart`: an expansion that joins on one side only ends;
* `Expansion.transform?_isSome_iff`: when the expansion of a root text ends.
-/

import Mathlib.Order.OrderIsoNat
import PromptWeave.Proofs.Directive.Splice
import PromptWeave.Proofs.Expansion.Run

namespace PromptWeave

open Text

namespace Expansion

variable {reading : Reading}

/-! ### Turns -/

/-- One turn of a document at work: its first directive is replaced by this text, to which the
document that it names is expanded. -/
def Turns (reading : Reading) (frame : Frame) (directive : Directive) (text : Text) : Prop :=
  ∃ inner reads, step reading frame = .enters directive inner ∧
    Expands reading inner reads (.ok text)

/-- A text that is put in the place of a directive lets another one begin in front of it. -/
def JoinsInFront (frame : Frame) (directive : Directive) (text : Text) : Prop :=
  ¬ Directive.Clear (frame.text.take directive.start) (text ++ frame.text.drop directive.stop)

/-- A text that is put in the place of a directive lets another one begin in it, which goes on
behind it. -/
def JoinsBehind (frame : Frame) (directive : Directive) (text : Text) : Prop :=
  ¬ Directive.Clear text (frame.text.drop directive.stop)

/-- A turn that does not join in front leaves less of the text from the next directive on. -/
theorem left_lt_of_turn {frame : Frame} {directive next : Directive} {text : Text}
    (turn : Turns reading frame directive text) (apart : ¬ JoinsInFront frame directive text)
    (found : Directive.first (frame.splice directive text).text = .ok (some next)) :
    (frame.splice directive text).text.length - next.start <
      frame.text.length - directive.start := by
  obtain ⟨inner, reads, enters, inside⟩ := turn
  obtain ⟨front, tag, rest, whole, before, behind, start, _, _, long⟩ :=
    Directive.exists_cut (step_eq_enters_iff.mp enters).1
  have plain : Directive.Clear text [] := Directive.firstFrom_eq_none_iff.mp inside.first_eq_none
  unfold JoinsInFront at apart
  rw [not_not, before, behind] at apart
  simp only [Frame.splice, before, behind, List.append_assoc] at found ⊢
  have less := Directive.left_lt_of_clear long plain apart found
  have lengths : (front ++ (tag ++ rest)).length = front.length + (tag ++ rest).length :=
    List.length_append
  rw [whole, start, lengths, Nat.add_sub_cancel_left]
  exact less

/-- A turn that does not join behind leaves fewer directives, or as many and the next one begins
earlier. -/
theorem marks_lt_of_turn {frame : Frame} {directive next : Directive} {text : Text}
    (turn : Turns reading frame directive text) (apart : ¬ JoinsBehind frame directive text)
    (found : Directive.first (frame.splice directive text).text = .ok (some next)) :
    toLex (Directive.marks (frame.splice directive text).text, next.start) <
      toLex (Directive.marks frame.text, directive.start) := by
  obtain ⟨inner, reads, enters, _⟩ := turn
  obtain ⟨front, tag, rest, whole, before, behind, start, clear, begins, long⟩ :=
    Directive.exists_cut (step_eq_enters_iff.mp enters).1
  unfold JoinsBehind at apart
  rw [not_not, behind] at apart
  simp only [Frame.splice, before, behind, List.append_assoc] at found ⊢
  rw [whole, start]
  exact Directive.marks_lt_of_clear clear begins long apart found

/-! ### Documents at work for ever -/

/-- A document that is at work for ever: turn after turn its first directive is replaced, and there
is always another one. -/
structure Loop (reading : Reading) where
  frames : Nat → Frame
  directives : Nat → Directive
  texts : Nat → Text
  turns : ∀ turn, Turns reading (frames turn) (directives turn) (texts turn)
  follows : ∀ turn, frames (turn + 1) = (frames turn).splice (directives turn) (texts turn)

namespace Loop

variable (loop : Loop reading)

theorem found (turn : Nat) :
    Directive.first (loop.frames turn).text = .ok (some (loop.directives turn)) := by
  obtain ⟨inner, reads, enters, _⟩ := loop.turns turn
  exact (step_eq_enters_iff.mp enters).1

theorem found_next (turn : Nat) :
    Directive.first ((loop.frames turn).splice (loop.directives turn) (loop.texts turn)).text =
      .ok (some (loop.directives (turn + 1))) := by
  rw [← loop.follows]
  exact loop.found (turn + 1)

/-- What keeps a measure from falling in a turn happens again and again. -/
theorem again {α : Type} [LT α] [WellFoundedLT α] (measure : Text → Directive → α)
    {hinders : Frame → Directive → Text → Prop}
    (falls : ∀ {frame : Frame} {directive next : Directive} {text : Text},
      Turns reading frame directive text → ¬ hinders frame directive text →
      Directive.first (frame.splice directive text).text = .ok (some next) →
      measure (frame.splice directive text).text next < measure frame.text directive)
    (start : Nat) : ∃ turn, start ≤ turn ∧
      hinders (loop.frames turn) (loop.directives turn) (loop.texts turn) := by
  by_contra never
  obtain ⟨turn, rises⟩ := WellFounded.not_rel_apply_succ (r := (· < ·)) fun turn =>
    measure (loop.frames (start + turn)).text (loop.directives (start + turn))
  refine rises ?_
  have free := fun hindered => never ⟨start + turn, Nat.le_add_right start turn, hindered⟩
  have less := falls (loop.turns (start + turn)) free (loop.found_next (start + turn))
  rw [← loop.follows] at less
  exact less

/-- **A document at work for ever joins in front again and again.** -/
theorem joinsInFront_again (start : Nat) : ∃ turn, start ≤ turn ∧
    JoinsInFront (loop.frames turn) (loop.directives turn) (loop.texts turn) :=
  loop.again (fun text directive => text.length - directive.start) left_lt_of_turn start

/-- **A document at work for ever joins behind again and again.** -/
theorem joinsBehind_again (start : Nat) : ∃ turn, start ≤ turn ∧
    JoinsBehind (loop.frames turn) (loop.directives turn) (loop.texts turn) :=
  loop.again (fun text directive => toLex (Directive.marks text, directive.start))
    marks_lt_of_turn start

theorem reached (turn : Nat) : Reached reading (loop.frames 0) (loop.frames turn) := by
  induction turn with
  | zero => exact .start
  | succ turn ih =>
    obtain ⟨inner, reads, enters, inside⟩ := loop.turns turn
    rw [loop.follows]
    exact .turn ih enters inside

/-- The expansion of a document at work for ever never ends. -/
theorem not_ends : ¬ Ends reading (loop.frames 0) := by
  -- Every turn uses up part of what a run would read.
  have never : ∀ length reads outcome turn, reads.length = length →
      ¬ Expands reading (loop.frames turn) reads outcome := by
    intro length
    induction length using Nat.strong_induction_on with
    | _ length ih =>
    intro reads outcome turn same derived
    obtain ⟨inner, before, enters, done⟩ := loop.turns turn
    obtain ⟨later, rest, shorter⟩ := derived.exists_after enters done
    rw [← loop.follows] at rest
    exact ih later.length (same ▸ shorter) later outcome (turn + 1) rfl rest
  rintro ⟨reads, outcome, derived⟩
  exact never _ reads outcome 0 rfl derived

end Loop

/-! ### Expansions that end -/

/-- A document at work after one turn more. -/
def Follows (reading : Reading) (later frame : Frame) : Prop :=
  ∃ directive text, Turns reading frame directive text ∧ later = frame.splice directive text

/-- A document whose turns do not come to an end is at work for ever. -/
theorem exists_loop {frame : Frame} (endless : ¬ Acc (Follows reading) frame) :
    ∃ loop : Loop reading, loop.frames 0 = frame := by
  obtain ⟨frames, start, follows⟩ := not_acc_iff_exists_descending_chain.mp endless
  choose directives texts turns follows using follows
  exact ⟨⟨frames, directives, texts, turns, follows⟩, start⟩

/-- **An expansion ends if it comes by no document that is at work for ever.** -/
theorem ends_of_no_loop {frame : Frame}
    (none : ∀ loop : Loop reading, ¬ Reached reading frame (loop.frames 0)) :
    Ends reading frame := by
  -- Outside, the induction is on how many documents may still be put on the chain; inside, on the
  -- turns of one document.
  induction size : room reading frame using Nat.strong_induction_on generalizing frame with
  | _ size ih =>
  have access : Acc (Follows reading) frame := by
    by_contra endless
    obtain ⟨loop, rfl⟩ := exists_loop endless
    exact none loop .start
  induction access with
  | intro place _ later =>
    cases stepped : step reading place with
    | ends outcome => exact ⟨[], outcome, .ended stepped⟩
    | enters directive inner =>
      have smaller := room_lt_of_load (step_eq_enters_iff.mp stepped).2
      obtain ⟨reads, outcome, inside⟩ := ih _ (size ▸ smaller)
        (fun loop reached => none loop ((Reached.descent .start stepped).trans reached)) rfl
      cases outcome with
      | error fault => exact ⟨_, _, .broken stepped inside⟩
      | ok text =>
        obtain ⟨_, outcome, rest⟩ := later (place.splice directive text)
          ⟨directive, text, ⟨inner, reads, stepped, inside⟩, rfl⟩
          (fun loop reached => none loop ((Reached.turn .start stepped inside).trans reached)) size
        exact ⟨_, outcome, .spliced stepped inside rest⟩

/-- **An expansion ends if nothing that is put in place joins in front, or nothing behind.** -/
theorem ends_of_apart {start : Frame}
    (apart : (∀ frame directive text, Reached reading start frame →
        Turns reading frame directive text → ¬ JoinsInFront frame directive text) ∨
      ∀ frame directive text, Reached reading start frame →
        Turns reading frame directive text → ¬ JoinsBehind frame directive text) :
    Ends reading start := by
  refine ends_of_no_loop fun loop reached => ?_
  have came := fun turn => reached.trans (loop.reached turn)
  rcases apart with apart | apart
  · obtain ⟨turn, _, joins⟩ := loop.joinsInFront_again 0
    exact apart _ _ _ (came turn) (loop.turns turn) joins
  · obtain ⟨turn, _, joins⟩ := loop.joinsBehind_again 0
    exact apart _ _ _ (came turn) (loop.turns turn) joins

/-- An expansion that ends comes only by documents whose expansion ends. -/
theorem Reached.ends {start frame : Frame} (reached : Reached reading start frame)
    (ends : Ends reading start) : Ends reading frame := by
  induction reached with
  | start => exact ends
  | descent _ enters ih =>
    obtain ⟨reads, outcome, derived⟩ := ih
    exact derived.ends_inside enters
  | turn _ enters inside ih =>
    obtain ⟨reads, outcome, derived⟩ := ih
    obtain ⟨later, rest, _⟩ := derived.exists_after enters inside
    exact ⟨later, outcome, rest⟩

/-- A document at work for ever that joins on both of its sides again and again. -/
def Loop.JoinsForEver (loop : Loop reading) : Prop :=
  (∀ start, ∃ turn, start ≤ turn ∧
    JoinsInFront (loop.frames turn) (loop.directives turn) (loop.texts turn)) ∧
  ∀ start, ∃ turn, start ≤ turn ∧
    JoinsBehind (loop.frames turn) (loop.directives turn) (loop.texts turn)

/-- **The expansion of a root text ends exactly if it comes by no document that joins for ever** in
front and behind. The depth bounds only how deeply documents are nested. -/
theorem transform?_isSome_iff (reading : Reading) (baseDirectory rootPath : Option Path)
    (trace : Trace) (text : Text) :
    (transform? reading baseDirectory rootPath trace text).isSome = true ↔
      ∀ root, rootDocument baseDirectory rootPath = .ok root → ∀ loop : Loop reading,
        Reached reading (.root root text) (loop.frames 0) → ¬ loop.JoinsForEver := by
  unfold transform?
  cases found : rootDocument baseDirectory rootPath with
  | error failure => simp
  | ok root =>
    rw [expand?_isSome_iff]
    constructor
    · rintro ends _ same loop reached _
      cases same
      exact loop.not_ends (reached.ends ends)
    · intro none
      refine ends_of_no_loop fun loop reached => none root rfl loop reached ?_
      exact ⟨loop.joinsInFront_again, loop.joinsBehind_again⟩

/-- Two documents that join with the text they are put in: the end of one with the beginning of the
other. -/
def seamReading : Reading :=
  .ofDocuments [("f", "e src=\"g\"/>e src=\"f\"/>"), ("g", "<includ<includ")]

/-- A root text that is the same again after two turns. -/
def seamLoop : Loop seamReading where
  frames turn := .ofNames ["<string>"]
    (if turn % 2 = 0 then "<includ<include src=\"f\"/>".toList
      else "<include src=\"g\"/>e src=\"f\"/>".toList)
  directives turn := if turn % 2 = 0 then ⟨['f'], 7, 25, true⟩ else ⟨['g'], 0, 18, true⟩
  texts turn :=
    if turn % 2 = 0 then "e src=\"g\"/>e src=\"f\"/>".toList else "<includ<includ".toList
  turns turn := by
    rcases Nat.mod_two_eq_zero_or_one turn with even | odd
    · rw [even]
      refine ⟨.ofNames ["<string>", "f"] "e src=\"g\"/>e src=\"f\"/>".toList, [], ?_, .ended ?_⟩
      · cbv
      · cbv
    · rw [odd]
      refine ⟨.ofNames ["<string>", "g"] "<includ<includ".toList, [], ?_, .ended ?_⟩
      · cbv
      · cbv
  follows turn := by
    rcases Nat.mod_two_eq_zero_or_one turn with even | odd
    · rw [even, show (turn + 1) % 2 = 1 by omega]
      rfl
    · rw [odd, show (turn + 1) % 2 = 0 by omega]
      rfl

/-- The expansion of such a text never ends. -/
theorem transform?_seam_eq_none :
    transform? seamReading (some ⟨.root, []⟩) none .empty
      "<includ<include src=\"f\"/>".toList = none := by
  rw [← Option.not_isSome_iff_eq_none]
  exact mt expand?_isSome_iff.mp seamLoop.not_ends

end Expansion

end PromptWeave
