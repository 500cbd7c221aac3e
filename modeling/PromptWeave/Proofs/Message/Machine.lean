/-
**The extractor, one step at a time.**

Messages are extracted by a machine that walks along a text. It looks for a role tag at the top level,
then inside the block for the next role tag, which has to close it, puts the message out, and starts
again behind it. A block that is open is remembered by its opening tag; a machine that needs one and
has none would be lost. Main statements:

* `Message.Machine.step`: the next move of a machine;
* `Message.Machine.goes_of_next`: everything that a move can be;
* `Message.Machine.effort_lt_of_goes`: every move takes away from the work that is left;
* `Message.Machine.exists_last`: the machine comes to an end.
-/

import Mathlib.Logic.Relation
import PromptWeave.Proofs.Message.Place

namespace PromptWeave

open Text

namespace Message

/-! ### Role tags and their spans -/

/-- A role tag and the span that it has in a whole text. -/
structure Spot where
  role : Role
  tag : Tag
  /-- The position of its `<`. -/
  start : Nat
  /-- The position after its `>`. -/
  stop : Nat
deriving DecidableEq, Repr

/-- A role tag stands in a text where its span is. -/
structure Spot.Stands (spot : Spot) (text : Text) : Prop where
  start_lt : spot.start < spot.stop
  stop_le : spot.stop ≤ text.length
  read : Tag.read? (text.drop spot.start) = some (spot.tag, text.drop spot.stop)
  names : spot.tag.name = spot.role.tagName

/-- The role tag that a search finds from a position of a text on. -/
def spotFrom (search : Text → Option Found) (text : Text) (position : Nat) : Option Spot :=
  (search (text.drop position)).map fun found =>
    ⟨found.role, found.tag, position + found.before.length, text.length - found.after.length⟩

section Spots

variable {search : Text → Option Found} {text : Text} {position : Nat} {spot : Spot}

/-- What a search found, as it stands in the whole text. -/
theorem exists_of_spotFrom
    (fits : ∀ {text found}, search text = some found → Found.Fits found text)
    (next : spotFrom search text position = some spot) :
    ∃ found, search (text.drop position) = some found ∧ spot.role = found.role ∧
      spot.tag = found.tag ∧ spot.start = position + found.before.length ∧
      text.drop spot.stop = found.after ∧ spot.stop + found.after.length = text.length ∧
      found.before.length + found.after.length < (text.drop position).length := by
  obtain ⟨found, same, rfl⟩ := Option.map_eq_some_iff.mp next
  have read := (fits same).read
  have less := Tag.read?_length_lt read
  have behind : found.after <:+ text :=
    ((Tag.read?_suffix read).trans (List.drop_suffix _ _)).trans (List.drop_suffix _ _)
  have short := behind.length_le
  rw [List.length_drop] at less
  refine ⟨found, same, rfl, rfl, rfl, (List.suffix_iff_eq_drop.mp behind).symm, ?_, by omega⟩
  show text.length - found.after.length + found.after.length = text.length
  omega

/-- **A role tag that is found stands behind the position** from which it was looked for. -/
theorem stands_of_spotFrom
    (fits : ∀ {text found}, search text = some found → Found.Fits found text)
    (next : spotFrom search text position = some spot) :
    spot.Stands text ∧ position ≤ spot.start := by
  obtain ⟨found, same, role, tag, start, behind, stop, less⟩ := exists_of_spotFrom fits next
  have fit := fits same
  rw [List.length_drop] at less
  refine ⟨⟨by omega, by omega, ?_, ?_⟩, by omega⟩
  · rw [start, behind, tag, ← List.drop_drop]
    exact fit.read
  · rw [tag, role]
    exact fit.names

/-- Inside a block no role tag begins between the position of a search and the tag that is found. -/
theorem not_begins_of_spotFrom (next : spotFrom nextRoleTag text position = some spot) {place : Nat}
    (behind : position ≤ place) (earlier : place < spot.start) :
    ¬ BeginsRoleTag (text.drop place) := by
  obtain ⟨found, same, _, _, start, _⟩ := exists_of_spotFrom fits_of_nextRoleTag next
  have inside : place - position < found.before.length := by omega
  have apart := not_begins_of_nextRoleTag same inside
  rwa [List.drop_drop, Nat.add_sub_cancel' behind] at apart

/-- Where a search inside a block finds nothing, no role tag begins. -/
theorem not_begins_of_spotFrom_none (next : spotFrom nextRoleTag text position = none) {place : Nat}
    (behind : position ≤ place) : ¬ BeginsRoleTag (text.drop place) := by
  have never := nextRoleTag_eq_none_iff.mp (Option.map_eq_none_iff.mp next) (place - position)
  rwa [List.drop_drop, Nat.add_sub_cancel' behind] at never

end Spots

/-! ### The machine -/

/-- Where the machine stands in its cycle. -/
inductive Phase
  /-- It has not begun. -/
  | idle
  /-- It looks for the next block. -/
  | scanning
  /-- It looks for the end of a block. -/
  | inBlock
  /-- It has a message to put out. -/
  | emitting
  /-- It has finished. -/
  | done
deriving DecidableEq, Repr

/-- The phase in which an extraction of some stage ends. -/
def Stage.phase : Stage → Phase
  | .scanning => .scanning
  | .inBlock => .inBlock
  | .done => .done

/-- What the machine remembers. -/
structure Machine where
  phase : Phase
  /-- How far it has come. -/
  position : Nat
  /-- The opening tag of the block that is open. -/
  opened : Option Spot
  /-- The words of the message that is to be put out. -/
  content : Text
  /-- The messages that have been put out. -/
  messages : List Message
deriving DecidableEq, Repr

/-- A move of the machine. -/
inductive Move
  | next (machine : Machine)
  | returns (messages : List Message)
  | raises (flaw : Flaw)
  /-- The machine needs an open block and has none. -/
  | lost
deriving DecidableEq, Repr

/-- The part of a text between two positions. -/
def between (text : Text) (start stop : Nat) : Text := (text.take stop).drop start

namespace Machine

/-- The machine as it enters its cycle. -/
def start : Machine := ⟨.scanning, 0, none, [], []⟩

/-- Looks for the next block. -/
def scan (text : Text) (machine : Machine) : Move :=
  match spotFrom nextTopLevelTag text machine.position with
  | none => .next { machine with phase := .done }
  | some spot =>
    if spot.tag.closing then .raises ⟨.unexpectedClosing spot.role, lineAt text spot.start⟩
    else if spot.tag.selfClosing then
      .next { machine with
        phase := .emitting, position := spot.stop, opened := some spot, content := [] }
    else .next { machine with phase := .inBlock, position := spot.stop, opened := some spot }

/-- Looks for the end of a block. -/
def close (text : Text) (machine : Machine) (opened : Spot) : Move :=
  match spotFrom nextRoleTag text machine.position with
  | none => .raises ⟨.unclosed opened.role, lineAt text opened.start⟩
  | some spot =>
    if !spot.tag.closing then
      .raises ⟨.nested spot.role opened.role, lineAt text spot.start⟩
    else if spot.role ≠ opened.role then
      .raises ⟨.mismatched spot.role opened.role, lineAt text spot.start⟩
    else
      .next { machine with
        phase := .emitting
        position := spot.stop
        content := between text opened.stop spot.start }

/-- Puts a message out. -/
def emit (machine : Machine) (opened : Spot) : Machine :=
  { machine with
    phase := .scanning
    opened := none
    messages := machine.messages ++ [⟨opened.role, strip machine.content⟩] }

/-- The next move of the machine. -/
def step (text : Text) (machine : Machine) : Move :=
  match machine.phase, machine.opened with
  | .done, _ => .returns machine.messages
  | .scanning, _ => machine.scan text
  | .inBlock, some opened => machine.close text opened
  | .emitting, some opened => .next (machine.emit opened)
  | _, _ => .lost

variable {text : Text}

/-! ### Moves -/

/-- The machine goes on from here to there. -/
inductive Goes (text : Text) : Machine → Machine → Prop
  /-- No block is left. -/
  | finishes {position : Nat} {opened : Option Spot} {content : Text} {messages : List Message}
      (next : spotFrom nextTopLevelTag text position = none) :
      Goes text ⟨.scanning, position, opened, content, messages⟩
        ⟨.done, position, opened, content, messages⟩
  /-- A tag is a block of its own. -/
  | single {position : Nat} {opened : Option Spot} {content : Text} {messages : List Message}
      {spot : Spot} (next : spotFrom nextTopLevelTag text position = some spot)
      (opens : spot.tag.closing = false) (alone : spot.tag.selfClosing = true) :
      Goes text ⟨.scanning, position, opened, content, messages⟩
        ⟨.emitting, spot.stop, some spot, [], messages⟩
  /-- A tag opens a block. -/
  | opens {position : Nat} {opened : Option Spot} {content : Text} {messages : List Message}
      {spot : Spot} (next : spotFrom nextTopLevelTag text position = some spot)
      (opens : spot.tag.closing = false) (paired : spot.tag.selfClosing = false) :
      Goes text ⟨.scanning, position, opened, content, messages⟩
        ⟨.inBlock, spot.stop, some spot, content, messages⟩
  /-- The next role tag closes the block. -/
  | closes {position : Nat} {opened : Spot} {content : Text} {messages : List Message} {spot : Spot}
      (next : spotFrom nextRoleTag text position = some spot) (closing : spot.tag.closing = true)
      (role : spot.role = opened.role) :
      Goes text ⟨.inBlock, position, some opened, content, messages⟩
        ⟨.emitting, spot.stop, some opened, between text opened.stop spot.start, messages⟩
  /-- A message is put out. -/
  | emits {position : Nat} {opened : Spot} {content : Text} {messages : List Message} :
      Goes text ⟨.emitting, position, some opened, content, messages⟩
        ⟨.scanning, position, none, content, messages ++ [⟨opened.role, strip content⟩]⟩

/-- **Everything that a move can be.** -/
theorem goes_of_next {machine later : Machine} (moves : step text machine = .next later) :
    Goes text machine later := by
  obtain ⟨phase, position, opened, content, messages⟩ := machine
  cases phase with
  | idle => cases moves
  | done => cases moves
  | scanning =>
    simp only [step, scan] at moves
    split at moves
    · rename_i next
      cases moves
      exact .finishes next
    · rename_i spot next
      split at moves
      · cases moves
      · rename_i opens
        rw [Bool.not_eq_true] at opens
        split at moves
        · rename_i alone
          cases moves
          exact .single next opens alone
        · rename_i paired
          cases moves
          exact .opens next opens ((Bool.not_eq_true _).mp paired)
  | inBlock =>
    cases opened with
    | none => cases moves
    | some opened =>
      simp only [step, close] at moves
      split at moves
      · cases moves
      · rename_i spot next
        split at moves
        · cases moves
        · rename_i closing
          split at moves
          · cases moves
          · rename_i role
            cases moves
            exact .closes next (by simpa using closing) (Decidable.not_not.mp role)
  | emitting =>
    cases opened with
    | none => cases moves
    | some opened =>
      cases moves
      exact .emits

/-! ### The end -/

/-- How many moves are left at most in a phase before the machine gets further. -/
def rank : Phase → Nat
  | .idle | .done => 0
  | .scanning => 1
  | .emitting => 2
  | .inBlock => 3

/-- The work that is left: of every character of the text at most one cycle. -/
def effort (text : Text) (machine : Machine) : Nat :=
  3 * (text.length - machine.position) + rank machine.phase

/-- **Every move takes away from the work that is left.** -/
theorem effort_lt_of_goes {machine later : Machine} (goes : Goes text machine later) :
    effort text later < effort text machine := by
  have further {search : Text → Option Found} {position : Nat} {spot : Spot}
      (fits : ∀ {text found}, search text = some found → Found.Fits found text)
      (next : spotFrom search text position = some spot) :
      text.length - spot.stop < text.length - position := by
    obtain ⟨stands, behind⟩ := stands_of_spotFrom fits next
    have less := stands.start_lt
    have inside := stands.stop_le
    omega
  cases goes with
  | finishes => simp only [effort, rank]; omega
  | single next => have := further fits_of_nextTopLevelTag next; simp only [effort, rank]; omega
  | opens next => have := further fits_of_nextTopLevelTag next; simp only [effort, rank]; omega
  | closes next => have := further fits_of_nextRoleTag next; simp only [effort, rank]; omega
  | emits => simp only [effort, rank]; omega

/-- The machine comes from here to there by its moves. -/
def Comes (text : Text) : Machine → Machine → Prop :=
  Relation.ReflTransGen fun machine later => step text machine = .next later

/-- **The machine comes to an end**, wherever it starts. -/
theorem exists_last (text : Text) (machine : Machine) :
    ∃ last, Comes text machine last ∧ ∀ later, step text last ≠ .next later := by
  induction left : effort text machine using Nat.strong_induction_on generalizing machine with
  | _ left ih =>
  by_cases stops : ∀ later, step text machine ≠ .next later
  · exact ⟨machine, .refl, stops⟩
  · obtain ⟨later, moves⟩ := not_forall.mp stops
    rw [not_not] at moves
    have less := effort_lt_of_goes (goes_of_next moves)
    obtain ⟨last, comes, stops⟩ := ih _ (left ▸ less) later rfl
    exact ⟨last, .head moves comes, stops⟩

end Machine

end Message

end PromptWeave
