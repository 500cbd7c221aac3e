/-
**The two layouts of a conversation agree.**

One chat service takes all turns in a row; the other one takes the words of the system apart from the turns of
all others. A conversation is laid out for one of them exactly if it is for the other: every turn is sent as it
would be alone, and only a comment that is never closed stops that. Hence the second layout shows the turns of
the first one, none lost, doubled, moved or changed. Main statements:

* `Turn.IsSentAs`: what is sent for a turn, and `Turn.failure?`, why it cannot be sent;
* `turns_eq_ok_iff`, `turns_eq_error_iff`: what is sent for a row of turns, and which failure stops it;
* `turns_filter`: what is sent for the turns of some speakers;
* `split_eq_ok`, `exists_split_error`: the words of the system and the other turns, taken from the row of all;
* `payload_alike`: both layouts of a conversation.
-/

import Mathlib.Data.List.Forall2
import PromptWeave.Composition.Chat

namespace PromptWeave.Chat

open Text

/-! ### Single turns -/

namespace Turn

/-- What is sent for a turn: the words as they are or, if comments are not wanted, without comments and the
blanks around the rest, under the same speaker. -/
def IsSentAs (stripsComments : Bool) (turn out : Turn) : Prop :=
  out.speaker = turn.speaker ∧
    if stripsComments then
      ∃ text, Comment.stripOrFail turn.content = .ok text ∧ out.content = strip text
    else out.content = turn.content

/-- Why a turn cannot be sent without its comments, if it cannot. -/
def failure? (turn : Turn) : Option Failure :=
  match Comment.stripOrFail turn.content with
  | .ok _ => none
  | .error failure => some failure

variable {stripsComments : Bool} {turn out : Turn}

theorem failure?_eq_some_iff {failure : Failure} :
    turn.failure? = some failure ↔ Comment.stripOrFail turn.content = .error failure := by
  unfold failure?
  cases Comment.stripOrFail turn.content with
  | error cause => simp
  | ok text => simp

theorem sent_eq_ok_iff : turn.sent stripsComments = .ok out ↔ turn.IsSentAs stripsComments out := by
  obtain ⟨speaker, content⟩ := out
  unfold sent IsSentAs
  cases stripsComments with
  | false =>
    constructor
    · intro same
      cases same
      exact ⟨rfl, rfl⟩
    · rintro ⟨rfl, rfl⟩
      rfl
  | true =>
    cases Comment.stripOrFail turn.content with
    | error failure => simp [Except.map]
    | ok text => simp [Except.map, eq_comm]

/-- Only a comment that is never closed keeps a turn from being sent. -/
theorem sent_eq_error_iff {failure : Failure} :
    turn.sent stripsComments = .error failure ↔ stripsComments = true ∧ turn.failure? = some failure := by
  rw [failure?_eq_some_iff]
  unfold sent
  cases stripsComments with
  | false => simp
  | true =>
    cases Comment.stripOrFail turn.content with
    | error cause => simp [Except.map]
    | ok text => simp [Except.map]

theorem IsSentAs.failure?_eq_none (sends : turn.IsSentAs true out) : turn.failure? = none := by
  obtain ⟨-, text, stripped, -⟩ := sends
  rw [failure?, stripped]

end Turn

/-! ### Rows of turns -/

section Rows

variable {stripsComments : Bool} {conversation sent : List Turn}

/-- **Turns are sent in a row** when each of them is. -/
theorem turns_eq_ok_iff :
    turns stripsComments conversation = .ok sent ↔
      List.Forall₂ (Turn.IsSentAs stripsComments) conversation sent := by
  induction conversation generalizing sent with
  | nil => simp [turns, eq_comm]
  | cons turn rest ih =>
    rw [turns, List.forall₂_cons_left_iff]
    cases alone : turn.sent stripsComments with
    | error failure =>
      refine iff_of_false (fun same => by cases same) ?_
      rintro ⟨out, others, sends, -, -⟩
      rw [Turn.sent_eq_ok_iff.mpr sends] at alone
      cases alone
    | ok first =>
      have only {out : Turn} (sends : turn.IsSentAs stripsComments out) : first = out :=
        Except.ok.inj (alone.symm.trans (Turn.sent_eq_ok_iff.mpr sends))
      constructor
      · intro all
        cases more : turns stripsComments rest with
        | error failure =>
          rw [more] at all
          cases all
        | ok others =>
          rw [more] at all
          cases all
          exact ⟨first, others, Turn.sent_eq_ok_iff.mp alone, ih.mp more, rfl⟩
      · rintro ⟨out, others, sends, each, rfl⟩
        rw [only sends, ih.mpr each]
        rfl

/-- **A row of turns is not sent** because of the first one that cannot be sent. -/
theorem turns_eq_error_iff {failure : Failure} :
    turns stripsComments conversation = .error failure ↔
      stripsComments = true ∧ conversation.findSome? Turn.failure? = some failure := by
  induction conversation with
  | nil => simp [turns]
  | cons turn rest ih =>
    rw [turns, List.findSome?_cons]
    cases alone : turn.sent stripsComments with
    | error cause =>
      obtain ⟨strips, stuck⟩ := Turn.sent_eq_error_iff.mp alone
      simp [strips, stuck]
    | ok first =>
      have later : (turns stripsComments rest).map (first :: ·) = .error failure ↔
          turns stripsComments rest = .error failure := by
        cases turns stripsComments rest <;> simp [Except.map]
      rw [later, ih]
      refine and_congr_right fun strips => ?_
      subst strips
      rw [(Turn.sent_eq_ok_iff.mp alone).failure?_eq_none]

/-- Of the turns that cannot be sent one is the first. -/
theorem exists_first_failure {turn : Turn} {failure : Failure} (inside : turn ∈ conversation)
    (fails : turn.failure? = some failure) :
    ∃ first, conversation.findSome? Turn.failure? = some first := by
  have some_fails : (conversation.findSome? Turn.failure?).isSome = true :=
    List.findSome?_isSome_iff.mpr ⟨turn, inside, by rw [fails]; rfl⟩
  exact Option.isSome_iff_exists.mp some_fails

/-- **The turns of some speakers are sent** as they are among all turns. -/
theorem turns_filter (chosen : Turn → Bool) (bySpeaker : ∀ one two : Turn, one.speaker = two.speaker →
      chosen one = chosen two) (all : turns stripsComments conversation = .ok sent) :
    turns stripsComments (conversation.filter chosen) = .ok (sent.filter chosen) := by
  rw [turns_eq_ok_iff] at all ⊢
  induction all with
  | nil => exact .nil
  | @cons turn out rest others sends each ih =>
    rw [List.filter_cons, List.filter_cons, bySpeaker out turn sends.1]
    split
    · exact .cons sends ih
    · exact ih

end Rows

/-! ### The words of the system -/

/-- The words of the system among turns, joined by blank lines, if it speaks. -/
def systemWords (sent : List Turn) : Option Text :=
  if ∃ turn ∈ sent, turn.speaker = "system".toList then
    some (joinWith ['\n', '\n']
      ((sent.filter fun turn => turn.speaker = "system".toList).map (·.content)))
  else none

theorem isSystem_eq (turn : Turn) : turn.isSystem = decide (turn.speaker = "system".toList) := by
  rw [Turn.isSystem, Bool.eq_iff_iff, beq_iff_eq, decide_eq_true_iff]
  exact Iff.rfl

theorem isSystem_bySpeaker (one two : Turn) (same : one.speaker = two.speaker) :
    one.isSystem = two.isSystem := by
  rw [Turn.isSystem, Turn.isSystem, same]

section Splits

variable {stripsComments : Bool} {conversation sent : List Turn}

/-- **A conversation is split** into what the system says in the row of all turns, and the others of that row. -/
theorem split_eq_ok (all : turns stripsComments conversation = .ok sent) :
    split stripsComments conversation =
      .ok ⟨systemWords sent, sent.filter fun turn => turn.speaker ≠ "system".toList⟩ := by
  have spoken := turns_filter Turn.isSystem isSystem_bySpeaker all
  have others := turns_filter (fun turn => !turn.isSystem)
    (fun one two same => congrArg not (isSystem_bySpeaker one two same)) all
  have apart : (sent.filter fun turn => !turn.isSystem) =
      sent.filter fun turn => turn.speaker ≠ "system".toList := by
    simp only [isSystem_eq, decide_not]
  have silent : sent.filter Turn.isSystem = [] ↔ ¬ ∃ turn ∈ sent, turn.speaker = "system".toList := by
    simp [isSystem_eq]
  have same : sent.filter Turn.isSystem = sent.filter fun turn => turn.speaker = "system".toList := by
    simp only [funext isSystem_eq]
  rw [split, spoken, others, systemWords, apart]
  by_cases speaks : ∃ turn ∈ sent, turn.speaker = "system".toList
  · rw [if_pos speaks, ← same]
    simp only [silent, speaks, not_true_eq_false, if_false]
  · rw [if_neg speaks]
    simp only [silent, speaks, not_false_eq_true, if_true]

/-- A conversation that is not sent in a row is not split either. -/
theorem exists_split_error {failure : Failure} (stuck : turns stripsComments conversation = .error failure) :
    ∃ other, split stripsComments conversation = .error other := by
  obtain ⟨strips, found⟩ := turns_eq_error_iff.mp stuck
  obtain ⟨turn, inside, fails⟩ := List.exists_of_findSome?_eq_some found
  -- whoever speaks the turn, its failure stops one of the two rows
  have stops (chosen : Turn → Bool) (here : chosen turn = true) :
      ∃ other, turns stripsComments (conversation.filter chosen) = .error other := by
    obtain ⟨other, first⟩ := exists_first_failure (List.mem_filter.mpr ⟨inside, here⟩) fails
    exact ⟨other, turns_eq_error_iff.mpr ⟨strips, first⟩⟩
  unfold split
  cases speaker : turn.isSystem with
  | true =>
    obtain ⟨other, first⟩ := stops Turn.isSystem speaker
    rw [first]
    exact ⟨other, rfl⟩
  | false =>
    obtain ⟨other, second⟩ := stops (fun turn => !turn.isSystem) (by rw [speaker]; rfl)
    rw [second]
    cases turns stripsComments (conversation.filter Turn.isSystem) with
    | error first => exact ⟨first, rfl⟩
    | ok spoken => exact ⟨other, rfl⟩

end Splits

/-! ### Payloads -/

/-- The words of the system as a field of a payload, if it speaks. -/
def systemFields (sent : List Turn) : List (String × Value) :=
  ((systemWords sent).map fun words => ("system", Value.text words)).toList

section Layouts

variable {stripsComments : Bool} {conversation sent : List Turn} {failure : Failure}

theorem payloadFor_openai_of_ok (row : turns stripsComments conversation = .ok sent) :
    payloadFor "openai" stripsComments conversation = .ok (.list (sent.map fun turn =>
      .record [("role", .text turn.speaker), ("content", .text turn.content)])) := by
  show payload .openai stripsComments conversation = _
  rw [payload, row]
  rfl

theorem payloadFor_openai_of_error (stuck : turns stripsComments conversation = .error failure) :
    payloadFor "openai" stripsComments conversation = .error failure := by
  show payload .openai stripsComments conversation = _
  rw [payload, stuck]
  rfl

theorem payloadFor_anthropic_of_ok (row : turns stripsComments conversation = .ok sent) :
    payloadFor "anthropic" stripsComments conversation =
      .ok (.record (("messages",
        .list ((sent.filter fun turn => turn.speaker ≠ "system".toList).map fun turn =>
          .record [("role", .text turn.speaker), ("content", .text turn.content)])) ::
        systemFields sent)) := by
  show payload .anthropic stripsComments conversation = _
  rw [payload, split_eq_ok row, systemFields]
  cases systemWords sent with
  | none => rfl
  | some words => rfl

theorem payloadFor_anthropic_of_error (stuck : turns stripsComments conversation = .error failure) :
    ∃ other, payloadFor "anthropic" stripsComments conversation = .error other := by
  obtain ⟨other, stops⟩ := exists_split_error stuck
  refine ⟨other, ?_⟩
  show payload .anthropic stripsComments conversation = _
  rw [payload, stops]
  rfl

end Layouts

/-- **The two layouts of a conversation agree.** One is there exactly if the other one is. Then both show the
turns that are sent: one of them all, the other one those of the system joined by blank lines, if there are
any, beside all others in order. If comments are stripped, a conversation cannot be laid out exactly if one
of its turns cannot be stripped, and the first layout fails as the first such turn does. -/
theorem payload_alike (stripsComments : Bool) (conversation : List Turn) :
    ((∃ payload, payloadFor "openai" stripsComments conversation = .ok payload) ↔
      ∃ payload, payloadFor "anthropic" stripsComments conversation = .ok payload) ∧
    (∀ row, payloadFor "openai" stripsComments conversation = .ok row →
      ∃ sent, List.Forall₂ (Turn.IsSentAs stripsComments) conversation sent ∧
        row = .list (sent.map fun turn =>
          .record [("role", .text turn.speaker), ("content", .text turn.content)]) ∧
        payloadFor "anthropic" stripsComments conversation =
          .ok (.record (("messages",
            .list ((sent.filter fun turn => turn.speaker ≠ "system".toList).map fun turn =>
              .record [("role", .text turn.speaker), ("content", .text turn.content)])) ::
            systemFields sent))) ∧
    ((∃ failure, payloadFor "openai" stripsComments conversation = .error failure) ↔
      stripsComments = true ∧
        ∃ turn ∈ conversation, ∃ failure, Comment.stripOrFail turn.content = .error failure) ∧
    ∀ failure, payloadFor "openai" stripsComments conversation = .error failure ↔
      stripsComments = true ∧ conversation.findSome? Turn.failure? = some failure := by
  cases row : turns stripsComments conversation with
  | ok sent =>
    have first := payloadFor_openai_of_ok row
    have second := payloadFor_anthropic_of_ok row
    have fine (failure : Failure) :
        ¬ (stripsComments = true ∧ conversation.findSome? Turn.failure? = some failure) := by
      rw [← turns_eq_error_iff, row]
      intro same
      cases same
    rw [first]
    refine ⟨iff_of_true ⟨_, rfl⟩ ⟨_, second⟩, ?_, ?_, ?_⟩
    · intro value same
      cases same
      exact ⟨sent, turns_eq_ok_iff.mp row, rfl, second⟩
    · constructor
      · rintro ⟨failure, same⟩
        cases same
      · rintro ⟨strips, turn, inside, failure, fails⟩
        obtain ⟨cause, found⟩ := exists_first_failure inside (Turn.failure?_eq_some_iff.mpr fails)
        exact absurd ⟨strips, found⟩ (fine cause)
    · intro failure
      refine iff_of_false ?_ (fine failure)
      intro same
      cases same
  | error cause =>
    obtain ⟨strips, found⟩ := turns_eq_error_iff.mp row
    obtain ⟨other, stuck⟩ := payloadFor_anthropic_of_error row
    rw [payloadFor_openai_of_error row, stuck]
    refine ⟨?_, ?_, ?_, ?_⟩
    · constructor
      · rintro ⟨payload, same⟩
        cases same
      · rintro ⟨payload, same⟩
        cases same
    · intro value same
      cases same
    · obtain ⟨turn, inside, fails⟩ := List.exists_of_findSome?_eq_some found
      exact iff_of_true ⟨cause, rfl⟩ ⟨strips, turn, inside, cause, Turn.failure?_eq_some_iff.mp fails⟩
    · intro failure
      rw [found]
      simp [strips]

/-- A conversation in which the system and somebody else speak, with a comment in what the system says. -/
def commented : List Turn :=
  [⟨"user".toList, " Hi ".toList⟩, ⟨"system".toList, "Be <comment>very </comment>kind".toList⟩]

/-- The commented conversation is laid out for both services, for one of them with the system apart. -/
theorem payload_alike_commented :
    payloadFor "openai" true commented =
        .ok (.list [.record [("role", .string "user"), ("content", .string "Hi")],
          .record [("role", .string "system"), ("content", .string "Be kind")]]) ∧
      payloadFor "anthropic" true commented =
        .ok (.record [("messages", .list [.record [("role", .string "user"), ("content", .string "Hi")]]),
          ("system", .string "Be kind")]) := by
  have spoken : (turns true commented).toOption =
      some [⟨"user".toList, "Hi".toList⟩, ⟨"system".toList, "Be kind".toList⟩] := by
    decide +kernel
  cases all : turns true commented with
  | error failure =>
    rw [all] at spoken
    cases spoken
  | ok first =>
    have row := payloadFor_openai_of_ok all
    obtain ⟨sent, sends, listed, apart⟩ := (payload_alike true commented).2.1 _ row
    rw [turns_eq_ok_iff.mpr sends] at spoken
    cases spoken
    rw [listed] at row
    exact ⟨row, apart⟩

end PromptWeave.Chat
