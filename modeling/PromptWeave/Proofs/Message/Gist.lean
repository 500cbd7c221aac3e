/-
**What a text says, wherever it stands.**

The messages of a text and the kind of its flaw do not hang on the line that it begins on. They follow
from its first role tag at the top level, and for a block from the next role tag after that. Main
statements:

* `Message.gist_extractFrom`: the gist of an extraction does not hang on the line;
* `Message.gist_eq`: the gist of a text from its first role tag;
* `Message.gist_of_behind`: text in front of the first role tag says nothing;
* `Message.extract_eq_of_gist`: without a defect the gist is the whole extraction.
-/

import PromptWeave.Markup.Message

namespace PromptWeave

open Text

namespace Message

/-- An extraction without its lines: the messages, and the defect that ended it. -/
structure Gist where
  messages : List Message
  defect : Option Defect
deriving DecidableEq, Repr

/-- A message in front of what else was extracted. -/
def Gist.prepend (message : Message) (gist : Gist) : Gist :=
  ⟨message :: gist.messages, gist.defect⟩

/-- An extraction without its lines. -/
def Extraction.gist (extraction : Extraction) : Gist :=
  ⟨extraction.messages, extraction.flaw.map (·.defect)⟩

@[simp] theorem Extraction.gist_prepend (message : Message) (extraction : Extraction) :
    (extraction.prepend message).gist = extraction.gist.prepend message := rfl

/-- The messages of a text and the defect that ends them. -/
def gist (text : Text) : Gist := (extract text).gist

/-! ### One step of an extraction -/

/-- What an extraction comes to behind the opening tag of a block. -/
def blockFrom (openingLine innerLine : Nat) (role : Role) (inner : Text) : Extraction :=
  match nextRoleTag inner with
  | none => ⟨[], some ⟨.unclosed role, openingLine⟩⟩
  | some closing =>
    if !closing.tag.closing then
      ⟨[], some ⟨.nested closing.role role, innerLine + lineEnds closing.before⟩⟩
    else if closing.role ≠ role then
      ⟨[], some ⟨.mismatched closing.role role, innerLine + lineEnds closing.before⟩⟩
    else
      (extractFrom (innerLine + lineEndsUpTo inner closing.after) closing.after).prepend
        ⟨role, strip closing.before⟩

theorem extractFrom_of_none (line : Nat) {text : Text} (next : nextTopLevelTag text = none) :
    extractFrom line text = ⟨[], none⟩ := by
  rw [extractFrom]
  split
  · rfl
  · rename_i found
    rw [next] at found
    cases found

/-- An extraction from its first role tag on. -/
theorem extractFrom_of_some (line : Nat) {text : Text} {opening : Found}
    (next : nextTopLevelTag text = some opening) :
    extractFrom line text =
      if opening.tag.closing then
        ⟨[], some ⟨.unexpectedClosing opening.role, line + lineEnds opening.before⟩⟩
      else if opening.tag.selfClosing then
        (extractFrom (line + lineEndsUpTo text opening.after) opening.after).prepend
          ⟨opening.role, []⟩
      else
        blockFrom (line + lineEnds opening.before) (line + lineEndsUpTo text opening.after)
          opening.role opening.after := by
  have begun : extractFrom line text = _ := extractFrom.eq_def line text
  split at begun
  · rename_i found
    rw [next] at found
    cases found
  · rename_i found
    rw [next] at found
    cases found
    rw [begun, blockFrom]
    cases nextRoleTag opening.after <;> rfl

/-- What follows an opening tag of a block, where the texts after it come to these gists. -/
def blockGist (sequel : Text → Gist) (opening : Found) : Gist :=
  match nextRoleTag opening.after with
  | none => ⟨[], some (.unclosed opening.role)⟩
  | some closing =>
    if !closing.tag.closing then ⟨[], some (.nested closing.role opening.role)⟩
    else if closing.role ≠ opening.role then
      ⟨[], some (.mismatched closing.role opening.role)⟩
    else (sequel closing.after).prepend ⟨opening.role, strip closing.before⟩

/-- What follows from the first role tag of a text, where the texts after it come to these gists. -/
def firstGist (sequel : Text → Gist) : Option Found → Gist
  | none => ⟨[], none⟩
  | some opening =>
    if opening.tag.closing then ⟨[], some (.unexpectedClosing opening.role)⟩
    else if opening.tag.selfClosing then (sequel opening.after).prepend ⟨opening.role, []⟩
    else blockGist sequel opening

/-- The texts that an extraction goes on with are shorter. -/
theorem firstGist_congr {first second : Text → Gist} {text : Text}
    (same : ∀ later : Text, later.length < text.length → first later = second later) :
    firstGist first (nextTopLevelTag text) = firstGist second (nextTopLevelTag text) := by
  cases next : nextTopLevelTag text with
  | none => rfl
  | some opening =>
    have shorter := nextTopLevelTag_length_lt next
    rw [firstGist, firstGist, same _ shorter, blockGist, blockGist]
    cases inner : nextRoleTag opening.after with
    | none => rfl
    | some closing =>
      simp only [same _ (Nat.lt_trans (nextRoleTag_length_lt inner) shorter)]

/-- An extraction takes its step at some line and goes on at a later one. -/
theorem exists_gist_extractFrom (line : Nat) (text : Text) : ∃ lineOf : Text → Nat,
    (extractFrom line text).gist =
      firstGist (fun later => (extractFrom (lineOf later) later).gist) (nextTopLevelTag text) := by
  cases next : nextTopLevelTag text with
  | none =>
    rw [extractFrom_of_none line next]
    exact ⟨fun _ => 0, rfl⟩
  | some opening =>
    rw [extractFrom_of_some line next]
    simp only [firstGist, blockGist]
    split
    · exact ⟨fun _ => 0, rfl⟩
    · split
      · exact ⟨fun later => line + lineEndsUpTo text later, rfl⟩
      · rw [blockFrom]
        cases nextRoleTag opening.after with
        | none => exact ⟨fun _ => 0, rfl⟩
        | some closing =>
          refine ⟨fun later => line + lineEndsUpTo text opening.after +
            lineEndsUpTo opening.after later, ?_⟩
          dsimp only
          split
          · rfl
          · split <;> rfl

/-- **The gist of an extraction does not hang on the line** that the text begins on. -/
theorem gist_extractFrom (line : Nat) (text : Text) : (extractFrom line text).gist = gist text := by
  induction size : text.length using Nat.strongRecOn generalizing line text with
  | ind length ih =>
    subst size
    obtain ⟨lineOf, here⟩ := exists_gist_extractFrom line text
    obtain ⟨lineOf', there⟩ := exists_gist_extractFrom 1 text
    rw [gist, extract, here, there]
    refine firstGist_congr fun later shorter => ?_
    rw [ih _ shorter _ later rfl, ih _ shorter _ later rfl]

/-- **The gist of a text follows from its first role tag.** -/
theorem gist_eq (text : Text) : gist text = firstGist gist (nextTopLevelTag text) := by
  obtain ⟨lineOf, step⟩ := exists_gist_extractFrom 1 text
  rw [gist, extract, step]
  exact firstGist_congr fun later _ => gist_extractFrom _ later

/-- **Text in front of the first role tag says nothing.** -/
theorem gist_of_behind {text rest start : Text}
    (next : nextTopLevelTag text = (nextTopLevelTag rest).map (Found.behind start)) :
    gist text = gist rest := by
  rw [gist_eq, gist_eq rest, next]
  cases nextTopLevelTag rest <;> rfl

/-- **Without a defect the gist is the whole extraction.** -/
theorem extract_eq_of_gist {text : Text} {messages : List Message}
    (said : gist text = ⟨messages, none⟩) : extract text = ⟨messages, none⟩ := by
  obtain ⟨same, sound⟩ := Gist.mk.inj said
  cases extraction : extract text with
  | mk found flaw =>
    rw [extraction] at same sound
    cases flaw with
    | none => exact congrArg (Extraction.mk · none) same
    | some flaw => cases sound

end Message

end PromptWeave
