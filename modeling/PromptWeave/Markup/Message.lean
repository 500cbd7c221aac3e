/-
**Messages.**

A finished prompt is a row of messages, each in a block of its own: an element named after the role
that speaks. Only blocks at the top level count; a role tag inside another element is text, and so
is everything outside the blocks. Main statements:

* `Message.extract`: the messages of a text, and the flaw that stopped the extraction;
* `Message.extract_eq_nil`: a text without `<` has no messages and no flaw.
-/

import PromptWeave.Markup.Comment

namespace PromptWeave

open Text

/-- Who speaks. -/
inductive Role
  | system
  | user
  | assistant
deriving DecidableEq, Repr

namespace Role

/-- The roles in the order in which they are tried. -/
def all : List Role := [.system, .user, .assistant]

/-- The name of a role. -/
def name : Role → String
  | system => "system"
  | user => "user"
  | assistant => "assistant"

/-- The name of a role as the name of a tag. -/
def tagName (role : Role) : Text := role.name.toList

/-- The role of a name. -/
def ofName? (name : Text) : Option Role := all.find? fun role => role.tagName = name

end Role

/-- One turn of a conversation. -/
structure Message where
  role : Role
  content : Text
deriving DecidableEq, Repr

namespace Message

/-! ### Looking for role tags -/

/-- A role tag and the text around it. -/
structure Found where
  /-- The text before the tag. -/
  before : Text
  /-- The role that the tag names. -/
  role : Role
  /-- The tag. -/
  tag : Tag
  /-- The text after the tag. -/
  after : Text
deriving DecidableEq, Repr

/-- What was found, with some more text before it. -/
def Found.behind (start : Text) (found : Found) : Found :=
  { found with before := start ++ found.before }

/-- The first role tag of a text, wherever it stands. -/
def nextRoleTag (text : Text) : Option Found :=
  match text with
  | [] => none
  | c :: rest =>
    let here : Option Found :=
      if c = '<' ∧ Role.all.any (fun role => Tag.mayStart role.tagName (c :: rest)) then
        match Tag.read? (c :: rest) with
        | none => none
        | some (tag, after) => (Role.ofName? tag.name).map fun role => ⟨[], role, tag, after⟩
      else none
    match here with
    | some found => some found
    | none => (nextRoleTag rest).map (Found.behind [c])

/-- The first role tag of a text outside any other element. An element that is never closed is
text. -/
def nextTopLevelTag (text : Text) : Option Found :=
  match text with
  | [] => none
  | c :: rest =>
    match _reading : Tag.read? (c :: rest) with
    | none => (nextTopLevelTag rest).map (Found.behind [c])
    | some (tag, after) =>
      match Role.ofName? tag.name with
      | some role => some ⟨[], role, tag, after⟩
      | none =>
        if tag.closing ∨ tag.selfClosing then
          (nextTopLevelTag after).map
            (Found.behind ((c :: rest).take ((c :: rest).length - after.length)))
        else
          match _closing : Tag.afterClosing? tag.name 0 after with
          | some left =>
            (nextTopLevelTag left).map
              (Found.behind ((c :: rest).take ((c :: rest).length - left.length)))
          | none =>
            (nextTopLevelTag after).map
              (Found.behind ((c :: rest).take ((c :: rest).length - after.length)))
termination_by text.length
decreasing_by
  · simp
  · exact Tag.read?_length_lt _reading
  · exact Nat.lt_trans (Tag.afterClosing?_length_lt _closing) (Tag.read?_length_lt _reading)
  · exact Tag.read?_length_lt _reading

theorem nextRoleTag_length_lt {text : Text} {found : Found} (next : nextRoleTag text = some found) :
    found.after.length < text.length := by
  induction text generalizing found with
  | nil => simp [nextRoleTag] at next
  | cons c rest ih =>
    have later : ∀ other, (nextRoleTag rest).map (Found.behind [c]) = some other →
        other.after.length < (c :: rest).length := by
      intro other equal
      cases inner : nextRoleTag rest with
      | none => simp [inner] at equal
      | some first =>
        simp only [inner, Option.map_some, Option.some.injEq] at equal
        have := ih inner
        rw [← equal]
        simp only [Found.behind, List.length_cons]
        omega
    unfold nextRoleTag at next
    simp only at next
    split at next
    · rename_i first here
      cases next
      split at here
      · split at here
        · simp at here
        · rename_i tag after reading
          have shorter := Tag.read?_length_lt reading
          cases role : Role.ofName? tag.name with
          | none => simp [role] at here
          | some speaker =>
            simp only [role, Option.map_some, Option.some.injEq] at here
            rw [← here]
            exact shorter
      · simp at here
    · exact later _ next

theorem length_lt_of_behind {inner : Option Found} {start : Text} {bound : Nat} {found : Found}
    (small : ∀ first, inner = some first → first.after.length < bound)
    (behind : inner.map (Found.behind start) = some found) : found.after.length < bound := by
  cases inner with
  | none => simp at behind
  | some first =>
    simp only [Option.map_some, Option.some.injEq] at behind
    rw [← behind]
    exact small first rfl

theorem nextTopLevelTag_length_lt {text : Text} {found : Found}
    (next : nextTopLevelTag text = some found) : found.after.length < text.length := by
  fun_induction nextTopLevelTag text generalizing found with
  | case1 => simp at next
  | case2 c rest _ ih =>
    refine length_lt_of_behind (fun first equal => ?_) next
    have := ih equal
    simp only [List.length_cons]
    omega
  | case3 c rest tag after reading role _ =>
    cases next
    exact Tag.read?_length_lt reading
  | case4 c rest tag after reading _ _ ih =>
    refine length_lt_of_behind (fun first equal => ?_) next
    have := ih equal
    have := Tag.read?_length_lt reading
    omega
  | case5 c rest tag after reading _ _ left closing ih =>
    refine length_lt_of_behind (fun first equal => ?_) next
    have := ih equal
    have := Tag.read?_length_lt reading
    have := Tag.afterClosing?_length_lt closing
    omega
  | case6 c rest tag after reading _ _ _ ih =>
    refine length_lt_of_behind (fun first equal => ?_) next
    have := ih equal
    have := Tag.read?_length_lt reading
    omega

/-! ### Extraction -/

/-- What is wrong with the role tags of a text. -/
inductive Defect
  /-- A closing tag of a role with no open block. -/
  | unexpectedClosing (role : Role)
  /-- A block that is never closed. -/
  | unclosed (role : Role)
  /-- A block that begins inside another one. -/
  | nested (inner outer : Role)
  /-- A closing tag of another role than the open block's. -/
  | mismatched (closing opening : Role)
deriving DecidableEq, Repr

/-- A defect and the line of the tag that has it. -/
structure Flaw where
  defect : Defect
  line : Nat
deriving DecidableEq, Repr

/-- Where an extraction stands. -/
inductive Stage
  | scanning
  | inBlock
  | done
deriving DecidableEq, Repr

/-- The stage at which a defect is met. -/
def Defect.stage : Defect → Stage
  | unexpectedClosing _ => .scanning
  | _ => .inBlock

/-- The messages that were extracted, and the flaw that stopped the extraction, if any. -/
structure Extraction where
  messages : List Message
  flaw : Option Flaw
deriving DecidableEq, Repr

/-- The stage at which an extraction ended. -/
def Extraction.stage (extraction : Extraction) : Stage :=
  match extraction.flaw with
  | none => .done
  | some flaw => flaw.defect.stage

/-- The number of line ends of a text. -/
def lineEnds (text : Text) : Nat := text.count '\n'

/-- The line ends of a text up to what is left of it. -/
def lineEndsUpTo (text left : Text) : Nat := lineEnds (text.take (text.length - left.length))

/-- A message in front of what else was extracted. -/
def Extraction.prepend (message : Message) (extraction : Extraction) : Extraction :=
  ⟨message :: extraction.messages, extraction.flaw⟩

/-- The messages of a text that begins on some line. -/
def extractFrom (line : Nat) (text : Text) : Extraction :=
  match _opening : nextTopLevelTag text with
  | none => ⟨[], none⟩
  | some opening =>
    let openingLine := line + lineEnds opening.before
    if opening.tag.closing then ⟨[], some ⟨.unexpectedClosing opening.role, openingLine⟩⟩
    else if opening.tag.selfClosing then
      (extractFrom (line + lineEndsUpTo text opening.after) opening.after).prepend
        ⟨opening.role, []⟩
    else
      let innerLine := line + lineEndsUpTo text opening.after
      match _closing : nextRoleTag opening.after with
      | none => ⟨[], some ⟨.unclosed opening.role, openingLine⟩⟩
      | some closing =>
        let closingLine := innerLine + lineEnds closing.before
        if !closing.tag.closing then
          ⟨[], some ⟨.nested closing.role opening.role, closingLine⟩⟩
        else if closing.role ≠ opening.role then
          ⟨[], some ⟨.mismatched closing.role opening.role, closingLine⟩⟩
        else
          (extractFrom (innerLine + lineEndsUpTo opening.after closing.after) closing.after).prepend
            ⟨opening.role, strip closing.before⟩
termination_by text.length
decreasing_by
  · exact nextTopLevelTag_length_lt _opening
  · exact Nat.lt_trans (nextRoleTag_length_lt _closing) (nextTopLevelTag_length_lt _opening)

/-- The messages of a text. -/
def extract (text : Text) : Extraction := extractFrom 1 text

/-- A text without `<` has no messages and no flaw. -/
theorem extract_eq_nil {text : Text} (plain : '<' ∉ text) : extract text = ⟨[], none⟩ := by
  have nothing : nextTopLevelTag text = none := by
    induction text with
    | nil => simp [nextTopLevelTag]
    | cons c rest ih =>
      have apart : c ≠ '<' := fun equal => plain (equal ▸ List.mem_cons_self)
      have unread : Tag.read? (c :: rest) = none := by
        unfold Tag.read?
        split
        · rename_i equal; simp_all
        · rename_i equal; simp_all
        · rfl
      rw [nextTopLevelTag]
      split
      · rw [ih fun inside => plain (List.mem_cons_of_mem _ inside)]; rfl
      · simp_all
  unfold extract extractFrom
  split
  · rfl
  · simp_all

end Message

end PromptWeave
