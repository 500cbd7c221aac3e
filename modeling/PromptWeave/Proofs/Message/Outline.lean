/-
**The outline of the messages of a text.**

The outline of an extraction is who speaks in what order, and the defect that ended it; the words are
left out. Texts with the same tags have the same outline: both searches for role tags find the same
tags in them, with alike texts behind. Main statements:

* `Message.nextRoleTag_alike` and `Message.nextTopLevelTag_alike`: the searches find the same tags;
* `Message.outline_alike`: alike texts have the same outline;
* `Message.sameShape_of_outline`: extractions of one outline come to results of one shape.
-/

import PromptWeave.Composition.Chat
import PromptWeave.Proofs.Message.Gist
import PromptWeave.Proofs.Message.Search
import PromptWeave.Proofs.Tag.Likeness

namespace PromptWeave

open Text

namespace Message

/-! ### The same tags are found -/

/-- Two role tags that are the same, with alike texts behind them. -/
structure Found.Alike (found found' : Found) : Prop where
  role : found.role = found'.role
  tag : found.tag = found'.tag
  after : Tag.Alike found.after found'.after

/-- What stands before two tags does not matter. -/
theorem Found.Alike.behind {first second : Option Found} (alike : Option.Rel Found.Alike first second)
    (start start' : Text) :
    Option.Rel Found.Alike (first.map (Found.behind start)) (second.map (Found.behind start')) := by
  cases alike with
  | some found => exact .some ⟨found.role, found.tag, found.after⟩
  | none => exact .none

/-- **The next role tag is the same in alike texts.** -/
theorem nextRoleTag_alike {text text' : Text} (alike : Tag.Alike text text') :
    Option.Rel Found.Alike (nextRoleTag text) (nextRoleTag text') := by
  induction alike with
  | nil => exact .none
  | filler untagged untagged' _ ih =>
    rw [nextRoleTag_untagged untagged, nextRoleTag_untagged untagged']
    exact Found.Alike.behind ih _ _
  | @tag inside rest rest' found reads _ rests within_ih _ =>
    have same (role : Role) : Tag.mayStart role.tagName ('<' :: (inside ++ '>' :: rest)) =
        Tag.mayStart role.tagName ('<' :: (inside ++ '>' :: rest')) :=
      Tag.mayStart_local (Tag.gt_notMem_of_isName (isName_tagName role)) '<' inside rest rest'
    rw [nextRoleTag_of_read (reads rest), nextRoleTag_of_read (reads rest')]
    simp only [same]
    split
    · cases Role.ofName? found.name with
      | none => exact Found.Alike.behind within_ih _ _
      | some role => exact .some ⟨rfl, rfl, rests⟩
    · exact Found.Alike.behind within_ih _ _

/-- **The next role tag at the top level is the same in alike texts.** -/
theorem nextTopLevelTag_alike {text text' : Text} (alike : Tag.Alike text text') :
    Option.Rel Found.Alike (nextTopLevelTag text) (nextTopLevelTag text') := by
  -- Behind an element the search goes on in a shorter text, and behind a filler in what the relation
  -- is built from: hence two inductions, one inside the other.
  induction size : text.length using Nat.strongRecOn generalizing text text' with
  | ind length shorter =>
    replace size : text.length ≤ length := size.le
    induction alike with
    | nil =>
      rw [nextTopLevelTag]
      exact .none
    | filler untagged untagged' _ ih =>
      rw [nextTopLevelTag_untagged untagged, nextTopLevelTag_untagged untagged']
      refine Found.Alike.behind (ih ?_) _ _
      rw [List.length_append] at size
      omega
    | @tag inside rest rest' found reads _ rests _ _ =>
      have less := Tag.read?_length_lt (reads rest)
      cases names : Role.ofName? found.name with
      | some role =>
        rw [nextTopLevelTag_of_role (reads rest) names, nextTopLevelTag_of_role (reads rest') names]
        exact .some ⟨rfl, rfl, rests⟩
      | none =>
        obtain ⟨start, step⟩ := exists_behind_of_other (reads rest) names
        obtain ⟨start', step'⟩ := exists_behind_of_other (reads rest') names
        rw [step, step']
        refine Found.Alike.behind ?_ _ _
        split
        · exact shorter _ (by omega) rests rfl
        · obtain ⟨named, _⟩ := Tag.read?_local (reads rest)
          have still := @Tag.length_getD_afterClosing?_le found.name 0 rest
          exact shorter _ (by omega)
            (Tag.getD_afterClosing?_alike (Tag.gt_notMem_of_isName named) rests 0) rfl

/-! ### Outlines -/

/-- Who speaks in what order, and the defect that ended an extraction. -/
structure Outline where
  roles : List Role
  defect : Option Defect
deriving DecidableEq, Repr

/-- The outline of a gist. -/
def Gist.outline (gist : Gist) : Outline := ⟨gist.messages.map (·.role), gist.defect⟩

/-- The outline of a text. -/
def outline (text : Text) : Outline := (gist text).outline

theorem outline_prepend {first second : Gist} (same : first.outline = second.outline) (role : Role)
    (content content' : Text) :
    (first.prepend ⟨role, content⟩).outline = (second.prepend ⟨role, content'⟩).outline := by
  obtain ⟨roles, defect⟩ := Outline.mk.inj same
  simp only [Gist.outline, Gist.prepend, List.map_cons, roles, defect]

/-- **Alike texts have the same outline.** -/
theorem outline_alike {text text' : Text} (alike : Tag.Alike text text') :
    outline text = outline text' := by
  induction size : text.length using Nat.strongRecOn generalizing text text' with
  | ind length shorter =>
    subst size
    have openings := nextTopLevelTag_alike alike
    rw [outline, outline, gist_eq text, gist_eq text']
    generalize next : nextTopLevelTag text = first at openings
    generalize nextTopLevelTag text' = first' at openings
    cases openings with
    | none => rfl
    | @some opening opening' openings =>
      have less := nextTopLevelTag_length_lt next
      rw [firstGist, firstGist, ← openings.tag, ← openings.role]
      split
      · rfl
      · split
        · exact outline_prepend (shorter _ less openings.after rfl) _ _ _
        · have closings := nextRoleTag_alike openings.after
          rw [blockGist, blockGist, ← openings.role]
          generalize inner : nextRoleTag opening.after = last at closings
          generalize nextRoleTag opening'.after = last' at closings
          cases closings with
          | none => rfl
          | some closings =>
            have still := nextRoleTag_length_lt inner
            simp only [← closings.tag, ← closings.role]
            split
            · rfl
            · split
              · rfl
              · exact outline_prepend (shorter _ (by omega) closings.after rfl) _ _ _

/-! ### Results -/

/-- Two results of one shape: messages of the same roles in the same order, or failures of one name
with the same tag or role in their contexts. -/
inductive SameShape : Except Failure (List Message) → Except Failure (List Message) → Prop
  | ok {messages messages' : List Message}
      (roles : messages.map (·.role) = messages'.map (·.role)) :
      SameShape (.ok messages) (.ok messages')
  | error {failure failure' : Failure} (name : failure.name = failure'.name)
      (tag : Mapping.get? (Key.ofString "tag") failure.context =
        Mapping.get? (Key.ofString "tag") failure'.context)
      (role : Mapping.get? (Key.ofString "role") failure.context =
        Mapping.get? (Key.ofString "role") failure'.context) :
      SameShape (.error failure) (.error failure')

/-- The failures of one defect differ in their lines only. -/
theorem sameShape_of_defect (source : String) {flaw flaw' : Flaw} (same : flaw.defect = flaw'.defect) :
    SameShape (.error (failure source flaw)) (.error (failure source flaw')) := by
  obtain ⟨defect, line⟩ := flaw
  obtain ⟨_, line'⟩ := flaw'
  cases same
  cases defect <;> exact .error rfl rfl rfl

/-- **Extractions of one outline come to results of one shape.** -/
theorem sameShape_of_outline (source : String) {text text' : Text}
    (same : outline text = outline text') :
    SameShape ((extract text).result source) ((extract text').result source) := by
  obtain ⟨roles, defect⟩ := Outline.mk.inj same
  simp only [gist, Extraction.gist] at roles defect
  rw [Extraction.result, Extraction.result]
  cases flaw : (extract text).flaw with
  | none =>
    rw [flaw] at defect
    rw [Option.map_eq_none_iff.mp defect.symm]
    exact .ok roles
  | some first =>
    rw [flaw] at defect
    obtain ⟨second, flaw', same⟩ := Option.map_eq_some_iff.mp defect.symm
    rw [flaw']
    exact sameShape_of_defect source same.symm

end Message

end PromptWeave
