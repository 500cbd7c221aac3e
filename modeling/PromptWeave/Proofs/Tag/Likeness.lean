/-
**Texts with the same tags.**

Two texts are alike if they are made of the same whole tags, with fillers between them that may differ
but hold no `<`. A search for the closing tag of an element comes to alike ends in them, for a tag is
read from its own characters and a name is found in them or not, whatever the fillers are. Main
statements:

* `Tag.Alike`: the relation;
* `Tag.afterClosing?_of_read`: the step of a search at a whole tag;
* `Tag.afterClosing?_alike`: alike texts have alike rests behind an element.
-/

import PromptWeave.Proofs.Tag.Locality

namespace PromptWeave

open Text

namespace Tag

/-- Two texts that are made of the same tags, and of fillers without `<` between them. A value inside
a tag may hold another `<`, which then begins a tag of its own. -/
inductive Alike : Text → Text → Prop
  | nil : Alike [] []
  | filler {front front' rest rest' : Text} (untagged : '<' ∉ front) (untagged' : '<' ∉ front')
      (rests : Alike rest rest') : Alike (front ++ rest) (front' ++ rest')
  | tag {inside rest rest' : Text} {found : Tag}
      (reads : ∀ behind, read? ('<' :: (inside ++ '>' :: behind)) = some (found, behind))
      (within : Alike (inside ++ '>' :: rest) (inside ++ '>' :: rest'))
      (rests : Alike rest rest') :
      Alike ('<' :: (inside ++ '>' :: rest)) ('<' :: (inside ++ '>' :: rest'))

/-! ### Looking for the closing tag -/

section Search

variable {name : Text}

/-- A search for a closing tag passes over a filler. -/
theorem afterClosing?_untagged {front : Text} (untagged : '<' ∉ front) (inner : Nat) (rest : Text) :
    afterClosing? name inner (front ++ rest) = afterClosing? name inner rest := by
  induction front with
  | nil => rfl
  | cons c front ih =>
    obtain ⟨apart, later⟩ : '<' ≠ c ∧ '<' ∉ front := by simpa using untagged
    have nothing : ¬ (c = '<' ∧ mayStart name (c :: (front ++ rest)) = true) :=
      fun begins => apart begins.1.symm
    rw [List.cons_append, afterClosing?, if_neg nothing, ih later]

/-- **The step of a search at a whole tag**: a tag of the name opens or closes an element, and any
other `<` is passed over alone. -/
theorem afterClosing?_of_read {rest after : Text} {found : Tag} (inner : Nat)
    (reads : read? ('<' :: rest) = some (found, after)) :
    afterClosing? name inner ('<' :: rest) =
      if mayStart name ('<' :: rest) = true ∧ found.name = name then
        if found.closing then
          match inner with
          | 0 => some after
          | inner + 1 => afterClosing? name inner after
        else afterClosing? name (if found.selfClosing then inner else inner + 1) after
      else afterClosing? name inner rest := by
  rw [afterClosing?]
  by_cases starts : mayStart name ('<' :: rest) = true
  · rw [if_pos ⟨rfl, starts⟩]
    split
    · rename_i nothing
      rw [reads] at nothing
      cases nothing
    · rename_i again
      rw [reads] at again
      cases again
      by_cases named : found.name = name
      · have begins : mayStart name ('<' :: rest) = true ∧ found.name = name := ⟨starts, named⟩
        rw [if_neg (not_not_intro named)]
        refine Eq.trans ?_ (if_pos begins).symm
        cases inner <;> rfl
      · rw [if_pos named, if_neg fun begins => named begins.2]
  · rw [if_neg fun begins => starts begins.2, if_neg fun begins => starts begins.1]

/-- **Alike texts have alike rests behind an element.** -/
theorem afterClosing?_alike (free : '>' ∉ name) {text text' : Text} (alike : Alike text text')
    (inner : Nat) :
    Option.Rel Alike (afterClosing? name inner text) (afterClosing? name inner text') := by
  induction alike generalizing inner with
  | nil =>
    rw [afterClosing?]
    exact .none
  | filler untagged untagged' _ ih =>
    rw [afterClosing?_untagged untagged, afterClosing?_untagged untagged']
    exact ih inner
  | @tag inside rest rest' found reads _ rests within_ih ih =>
    have same : mayStart name ('<' :: (inside ++ '>' :: rest)) =
        mayStart name ('<' :: (inside ++ '>' :: rest')) := mayStart_local free '<' inside rest rest'
    rw [afterClosing?_of_read inner (reads rest), afterClosing?_of_read inner (reads rest'), same]
    split
    · split
      · cases inner with
        | zero => exact .some rests
        | succ inner => exact ih inner
      · exact ih _
    · exact within_ih inner

/-- An element that is never closed is passed over with its opening tag only, and so in both texts. -/
theorem getD_afterClosing?_alike (free : '>' ∉ name) {text text' : Text} (alike : Alike text text')
    (inner : Nat) :
    Alike ((afterClosing? name inner text).getD text) ((afterClosing? name inner text').getD text') := by
  have rests := afterClosing?_alike free alike inner
  generalize afterClosing? name inner text = left at rests
  generalize afterClosing? name inner text' = left' at rests
  cases rests with
  | some rests => exact rests
  | none => exact alike

theorem length_getD_afterClosing?_le (inner : Nat) (text : Text) :
    ((afterClosing? name inner text).getD text).length ≤ text.length := by
  cases closing : afterClosing? name inner text with
  | none => exact Nat.le_refl _
  | some left => exact (afterClosing?_length_lt closing).le

end Search

end Tag

end PromptWeave
