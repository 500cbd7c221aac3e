/-
**Comments.**

A comment is an element `<comment ...>...</comment>`, other comments inside it included, or a single
`<comment .../>`. Stripping takes the comments out and leaves everything else as it is. Main
statements:

* `Comment.here`: what stands at a position of a text;
* `Comment.strip`: the text without its comments, or the line of a comment that is never closed.
-/

import PromptWeave.Markup.Tag

namespace PromptWeave

open Text

namespace Comment

/-- The name of a comment tag. -/
def tagName : Text := ['c', 'o', 'm', 'm', 'e', 'n', 't']

/-- What stands at a position of a text. -/
inductive Here
  /-- No comment begins here. -/
  | text
  /-- A comment begins here and is followed by this. -/
  | closed (after : Text)
  /-- A comment begins here and is never closed. -/
  | unclosed
deriving DecidableEq, Repr

/-- Whether a comment begins a text, and where it ends. -/
def here (text : Text) : Here :=
  if ('<' :: tagName).isPrefixOf text && Tag.mayStart tagName text then
    match Tag.read? text with
    | none => .text
    | some (tag, after) =>
      if tag.name ≠ tagName ∨ tag.closing then .text
      else if tag.selfClosing then .closed after
      else match Tag.afterClosing? tagName 0 after with
        | none => .unclosed
        | some left => .closed left
  else .text

theorem here_length_lt {text after : Text} (comment : here text = .closed after) :
    after.length < text.length := by
  unfold here at comment
  split at comment
  · split at comment
    · simp at comment
    · rename_i tag between reading
      have shorter := Tag.read?_length_lt reading
      split at comment
      · simp at comment
      · split at comment
        · cases comment
          omega
        · split at comment
          · simp at comment
          · rename_i left closing
            have := Tag.afterClosing?_length_lt closing
            cases comment
            omega
  · simp at comment

/-- The text without its comments; on failure, how much of the text was left at the comment that
is never closed. -/
def stripOrLeft (text : Text) : Except Nat Text :=
  match text with
  | [] => .ok []
  | c :: rest =>
    match _comment : here (c :: rest) with
    | .text => (stripOrLeft rest).map (c :: ·)
    | .closed after => stripOrLeft after
    | .unclosed => .error (c :: rest).length
termination_by text.length
decreasing_by
  · simp
  · exact here_length_lt _comment

/-- The text without its comments, or the line of a comment that is never closed. -/
def strip (text : Text) : Except Nat Text :=
  (stripOrLeft text).mapError fun left => lineAt text (text.length - left)

end Comment

end PromptWeave
