/-
**Include directives.**

A directive is `<include src="..."/>`, or `<include src="...">` up to the closing tag that balances
it, whose body is discarded. It says which document stands in its place. Main statements:

* `Directive.firstAfter_span`: the directive that a search finds is not empty and lies inside the text;
* `Directive.scan`: all directives of a text from left to right, each search beginning where the
  last directive ended.
-/

import PromptWeave.Markup.Tag

namespace PromptWeave

open Text

/-- An include directive and the span it has in its text. -/
structure Directive where
  /-- The path it names, without surrounding blanks. -/
  source : Text
  /-- The position of its `<`. -/
  start : Nat
  /-- The position after its last `>`. -/
  stop : Nat
  /-- Whether it is a single `<include .../>`. -/
  selfClosing : Bool
deriving DecidableEq, Repr

namespace Directive

/-- What can be wrong with a tag that begins like a directive. -/
inductive Defect
  /-- The tag has no end. -/
  | unterminated
  /-- The tag names no path. -/
  | sourceless
  /-- No closing tag balances it. -/
  | unclosed
deriving DecidableEq, Repr

/-- A defect and the position of the tag that has it. -/
structure Malformed where
  defect : Defect
  offset : Nat
deriving DecidableEq, Repr

/-- The name of an include tag. -/
def tagName : Text := ['i', 'n', 'c', 'l', 'u', 'd', 'e']

/-- The attribute that names the path. -/
def sourceName : Text := ['s', 'r', 'c']

/-- Whether an opening include tag begins a text. -/
def beginsAt (text : Text) : Bool :=
  ('<' :: tagName).isPrefixOf text && Tag.mayStart tagName text

/-- Reads the directive that a text, found at a given position, begins with. -/
def readAt (offset : Nat) (text : Text) : Except Malformed Directive :=
  match Tag.read? text with
  | none => .error ⟨.unterminated, offset⟩
  | some (tag, after) =>
    let source := strip ((tag.attributes.get? (· == ·) sourceName).getD [])
    if source = [] then .error ⟨.sourceless, offset⟩
    else if tag.selfClosing then
      .ok ⟨source, offset, offset + (text.length - after.length), true⟩
    else match Tag.afterClosing? tagName 0 after with
      | none => .error ⟨.unclosed, offset⟩
      | some left => .ok ⟨source, offset, offset + (text.length - left.length), false⟩

/-- The first directive of a text found at a given position. -/
def firstFrom (offset : Nat) (text : Text) : Except Malformed (Option Directive) :=
  match text with
  | [] => .ok none
  | c :: rest =>
    if beginsAt (c :: rest) then (readAt offset (c :: rest)).map some
    else firstFrom (offset + 1) rest

/-- The first directive of a text. -/
def first (text : Text) : Except Malformed (Option Directive) := firstFrom 0 text

/-- The first directive at or after a position. -/
def firstAfter (start : Nat) (text : Text) : Except Malformed (Option Directive) :=
  firstFrom start (text.drop start)

/-! ### Spans -/

theorem readAt_span {offset : Nat} {text : Text} {directive : Directive}
    (read : readAt offset text = .ok directive) :
    directive.start = offset ∧ offset < directive.stop ∧
      directive.stop ≤ offset + text.length := by
  unfold readAt at read
  split at read
  · simp at read
  · rename_i tag after reading
    have shorter := Tag.read?_length_lt reading
    simp only at read
    split at read
    · simp at read
    · split at read
      · simp only [Except.ok.injEq] at read
        subst read
        simp only [true_and]
        omega
      · split at read
        · simp at read
        · rename_i left closing
          have := Tag.afterClosing?_length_lt closing
          simp only [Except.ok.injEq] at read
          subst read
          simp only [true_and]
          omega

theorem firstFrom_span {offset : Nat} {text : Text} {directive : Directive}
    (found : firstFrom offset text = .ok (some directive)) :
    offset ≤ directive.start ∧ directive.start < directive.stop ∧
      directive.stop ≤ offset + text.length := by
  induction text generalizing offset with
  | nil => simp [firstFrom] at found
  | cons c rest ih =>
    unfold firstFrom at found
    split at found
    · cases read : readAt offset (c :: rest) with
      | error malformed => simp [read, Except.map] at found
      | ok other =>
        simp only [read, Except.map, Except.ok.injEq, Option.some.injEq] at found
        subst found
        have := readAt_span read
        omega
    · have := ih found
      simp only [List.length_cons]
      omega

theorem firstAfter_span {start : Nat} {text : Text} {directive : Directive}
    (found : firstAfter start text = .ok (some directive)) :
    start ≤ directive.start ∧ directive.start < directive.stop ∧
      directive.stop ≤ max start text.length := by
  have := firstFrom_span found
  simp only [List.length_drop] at this
  omega

/-! ### All directives -/

/-- The directives from a position on, each search beginning where the last directive ended. -/
def scanFrom (start : Nat) (text : Text) : Except Malformed (List Directive) :=
  match _found : firstAfter start text with
  | .error malformed => .error malformed
  | .ok none => .ok []
  | .ok (some directive) => (scanFrom directive.stop text).map (directive :: ·)
termination_by text.length - start
decreasing_by
  have := firstAfter_span _found
  omega

/-- The directives of a text from left to right. -/
def scan (text : Text) : Except Malformed (List Directive) := scanFrom 0 text

end Directive

end PromptWeave
