/-
**Placeholders.**

A placeholder is a dotted name between double braces, or between triple ones, with blanks around the
name allowed. A text is read as a template once, from left to right: a sequence of plain characters
and placeholders. Filling a template renders the value of every name in its place; what is filled in
is not looked at again. Main statements:

* `Placeholder.read?_length_lt`: a placeholder uses up part of the text;
* `Template.ofText`: the template of a text;
* `Template.fill`: the text of a template with values, and the names that were asked for;
* `Template.fill_ofText_of_noBrace`: a text without an opening brace stays as it is.
-/

import PromptWeave.Value.Lookup
import PromptWeave.Value.Rendering

namespace PromptWeave

open Text

namespace Placeholder

/-- The characters that a name may start with. -/
def startsName (c : Char) : Bool := c.isAlpha || c == '_'

/-- The characters that continue a part of a name. -/
def inName (c : Char) : Bool := c.isAlphanum || c == '_'

/-- The parts of a name after its first: each is a dot with at least one character after it. -/
def readParts (text : Text) : Text × Text :=
  match text with
  | '.' :: c :: rest =>
    if inName c then
      let parts := readParts (rest.dropWhile inName)
      ('.' :: c :: rest.takeWhile inName ++ parts.1, parts.2)
    else ([], text)
  | _ => ([], text)
termination_by text.length
decreasing_by
  have := (List.dropWhile_sublist inName (l := rest)).length_le
  simp only [List.length_cons]
  omega

/-- The dotted name at the start of a text. -/
def readName : Text → Option (Text × Text)
  | [] => none
  | c :: rest =>
    if startsName c then
      let parts := readParts (rest.dropWhile inName)
      some (c :: rest.takeWhile inName ++ parts.1, parts.2)
    else none

/-- A name with blanks around it, and the closing braces. -/
def readInside (closing : Text) (text : Text) : Option (Text × Text) :=
  match readName (stripLeft text) with
  | none => none
  | some (name, rest) =>
    let after := stripLeft rest
    if closing.isPrefixOf after then some (name, after.drop closing.length) else none

/-- The name of the placeholder that a text starts with, and what follows it. -/
def read? (text : Text) : Option (Text × Text) :=
  match text with
  | '\x7b' :: '\x7b' :: '\x7b' :: rest => readInside ['\x7d', '\x7d', '\x7d'] rest
  | '\x7b' :: '\x7b' :: rest => readInside ['\x7d', '\x7d'] rest
  | _ => none

theorem length_readParts_le (text : Text) : (readParts text).2.length ≤ text.length := by
  fun_induction readParts text with
  | case1 c rest _ parts ih =>
    have := (List.dropWhile_sublist inName (l := rest)).length_le
    change (readParts (rest.dropWhile inName)).2.length ≤ _
    simp only [List.length_cons]
    omega
  | case2 => simp
  | case3 => simp

theorem readName_length_lt {text name after : Text} (read : readName text = some (name, after)) :
    after.length < text.length := by
  unfold readName at read
  split at read
  · simp at read
  · rename_i c rest
    split at read
    · have parts := length_readParts_le (rest.dropWhile inName)
      have := (List.dropWhile_sublist inName (l := rest)).length_le
      cases read
      simp only [List.length_cons]
      omega
    · simp at read

theorem readInside_length_lt {closing text name after : Text}
    (read : readInside closing text = some (name, after)) : after.length < text.length := by
  have blanks : (stripLeft text).length ≤ text.length :=
    (List.dropWhile_sublist isBlank).length_le
  unfold readInside at read
  split at read
  · simp at read
  · rename_i name' rest reading
    have shorter := readName_length_lt reading
    have more : (stripLeft rest).length ≤ rest.length :=
      (List.dropWhile_sublist isBlank).length_le
    simp only at read
    split at read
    · cases read
      simp only [List.length_drop]
      omega
    · simp at read

/-- A placeholder uses up part of the text. -/
theorem read?_length_lt {text name after : Text} (read : read? text = some (name, after)) :
    after.length < text.length := by
  unfold read? at read
  split at read
  · have := readInside_length_lt read; simp only [List.length_cons]; omega
  · have := readInside_length_lt read; simp only [List.length_cons]; omega
  · simp at read

end Placeholder

/-- A piece of a template. -/
inductive Piece
  /-- A character that stays as it is. -/
  | plain (character : Char)
  /-- The name of a value. -/
  | hole (name : Text)
deriving DecidableEq, Repr

/-- A text cut into plain characters and placeholders. -/
abbrev Template := List Piece

namespace Template

/-- The template of a text: placeholders are taken from left to right wherever one begins. -/
def ofText (text : Text) : Template :=
  match text with
  | [] => []
  | c :: rest =>
    match _reading : Placeholder.read? (c :: rest) with
    | some (name, after) => .hole name :: ofText after
    | none => .plain c :: ofText rest
termination_by text.length
decreasing_by
  · exact Placeholder.read?_length_lt _reading
  · simp

/-- What asking for a name came to. -/
structure Answer where
  name : Text
  found : Bool
deriving DecidableEq, Repr

/-- What a name is filled in with: nothing if it has no value. -/
def fillIn (indent : Int) (bindings : Mapping) (name : Text) :
    Except Json.Fault (Text × Bool) :=
  match Mapping.lookup bindings name with
  | .error fault => .error (.numeral fault)
  | .ok none => .ok ([], false)
  | .ok (some value) => (Value.render indent value).map (·, true)

/-- Whether a name has a value, if the search for it comes to an end. -/
def answer? (bindings : Mapping) (name : Text) : Option Answer :=
  match Mapping.lookup bindings name with
  | .error _ => none
  | .ok found => some ⟨name, found.isSome⟩

/-- A text with its values filled in, or the fault that stopped the filling, and the answers up to
there in order. -/
structure Filling where
  text : Except Json.Fault Text
  answers : List Answer

/-- The filling that begins with some more text. -/
def Filling.prepend (start : Text) (filling : Filling) : Filling :=
  ⟨filling.text.map (start ++ ·), filling.answers⟩

/-- Fills the holes of a template from left to right. -/
def fill (indent : Int) (bindings : Mapping) : Template → Filling
  | [] => ⟨.ok [], []⟩
  | .plain c :: pieces => (fill indent bindings pieces).prepend [c]
  | .hole name :: pieces =>
    match fillIn indent bindings name with
    | .error fault => ⟨.error fault, (answer? bindings name).toList⟩
    | .ok (start, found) =>
      let others := fill indent bindings pieces
      ⟨others.text.map (start ++ ·), ⟨name, found⟩ :: others.answers⟩

/-- Plain characters stay as they are. -/
theorem fill_map_plain (indent : Int) (bindings : Mapping) (front : Text) (pieces : Template) :
    fill indent bindings (front.map .plain ++ pieces) =
      (fill indent bindings pieces).prepend front := by
  induction front with
  | nil =>
    rw [List.map_nil, List.nil_append, Filling.prepend]
    cases fill indent bindings pieces with
    | mk text answers => cases text <;> rfl
  | cons c front ih =>
    rw [List.map_cons, List.cons_append, fill, ih]
    cases fill indent bindings pieces with
    | mk text answers => cases text <;> rfl

/-- The names that had no value. -/
def Filling.missing (filling : Filling) : List Text :=
  (filling.answers.filter fun answer => !answer.found).map (·.name)

/-- The names that had a value. -/
def Filling.substituted (filling : Filling) : List Text :=
  (filling.answers.filter (·.found)).map (·.name)

/-- A text without an opening brace stays as it is. -/
theorem fill_ofText_of_noBrace {text : Text} (plain : '\x7b' ∉ text) (indent : Int)
    (bindings : Mapping) : fill indent bindings (ofText text) = ⟨.ok text, []⟩ := by
  induction text with
  | nil => simp [ofText, fill]
  | cons c rest ih =>
    have apart : c ≠ '\x7b' := fun equal => plain (equal ▸ List.mem_cons_self)
    have nothing : Placeholder.read? (c :: rest) = none := by
      unfold Placeholder.read?
      split
      · rename_i equal; simp_all
      · rename_i equal; simp_all
      · rfl
    have tail := ih fun inside => plain (List.mem_cons_of_mem _ inside)
    have pieces : ofText (c :: rest) = .plain c :: ofText rest := by
      rw [ofText]
      split <;> simp_all
    rw [pieces, fill, tail]
    rfl

end Template

end PromptWeave
