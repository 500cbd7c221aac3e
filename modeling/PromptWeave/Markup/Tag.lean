/-
**Tags.**

A tag is `<name attributes>`, `<name attributes/>` or `</name>`. Reading is local: it looks at the
text from the tag's `<` on, never behind it and never beyond the tag's `>`, and anything that is
not a whole tag is plain text. Main statements:

* `Tag.read?_length_lt`: a tag that is read uses up part of the text;
* `Tag.afterClosing?_length_lt`: so does the closing tag that balances an element.
-/

import PromptWeave.Text.Blank
import PromptWeave.Text.Letter

namespace PromptWeave

open Text

/-- A tag as it was read. -/
structure Tag where
  /-- The name after the `<` or the `</`. -/
  name : Text
  /-- Whether the tag begins with `</`. -/
  closing : Bool
  /-- Whether the tag ends with `/>`. -/
  selfClosing : Bool
  /-- The attributes in order of first mention; a repeated name has its last value. -/
  attributes : Entries Text Text
deriving DecidableEq, Repr

namespace Tag

/-! ### Character classes -/

/-- The characters that a name may start with: letters and the underscore. -/
def startsName (c : Char) : Bool := isLetter c || c == '_'

/-- The characters that continue a name. -/
def continuesName (c : Char) : Bool :=
  isLetterOrNumeral c || c == '_' || c == '-' || c == ':' || c == '.'

/-- The characters that end the name of an attribute, blanks apart. -/
def stopsAttribute (c : Char) : Bool :=
  c == '=' || c == '/' || c == '>' || c == '"' || c == '\'' || c == '<'

/-- The characters that the name of an attribute is made of. -/
def inAttribute (c : Char) : Bool := !isBlank c && !stopsAttribute c

/-! ### Reading -/

/-- A value without quotes: up to a blank, a quote, `<`, `>` or `/>`. -/
def readBare : Text → Text × Text
  | [] => ([], [])
  | c :: rest =>
    if isBlank c || c == '>' || c == '"' || c == '\'' || c == '<'
        || (c == '/' && rest.head? == some '>') then ([], c :: rest)
    else ((c :: (readBare rest).1), (readBare rest).2)

/-- A value up to its closing quote, which is left out. -/
def readQuoted (quote : Char) : Text → Option (Text × Text)
  | [] => none
  | c :: rest =>
    if c = quote then some ([], rest)
    else (readQuoted quote rest).map fun (value, after) => (c :: value, after)

/-- The value after the name of an attribute: empty unless a `=` follows. -/
def readValue (text : Text) : Option (Text × Text) :=
  match stripLeft text with
  | '=' :: assigned =>
    match stripLeft assigned with
    | [] => none
    | c :: rest => if c = '"' ∨ c = '\'' then readQuoted c rest else some (readBare (c :: rest))
  | other => some ([], other)

theorem length_stripLeft_le (text : Text) : (stripLeft text).length ≤ text.length :=
  (List.dropWhile_sublist isBlank).length_le

theorem length_readBare_le (text : Text) : (readBare text).2.length ≤ text.length := by
  induction text with
  | nil => simp [readBare]
  | cons c rest ih =>
    unfold readBare
    split
    · simp
    · simp only [List.length_cons]; omega

theorem readQuoted_length_lt {quote : Char} {text value after : Text}
    (read : readQuoted quote text = some (value, after)) : after.length < text.length := by
  induction text generalizing value after with
  | nil => simp [readQuoted] at read
  | cons c rest ih =>
    unfold readQuoted at read
    split at read
    · simp only [Option.some.injEq, Prod.mk.injEq] at read
      simp [← read.2]
    · cases inner : readQuoted quote rest with
      | none => simp [inner] at read
      | some found =>
        simp only [inner, Option.map_some, Option.some.injEq, Prod.mk.injEq] at read
        have shorter : found.2.length < rest.length := ih (by rw [inner])
        rw [← read.2]
        simp only [List.length_cons]
        omega

theorem readValue_length_le {text value after : Text}
    (read : readValue text = some (value, after)) : after.length ≤ text.length := by
  have blanks := length_stripLeft_le text
  unfold readValue at read
  split at read
  · rename_i assigned start
    rw [start, List.length_cons] at blanks
    have more := length_stripLeft_le assigned
    split at read
    · simp at read
    · rename_i c rest begins
      rw [begins, List.length_cons] at more
      split at read
      · have := readQuoted_length_lt read
        omega
      · have bare := length_readBare_le (c :: rest)
        simp only [Option.some.injEq] at read
        rw [read, List.length_cons] at bare
        simp only at bare
        omega
  · simp only [Option.some.injEq, Prod.mk.injEq] at read
    rw [← read.2]
    exact blanks

theorem length_span_le (p : Char → Bool) (text : Text) :
    (text.dropWhile p).length ≤ text.length :=
  (List.dropWhile_sublist p).length_le

/-- The attributes and the end of a tag whose name has been read. -/
def readAttributes (closing : Bool) (attributes : Entries Text Text) (text : Text) :
    Option (Entries Text Text × Bool × Text) :=
  match text with
  | [] => none
  | c :: rest =>
    if isBlank c then readAttributes closing attributes rest
    else if c = '>' then some (attributes, false, rest)
    else if c = '/' ∧ rest.head? = some '>' then some (attributes, true, rest.tail)
    else if closing then none
    else if inAttribute c then
      match _reading : readValue (rest.dropWhile inAttribute) with
      | none => none
      | some (value, after) =>
        readAttributes closing
          (attributes.put (· == ·) (c :: rest.takeWhile inAttribute) value) after
    else none
termination_by text.length
decreasing_by
  · simp
  · have := readValue_length_le _reading
    have := length_span_le inAttribute rest
    simp only [List.length_cons]
    omega

/-- A tag from its name on. -/
def readBody (closing : Bool) (text : Text) : Option (Tag × Text) :=
  match text with
  | [] => none
  | c :: rest =>
    if startsName c then
      let name := c :: rest.takeWhile continuesName
      (readAttributes closing [] (rest.dropWhile continuesName)).map
        fun (attributes, selfClosing, after) => (⟨name, closing, selfClosing, attributes⟩, after)
    else none

/-- The tag that a text starts with, and what follows it. -/
def read? (text : Text) : Option (Tag × Text) :=
  match text with
  | '<' :: '/' :: rest => readBody true rest
  | '<' :: rest => readBody false rest
  | _ => none

/-! ### What is left is shorter -/

theorem readAttributes_length_lt {closing selfClosing : Bool}
    {attributes found : Entries Text Text} {text after : Text}
    (read : readAttributes closing attributes text = some (found, selfClosing, after)) :
    after.length < text.length := by
  fun_induction readAttributes closing attributes text with
  | case1 => simp at read
  | case2 attributes c rest blank ih => have := ih read; simp only [List.length_cons]; omega
  | case3 =>
    simp only [Option.some.injEq, Prod.mk.injEq] at read
    simp [← read.2.2]
  | case4 =>
    simp only [Option.some.injEq, Prod.mk.injEq] at read
    rw [← read.2.2, List.length_tail, List.length_cons]
    omega
  | case5 => simp at read
  | case6 => simp at read
  | case7 attributes c rest _ _ _ _ _ value between reading ih =>
    have := ih read
    have := readValue_length_le reading
    have := length_span_le inAttribute rest
    simp only [List.length_cons]
    omega
  | case8 => simp at read

theorem readBody_length_lt {closing : Bool} {text after : Text} {tag : Tag}
    (read : readBody closing text = some (tag, after)) : after.length < text.length := by
  unfold readBody at read
  split at read
  · simp at read
  · rename_i c rest
    split at read
    · cases inner : readAttributes closing [] (rest.dropWhile continuesName) with
      | none => simp [inner] at read
      | some found =>
        obtain ⟨attributes, selfClosing, left⟩ := found
        simp only [inner, Option.map_some, Option.some.injEq, Prod.mk.injEq] at read
        have := readAttributes_length_lt inner
        have := length_span_le continuesName rest
        rw [← read.2]
        simp only [List.length_cons]
        omega
    · simp at read

/-- A tag that is read uses up part of the text. -/
theorem read?_length_lt {text after : Text} {tag : Tag} (read : read? text = some (tag, after)) :
    after.length < text.length := by
  unfold read? at read
  split at read
  · have := readBody_length_lt read; simp only [List.length_cons]; omega
  · have := readBody_length_lt read; simp only [List.length_cons]; omega
  · simp at read

/-! ### Looking for a tag of one name -/

/-- Whether a name stands at the start of a text and ends there. -/
def namesStart (name text : Text) : Bool :=
  name.isPrefixOf text && match text.drop name.length with
    | [] => true
    | c :: _ => isBlank c || c == '/' || c == '>'

/-- Whether an opening or closing tag of one name may start at the first character of a text. -/
def mayStart (name : Text) : Text → Bool
  | [] => false
  | _ :: '/' :: rest => namesStart name rest
  | _ :: rest => namesStart name rest

/-- The text after the closing tag that balances an element of one name, of which so many inner
elements are still open. -/
def afterClosing? (name : Text) (inner : Nat) (text : Text) : Option Text :=
  match text with
  | [] => none
  | c :: rest =>
    if c = '<' ∧ mayStart name (c :: rest) then
      match reading : read? (c :: rest) with
      | none => afterClosing? name inner rest
      | some (tag, after) =>
        if tag.name ≠ name then afterClosing? name inner rest
        else if tag.closing then
          match inner with
          | 0 => some after
          | inner + 1 => afterClosing? name inner after
        else afterClosing? name (if tag.selfClosing then inner else inner + 1) after
    else afterClosing? name inner rest
termination_by text.length
decreasing_by
  all_goals first
    | exact read?_length_lt reading
    | simp

/-- What follows a balancing closing tag is shorter. -/
theorem afterClosing?_length_lt {name text after : Text} {inner : Nat}
    (found : afterClosing? name inner text = some after) : after.length < text.length := by
  fun_induction afterClosing? name inner text with
  | case1 => simp at found
  | case2 inner c rest _ _ ih => have := ih found; simp only [List.length_cons]; omega
  | case3 inner c rest _ tag between _ _ ih => have := ih found; simp only [List.length_cons]; omega
  | case4 c rest _ tag between reading =>
    have := read?_length_lt reading
    simp only [Option.some.injEq] at found
    rw [← found]
    exact this
  | case5 c rest _ tag between reading _ _ inner ih =>
    have := ih found
    have := read?_length_lt reading
    omega
  | case6 inner c rest _ tag between reading _ _ ih =>
    have := ih found
    have := read?_length_lt reading
    omega
  | case7 inner c rest _ ih => have := ih found; simp only [List.length_cons]; omega

end Tag

end PromptWeave
