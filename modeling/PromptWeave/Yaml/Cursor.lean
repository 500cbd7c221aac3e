/-
**Positions in a data file.**

A cursor is what is left of a text together with the position, the line and the column it begins at.
Beyond the end of the text there is one character that no text holds. Main definitions:

* `Cursor.peek`, `Cursor.forward`, `Cursor.skipWhile`, `Cursor.lineBreak`;
* the classes of characters that end a word, a part of a line, or a line.
-/

import PromptWeave.Text

namespace PromptWeave.Yaml

/-- The character beyond the end of a text. -/
def endMark : Char := '\x00'

/-- The characters that end a line. -/
def isBreak (c : Char) : Bool :=
  c == '\r' || c == '\n' || c == '\x85' || c == '\u2028' || c == '\u2029'

/-- The end of a line or of the text. -/
def endsLine (c : Char) : Bool := c == endMark || isBreak c

/-- A blank, or the end of a line. -/
def endsPart (c : Char) : Bool := c == ' ' || endsLine c

/-- A blank, a tab, or the end of a line. -/
def endsWord (c : Char) : Bool := c == '\t' || endsPart c

/-- The characters of the names of anchors, handles and directives. -/
def inName (c : Char) : Bool := c.isAlphanum || c == '-' || c == '_'

/-- What is left of a text, and where it begins. -/
structure Cursor where
  rest : Text
  index : Nat
  line : Nat
  column : Nat
deriving Repr

namespace Cursor

/-- The cursor at the start of a text. -/
def start (text : Text) : Cursor := ⟨text, 0, 0, 0⟩

/-- The character so many places ahead. -/
def peek (cursor : Cursor) (ahead : Nat) : Char := (cursor.rest[ahead]?).getD endMark

/-- The character at the cursor. -/
def here (cursor : Cursor) : Char := cursor.peek 0

/-- The next characters, at most so many. -/
def ahead (cursor : Cursor) (count : Nat) : Text := cursor.rest.take count

/-- The cursor one character on. -/
def forward (cursor : Cursor) : Cursor :=
  match cursor.rest with
  | [] => cursor
  | c :: rest =>
    let ends := c == '\n' || c == '\x85' || c == '\u2028' || c == '\u2029'
      || (c == '\r' && rest.head? != some '\n')
    if ends then ⟨rest, cursor.index + 1, cursor.line + 1, 0⟩
    else if c = '\uFEFF' then ⟨rest, cursor.index + 1, cursor.line, cursor.column⟩
    else ⟨rest, cursor.index + 1, cursor.line, cursor.column + 1⟩

/-- The cursor so many characters on. -/
def advance (cursor : Cursor) : Nat → Cursor
  | 0 => cursor
  | count + 1 => cursor.forward.advance count

/-- The characters of a class from the cursor on. -/
def span (cursor : Cursor) (p : Char → Bool) : Text := cursor.rest.takeWhile p

/-- The cursor beyond the characters of a class. -/
def skipWhile (cursor : Cursor) (p : Char → Bool) : Cursor :=
  cursor.advance (cursor.span p).length

/-- The line break at the cursor as it counts in a text, nothing if there is none, and the cursor
beyond it. -/
def lineBreak (cursor : Cursor) : Text × Cursor :=
  let c := cursor.here
  if c = '\r' ∨ c = '\n' ∨ c = '\x85' then
    if cursor.ahead 2 = ['\r', '\n'] then (['\n'], cursor.advance 2) else (['\n'], cursor.forward)
  else if c = '\u2028' ∨ c = '\u2029' then ([c], cursor.forward)
  else ([], cursor)

/-- Whether a line that separates documents begins at the cursor. -/
def atSeparator (cursor : Cursor) : Bool :=
  (cursor.ahead 3 == ['-', '-', '-'] || cursor.ahead 3 == ['.', '.', '.'])
    && endsWord (cursor.peek 3)

end Cursor

end PromptWeave.Yaml
