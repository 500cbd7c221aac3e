/-
**Scalars in a data file.**

A scalar is written plainly, between single or double quotes, or as a block of lines. Line breaks
inside the first three are folded: a single one becomes a blank, and of several the first is
dropped. Main definitions:

* `Scalar.plain`, `Scalar.flow`, `Scalar.block`: the text of a scalar of each form, and the cursor
  beyond it.
-/

import PromptWeave.Failure
import PromptWeave.Yaml.Cursor

namespace PromptWeave.Yaml.Scalar

/-- A text that was read, and the cursor beyond it. -/
abbrev Read := Text × Cursor

/-! ### Plain scalars -/

/-- The blanks and breaks inside a plain scalar. -/
structure Gap where
  /-- What they count as. -/
  text : Text
  cursor : Cursor
  /-- Whether a line has ended in them. -/
  broken : Bool

/-- The number of characters of a plain scalar up to its next gap or its end. -/
def plainLength (inFlow : Bool) : Text → Nat
  | [] => 0
  | c :: rest =>
    let next := rest.head?.getD endMark
    let ends := endsWord c
      || (c == ':' && (endsWord next || (inFlow && [',', '[', ']', '\x7b', '\x7d'].contains next)))
      || (inFlow && [',', '?', '[', ']', '\x7b', '\x7d'].contains c)
    if ends then 0 else plainLength inFlow rest + 1

/-- The breaks after the first one; nothing if a separator of documents follows one of them. -/
def plainBreaks : (fuel : Nat) → Cursor → Text → Option Read
  | 0, cursor, breaks => some (breaks, cursor)
  | fuel + 1, cursor, breaks =>
    if cursor.here = ' ' then plainBreaks fuel cursor.forward breaks
    else if isBreak cursor.here then
      let (mark, cursor) := cursor.lineBreak
      if cursor.atSeparator then none else plainBreaks fuel cursor (breaks ++ mark)
    else some (breaks, cursor)

/-- A first break and the ones after it, folded. -/
def folded (mark breaks : Text) : Text :=
  if mark ≠ ['\n'] then mark ++ breaks else if breaks = [] then [' '] else breaks

/-- The gap at the cursor. -/
def plainGap (cursor : Cursor) : Gap :=
  let blanks := cursor.span (· == ' ')
  let cursor := cursor.advance blanks.length
  if isBreak cursor.here then
    let (mark, cursor) := cursor.lineBreak
    if cursor.atSeparator then ⟨[], cursor, true⟩
    else match plainBreaks (cursor.rest.length + 1) cursor [] with
      | none => ⟨[], cursor, true⟩
      | some (breaks, cursor) => ⟨folded mark breaks, cursor, true⟩
  else ⟨blanks, cursor, false⟩

/-- A plain scalar after some text of it and a gap. Its lines are indented at least as given. -/
def plainFrom (inFlow : Bool) (indent : Int) : (fuel : Nat) → Gap → Text → Text × Gap
  | 0, gap, text => (text, gap)
  | fuel + 1, gap, text =>
    let length := plainLength inFlow gap.cursor.rest
    if gap.cursor.here = '#' ∨ length = 0 then (text, gap)
    else
      let text := text ++ gap.text ++ gap.cursor.ahead length
      let next := plainGap (gap.cursor.advance length)
      if next.text = [] ∨ next.cursor.here = '#'
          ∨ (!inFlow ∧ (next.cursor.column : Int) < indent) then
        (text, next)
      else plainFrom inFlow indent fuel next text

/-- A plain scalar, and whether a line has ended just behind it. -/
def plain (inFlow : Bool) (indent : Int) (cursor : Cursor) : Text × Gap :=
  plainFrom inFlow indent (cursor.rest.length + 1) ⟨[], cursor, false⟩ []

/-! ### Scalars between quotes -/

/-- The character of an escape that is one character. -/
def escaped? (c : Char) : Option Char :=
  ([('0', '\x00'), ('a', '\x07'), ('b', '\x08'), ('t', '\t'), ('\t', '\t'), ('n', '\n'),
    ('v', '\x0b'), ('f', '\x0c'), ('r', '\r'), ('e', '\x1b'), (' ', ' '), ('"', '"'),
    ('\\', '\\'), ('/', '/'), ('N', '\x85'), ('_', '\xa0'), ('L', '\u2028'),
    ('P', '\u2029')].find? fun pair => pair.1 == c).map (·.2)

/-- The number of hexadecimal digits of an escape by code point. -/
def codeLength? (c : Char) : Option Nat :=
  if c = 'x' then some 2 else if c = 'u' then some 4 else if c = 'U' then some 8 else none

/-- The number in a row of hexadecimal digits. -/
def code? (row : Text) : Option Nat :=
  if row.all fun c => Numeral.digitValue c < 16 then some (Numeral.value 16 row) else none

/-- The code point of an escape at the cursor, which stands at the backslash, and the cursor beyond
it. -/
def codeAt? (cursor : Cursor) : Option (Nat × Cursor) := do
  let length ← codeLength? (cursor.peek 1)
  let cursor := cursor.advance 2
  let row := cursor.ahead length
  if row.length < length then none
  else return (← code? row, cursor.advance length)

/-- The character of an escape by code point at the cursor, and the cursor beyond it. One unit of a
pair is no character, also where the other one follows it. -/
def character (cursor : Cursor) : Except HostFault (Char × Cursor) :=
  match codeAt? cursor with
  | none => .error .malformedData
  | some (code, cursor) =>
    if 0x110000 ≤ code then .error (.noSuchCharacter (0x7FFFFFFF < code))
    else if 0xD800 ≤ code ∧ code < 0xE000 then .error .surrogate
    else .ok (Char.ofNat code, cursor)

/-- The breaks between quotes after the first one. -/
def flowBreaks : (fuel : Nat) → Cursor → Text → Except HostFault Read
  | 0, cursor, breaks => .ok (breaks, cursor)
  | fuel + 1, cursor, breaks =>
    if cursor.atSeparator then .error .malformedData
    else
      let cursor := cursor.skipWhile fun c => c == ' ' || c == '\t'
      if isBreak cursor.here then
        let (mark, cursor) := cursor.lineBreak
        flowBreaks fuel cursor (breaks ++ mark)
      else .ok (breaks, cursor)

/-- The breaks between quotes from the cursor on. -/
def flowBreaksAt (cursor : Cursor) : Except HostFault Read :=
  flowBreaks (cursor.rest.length + 1) cursor []

/-- The characters of a word between quotes. -/
def inFlowWord (c : Char) : Bool := c != '\'' && c != '"' && c != '\\' && !endsWord c

/-- The words and escapes between quotes up to a blank, a break or the closing quote. -/
def flowWords (isDouble : Bool) : (fuel : Nat) → Cursor → Text → Except HostFault Read
  | 0, cursor, text => .ok (text, cursor)
  | fuel + 1, cursor, text =>
    let word := cursor.span inFlowWord
    let cursor := cursor.advance word.length
    let text := text ++ word
    let c := cursor.here
    if !isDouble ∧ c = '\'' ∧ cursor.peek 1 = '\'' then
      flowWords isDouble fuel (cursor.advance 2) (text ++ ['\''])
    else if (isDouble ∧ c = '\'') ∨ (!isDouble ∧ (c = '"' ∨ c = '\\')) then
      flowWords isDouble fuel cursor.forward (text ++ [c])
    else if isDouble ∧ c = '\\' then
      let c := cursor.peek 1
      match escaped? c with
      | some c => flowWords isDouble fuel (cursor.advance 2) (text ++ [c])
      | none =>
        if isBreak c then
          match flowBreaksAt cursor.forward.lineBreak.2 with
          | .error fault => .error fault
          | .ok (breaks, cursor) => flowWords isDouble fuel cursor (text ++ breaks)
        else
          match character cursor with
          | .error fault => .error fault
          | .ok (c, cursor) => flowWords isDouble fuel cursor (text ++ [c])
    else .ok (text, cursor)

/-- The blanks and breaks between quotes. -/
def flowGap (cursor : Cursor) : Except HostFault Read :=
  let blanks := cursor.span fun c => c == ' ' || c == '\t'
  let cursor := cursor.advance blanks.length
  if cursor.here = endMark then .error .malformedData
  else if isBreak cursor.here then
    let (mark, cursor) := cursor.lineBreak
    match flowBreaksAt cursor with
    | .error fault => .error fault
    | .ok (breaks, cursor) => .ok (folded mark breaks, cursor)
  else .ok (blanks, cursor)

/-- The text between quotes after some text of it. -/
def flowFrom (quote : Char) : (fuel : Nat) → Cursor → Text → Except HostFault Read
  | 0, _, _ => .error .malformedData
  | fuel + 1, cursor, text =>
    if cursor.here = quote then .ok (text, cursor.forward)
    else
      match flowGap cursor with
      | .error fault => .error fault
      | .ok (gap, cursor) =>
        match flowWords (quote == '"') (cursor.rest.length + 1) cursor (text ++ gap) with
        | .error fault => .error fault
        | .ok (text, cursor) => flowFrom quote fuel cursor text

/-- A scalar between quotes. -/
def flow (cursor : Cursor) : Except HostFault Read :=
  let quote := cursor.here
  let cursor := cursor.forward
  match flowWords (quote == '"') (cursor.rest.length + 1) cursor [] with
  | .error fault => .error fault
  | .ok (text, cursor) => flowFrom quote (cursor.rest.length + 1) cursor text

/-! ### Blocks -/

/-- What becomes of the line breaks at the end of a block. -/
inductive Chomping
  /-- One is kept. -/
  | clip
  /-- None is kept. -/
  | strip
  /-- All are kept. -/
  | keep
deriving DecidableEq, Repr

/-- The header of a block: what becomes of its end, and its indentation if that is given. -/
structure Header where
  chomping : Chomping
  increment : Option Nat
deriving DecidableEq, Repr

/-- The sign of a header. -/
def chomping? (c : Char) : Option Chomping :=
  if c = '+' then some .keep else if c = '-' then some .strip else none

/-- The indentation in a header, which is not nought. -/
def increment? (c : Char) : Option Nat := if c.isDigit then some (Numeral.digitValue c) else none

/-- The header of a block. -/
def header (cursor : Cursor) : Except HostFault (Header × Cursor) :=
  let read : Header × Cursor :=
    match chomping? cursor.here with
    | some chomping =>
      let cursor := cursor.forward
      match increment? cursor.here with
      | some increment => (⟨chomping, some increment⟩, cursor.forward)
      | none => (⟨chomping, none⟩, cursor)
    | none =>
      match increment? cursor.here with
      | some increment =>
        let cursor := cursor.forward
        match chomping? cursor.here with
        | some chomping => (⟨chomping, some increment⟩, cursor.forward)
        | none => (⟨.clip, some increment⟩, cursor)
      | none => (⟨.clip, none⟩, cursor)
  if read.1.increment = some 0 ∨ !endsPart read.2.here then .error .malformedData else .ok read

/-- The rest of a line on which only blanks and a comment may stand. -/
def ignoredLine (cursor : Cursor) : Except HostFault Cursor :=
  let cursor := cursor.skipWhile (· == ' ')
  let cursor := if cursor.here = '#' then cursor.skipWhile fun c => !endsLine c else cursor
  if endsLine cursor.here then .ok cursor.lineBreak.2 else .error .malformedData

/-- The empty lines at the start of a block, and the deepest indentation in them. -/
def leadingLines : (fuel : Nat) → Cursor → Text → Nat → Text × Nat × Cursor
  | 0, cursor, breaks, deepest => (breaks, deepest, cursor)
  | fuel + 1, cursor, breaks, deepest =>
    if cursor.here = ' ' then
      let cursor := cursor.forward
      leadingLines fuel cursor breaks (max deepest cursor.column)
    else if isBreak cursor.here then
      let (mark, cursor) := cursor.lineBreak
      leadingLines fuel cursor (breaks ++ mark) deepest
    else (breaks, deepest, cursor)

/-- The cursor beyond the blanks of an indentation. -/
def skipIndent (indent : Nat) : (fuel : Nat) → Cursor → Cursor
  | 0, cursor => cursor
  | fuel + 1, cursor =>
    if cursor.column < indent ∧ cursor.here = ' ' then skipIndent indent fuel cursor.forward
    else cursor

/-- The empty lines inside a block. -/
def emptyLines (indent : Nat) : (fuel : Nat) → Cursor → Text → Read
  | 0, cursor, breaks => (breaks, cursor)
  | fuel + 1, cursor, breaks =>
    let cursor := skipIndent indent (indent + 1) cursor
    if isBreak cursor.here then
      let (mark, cursor) := cursor.lineBreak
      emptyLines indent fuel cursor (breaks ++ mark)
    else (breaks, cursor)

/-- The lines of a block, with the empty lines before them. -/
def blockLines (isFolded : Bool) (chomping : Chomping) (indent : Nat) :
    (fuel : Nat) → Cursor → (text breaks mark : Text) → Read
  | 0, cursor, text, _, _ => (text, cursor)
  | fuel + 1, cursor, text, breaks, mark =>
    let finish (text mark breaks : Text) : Text :=
      match chomping with
      | .strip => text
      | .clip => text ++ mark
      | .keep => text ++ mark ++ breaks
    if cursor.column = indent ∧ cursor.here ≠ endMark then
      let text := text ++ breaks
      let leadingSolid := cursor.here != ' ' && cursor.here != '\t'
      let line := cursor.span fun c => !endsLine c
      let text := text ++ line
      let (mark, cursor) := (cursor.advance line.length).lineBreak
      let (breaks, cursor) := emptyLines indent (cursor.rest.length + 1) cursor []
      if cursor.column = indent ∧ cursor.here ≠ endMark then
        let solid := cursor.here != ' ' && cursor.here != '\t'
        let between :=
          if isFolded && mark == ['\n'] && leadingSolid && solid then
            (if breaks = [] then [' '] else [])
          else mark
        blockLines isFolded chomping indent fuel cursor (text ++ between) breaks mark
      else (finish text mark breaks, cursor)
    else (finish text mark breaks, cursor)

/-- A block. Its lines are indented more deeply than the collection it stands in. -/
def block (isFolded : Bool) (outer : Int) (cursor : Cursor) : Except HostFault Read :=
  match header cursor.forward with
  | .error fault => .error fault
  | .ok (header, cursor) =>
    match ignoredLine cursor with
    | .error fault => .error fault
    | .ok cursor =>
      let least := (max 1 (outer + 1)).toNat
      let fuel := cursor.rest.length + 1
      match header.increment with
      | none =>
        let (breaks, deepest, cursor) := leadingLines fuel cursor [] 0
        .ok (blockLines isFolded header.chomping (max least deepest) fuel cursor [] breaks [])
      | some increment =>
        let indent := least + increment - 1
        let (breaks, cursor) := emptyLines indent fuel cursor []
        .ok (blockLines isFolded header.chomping indent fuel cursor [] breaks [])

end PromptWeave.Yaml.Scalar
