/-
**Tokens of a data file.**

Indentation decides where block collections start and end, and a `:` decides that what stands before
it on its line is a key. So the marks of a key and of a block mapping are put among the tokens at
the place where the candidate for that key began. Main definitions:

* `Token`: the marks, properties and scalars of a data file;
* `Scanner.step`: one more token or two, or the end;
* `Token.scan`: all tokens up to the end of the text, or those that are settled before the first
  fault.
-/

import PromptWeave.Yaml.Scalar

namespace PromptWeave.Yaml

/-- The marks, properties and scalars of a data file. -/
inductive Token
  /-- A directive about the version of the format. -/
  | version (major minor : Int)
  /-- A directive that gives a handle its meaning. -/
  | handle (handle meaning : Text)
  /-- A directive of an unknown kind. -/
  | reserved
  | documentStart
  | documentEnd
  | sequenceStart
  | mappingStart
  | blockEnd
  | flowSequenceStart
  | flowSequenceEnd
  | flowMappingStart
  | flowMappingEnd
  | blockEntry
  | flowEntry
  | key
  | value
  | alias (name : Text)
  | anchor (name : Text)
  /-- A tag with its handle; without one the suffix is the whole tag. -/
  | tag (handle : Option Text) (suffix : Text)
  | scalar (text : Text) (isPlain : Bool)
deriving DecidableEq, Repr

/-! ### Properties and directives -/

/-- The characters of the address of a tag. -/
def inAddress (c : Char) : Bool :=
  c.isAlphanum || "-;/?:@&=+$,_.!~*'()[]%".toList.contains c

/-- The bytes of a row of escapes. -/
def escapedBytes : (fuel : Nat) → Cursor → List UInt8 → Except HostFault (List UInt8 × Cursor)
  | 0, cursor, bytes => .ok (bytes, cursor)
  | fuel + 1, cursor, bytes =>
    if cursor.here = '%' then
      let cursor := cursor.forward
      let row := cursor.ahead 2
      if row.length = 2 ∧ row.all fun c => Numeral.digitValue c < 16 then
        escapedBytes fuel (cursor.advance 2) (bytes ++ [(Numeral.value 16 row).toUInt8])
      else .error .malformedData
    else .ok (bytes, cursor)

/-- The address of a tag after some text of it. -/
def addressFrom : (fuel : Nat) → Cursor → Text → Except HostFault Scalar.Read
  | 0, cursor, text => .ok (text, cursor)
  | fuel + 1, cursor, text =>
    if cursor.here = '%' then
      match escapedBytes (cursor.rest.length + 1) cursor [] with
      | .error fault => .error fault
      | .ok (bytes, cursor) =>
        match Utf8.decode bytes with
        | .error _ => .error .malformedData
        | .ok more => addressFrom fuel cursor (text ++ more)
    else if inAddress cursor.here then addressFrom fuel cursor.forward (text ++ [cursor.here])
    else .ok (text, cursor)

/-- The address of a tag, which is not empty. -/
def address (cursor : Cursor) : Except HostFault Scalar.Read :=
  match addressFrom (cursor.rest.length + 1) cursor [] with
  | .error fault => .error fault
  | .ok ([], _) => .error .malformedData
  | .ok read => .ok read

/-- The handle of a tag: an exclamation mark, or a name between two. -/
def handle (cursor : Cursor) : Except HostFault Scalar.Read :=
  if cursor.here ≠ '!' then .error .malformedData
  else if cursor.peek 1 = ' ' then .ok (['!'], cursor.forward)
  else
    let name := cursor.forward.span inName
    let length := name.length + 1
    if cursor.peek length = '!' then .ok (cursor.ahead (length + 1), cursor.advance (length + 1))
    else .error .malformedData

/-- A tag. -/
def tag (cursor : Cursor) : Except HostFault (Token × Cursor) := do
  let c := cursor.peek 1
  let (token, cursor) ←
    if c = '<' then do
      let (suffix, cursor) ← address (cursor.advance 2)
      if cursor.here = '>' then pure (Token.tag none suffix, cursor.forward)
      else throw .malformedData
    else if endsWord c then pure (Token.tag none ['!'], cursor.forward)
    else if (cursor.forward.span fun c => !endsPart c).contains '!' then do
      let (name, cursor) ← handle cursor
      let (suffix, cursor) ← address cursor
      pure (Token.tag (some name) suffix, cursor)
    else do
      let (suffix, cursor) ← address cursor.forward
      pure (Token.tag (some ['!']) suffix, cursor)
  if endsPart cursor.here then return (token, cursor) else throw .malformedData

/-- The name of an anchor or an alias, which is not empty. -/
def anchorName (cursor : Cursor) : Except HostFault Scalar.Read :=
  let name := cursor.forward.span inName
  let cursor := cursor.advance (name.length + 1)
  let ends := endsWord cursor.here
    || ['?', ':', ',', ']', '\x7d', '%', '@', '\x60'].contains cursor.here
  if name = [] ∨ !ends then .error .malformedData else .ok (name, cursor)

/-- A number in the version of the format. -/
def versionNumber (cursor : Cursor) : Except HostFault (Int × Cursor) :=
  let row := cursor.span Char.isDigit
  if row = [] then .error .malformedData
  else match Numeral.read 10 row with
    | .error fault => .error (.numeral fault)
    | .ok number => .ok (number, cursor.advance row.length)

/-- A directive, with the rest of its line. -/
def directive (cursor : Cursor) : Except HostFault (Token × Cursor) := do
  let cursor := cursor.forward
  let name := cursor.span inName
  let cursor := cursor.advance name.length
  if name = [] ∨ !endsPart cursor.here then throw .malformedData
  let blank := (· == ' ')
  let (token, cursor) ←
    if name = "YAML".toList then do
      let (major, cursor) ← versionNumber (cursor.skipWhile blank)
      if cursor.here ≠ '.' then throw .malformedData
      let (minor, cursor) ← versionNumber cursor.forward
      if !endsPart cursor.here then throw .malformedData
      pure (Token.version major minor, cursor)
    else if name = "TAG".toList then do
      let (name, cursor) ← handle (cursor.skipWhile blank)
      if cursor.here ≠ ' ' then throw .malformedData
      let (meaning, cursor) ← address (cursor.skipWhile blank)
      if !endsPart cursor.here then throw .malformedData
      pure (Token.handle name meaning, cursor)
    else pure (Token.reserved, cursor.skipWhile fun c => !endsLine c)
  let cursor ← Scalar.ignoredLine cursor
  return (token, cursor)

/-! ### The scanner -/

/-- What may turn out to be a key, if a `:` follows it on its line. -/
structure Candidate where
  /-- The number of tokens before it. -/
  place : Nat
  /-- Whether it has to be a key because of its indentation. -/
  isRequired : Bool
  start : Cursor

/-- What has been scanned, and what is left. -/
structure Scanner where
  cursor : Cursor
  /-- The tokens so far, the last one first. -/
  scanned : List Token
  /-- The depth of collections between brackets. -/
  depth : Nat
  /-- The column of the innermost block collection. -/
  indent : Int
  /-- The columns of the block collections around it. -/
  outer : List Int
  /-- Whether a key may begin here. -/
  allowsKey : Bool
  /-- The candidates, by the depth at which they stand. -/
  candidates : List (Nat × Candidate)

namespace Scanner

/-- The scanner at the start of a text. -/
def start (text : Text) : Scanner := ⟨Cursor.start text, [], 0, -1, [], true, []⟩

/-- Adds a token behind the others. -/
def push (scanner : Scanner) (token : Token) : Scanner :=
  { scanner with scanned := token :: scanner.scanned }

/-- Puts a token at a place among the others. -/
def insert (scanner : Scanner) (place : Nat) (token : Token) : Scanner :=
  let behind := scanner.scanned.length - place
  { scanner with
    scanned := scanner.scanned.take behind ++ token :: scanner.scanned.drop behind }

/-- Adds a token that so many characters stand for. -/
def mark (scanner : Scanner) (token : Token) (length : Nat) : Scanner :=
  { scanner.push token with cursor := scanner.cursor.advance length }

/-- The cursor beyond blanks, comments and ends of lines, and whether a line has ended. -/
def skipBlanks : (fuel : Nat) → Cursor → Bool → Cursor × Bool
  | 0, cursor, broken => (cursor, broken)
  | fuel + 1, cursor, broken =>
    let cursor := cursor.skipWhile (· == ' ')
    let cursor := if cursor.here = '#' then cursor.skipWhile fun c => !endsLine c else cursor
    if isBreak cursor.here then skipBlanks fuel cursor.lineBreak.2 true else (cursor, broken)

/-- Goes on to the next token. -/
def toNext (scanner : Scanner) : Scanner :=
  let cursor := scanner.cursor
  let cursor := if cursor.index = 0 ∧ cursor.here = '\uFEFF' then cursor.forward else cursor
  let (cursor, broken) := skipBlanks (cursor.rest.length + 1) cursor false
  { scanner with
    cursor, allowsKey := scanner.allowsKey || (broken && scanner.depth == 0) }

/-- Whether a `:` can no longer follow a candidate. -/
def isStale (scanner : Scanner) (candidate : Candidate) : Bool :=
  candidate.start.line != scanner.cursor.line
    || 1024 < scanner.cursor.index - candidate.start.index

/-- Gives up the candidates that a `:` can no longer follow. -/
def dropStale (scanner : Scanner) : Except HostFault Scanner :=
  if scanner.candidates.any fun entry => scanner.isStale entry.2 && entry.2.isRequired then
    .error .malformedData
  else .ok { scanner with
    candidates := scanner.candidates.filter fun entry => !scanner.isStale entry.2 }

/-- The tokens that are settled, the last one first: those before every candidate. -/
def settled (scanner : Scanner) : List Token :=
  let live := scanner.candidates.filter fun entry => !scanner.isStale entry.2
  let count := live.foldl (fun least entry => min least entry.2.place) scanner.scanned.length
  scanner.scanned.drop (scanner.scanned.length - count)

/-- Gives up the candidate at the present depth. -/
def dropCandidate (scanner : Scanner) : Except HostFault Scanner :=
  if scanner.candidates.any fun entry => entry.1 == scanner.depth && entry.2.isRequired then
    .error .malformedData
  else .ok { scanner with
    candidates := scanner.candidates.filter fun entry => entry.1 != scanner.depth }

/-- Makes what begins here a candidate if a key may begin here. -/
def addCandidate (scanner : Scanner) : Except HostFault Scanner :=
  if scanner.allowsKey then
    let isRequired := scanner.depth == 0 && scanner.indent == (scanner.cursor.column : Int)
    match scanner.dropCandidate with
    | .error fault => .error fault
    | .ok scanner =>
      let candidate : Candidate := ⟨scanner.scanned.length, isRequired, scanner.cursor⟩
      .ok { scanner with candidates := (scanner.depth, candidate) :: scanner.candidates }
  else .ok scanner

/-- Ends the block collections that are indented more deeply than a column. -/
def unwind (scanner : Scanner) (column : Int) : Scanner :=
  if scanner.depth ≠ 0 then scanner else go scanner.outer scanner
where
  /-- The same for the collections around, from the innermost on. -/
  go : List Int → Scanner → Scanner
    | [], scanner => scanner
    | indent :: outer, scanner =>
      if column < scanner.indent then
        go outer { scanner.push .blockEnd with indent, outer }
      else scanner

/-- Starts a block collection at a column unless it goes on there. -/
def indentTo (scanner : Scanner) (column place : Nat) (token : Token) : Scanner :=
  if scanner.indent < column then
    { scanner.insert place token with
      indent := column, outer := scanner.indent :: scanner.outer }
  else scanner

/-- Starts a block collection here unless it goes on here; a key has to be allowed. -/
def indentHere (scanner : Scanner) (token : Token) : Except HostFault Scanner :=
  if scanner.depth ≠ 0 then .ok scanner
  else if !scanner.allowsKey then .error .malformedData
  else .ok (scanner.indentTo scanner.cursor.column scanner.scanned.length token)

/-- Ends everything that is open, and allows no key. -/
def close (scanner : Scanner) : Except HostFault Scanner :=
  match (scanner.unwind (-1)).dropCandidate with
  | .error fault => .error fault
  | .ok scanner => .ok { scanner with allowsKey := false }

/-- The `:` of a value, which makes a key of the candidate before it. -/
def markValue (scanner : Scanner) : Except HostFault Scanner := do
  match scanner.candidates.find? fun entry => entry.1 == scanner.depth with
  | some (_, candidate) =>
    let scanner := { scanner with
      candidates := scanner.candidates.filter fun entry => entry.1 != scanner.depth }
    let scanner := scanner.insert candidate.place .key
    let scanner := if scanner.depth = 0 then
        scanner.indentTo candidate.start.column candidate.place .mappingStart
      else scanner
    return { scanner with allowsKey := false }.mark .value 1
  | none =>
    let scanner ← scanner.indentHere .mappingStart
    let scanner ← { scanner with allowsKey := scanner.depth == 0 }.dropCandidate
    return scanner.mark .value 1

/-- What can be a key and is no collection: an alias, an anchor, a tag or a scalar. -/
def markWord (scanner : Scanner) (read : Cursor → Except HostFault (Token × Cursor)) :
    Except HostFault Scanner := do
  let scanner ← scanner.addCandidate
  let (token, cursor) ← read scanner.cursor
  return { scanner.push token with cursor, allowsKey := false }

/-- A plain scalar. -/
def markPlain (scanner : Scanner) : Except HostFault Scanner := do
  let scanner ← scanner.addCandidate
  let (text, gap) := Scalar.plain (scanner.depth != 0) (scanner.indent + 1) scanner.cursor
  return { scanner.push (.scalar text true) with cursor := gap.cursor, allowsKey := gap.broken }

/-- Whether a plain scalar begins here. -/
def atPlain (scanner : Scanner) : Bool :=
  let c := scanner.cursor.here
  !(endsWord c || "-?:,[]\x7b\x7d#&*!|>'\"%@\x60".toList.contains c)
    || (!endsWord (scanner.cursor.peek 1)
      && (c == '-' || (scanner.depth == 0 && (c == '?' || c == ':'))))

/-- The start of a collection between brackets. -/
def openFlow (scanner : Scanner) (token : Token) : Except HostFault Scanner := do
  let scanner ← scanner.addCandidate
  return { scanner with depth := scanner.depth + 1, allowsKey := true }.mark token 1

/-- The end of a collection between brackets. -/
def closeFlow (scanner : Scanner) (token : Token) : Except HostFault Scanner := do
  if scanner.depth = 0 then throw .malformedData
  let scanner ← scanner.dropCandidate
  return { scanner with depth := scanner.depth - 1, allowsKey := false }.mark token 1

/-- One more token, with those that its indentation brings; nothing at the end of the text. -/
def step (scanner : Scanner) : Except HostFault (Option Scanner) := do
  let scanner ← scanner.toNext.dropStale
  let scanner := scanner.unwind scanner.cursor.column
  let cursor := scanner.cursor
  let c := cursor.here
  let aheadEndsWord := endsWord (cursor.peek 1)
  if c = endMark then return none
  else if cursor.column = 0 ∧ c = '%' then
    let scanner ← scanner.close
    let (token, cursor) ← directive scanner.cursor
    return some { scanner.push token with cursor }
  else if cursor.column = 0 ∧ cursor.atSeparator then
    let scanner ← scanner.close
    return some (scanner.mark (if c = '-' then .documentStart else .documentEnd) 3)
  else if c = '[' then some <$> scanner.openFlow .flowSequenceStart
  else if c = '\x7b' then some <$> scanner.openFlow .flowMappingStart
  else if c = ']' then some <$> scanner.closeFlow .flowSequenceEnd
  else if c = '\x7d' then some <$> scanner.closeFlow .flowMappingEnd
  else if c = ',' then
    let scanner ← { scanner with allowsKey := true }.dropCandidate
    return some (scanner.mark .flowEntry 1)
  else if c = '-' ∧ aheadEndsWord then
    let scanner ← scanner.indentHere .sequenceStart
    let scanner ← { scanner with allowsKey := true }.dropCandidate
    return some (scanner.mark .blockEntry 1)
  else if c = '?' ∧ (scanner.depth ≠ 0 ∨ aheadEndsWord) then
    let scanner ← scanner.indentHere .mappingStart
    let scanner ← { scanner with allowsKey := scanner.depth == 0 }.dropCandidate
    return some (scanner.mark .key 1)
  else if c = ':' ∧ (scanner.depth ≠ 0 ∨ aheadEndsWord) then some <$> scanner.markValue
  else if c = '*' then
    some <$> scanner.markWord fun cursor =>
      (anchorName cursor).map fun read => (.alias read.1, read.2)
  else if c = '&' then
    some <$> scanner.markWord fun cursor =>
      (anchorName cursor).map fun read => (.anchor read.1, read.2)
  else if c = '!' then some <$> scanner.markWord tag
  else if (c = '|' ∨ c = '>') ∧ scanner.depth = 0 then
    let scanner ← { scanner with allowsKey := true }.dropCandidate
    let (text, cursor) ← Scalar.block (c == '>') scanner.indent scanner.cursor
    return some { scanner.push (.scalar text false) with cursor }
  else if c = '\'' ∨ c = '"' then
    some <$> scanner.markWord fun cursor =>
      (Scalar.flow cursor).map fun read => (.scalar read.1 false, read.2)
  else if scanner.atPlain then some <$> scanner.markPlain
  else throw .malformedData

/-- All tokens up to the end of the text, the last one first; where there is a fault, those that are
settled before it. -/
def run : (fuel : Nat) → Scanner → List Token × Option HostFault
  | 0, scanner => (scanner.settled, some .malformedData)
  | fuel + 1, scanner =>
    match scanner.step with
    | .error fault => (scanner.settled, some fault)
    | .ok (some scanner) => run fuel scanner
    | .ok none =>
      match scanner.close with
      | .error fault => (scanner.settled, some fault)
      | .ok scanner => (scanner.scanned, none)

end Scanner

/-- Whether a character can be in a data file. -/
def isReadable (c : Char) : Bool :=
  let code := c.toNat
  c == '\t' || c == '\n' || c == '\r' || (0x20 ≤ code && code ≤ 0x7E) || code == 0x85
    || (0xA0 ≤ code && code ≤ 0xD7FF) || (0xE000 ≤ code && code ≤ 0xFFFD) || 0x10000 ≤ code

/-- All tokens of a text up to its end, or those that are settled before the first fault. -/
def Token.scan (text : Text) : List Token × Option HostFault :=
  if text.all isReadable then
    let (scanned, fault) := (Scanner.start text).run (text.length + 2)
    (scanned.reverse, fault)
  else ([], some .malformedData)

end PromptWeave.Yaml
