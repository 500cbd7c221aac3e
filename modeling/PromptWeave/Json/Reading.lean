/-
**Reading JSON.**

The grammar is that of JSON with three more numbers, `NaN`, `Infinity` and `-Infinity`. Integers
keep all their digits up to the limit on numerals; a number with a fraction or an exponent is a
binary fraction. Of members with the same name the last value counts, at the place of the first.
An escape may give one unit of a pair of code units without the other one. That is no character, so
a string with such an escape is well formed and no text, and what it stands in has no value here.
Main statements:

* `Json.readString`, `Json.readAtom` and `Json.readValue`: the parts of the grammar;
* `Json.parse?`: whether the whole text is one value, and that value if its strings are texts;
* `Json.read?`: the value of a text, if it has one.
-/

import PromptWeave.Value

namespace PromptWeave

open Text

namespace Json

/-- The blanks between tokens. -/
def isBlank (c : Char) : Bool := c == ' ' || c == '\t' || c == '\n' || c == '\r'

/-- The text from its next token on. -/
def skipBlanks (text : Text) : Text := text.dropWhile isBlank

/-! ### Strings -/

/-- The value of a hexadecimal digit. -/
def hexValue? (c : Char) : Option Nat :=
  let value := Numeral.digitValue c
  if value < 16 then some value else none

/-- The code unit of four hexadecimal digits. -/
def readUnit : Text → Option (Nat × Text)
  | a :: b :: c :: d :: rest =>
    match hexValue? a, hexValue? b, hexValue? c, hexValue? d with
    | some a, some b, some c, some d => some (((a * 16 + b) * 16 + c) * 16 + d, rest)
    | _, _, _, _ => none
  | _ => none

/-- The character of an escape that is a letter. -/
def escaped? (c : Char) : Option Char :=
  if c = '"' then some '"' else if c = '\\' then some '\\' else if c = '/' then some '/'
  else if c = 'b' then some '\x08' else if c = 'f' then some '\x0c' else if c = 'n' then some '\n'
  else if c = 'r' then some '\r' else if c = 't' then some '\t' else none

/-- The character of a code unit, together with the code unit that follows if the two are a pair.
A unit of a pair that stands alone is no character. -/
def readCharacter (unit : Nat) (rest : Text) : Option Char × Text :=
  if 0xD800 ≤ unit ∧ unit < 0xDC00 then
    match rest with
    | '\\' :: 'u' :: more =>
      match readUnit more with
      | some (low, after) =>
        if 0xDC00 ≤ low ∧ low < 0xE000 then
          (some (Char.ofNat (0x10000 + (unit - 0xD800) * 0x400 + (low - 0xDC00))), after)
        else (none, rest)
      | none => (none, rest)
    | _ => (none, rest)
  else if 0xDC00 ≤ unit ∧ unit < 0xE000 then (none, rest)
  else (some (Char.ofNat unit), rest)

theorem readUnit_length_lt {text rest : Text} {unit : Nat}
    (read : readUnit text = some (unit, rest)) : rest.length < text.length := by
  unfold readUnit at read
  split at read
  · split at read
    · cases read
      simp only [List.length_cons]
      omega
    · simp at read
  · simp at read

theorem readCharacter_length_le (unit : Nat) (rest : Text) :
    (readCharacter unit rest).2.length ≤ rest.length := by
  unfold readCharacter
  split
  · split
    · split
      · rename_i low after reading
        have := readUnit_length_lt reading
        split
        · simp only [List.length_cons]; omega
        · simp
      · simp
    · simp
  · split <;> simp

/-- A string after its opening quote: its characters if it is a text, and what follows its closing
quote. -/
def readString (text : Text) : Option (Option Text × Text) :=
  match text with
  | [] => none
  | '"' :: rest => some (some [], rest)
  | '\\' :: 'u' :: rest =>
    match _reading : readUnit rest with
    | none => none
    | some (unit, after) =>
      (readString (readCharacter unit after).2).map fun (value, left) =>
        ((readCharacter unit after).1.bind fun c => value.map (c :: ·), left)
  | '\\' :: c :: rest =>
    match escaped? c with
    | none => none
    | some c => (readString rest).map fun (value, left) => (value.map (c :: ·), left)
  | c :: rest =>
    if c.toNat < 32 ∨ c = '\\' then none
    else (readString rest).map fun (value, left) => (value.map (c :: ·), left)
termination_by text.length
decreasing_by
  · have := readUnit_length_lt _reading
    have := readCharacter_length_le unit after
    simp only [List.length_cons]
    omega
  · simp only [List.length_cons]; omega
  · simp

/-! ### Numbers -/

/-- The whole part of a number: nought, or digits of which the first is not nought. -/
def readWhole (text : Text) : Option (Text × Text) :=
  match text with
  | '0' :: rest => some (['0'], rest)
  | c :: rest =>
    if c.isDigit then some (c :: rest.takeWhile Char.isDigit, rest.dropWhile Char.isDigit) else none
  | [] => none

/-- The fraction of a number, if digits follow the point. -/
def readFraction (text : Text) : Text × Text :=
  match text with
  | '.' :: rest =>
    let row := rest.takeWhile Char.isDigit
    if row = [] then ([], text) else (row, rest.dropWhile Char.isDigit)
  | _ => ([], text)

/-- The exponent of a number, if digits follow its letter and sign. -/
def readExponent (text : Text) : Option Int × Text :=
  match text with
  | c :: rest =>
    if c = 'e' ∨ c = 'E' then
      let (minus, unsigned) := Numeral.sign rest
      let row := unsigned.takeWhile Char.isDigit
      if row = [] then (none, text)
      else
        let size : Int := Numeral.value 10 row
        (some (if minus then -size else size), unsigned.dropWhile Char.isDigit)
    else (none, text)
  | [] => (none, text)

/-- A number without its sign. -/
def readUnsigned (negative : Bool) (text : Text) : Option (Atom × Text) :=
  match readWhole text with
  | none => none
  | some (whole, rest) =>
    let (fraction, rest) := readFraction rest
    let (exponent, rest) := readExponent rest
    if fraction = [] ∧ exponent = none then
      if Numeral.digitLimit < whole.length then none
      else
        let size : Int := Numeral.value 10 whole
        some (.integer (if negative then -size else size), rest)
    else
      let value := Binary64.ofDecimal negative (Numeral.value 10 (whole ++ fraction))
        (exponent.getD 0 - fraction.length)
      some (.fraction value, rest)

/-- The words of the grammar and their values. -/
def words : List (Text × Atom) :=
  [("null".toList, .null), ("true".toList, .bool true), ("false".toList, .bool false),
   ("NaN".toList, .fraction (.undefined 0)), ("Infinity".toList, .fraction (.infinite false)),
   ("-Infinity".toList, .fraction (.infinite true))]

/-- A word or a number at the start of a text. -/
def readAtom (text : Text) : Option (Atom × Text) :=
  match words.find? fun word => word.1.isPrefixOf text with
  | some (word, value) => some (value, text.drop word.length)
  | none =>
    match text with
    | '-' :: rest => readUnsigned true rest
    | _ => readUnsigned false text

/-! ### Values -/

mutual

/-- The value at the start of a text if its strings are texts, the nesting being bounded by the fuel. -/
def readValue : (fuel : Nat) → Text → Option (Option Value × Text)
  | 0, _ => none
  | fuel + 1, text =>
    match text with
    | '"' :: rest => (readString rest).map fun (value, after) => (value.map Value.text, after)
    | '[' :: rest =>
      match skipBlanks rest with
      | ']' :: after => some (some (.list []), after)
      | inside =>
        (readItems fuel inside).map fun (items, after) => (items.map Value.list, after)
    | '\x7b' :: rest =>
      match skipBlanks rest with
      | '\x7d' :: after => some (some (.mapping false []), after)
      | inside =>
        (readMembers fuel inside).map fun (members, after) =>
          (members.map fun members => .mapping false (Mapping.ofPairs members), after)
    | _ => (readAtom text).map fun (value, after) => (some (.atom value), after)

/-- The items of an array up to its closing bracket. -/
def readItems : (fuel : Nat) → Text → Option (Option (List Value) × Text)
  | 0, _ => none
  | fuel + 1, text =>
    match readValue fuel text with
    | none => none
    | some (value, after) =>
      match skipBlanks after with
      | ',' :: rest =>
        (readItems fuel (skipBlanks rest)).map fun (items, left) =>
          (value.bind fun value => items.map (value :: ·), left)
      | ']' :: rest => some (value.map fun value => [value], rest)
      | _ => none

/-- The members of an object up to its closing brace. -/
def readMembers : (fuel : Nat) → Text → Option (Option (List (Key × Value)) × Text)
  | 0, _ => none
  | fuel + 1, text =>
    match text with
    | '"' :: rest =>
      match readString rest with
      | none => none
      | some (name, after) =>
        match skipBlanks after with
        | ':' :: between =>
          match readValue fuel (skipBlanks between) with
          | none => none
          | some (value, after) =>
            let member? := name.bind fun name => value.map fun value => (Key.ofText name, value)
            match skipBlanks after with
            | ',' :: rest =>
              (readMembers fuel (skipBlanks rest)).map fun (members, left) =>
                (member?.bind fun member => members.map (member :: ·), left)
            | '\x7d' :: rest => some (member?.map fun member => [member], rest)
            | _ => none
        | _ => none
    | _ => none

end

/-- Whether a text is one value with blanks around it, and if so that value, unless one of its
strings is no text. -/
def parse? (text : Text) : Option (Option Value) :=
  match readValue (2 * text.length + 2) (skipBlanks text) with
  | none => none
  | some (value, after) => if skipBlanks after = [] then some value else none

/-- The value of a text, if the whole text is one value with blanks around it. -/
def read? (text : Text) : Option Value := (parse? text).join

end Json

end PromptWeave
