/-
**How values are shown in messages.**

A literal shows a value so that its kind can be seen: strings are quoted, a tuple of one item has a
comma, a frozen mapping and a day are named. A collection inside itself is shown by its brackets and
three dots. `display` is the plain form, which differs only for strings and for the calendar.

* `Value.literal`: the literal of a value;
* `Value.display`: its plain form.
-/

import PromptWeave.Value

namespace PromptWeave

open Text

/-- A number in decimal, filled up with noughts to a width. -/
def padded (width number : Nat) : Text :=
  let row := Numeral.digits number
  List.replicate (width - row.length) '0' ++ row

/-- Year, month and day with hyphens. -/
def Date.text (date : Date) : Text :=
  padded 4 date.year ++ ['-'] ++ padded 2 date.month ++ ['-'] ++ padded 2 date.day

/-- The distance from universal time: a sign, hours and minutes. -/
def offsetText (offset : Int) : Text :=
  (if offset < 0 then ['-'] else ['+']) ++ padded 2 (offset.natAbs / 60) ++ [':']
    ++ padded 2 (offset.natAbs % 60)

/-- The day, the time of day, and the distance from universal time. -/
def Moment.text (moment : Moment) : Text :=
  moment.date.text ++ [' '] ++ padded 2 moment.hour ++ [':'] ++ padded 2 moment.minute ++ [':']
    ++ padded 2 moment.second
    ++ (if moment.microsecond = 0 then [] else '.' :: padded 6 moment.microsecond)
    ++ (match moment.offset with | none => [] | some offset => offsetText offset)

/-- Texts with a comma and a blank between them. -/
def listed (texts : List Text) : Text := joinWith [',', ' '] texts

/-- The literal of a day. -/
def Date.literal (date : Date) : Text :=
  "datetime.date(".toList ++ listed ([date.year, date.month, date.day].map Numeral.digits) ++ [')']

/-- The literal of a duration in minutes, counted in days and seconds. -/
def durationLiteral (minutes : Int) : Text :=
  let days := minutes.fdiv 1440
  let seconds := (minutes - days * 1440) * 60
  let parts := (if days = 0 then [] else ["days=".toList ++ Numeral.ofInt days])
    ++ (if seconds = 0 then [] else ["seconds=".toList ++ Numeral.ofInt seconds])
  "datetime.timedelta(".toList ++ (if parts = [] then ['0'] else listed parts) ++ [')']

/-- The literal of a distance from universal time. -/
def offsetLiteral (offset : Int) : Text :=
  if offset = 0 then "datetime.timezone.utc".toList
  else "datetime.timezone(".toList ++ durationLiteral offset ++ [')']

/-- The literal of a moment; noughts at the end of the time of day are left out. -/
def Moment.literal (moment : Moment) : Text :=
  let clock :=
    if moment.microsecond ≠ 0 then
      [moment.hour, moment.minute, moment.second, moment.microsecond]
    else if moment.second ≠ 0 then [moment.hour, moment.minute, moment.second]
    else [moment.hour, moment.minute]
  let parts := ([moment.date.year, moment.date.month, moment.date.day] ++ clock).map Numeral.digits
  let zone := match moment.offset with
    | none => []
    | some offset => ["tzinfo=".toList ++ offsetLiteral offset]
  "datetime.datetime(".toList ++ listed (parts ++ zone) ++ [')']

/-- The literal of one byte between the given quotes. -/
def byteLiteral (quote : Char) (byte : UInt8) : Text :=
  let c := Char.ofNat byte.toNat
  if c = quote || c = '\\' then ['\\', c]
  else if c = '\t' then "\\t".toList
  else if c = '\n' then "\\n".toList
  else if c = '\r' then "\\r".toList
  else if 32 ≤ byte.toNat && byte.toNat < 127 then [c]
  else "\\x".toList ++ hex byte.toNat 2

/-- The literal of bytes. -/
def bytesLiteral (bytes : List UInt8) : Text :=
  let quote := quoteFor (bytes.map fun byte => Char.ofNat byte.toNat)
  ['b', quote] ++ bytes.flatMap (byteLiteral quote) ++ [quote]

/-- The literal of an atom. -/
def Atom.literal : Atom → Except NumeralFault Text
  | .null => .ok "None".toList
  | .bool true => .ok "True".toList
  | .bool false => .ok "False".toList
  | .integer value => Numeral.write? value
  | .fraction value => .ok value.text
  | .string value => .ok (quoted value.toList)
  | .date value => .ok value.literal
  | .moment value => .ok value.literal
  | .bytes value => .ok (bytesLiteral value)

/-- The items of a tuple between parentheses; a single item is followed by a comma. -/
def tupleText : List Text → Text
  | [item] => ['('] ++ item ++ [',', ')']
  | items => ['('] ++ listed items ++ [')']

mutual

/-- The literal of a key. -/
def Key.literal : Key → Except NumeralFault Text
  | .atom value => value.literal
  | .tuple items => (Key.literals items).map tupleText

/-- The literals of a row of keys. -/
def Key.literals : List Key → Except NumeralFault (List Text)
  | [] => .ok []
  | key :: keys => do
    let first ← Key.literal key
    let others ← Key.literals keys
    return first :: others

end

/-- The members of a set between braces. -/
def setText : List Text → Text
  | [] => "set()".toList
  | members => ['{'] ++ listed members ++ ['}']

/-- A text between brackets as a value of this kind has them. -/
def Value.bracketed (text : Text) : Value → Text
  | .sequence true _ => ['('] ++ text ++ [')']
  | .mapping false _ => ['{'] ++ text ++ ['}']
  | .mapping true _ => "mappingproxy(".toList ++ ['{'] ++ text ++ ['}', ')']
  | .loop _ inside => bracketed text inside
  | _ => ['['] ++ text ++ [']']

mutual

/-- The literal of a value inside collections whose labels have these texts. -/
def Value.literalWithin (around : List (Nat × Text)) : Value → Except NumeralFault Text
  | .atom value => value.literal
  | .sequence true items => (Value.literalsWithin around items).map tupleText
  | .sequence false items =>
    (Value.literalsWithin around items).map fun texts => ['['] ++ listed texts ++ [']']
  | .mapping frozen entries =>
    (Value.entryLiteralsWithin around entries).map fun texts =>
      Value.bracketed (listed texts) (.mapping frozen entries)
  | .set members => (Key.literals members).map setText
  | .loop label inside =>
    match Entries.get? (· == ·) label around with
    | some text => .ok text
    | none => Value.literalWithin ((label, Value.bracketed "...".toList inside) :: around) inside
  | .again label => .ok ((Entries.get? (· == ·) label around).getD "...".toList)

/-- The literals of a row of values. -/
def Value.literalsWithin (around : List (Nat × Text)) :
    List Value → Except NumeralFault (List Text)
  | [] => .ok []
  | value :: values => do
    let first ← Value.literalWithin around value
    let others ← Value.literalsWithin around values
    return first :: others

/-- The literals of entries, a colon after each key. -/
def Value.entryLiteralsWithin (around : List (Nat × Text)) :
    List (Key × Value) → Except NumeralFault (List Text)
  | [] => .ok []
  | (key, value) :: entries => do
    let name ← Key.literal key
    let content ← Value.literalWithin around value
    let others ← Value.entryLiteralsWithin around entries
    return (name ++ [':', ' '] ++ content) :: others

end

/-- The literal of a value. -/
def Value.literal (value : Value) : Except NumeralFault Text := value.literalWithin []

/-- The plain form of an atom. -/
def Atom.display : Atom → Except NumeralFault Text
  | .string value => .ok value.toList
  | .date value => .ok value.text
  | .moment value => .ok value.text
  | other => other.literal

/-- The plain form of a value. -/
def Value.display : Value → Except NumeralFault Text
  | .atom value => value.display
  | other => other.literal

end PromptWeave
