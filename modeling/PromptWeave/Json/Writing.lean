/-
**Writing JSON.**

A value is written with its entries in order. With an indentation every item stands on a line of its
own; without one everything is on one line. Strings are escaped where they must be, and everywhere
beyond the first 128 characters if only those are wanted. Values that JSON does not have are
written as strings of their plain form. Main statements:

* `Json.write`: the text of a value in a style;
* `Json.writeString`: the text of a string.
-/

import PromptWeave.Value.Literal

namespace PromptWeave

open Text

namespace Json

/-- How a value is laid out. -/
structure Style where
  /-- The width of one level of indentation; without it there is one line only. -/
  indent : Option Int
  /-- Whether only the first 128 characters may be used. -/
  asciiOnly : Bool
deriving DecidableEq, Repr

/-- Why a value cannot be written. -/
inductive Fault
  /-- A number has too many digits. -/
  | numeral (fault : NumeralFault)
  /-- A key of this kind cannot name a member of an object. -/
  | unwritableKey (kind : String)
  /-- A collection stands inside itself. -/
  | endless
deriving DecidableEq, Repr

/-- How a fault is worded. -/
def Fault.message : Fault → String
  | numeral fault => fault.message
  | unwritableKey kind => s!"keys must be str, int, float, bool or None, not {kind}"
  | endless => "maximum recursion depth exceeded in comparison"

/-- A code unit of sixteen bits as an escape. -/
def unitEscape (unit : Nat) : Text := ['\\', 'u'] ++ hex unit 4

/-- A character as one escape or, beyond the sixteen-bit code points, as two. -/
def escape (c : Char) : Text :=
  if c.toNat < 0x10000 then unitEscape c.toNat
  else
    let rest := c.toNat - 0x10000
    unitEscape (0xD800 + rest / 0x400) ++ unitEscape (0xDC00 + rest % 0x400)

/-- One character of a string. -/
def writeCharacter (asciiOnly : Bool) (c : Char) : Text :=
  if c = '"' then ['\\', '"']
  else if c = '\\' then ['\\', '\\']
  else if c = '\n' then ['\\', 'n']
  else if c = '\r' then ['\\', 'r']
  else if c = '\t' then ['\\', 't']
  else if c = '\x0c' then ['\\', 'f']
  else if c = '\x08' then ['\\', 'b']
  else if c.toNat < 32 then escape c
  else if asciiOnly && 126 < c.toNat then escape c
  else [c]

/-- A string with its quotes. -/
def writeString (asciiOnly : Bool) (text : Text) : Text :=
  '"' :: (text.flatMap (writeCharacter asciiOnly) ++ ['"'])

/-- A fraction; the values that are no decimals have names of their own. -/
def writeFraction : Binary64 → Text
  | .undefined _ => "NaN".toList
  | .infinite false => "Infinity".toList
  | .infinite true => "-Infinity".toList
  | value => value.text

/-- An integer within the limit on digits. -/
def writeInteger (value : Int) : Except Fault Text := (Numeral.write? value).mapError Fault.numeral

/-- The name of a member of an object. -/
def writeKey : Key → Except Fault Text
  | .atom .null => .ok "null".toList
  | .atom (.bool true) => .ok "true".toList
  | .atom (.bool false) => .ok "false".toList
  | .atom (.integer value) => writeInteger value
  | .atom (.fraction value) => .ok (writeFraction value)
  | .atom (.string value) => .ok value.toList
  | other => .error (.unwritableKey other.kind)

/-- The line break and the blanks before an item at some depth; nothing without indentation. -/
def newline (style : Style) (depth : Nat) : Text :=
  match style.indent with
  | none => []
  | some width => '\n' :: List.replicate (width.toNat * depth) ' '

/-- What separates two items at some depth. -/
def separator (style : Style) (depth : Nat) : Text :=
  match style.indent with
  | none => [',', ' ']
  | some _ => ',' :: newline style depth

/-- Items of a collection at some depth between brackets. -/
def enclose (style : Style) (depth : Nat) (opening closing : Char) (items : List Text) : Text :=
  if items = [] then [opening, closing]
  else [opening] ++ newline style (depth + 1) ++ joinWith (separator style (depth + 1)) items
    ++ newline style depth ++ [closing]

/-- A value that JSON does not have: its plain form as a string. -/
def writeOther (style : Style) (display : Except NumeralFault Text) : Except Fault Text :=
  (display.mapError Fault.numeral).map (writeString style.asciiOnly)

/-- An atom. -/
def writeAtom (style : Style) : Atom → Except Fault Text
  | .null => .ok "null".toList
  | .bool true => .ok "true".toList
  | .bool false => .ok "false".toList
  | .integer value => writeInteger value
  | .fraction value => .ok (writeFraction value)
  | .string value => .ok (writeString style.asciiOnly value.toList)
  | other => writeOther style other.display

mutual

/-- A value inside so many collections. -/
def writeAt (style : Style) (depth : Nat) : Value → Except Fault Text
  | .atom value => writeAtom style value
  | .sequence _ items => (writeItems style (depth + 1) items).map (enclose style depth '[' ']')
  | .mapping false entries =>
    (writeEntries style (depth + 1) entries).map (enclose style depth '\x7b' '\x7d')
  | .mapping true entries => writeOther style (Value.mapping true entries).display
  | .set members => writeOther style (Value.set members).display
  | .loop _ _ => .error .endless
  | .again _ => .error .endless

/-- The items of a sequence. -/
def writeItems (style : Style) (depth : Nat) : List Value → Except Fault (List Text)
  | [] => .ok []
  | value :: values => do
    let first ← writeAt style depth value
    let others ← writeItems style depth values
    return first :: others

/-- The members of an object. -/
def writeEntries (style : Style) (depth : Nat) : List (Key × Value) → Except Fault (List Text)
  | [] => .ok []
  | (key, value) :: entries => do
    let name ← writeKey key
    let content ← writeAt style depth value
    let others ← writeEntries style depth entries
    return (writeString style.asciiOnly name ++ [':', ' '] ++ content) :: others

end

/-- The text of a value. -/
def write (style : Style) (value : Value) : Except Fault Text := writeAt style 0 value

end Json

end PromptWeave
