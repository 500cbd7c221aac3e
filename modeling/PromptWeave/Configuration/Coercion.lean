/-
**Settings written as texts.**

A setting of the environment is a text. It is read as the first of these that it can be: no value, a
truth value, an integer, a fraction, a JSON collection, or the text itself without the blanks at its
ends. Main definitions:

* `Setting.isInteger`, `Setting.isFraction`: the forms of numbers;
* `Setting.ofText`: the value of a text.
-/

import PromptWeave.Failure
import PromptWeave.Text.Case

namespace PromptWeave

open Text

namespace Setting

/-- The text without a sign at its start. -/
def unsigned : Text → Text
  | '+' :: rest => rest
  | '-' :: rest => rest
  | text => text

/-- Whether a character is a decimal digit of any script. -/
def isDecimal (c : Char) : Bool := (decimalValue? c).isSome

/-- Whether a text is an integer: a sign if it has one, and digits. -/
def isInteger (text : Text) : Bool :=
  let row := unsigned text
  !row.isEmpty && row.all isDecimal

/-- Whether a text is a fraction: a sign if it has one, and a point among digits, of which there is
at least one. -/
def isFraction (text : Text) : Bool :=
  let row := unsigned text
  let whole := row.takeWhile isDecimal
  match row.dropWhile isDecimal with
  | '.' :: digits => digits.all isDecimal && !(whole.isEmpty && digits.isEmpty)
  | _ => false

/-- Whether a text is enclosed as a JSON object or a JSON array is. -/
def isEnclosed (text : Text) : Bool :=
  let isBetween (opening closing : Char) : Bool :=
    text.head? == some opening && text.getLast? == some closing
  isBetween '\x7b' '\x7d' || isBetween '[' ']'

/-- The value of a text. Integers are read with their blanks, of which not all are allowed. -/
def ofText (text : Text) : Except HostFault Value :=
  let body := strip text
  let word := String.ofList (lower body)
  if word = "null" ∨ word = "none" then .ok .null
  else if word = "true" then .ok (.bool true)
  else if word = "false" then .ok (.bool false)
  else if isInteger body then
    match Numeral.read 10 text with
    | .ok number => .ok (.integer number)
    | .error fault => .error (.numeral fault)
  else if isFraction body then
    match Binary64.read body with
    | .ok number => .ok (.atom (.fraction number))
    | .error fault => .error (.numeral fault)
  else if isEnclosed body then Json.valueOf body
  else .ok (.text body)

end Setting

end PromptWeave
