/-
**Integer numerals.**

Writing integers in decimal and reading them in a base. A numeral may have blanks around it, a
sign, and single underscores between its digits, and its digits may be of any script; numerals of
more than 4300 decimal digits are refused both ways. Main statements:

* `Numeral.value_digits`: the decimal digits of a number have that number as their value;
* `Numeral.digits_allDigits`: they are the digits of the Latin script;
* `Numeral.write?` and `Numeral.read`: the two directions with the limit.
-/

import PromptWeave.Text.Blank
import PromptWeave.Text.Digit
import PromptWeave.Text.Printable

namespace PromptWeave

open Text

/-- Why a number cannot be read or written. -/
inductive NumeralFault
  /-- The text is no integer numeral in this base. -/
  | notInteger (base : Nat) (literal : Text)
  /-- The text is no decimal fraction. -/
  | notFraction (literal : Text)
  /-- The numeral to be read has this many digits. -/
  | tooLongToRead (digits : Nat)
  /-- The number has too many digits to be written. -/
  | tooLongToWrite
  /-- An infinite value is no integer. -/
  | infinite
  /-- An undefined value is no integer. -/
  | undefined
deriving DecidableEq, Repr

namespace Numeral

/-- The most decimal digits that are read or written. -/
def digitLimit : Nat := 4300

/-! ### Decimal digits -/

/-- The decimal digit of a value below ten. -/
def digitChar (value : Nat) : Char := Nat.digitChar (value % 10)

/-- The decimal digits of a number, the most significant one first. -/
def digits (number : Nat) : Text :=
  if number < 10 then [digitChar number]
  else digits (number / 10) ++ [digitChar number]
decreasing_by omega

/-- The value of a digit in bases up to sixteen and beyond, Latin letters following the nine. -/
def digitValue (c : Char) : Nat :=
  if '0' ≤ c ∧ c ≤ '9' then c.toNat - '0'.toNat
  else if 'a' ≤ c ∧ c ≤ 'z' then c.toNat - 'a'.toNat + 10
  else if 'A' ≤ c ∧ c ≤ 'Z' then c.toNat - 'A'.toNat + 10
  else 99

/-- The value of a row of digits in a base. -/
def value (base : Nat) (row : Text) : Nat :=
  row.foldl (fun total c => total * base + digitValue c) 0

theorem digitValue_digitChar (number : Nat) : digitValue (digitChar number) = number % 10 := by
  have all : ∀ small : Fin 10, digitValue (Nat.digitChar small.val) = small.val := by decide
  exact all ⟨number % 10, Nat.mod_lt _ (by decide)⟩

theorem digitChar_isDigit (number : Nat) : (digitChar number).isDigit = true := by
  have all : ∀ small : Fin 10, (Nat.digitChar small.val).isDigit = true := by decide
  exact all ⟨number % 10, Nat.mod_lt _ (by decide)⟩

/-- The decimal digits of a number have that number as their value. -/
theorem value_digits (number : Nat) : value 10 (digits number) = number := by
  rw [digits]
  split
  · simp only [value, List.foldl_cons, List.foldl_nil, digitValue_digitChar]
    omega
  · have smaller := value_digits (number / 10)
    simp only [value, List.foldl_append, List.foldl_cons, List.foldl_nil,
      digitValue_digitChar] at smaller ⊢
    rw [smaller]
    omega
termination_by number
decreasing_by omega

/-- Every character of a decimal numeral is a digit of the Latin script. -/
theorem digits_allDigits (number : Nat) : ∀ c ∈ digits number, c.isDigit = true := by
  rw [digits]
  split
  · intro c inside
    rw [List.mem_singleton] at inside
    rw [inside]
    exact digitChar_isDigit number
  · intro c inside
    rw [List.mem_append, List.mem_singleton] at inside
    rcases inside with inside | last
    · exact digits_allDigits (number / 10) c inside
    · rw [last]
      exact digitChar_isDigit number
termination_by number
decreasing_by omega

theorem digits_ne_nil (number : Nat) : digits number ≠ [] := by
  rw [digits]
  split <;> simp

/-- The decimal text of an integer. -/
def ofInt : Int → Text
  | .ofNat number => digits number
  | .negSucc number => '-' :: digits (number + 1)

/-- The decimal text of an integer within the limit. -/
def write? (number : Int) : Except NumeralFault Text :=
  let text := ofInt number
  if digitLimit < (digits number.natAbs).length then .error .tooLongToWrite else .ok text

/-! ### Reading -/

/-- The blanks that may stand around a numeral in the first 128 characters. -/
def isPlainBlank (c : Char) : Bool := c == ' ' || (9 ≤ c.toNat && c.toNat ≤ 13)

/-- A text with its blanks and digits of other scripts replaced by plain ones. A text of the first
128 characters stays as it is; otherwise the first character that is neither makes the rest
unreadable. -/
def plain (text : Text) : Text :=
  if text.all (fun c => c.toNat < 128) then text
  else
    let spelled := text.map fun c =>
      if c.toNat < 127 then c
      else if isBlank c then ' '
      else match decimalValue? c with
        | some value => digitChar value
        | none => '?'
    spelled

/-- The text without the plain blanks at its two ends. -/
def stripPlain (text : Text) : Text :=
  ((text.dropWhile isPlainBlank).reverse.dropWhile isPlainBlank).reverse

/-- The sign of a numeral, true for minus, and what follows it. -/
def sign : Text → Bool × Text
  | '-' :: rest => (true, rest)
  | '+' :: rest => (false, rest)
  | rest => (false, rest)

/-- A row of digits without its underscores, each of which stands between two digits. -/
def joined? (isIn : Char → Bool) : Text → Option Text
  | [] => none
  | [c] => if isIn c then some [c] else none
  | c :: '_' :: rest => if isIn c then (joined? isIn rest).map (c :: ·) else none
  | c :: rest => if isIn c then (joined? isIn rest).map (c :: ·) else none

/-- The rest of a numeral after the letter that may name its base. -/
def withoutBaseMark (base : Nat) : Text → Text
  | '0' :: mark :: rest =>
    let named := (base == 16 && (mark == 'x' || mark == 'X'))
      || (base == 8 && (mark == 'o' || mark == 'O')) || (base == 2 && (mark == 'b' || mark == 'B'))
    if named then (match rest with | '_' :: more => more | more => more) else '0' :: mark :: rest
  | text => text

/-- Whether a character is a digit in a base or an underscore. -/
def isSpelled (base : Nat) (c : Char) : Bool := digitValue c < base || c == '_'

/-- Reads an integer numeral in a base. Only bases that are no power of two have the limit, which
counts before what follows the digits is looked at. -/
def read (base : Nat) (text : Text) : Except NumeralFault Int :=
  let (negative, unsigned) := sign ((plain text).dropWhile isPlainBlank)
  let body := withoutBaseMark base unsigned
  match joined? (fun c => digitValue c < base) (body.takeWhile (isSpelled base)) with
  | none => .error (.notInteger base text)
  | some row =>
    if base = 10 ∧ digitLimit < row.length then .error (.tooLongToRead row.length)
    else if !(body.dropWhile (isSpelled base)).all isPlainBlank then .error (.notInteger base text)
    else if negative then .ok (-(value base row : Int))
    else .ok (value base row)

end Numeral

/-- How a fault is worded. A literal is quoted and cut after 200 characters. -/
def NumeralFault.message : NumeralFault → String
  | notInteger base literal =>
    let shown := String.ofList ((quoted literal).take 200)
    s!"invalid literal for int() with base {base}: {shown}"
  | notFraction literal =>
    let shown := String.ofList (quoted literal)
    s!"could not convert string to float: {shown}"
  | tooLongToRead count =>
    let limit := Numeral.digitLimit
    s!"Exceeds the limit ({limit} digits) for integer string conversion: value has {count} digits; "
      ++ "use sys.set_int_max_str_digits() to increase the limit"
  | tooLongToWrite =>
    let limit := Numeral.digitLimit
    s!"Exceeds the limit ({limit} digits) for integer string conversion; "
      ++ "use sys.set_int_max_str_digits() to increase the limit"
  | infinite => "cannot convert float infinity to integer"
  | undefined => "cannot convert float NaN to integer"

end PromptWeave
