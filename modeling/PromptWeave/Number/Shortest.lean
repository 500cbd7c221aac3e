/-
**The shortest decimal of a binary fraction.**

A binary fraction is written with the fewest decimal digits that read back as the same value, and
of the decimals with that many digits the one nearest to the value. A decimal reads back when it
lies in the interval of the reals that are rounded to the value, whose ends belong to it exactly
when the significand is even. On the grid of decimals with a given number of digits it is enough to
test the two neighbours of the value. Main definitions:

* `Shortest.decimal`: the digits and the power of ten of the shortest decimal;
* `Binary64.text`: the written form, positional from `1e-04` up to below `1e16`, and otherwise with
  an exponent of at least two digits.
-/

import PromptWeave.Number.Binary64

namespace PromptWeave

open Text

namespace Shortest

/-- Fractions of naturals. -/
abbrev Fraction := Nat × Nat

/-- Whether one fraction is at most another. -/
def le (first second : Fraction) : Bool := first.1 * second.2 ≤ second.1 * first.2

/-- Whether one fraction is less than another. -/
def lt (first second : Fraction) : Bool := first.1 * second.2 < second.1 * first.2

/-- The fraction `row * 10 ^ power`. -/
def decimalFraction (row : Nat) (power : Int) : Fraction :=
  if 0 ≤ power then (row * Nat.pow 10 power.toNat, 1) else (row, Nat.pow 10 (-power).toNat)

/-- The lower and the upper end of the reals that are rounded to a finite positive value. Below the
least significand of an exponent the values lie twice as close. -/
def interval (significand : Nat) (exponent : Int) : Fraction × Fraction :=
  let upper := Binary64.ratio (2 * significand + 1) (exponent - 1)
  let lower :=
    if significand = Nat.pow 2 52 ∧ Binary64.leastExponent < exponent then
      Binary64.ratio (4 * significand - 1) (exponent - 2)
    else Binary64.ratio (2 * significand - 1) (exponent - 1)
  (lower, upper)

/-- Whether a decimal is rounded to the value. -/
def readsBack (significand : Nat) (exponent : Int) (decimal : Fraction) : Bool :=
  let (lower, upper) := interval significand exponent
  if significand % 2 = 0 then le lower decimal && le decimal upper
  else lt lower decimal && lt decimal upper

/-- The greatest power of ten that is not above a positive fraction. -/
def magnitude (value : Fraction) : Int :=
  let guess : Int := ((value.1.log2 : Int) - (value.2.log2 : Int)) * 30103 / 100000
  if lt value (decimalFraction 1 guess) then guess - 1
  else if le (decimalFraction 1 (guess + 1)) value then guess + 1
  else guess

/-- The row of the decimal just below a value on the grid of a power of ten. -/
def rowBelow (value : Fraction) (power : Int) : Nat :=
  if 0 ≤ power then value.1 / (value.2 * Nat.pow 10 power.toNat)
  else value.1 * Nat.pow 10 (-power).toNat / value.2

/-- The decimal nearest to a value on the grid of a power of ten that reads back. -/
def onGrid? (significand : Nat) (exponent : Int) (power : Int) : Option Nat :=
  let value := Binary64.ratio significand exponent
  let below := rowBelow value power
  let belowReads := readsBack significand exponent (decimalFraction below power)
  let aboveReads := readsBack significand exponent (decimalFraction (below + 1) power)
  match belowReads, aboveReads with
  | true, false => some below
  | false, true => some (below + 1)
  | false, false => none
  | true, true =>
    let middle := decimalFraction (2 * below + 1) power
    let twice := (2 * value.1, value.2)
    if lt twice middle then some below
    else if lt middle twice then some (below + 1)
    else some (if below % 2 = 0 then below else below + 1)

/-- The shortest decimal of a positive finite value with at least so many digits more to try. -/
def search (significand : Nat) (exponent : Int) (power : Int) : (tries : Nat) → Nat × Int
  | 0 => (rowBelow (Binary64.ratio significand exponent) power, power)
  | tries + 1 =>
    match onGrid? significand exponent power with
    | some row => (row, power)
    | none => search significand exponent (power - 1) tries

/-- The shortest decimal of a positive finite value: its row of digits and its power of ten.
Seventeen digits always read back. -/
def decimal (significand : Nat) (exponent : Int) : Nat × Int :=
  search significand exponent (magnitude (Binary64.ratio significand exponent)) 17

end Shortest

namespace Binary64

/-- The digits of a row without the noughts at its end, which move into the power of ten. -/
def trimmed (row : Text) (power : Int) : Text × Int :=
  let noughts := (row.reverse.takeWhile (· == '0')).length
  (row.take (row.length - noughts), power + noughts)

/-- The exponent of a decimal: a sign and at least two digits. -/
def exponentText (exponent : Int) : Text :=
  let row := Numeral.digits exponent.natAbs
  (if exponent < 0 then ['-'] else ['+']) ++ (if row.length < 2 then '0' :: row else row)

/-- The digits of a decimal with its point, for a decimal exponent of its first digit. -/
def placed (row : Text) (first : Int) : Text :=
  if first < 0 then "0.".toList ++ List.replicate (-first - 1).toNat '0' ++ row
  else
    let whole := first.toNat + 1
    if row.length ≤ whole then row ++ List.replicate (whole - row.length) '0' ++ ".0".toList
    else row.take whole ++ ['.'] ++ row.drop whole

/-- The written form of a magnitude with the given digits. -/
def magnitudeText (row : Nat) (power : Int) : Text :=
  let (row, power) := trimmed (Numeral.digits row) power
  let first := power + row.length - 1
  if -4 ≤ first ∧ first < 16 then placed row first
  else
    let fraction := if row.length = 1 then [] else '.' :: row.drop 1
    row.take 1 ++ fraction ++ ['e'] ++ exponentText first

/-- The written form of a value. -/
def text : Binary64 → Text
  | undefined _ => "nan".toList
  | infinite negative => (if negative then "-inf" else "inf").toList
  | finite negative significand exponent =>
    let magnitude :=
      if significand = 0 then "0.0".toList
      else
        let (row, power) := Shortest.decimal significand exponent
        magnitudeText row power
    if negative then '-' :: magnitude else magnitude

/-! ### Reading decimals -/

/-- A decimal: a row of digits and the power of ten that scales it. -/
def readDecimal? (digits : Text → Option Text) (negative : Bool) (text : Text) : Option Binary64 :=
  let mantissa := text.takeWhile fun c => c != 'e' && c != 'E'
  let exponentPart := text.drop mantissa.length
  let whole := mantissa.takeWhile (· != '.')
  let fractionPart := mantissa.drop whole.length
  let wholeRow := if whole = [] then some [] else digits whole
  let fractionRow := match fractionPart with
    | [] => some []
    | _ :: [] => some []
    | _ :: more => digits more
  let power := match exponentPart with
    | [] => some 0
    | _ :: more =>
      let (minus, unsigned) := Numeral.sign more
      (digits unsigned).map fun row =>
        let size : Int := Numeral.value 10 row
        if minus then -size else size
  match wholeRow, fractionRow, power with
  | some wholeRow, some fractionRow, some power =>
    if wholeRow = [] ∧ fractionRow = [] then none
    else some (ofDecimal negative (Numeral.value 10 (wholeRow ++ fractionRow))
      (power - fractionRow.length))
  | _, _, _ => none

/-- The names of the values that are no decimals, in lower case. -/
def named? (negative : Bool) (text : Text) : Option Binary64 :=
  let low := text.map Char.toLower
  if low = "inf".toList ∨ low = "infinity".toList then some (.infinite negative)
  else if low = "nan".toList then some (.undefined 0)
  else none

/-- Reads a decimal fraction, with single underscores allowed between digits. -/
def read (text : Text) : Except NumeralFault Binary64 :=
  let (negative, unsigned) := Numeral.sign (Numeral.stripPlain (Numeral.plain text))
  match named? negative unsigned with
  | some value => .ok value
  | none =>
    match readDecimal? (Numeral.joined? Char.isDigit) negative unsigned with
    | some value => .ok value
    | none => .error (.notFraction text)

end Binary64

end PromptWeave
