/-
**Binary fractions of 64 bits.**

A value is undefined, infinite, or a signed natural times a power of two with 53 bits of precision.
Undefined values are told apart by a mark, which no operation looks at. Every operation is exact
arithmetic on naturals followed by one rounding, to the nearest value and to the even one of two
equally near. Main definitions:

* `Binary64.ofRatio`: the value nearest to a fraction;
* `Binary64.truncate`: the integer part;
* `Binary64.toInt?` and `Binary64.ltInt`: comparison with integers.
-/

import PromptWeave.Number.Numeral

namespace PromptWeave

open Text

/-- A binary fraction. A finite value is its sign times `significand * 2 ^ exponent`; its
significand has at most 53 bits, and fewer only with the least exponent, -1074. -/
inductive Binary64
  /-- No value. -/
  | undefined (mark : Nat)
  /-- Beyond every finite value. -/
  | infinite (negative : Bool)
  /-- A finite value. -/
  | finite (negative : Bool) (significand : Nat) (exponent : Int)
deriving DecidableEq, Repr

namespace Binary64

/-- The least exponent. -/
def leastExponent : Int := -1074

/-- The greatest exponent of a finite value. -/
def greatestExponent : Int := 971

/-- Positive or negative nought. -/
def nought (negative : Bool) : Binary64 := .finite negative 0 leastExponent

/-- A quotient rounded to the nearest natural, and to the even one of two equally near. -/
def roundedQuotient (numerator denominator : Nat) : Nat :=
  let quotient := numerator / denominator
  let twice := 2 * (numerator % denominator)
  if denominator < twice ∨ (denominator = twice ∧ quotient % 2 = 1) then quotient + 1 else quotient

/-- A fraction divided by a power of two. -/
def scaled (numerator denominator : Nat) (exponent : Int) : Nat × Nat :=
  if 0 ≤ exponent then (numerator, denominator * Nat.pow 2 exponent.toNat)
  else (numerator * Nat.pow 2 (-exponent).toNat, denominator)

/-- The exponent at which the quotient of a positive fraction has 53 bits, or the least exponent. -/
def exponentFor (numerator denominator : Nat) : Int :=
  let guess : Int := (numerator.log2 : Int) - (denominator.log2 : Int) - 52
  let (top, bottom) := scaled numerator denominator guess
  let exact := if top / bottom < Nat.pow 2 52 then guess - 1 else guess
  max leastExponent exact

/-- The value nearest to a fraction. -/
def ofRatio (negative : Bool) (numerator denominator : Nat) : Binary64 :=
  if numerator = 0 then nought negative
  else
    let exponent := exponentFor numerator denominator
    let (top, bottom) := scaled numerator denominator exponent
    let rounded := roundedQuotient top bottom
    let (significand, exponent) :=
      if rounded = Nat.pow 2 53 then (Nat.pow 2 52, exponent + 1) else (rounded, exponent)
    if greatestExponent < exponent then .infinite negative
    else .finite negative significand exponent

/-- The value nearest to `row * 10 ^ exponent`. Exponents that decide the answer by themselves are
not worked out. -/
def ofDecimal (negative : Bool) (row : Nat) (exponent : Int) : Binary64 :=
  if row = 0 then nought negative
  else
    let magnitude : Int := (row.log2 : Int) / 4 + exponent
    let least : Int := (row.log2 : Int) + exponent
    if 400 < magnitude then .infinite negative
    else if least < -400 then nought negative
    else if 0 ≤ exponent then ofRatio negative (row * Nat.pow 10 exponent.toNat) 1
    else ofRatio negative row (Nat.pow 10 (-exponent).toNat)

/-- The value nearest to an integer. -/
def ofInt (number : Int) : Binary64 := ofRatio (number < 0) number.natAbs 1

/-- The magnitude of a finite value as a fraction. -/
def ratio (significand : Nat) (exponent : Int) : Nat × Nat :=
  if 0 ≤ exponent then (significand * Nat.pow 2 exponent.toNat, 1)
  else (significand, Nat.pow 2 (-exponent).toNat)

/-- The integer part, the fraction being cut off. -/
def truncate : Binary64 → Except NumeralFault Int
  | undefined _ => .error .undefined
  | infinite _ => .error .infinite
  | finite negative significand exponent =>
    let (top, bottom) := ratio significand exponent
    let whole : Int := (top / bottom : Nat)
    .ok (if negative then -whole else whole)

/-- Whether a value is an integer. -/
def isIntegral : Binary64 → Bool
  | undefined _ => false
  | infinite _ => false
  | finite _ significand exponent =>
    let (top, bottom) := ratio significand exponent
    top % bottom = 0

/-- The integer that a value equals, if it is one. -/
def toInt? (value : Binary64) : Option Int :=
  if value.isIntegral then (match value.truncate with | .ok whole => some whole | .error _ => none)
  else none

/-- Whether a value is less than an integer. -/
def ltInt (value : Binary64) (bound : Int) : Bool :=
  match value with
  | undefined _ => false
  | infinite negative => negative
  | finite negative significand exponent =>
    let (top, bottom) := ratio significand exponent
    let signed : Int := if negative then -(top : Int) else top
    signed < bound * bottom

/-- Whether a value is nought of either sign. -/
def isNought : Binary64 → Bool
  | finite _ 0 _ => true
  | _ => false

/-- The value with the other sign. -/
def negate : Binary64 → Binary64
  | undefined mark => undefined mark
  | infinite negative => infinite !negative
  | finite negative significand exponent => finite (!negative) significand exponent

/-- The value with a mark if it is undefined. -/
def marked (mark : Nat) : Binary64 → Binary64
  | undefined _ => undefined mark
  | other => other

/-! ### Arithmetic -/

/-- The sum of two finite values before rounding, as a signed fraction. -/
def sumRatio (first second : Bool × Nat × Int) : Int × Nat :=
  let signed (value : Bool × Nat × Int) : Int × Nat :=
    let (top, bottom) := ratio value.2.1 value.2.2
    (if value.1 then -(top : Int) else top, bottom)
  let (a, b) := signed first
  let (c, d) := signed second
  (a * d + c * b, b * d)

/-- The sum of two values. -/
def add : Binary64 → Binary64 → Binary64
  | undefined mark, _ | _, undefined mark => undefined mark
  | infinite negative, infinite other => if negative = other then infinite negative else undefined 0
  | infinite negative, _ | _, infinite negative => infinite negative
  | finite negative significand exponent, finite negative' significand' exponent' =>
    let (top, bottom) :=
      sumRatio (negative, significand, exponent) (negative', significand', exponent')
    if top = 0 then nought (negative && negative') else ofRatio (top < 0) top.natAbs bottom

/-- The product of two values. -/
def mul : Binary64 → Binary64 → Binary64
  | undefined mark, _ | _, undefined mark => undefined mark
  | infinite negative, infinite other => infinite (negative != other)
  | infinite negative, finite other significand _ | finite other significand _, infinite negative =>
    if significand = 0 then undefined 0 else infinite (negative != other)
  | finite negative significand exponent, finite negative' significand' exponent' =>
    let (a, b) := ratio significand exponent
    let (c, d) := ratio significand' exponent'
    ofRatio (negative != negative') (a * c) (b * d)

end Binary64

end PromptWeave
