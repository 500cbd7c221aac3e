/-
**Timestamps in a data file.**

A day is written `2001-12-14`; a moment has a time of day behind it, perhaps with a fraction of a
second and a distance from universal time. Main definitions:

* `Timestamp.read?`: the fields of a timestamp;
* `Timestamp.isBare`: whether a plain scalar of that form is a timestamp without a tag;
* `Timestamp.toAtom`: the day or moment of the calendar.
-/

import PromptWeave.Failure

namespace PromptWeave.Yaml

/-- The distance of a time from universal time. -/
inductive Zone
  | unknown
  | universal
  | shifted (isNegative : Bool) (hours minutes : Nat)
deriving DecidableEq, Repr

/-- A time of day. -/
structure Clock where
  hour : Nat
  minute : Nat
  second : Nat
  /-- The digits of the fraction of a second. -/
  fraction : Text
  zone : Zone
deriving DecidableEq, Repr

/-- The fields of a timestamp. -/
structure Timestamp where
  year : Nat
  month : Nat
  day : Nat
  clock : Option Clock
deriving DecidableEq, Repr

namespace Timestamp

/-- A number of at least and at most so many digits, and what follows. -/
def number? (least most : Nat) (text : Text) : Option (Nat × Text) :=
  let row := (text.take most).takeWhile Char.isDigit
  if row.length < least then none else some (Numeral.value 10 row, text.drop row.length)

/-- What follows a character. -/
def after? (c : Char) : Text → Option Text
  | d :: rest => if d = c then some rest else none
  | [] => none

/-- Whether a character may stand between the fields of a timestamp. -/
def isGap (c : Char) : Bool := c == ' ' || c == '\t'

/-- The distance from universal time that ends a timestamp. -/
def zone? (text : Text) : Option Zone :=
  if text = [] then some .unknown
  else match text.dropWhile isGap with
    | ['Z'] => some .universal
    | c :: rest =>
      if c = '+' ∨ c = '-' then do
        let (hours, rest) ← number? 1 2 rest
        if rest = [] then return .shifted (c == '-') hours 0
        let (minutes, rest) ← number? 2 2 (← after? ':' rest)
        if rest = [] then return .shifted (c == '-') hours minutes else none
      else none
    | [] => none

/-- The time of day that ends a timestamp. -/
def clock? (text : Text) : Option Clock := do
  let (hour, rest) ← number? 1 2 text
  let (minute, rest) ← number? 2 2 (← after? ':' rest)
  let (second, rest) ← number? 2 2 (← after? ':' rest)
  let (fraction, rest) := match after? '.' rest with
    | some rest => (rest.takeWhile Char.isDigit, rest.dropWhile Char.isDigit)
    | none => ([], rest)
  let zone ← zone? rest
  return ⟨hour, minute, second, fraction, zone⟩

/-- The fields of a timestamp. -/
def read? (text : Text) : Option Timestamp := do
  let (year, rest) ← number? 4 4 text
  let (month, rest) ← number? 1 2 (← after? '-' rest)
  let (day, rest) ← number? 1 2 (← after? '-' rest)
  match rest with
  | [] => return ⟨year, month, day, none⟩
  | c :: more =>
    let rest ←
      if c = 'T' ∨ c = 't' then some more
      else if isGap c then some (more.dropWhile isGap)
      else none
    return ⟨year, month, day, ← clock? rest⟩

/-- Whether a text is a timestamp without a tag: a day alone has all its digits. -/
def isBare (text : Text) : Bool :=
  match read? text with
  | some stamp => stamp.clock.isSome || text.length == 10
  | none => false

/-! ### The calendar -/

/-- The day of the calendar, if there is such a day. -/
def toDate (stamp : Timestamp) : Except CalendarFault Date :=
  if stamp.year = 0 then .error (.year stamp.year)
  else if stamp.month < 1 ∨ 12 < stamp.month then .error .month
  else if stamp.day < 1 ∨ Date.daysOf stamp.year stamp.month < stamp.day then .error .day
  else .ok ⟨stamp.year, stamp.month, stamp.day⟩

/-- The distance from universal time in minutes; it is less than a day. -/
def offset : Zone → Except CalendarFault (Option Int)
  | .unknown => .ok none
  | .universal => .ok (some 0)
  | .shifted isNegative hours minutes =>
    let distance : Int := (hours * 60 + minutes : Nat)
    let signed := if isNegative then -distance else distance
    if distance < 1440 then .ok (some signed) else .error (.offset signed)

/-- The millionths of a second of a fraction; more digits than six are cut off. -/
def microseconds (fraction : Text) : Nat :=
  Numeral.value 10 ((fraction ++ List.replicate 6 '0').take 6)

/-- The day or moment of the calendar. -/
def toAtom (stamp : Timestamp) : Except CalendarFault Atom :=
  match stamp.clock with
  | none => stamp.toDate.map Atom.date
  | some clock =>
    match offset clock.zone, stamp.toDate with
    | .error fault, _ => .error fault
    | .ok _, .error fault => .error fault
    | .ok offset, .ok date =>
      if 23 < clock.hour then .error .hour
      else if 59 < clock.minute then .error .minute
      else if 59 < clock.second then .error .second
      else .ok (.moment
        ⟨date, clock.hour, clock.minute, clock.second, microseconds clock.fraction, offset⟩)

end Timestamp

end PromptWeave.Yaml
