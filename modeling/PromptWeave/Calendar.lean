/-
**The calendar.**

A day of the calendar, and a moment of a day, perhaps with its distance from universal time. Two
moments whose distances are known are the same when they are the same instant, wherever their clocks
stand. Main statements:

* `Date.number`: the days from the first one of the calendar up to a day;
* `Moment.instant`: the millionths of a second up to a moment;
* `Moment.same_refl`: a moment is the same as itself.
-/

namespace PromptWeave

/-- A day of the calendar. -/
structure Date where
  year : Nat
  month : Nat
  day : Nat
deriving DecidableEq, Repr

/-- A moment of a day, with its distance from universal time in minutes if that is known. -/
structure Moment where
  date : Date
  hour : Nat
  minute : Nat
  second : Nat
  microsecond : Nat
  offset : Option Int
deriving DecidableEq, Repr

namespace Date

/-- Whether a year has a day more. -/
def isLeap (year : Nat) : Bool := year % 4 == 0 && (year % 100 != 0 || year % 400 == 0)

/-- The number of days of a month. -/
def daysOf (year month : Nat) : Nat :=
  if month = 2 then (if isLeap year then 29 else 28)
  else if month = 4 ∨ month = 6 ∨ month = 9 ∨ month = 11 then 30
  else 31

/-- The number of days in the months before a month. -/
def daysBefore (year : Nat) : (months : Nat) → Nat
  | 0 => 0
  | months + 1 => daysBefore year months + daysOf year (months + 1)

/-- The number of a day, the first day of year one being the first. -/
def number (date : Date) : Nat :=
  let years := date.year - 1
  years * 365 + years / 4 - years / 100 + years / 400 + daysBefore date.year (date.month - 1)
    + date.day

end Date

namespace Moment

/-- The millionths of a second up to a moment of universal time, if its clock is so far ahead. -/
def instant (moment : Moment) (offset : Int) : Int :=
  let minutes : Int := (moment.date.number * 1440 + moment.hour * 60 + moment.minute : Nat)
  ((minutes - offset) * 60 + moment.second) * 1000000 + moment.microsecond

/-- Whether two moments are the same. A moment of known distance from universal time is never the
same as one of unknown distance. -/
def same (first second : Moment) : Bool :=
  match first.offset, second.offset with
  | some offset, some offset' => first.instant offset == second.instant offset'
  | none, none => first == second
  | _, _ => false

/-- A moment is the same as itself. -/
theorem same_refl (moment : Moment) : same moment moment = true := by
  unfold same
  cases moment.offset <;> simp

end Moment

end PromptWeave
