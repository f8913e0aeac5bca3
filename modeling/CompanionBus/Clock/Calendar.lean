/-
  The Gregorian calendar, reckoned backwards and forwards without end, in universal time.

  1. **Program** — `Date.ofDayNumber` turns a count of days since 1 January 1970 into a date. It
     counts from 1 March of year 0 instead, so that a leap day is the last day of its year: a span
     of 400 years is cut into centuries, those into spans of four years, those into years. The last
     piece of each cut may be one day longer than the others, which is why two of the quotients are
     capped.

  2. **Specification** — `Date.dayNumber` counts the days the plain way: whole years before, whole
     months before, days before. `Date.Valid` says which dates the calendar has. The program is
     right when it gives a valid date whose day number is the one it was given.
-/
namespace CompanionBus

/-- A date of the calendar. -/
structure Date where
  year : Nat
  month : Nat
  day : Nat
  deriving DecidableEq, Repr

namespace Date

/-! ## The calendar -/

/-- Every fourth year is a leap year, but of the full centuries only every fourth. -/
def isLeap (year : Nat) : Bool := year % 4 = 0 ∧ (year % 100 ≠ 0 ∨ year % 400 = 0)

/-- How many days a month has; numbers that are no month have none. -/
def monthLength (year month : Nat) : Nat :=
  match month with
  | 1 | 3 | 5 | 7 | 8 | 10 | 12 => 31
  | 4 | 6 | 9 | 11 => 30
  | 2 => if isLeap year then 29 else 28
  | _ => 0

/-- The days of a year in front of a month. -/
def daysBeforeMonth (year : Nat) : Nat → Nat
  | 0 => 0
  | month + 1 => daysBeforeMonth year month + monthLength year month

/-- The days in front of a year, from the start of year 0 on. -/
def daysBeforeYear (year : Nat) : Nat :=
  365 * year + (year + 3) / 4 + (year + 399) / 400 - (year + 99) / 100

/-- Whether the calendar has a date. -/
def Valid (d : Date) : Prop := 1 ≤ d.day ∧ d.day ≤ monthLength d.year d.month

/-- The days from 1 January 1970 to a date that is not before it. -/
def dayNumber (d : Date) : Nat :=
  daysBeforeYear d.year + daysBeforeMonth d.year d.month + d.day - 1 - daysBeforeYear 1970

/-! ## From a day number to a date -/

/-- The days from 1 March of year 0 to 1 January 1970. -/
def marchOffset : Nat := 719468

/-- The date of a day of a year that begins with 1 March of `year`. -/
def ofMarchDay (year day : Nat) : Date :=
  let month := (5 * day + 2) / 153
  { year := if month < 10 then year else year + 1
    month := if month < 10 then month + 3 else month - 9
    day := day - (153 * month + 2) / 5 + 1 }

/-- The date that is `n` days after 1 January 1970. -/
def ofDayNumber (n : Nat) : Date :=
  let days := n + marchOffset
  let inCycle := days % 146097
  let century := min (inCycle / 36524) 3
  let inCentury := inCycle - 36524 * century
  let inFour := inCentury % 1461
  let year := min (inFour / 365) 3
  ofMarchDay (400 * (days / 146097) + 100 * century + 4 * (inCentury / 1461) + year)
    (inFour - 365 * year)

example : ofDayNumber 0 = ⟨1970, 1, 1⟩ := by decide
example : ofDayNumber 19782 = ⟨2024, 2, 29⟩ := by decide
example : ofDayNumber 47540 = ⟨2100, 2, 28⟩ := by decide
example : ofDayNumber 47541 = ⟨2100, 3, 1⟩ := by decide
example : (⟨2100, 3, 1⟩ : Date).dayNumber = 47541 := by decide

end Date

end CompanionBus
