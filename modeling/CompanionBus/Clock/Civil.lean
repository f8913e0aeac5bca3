import CompanionBus.Clock.Calendar
import CompanionBus.Text.Decimal
/-
  Dates with a time of day: how they go on, and how they are written after a pattern.

  1. **Going on** — `CivilTime.next` is the reading of a clock in universal time one second later: every
     minute has sixty seconds, every hour sixty minutes, every day twenty-four hours, and the months
     are as long as the calendar has them. There are no leap seconds.

  2. **Patterns** — a `Piece` of a pattern stands for one number of the civil time, or for itself.
     `Piece.code` is what the pattern shows of it, and `Piece.text` what is written in its place.
-/
namespace CompanionBus

namespace Date

/-- The day after. -/
def next (d : Date) : Date :=
  if d.day < monthLength d.year d.month then { d with day := d.day + 1 }
  else if d.month < 12 then { d with month := d.month + 1, day := 1 }
  else ⟨d.year + 1, 1, 1⟩

example : next ⟨2024, 2, 28⟩ = ⟨2024, 2, 29⟩ := by decide

end Date

/-- A date and a time of day. -/
structure CivilTime where
  date : Date
  hour : Nat
  minute : Nat
  second : Nat
  deriving DecidableEq, Repr

namespace CivilTime

/-- The start of 1970. -/
def epoch : CivilTime := ⟨⟨1970, 1, 1⟩, 0, 0, 0⟩

/-- One second later. -/
def next (c : CivilTime) : CivilTime :=
  if c.second < 59 then { c with second := c.second + 1 }
  else if c.minute < 59 then { c with minute := c.minute + 1, second := 0 }
  else if c.hour < 23 then { c with hour := c.hour + 1, minute := 0, second := 0 }
  else ⟨c.date.next, 0, 0, 0⟩

end CivilTime

/-! ## Patterns -/

/-- A piece of a pattern after which civil times are written. -/
inductive Piece where
  | year
  | month
  | day
  | hour
  | minute
  | second
  /-- A character that stands for itself. -/
  | mark (c : Char) (plain : c ≠ '%')

namespace Piece

/-- What a pattern shows of a piece. -/
def code : Piece → List Char
  | year => ['%', 'Y']
  | month => ['%', 'm']
  | day => ['%', 'd']
  | hour => ['%', 'H']
  | minute => ['%', 'M']
  | second => ['%', 'S']
  | mark c _ => [c]

/-- The number in `width` digits, with zeros in front. -/
def digits (width n : Nat) : List Char := (Decimal.padded width n).toList

/-- What is written for a piece: the year in four digits, or with a plus sign where four do not
    suffice; any other number in two. -/
def text (c : CivilTime) : Piece → List Char
  | year => (if c.date.year ≤ 9999 then [] else ['+']) ++ digits 4 c.date.year
  | month => digits 2 c.date.month
  | day => digits 2 c.date.day
  | hour => digits 2 c.hour
  | minute => digits 2 c.minute
  | second => digits 2 c.second
  | mark ch _ => [ch]

/-- The pattern that some pieces make. -/
def pattern (pieces : List Piece) : String := String.ofList (pieces.flatMap code)

/-- A civil time written after it. -/
def written (pieces : List Piece) (c : CivilTime) : String :=
  String.ofList (pieces.flatMap (text c))

example : written [.hour, .mark ':' (by decide), .minute] .epoch = "00:00" := by decide

end Piece

end CompanionBus
