import CompanionBus.Clock.Time
/-
  A library of date-times that reckons with timestamps.

  A date-time is a number of seconds from the start of 1970 and a fraction in nanoseconds. Its date is
  found only when it is written, by `Date.ofDayNumber`; it is written from 1970 on, and without regard
  to its fraction.
-/
namespace CompanionBus

/-- The civil time that so many seconds are in front of, from the start of 1970 on. -/
def CivilTime.ofSeconds (n : Nat) : CivilTime where
  date := Date.ofDayNumber (n / 86400)
  hour := n % 86400 / 3600
  minute := n % 86400 / 60 % 60
  second := n % 86400 % 60

/-- A count of seconds from the start of 1970, and a fraction in nanoseconds. -/
structure Timestamp where
  seconds : Int64
  nanos : UInt32
  deriving DecidableEq, Repr

namespace Timestamp

/-- The first second of the first day, the first of the year -262143. -/
def firstInstant : Int := -8334601228800

/-- Whether there is such a date-time. The fraction runs on into a second second only during the last
    second of a minute, where a leap second may stand. -/
def isInstant (t : Timestamp) : Bool :=
  firstInstant ≤ t.seconds.toInt ∧ t.seconds.toInt ≤ DateTimes.lastInstant ∧
    (t.nanos < 1000000000 ∨ (t.nanos < 2000000000 ∧ t.seconds.toInt % 60 = 59))

/-- Date and time of day. -/
def civil (t : Timestamp) : CivilTime := .ofSeconds t.seconds.toNatClampNeg

end Timestamp

/-- The piece that a letter of a pattern stands for. -/
def Piece.ofLetter? : Char → Option Piece
  | 'Y' => some .year
  | 'm' => some .month
  | 'd' => some .day
  | 'H' => some .hour
  | 'M' => some .minute
  | 'S' => some .second
  | _ => none

/-- A pattern written out. A letter that stands for no piece is left as it is. -/
def CivilTime.fill (c : CivilTime) : List Char → List Char
  | [] => []
  | '%' :: letter :: rest =>
    match Piece.ofLetter? letter with
    | some piece => piece.text c ++ c.fill rest
    | none => '%' :: letter :: c.fill rest
  | ch :: rest => ch :: c.fill rest

/-- The library. -/
def DateTimes.proleptic : DateTimes Timestamp where
  ofTimestamp? seconds nanos :=
    let t : Timestamp := { seconds, nanos }
    if t.isInstant then some t else none
  timestamp := Timestamp.seconds
  format t pattern := String.ofList (t.civil.fill pattern.toList)

namespace ClockTime

example : render .proleptic ⟨1704067200⟩ = "2024-01-01T00:00:00Z" := by decide
example : render .proleptic ⟨253402300800⟩ = "+10000-01-01T00:00:00Z" := by decide
example : render .proleptic ⟨8210266876799⟩ = "+262142-12-31T23:59:59Z" := by decide
example : render .proleptic ⟨8210266876800⟩ = "@8210266876800" := by decide

end ClockTime

end CompanionBus
