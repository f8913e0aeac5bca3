import CompanionBus.Clock.DateTimes
/-
  Times of the device clock: seconds since the start of 1970, as a 64-bit number.

  `ClockTime.render` writes a time as a date and a time of day in universal time, as long as the
  library of date-times in use has such an instant, and as a bare count of seconds beyond.
  `ClockTime.toInstant?` and `ClockTime.ofInstant?` go to its date-times and back.

  A time has no sign and the seconds of a date-time have one, so either way there is a check whether
  the number can be had in the other form.
-/
namespace CompanionBus

/-- A time of the device clock. -/
structure ClockTime where
  seconds : UInt64
  deriving DecidableEq, Repr

namespace ClockTime

/-- A number without a sign as one with a sign, if it is not too large for that. -/
def signed? (n : UInt64) : Option Int64 :=
  if n ≤ Int64.maxValue.toUInt64 then some (Int64.ofNat n.toNat) else none

/-- A number with a sign as one without, if it is not negative. -/
def unsigned? (n : Int64) : Option UInt64 := if 0 ≤ n then some n.toUInt64 else none

variable {δ : Type}

/-- The date-time of a clock time, if there is one. -/
def toInstant? (lib : DateTimes δ) (t : ClockTime) : Option δ :=
  match signed? t.seconds with
  | some seconds => lib.ofTimestamp? seconds 0
  | none => none

/-- The clock time of a date-time, without its fraction. There is none before 1970. -/
def ofInstant? (lib : DateTimes δ) (d : δ) : Option ClockTime :=
  match unsigned? (lib.timestamp d) with
  | some seconds => some ⟨seconds⟩
  | none => none

/-- The pattern after which a clock time is written. -/
def pattern : String := "%Y-%m-%dT%H:%M:%SZ"

/-- A clock time as a date and time of day, or as `@` and the seconds where there is no such
    date-time. -/
def render (lib : DateTimes δ) (t : ClockTime) : String :=
  match t.toInstant? lib with
  | some d => lib.format d pattern
  | none => "@" ++ toString t.seconds.toNat

end ClockTime

end CompanionBus
