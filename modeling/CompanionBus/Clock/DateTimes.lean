import CompanionBus.Clock.Civil
/-
  Date-times: what the clock needs of a library for them.

  1. **Interface** — `DateTimes` are the three operations that the clock makes use of. How a library
     represents its date-times, how far they reach and how it writes them is its own matter.

  2. **What is relied on** — `DateTimes.Gregorian` says what a library promises of the date-times from the
     start of 1970 on. It names the last of them, but says nothing of any other: only where they
     begin, and that each is followed by the next (`CivilTime.next`).
-/
namespace CompanionBus

/-- A library of date-times `δ` in universal time. -/
structure DateTimes (δ : Type) where
  /-- The date-time so many seconds after the start of 1970, and so many nanoseconds more, if there is
      one. -/
  ofTimestamp? : Int64 → UInt32 → Option δ
  /-- The seconds from the start of 1970 to a date-time, without its fraction. -/
  timestamp : δ → Int64
  /-- A date-time written after a pattern. -/
  format : δ → String → String

namespace DateTimes

/-- The last second of the last day that date-times reach, the last of the year 262142. -/
def lastInstant : Nat := 8210266876799

variable {δ : Type}

/-- `lib.Gregorian civil` — the date-times of the library are Gregorian, in universal time and without
    leap seconds; `civil` are the date and time of day of each. All this is said of the whole seconds
    from the start of 1970 on. -/
structure Gregorian (lib : DateTimes δ) (civil : δ → CivilTime) : Prop where
  /-- They reach to the last instant, without a gap. -/
  reach : ∀ s : Int64, 0 ≤ s → ((lib.ofTimestamp? s 0).isSome ↔ s.toInt ≤ lastInstant)
  /-- A date-time knows its seconds. -/
  timestamp : ∀ {s d}, 0 ≤ s → lib.ofTimestamp? s 0 = some d → lib.timestamp d = s
  /-- The first one. -/
  epoch : ∀ {d}, lib.ofTimestamp? 0 0 = some d → civil d = .epoch
  /-- Each second is followed by the next. -/
  tick : ∀ {s d d'}, 0 ≤ s → lib.ofTimestamp? s 0 = some d → lib.ofTimestamp? (s + 1) 0 = some d' →
    civil d' = (civil d).next
  /-- Patterns are written out piece by piece. -/
  format : ∀ {s d}, 0 ≤ s → lib.ofTimestamp? s 0 = some d → ∀ pieces,
    lib.format d (Piece.pattern pieces) = Piece.written pieces (civil d)

end DateTimes

end CompanionBus
