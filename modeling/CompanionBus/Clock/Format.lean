/-
  The layouts in which the device can render its time.

  Every layout has a fixed size; three of them are text, the others are binary fields.
-/
namespace CompanionBus

/-- A layout of a rendered time. -/
inductive TimeFormat where
  /-- Century, year, month, day, hour, minute, second, a byte each. -/
  | simple
  /-- Two words, date and time, in packed bit fields. -/
  | proDos
  /-- Day, month, year, hour, minute, second, a byte each. -/
  | apeTime
  /-- `YYYY-MM-DDTHH:MM:SS+HHMM` in a timezone. -/
  | tzIso
  /-- `YYYY-MM-DDTHH:MM:SS+0000`. -/
  | utcIso
  /-- `YYYYMMDD0HHMMSS000`. -/
  | apple3Sos
  deriving DecidableEq, Repr

namespace TimeFormat

/-- The byte on the wire. -/
def code : TimeFormat → UInt8
  | .simple => 0
  | .proDos => 1
  | .apeTime => 2
  | .tzIso => 3
  | .utcIso => 4
  | .apple3Sos => 5

/-- The layout that a byte stands for. -/
def ofCode? (code : UInt8) : Option TimeFormat :=
  match code with
  | 0 => some .simple
  | 1 => some .proDos
  | 2 => some .apeTime
  | 3 => some .tzIso
  | 4 => some .utcIso
  | 5 => some .apple3Sos
  | _ => none

theorem ofCode?_eq_some_iff {b : UInt8} {f : TimeFormat} : ofCode? b = some f ↔ b = f.code := by
  constructor
  · unfold ofCode?
    split <;> intro h <;> cases h <;> rfl
  · rintro rfl
    cases f <;> rfl

/-- The size of a rendered time in bytes. -/
def dataLength : TimeFormat → Nat
  | .simple => 7
  | .proDos => 4
  | .apeTime => 6
  | .tzIso | .utcIso => 24
  | .apple3Sos => 16

/-- Whether a rendered time is text. -/
def isText : TimeFormat → Bool
  | .tzIso | .utcIso | .apple3Sos => true
  | .simple | .proDos | .apeTime => false

/-- The title of a layout. -/
def title : TimeFormat → String
  | .simple => "Simple"
  | .proDos => "ProDos"
  | .apeTime => "ApeTime"
  | .tzIso => "TzIso"
  | .utcIso => "UtcIso"
  | .apple3Sos => "Apple3Sos"

end TimeFormat

end CompanionBus
