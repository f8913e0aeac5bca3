/-
  The checksum of a frame: a sum of bytes with the carry folded back in.

  1. **Program** — `sum` adds the bytes up in a 16-bit accumulator and folds the part above the low
     byte back in after every addition. `frameSum` is the sum of a frame in which the byte at the
     checksum's own place counts as zero; it sums the two sides of that place apart and adds the two
     results as if they were two more bytes. `verify` compares that with the byte that is there.

  2. **Specification** — addition with end-around carry is addition modulo 255, except that a sum
     which is not empty of content never shows as 0 but as 255. So it does not matter how a byte
     string is cut before it is summed.
-/
namespace CompanionBus.Checksum

/-- The place of the checksum in a frame. -/
def position : Nat := 4

/-! ## The sum -/

/-- Adds one byte and folds the carry back in. -/
def add (acc : UInt16) (b : UInt8) : UInt16 :=
  let s := acc + b.toUInt16
  (s >>> 8) + (s &&& 0xFF)

/-- The carry-folding sum of a byte string. -/
def sum (bs : List UInt8) : UInt8 := (bs.foldl add 0).toUInt8

/-! ## The checksum of a frame -/

/-- The sum of a frame without its checksum byte. A byte string too short to have one is summed as
    it is. -/
def frameSum (frame : List UInt8) : UInt8 :=
  if frame.length ≤ position then sum frame
  else sum [sum (frame.take position), sum (frame.drop (position + 1))]

/-- Whether a frame carries its own checksum. -/
def verify (frame : List UInt8) : Bool :=
  match frame[position]? with
  | some stored => frameSum frame == stored
  | none => false

example : sum [0xFF, 0x02] = 0x02 := by decide
example : sum [0x80, 0x80, 0x80, 0x80] = 0x02 := by decide
example : verify [0x45, 0x01, 0x06, 0x00, 0x4C, 0x00] = true := by decide

end CompanionBus.Checksum
