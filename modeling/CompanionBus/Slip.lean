import CompanionBus.Error.Protocol
/-
  Framing of a byte stream: SLIP.

  The link has no message boundaries, so a frame travels between two `END` bytes, and every `END` or
  `ESC` byte inside it is written as an `ESC` and a stand-in.

  1. **Program** — `encode` wraps a frame up; `decode` unwraps the first one of a byte string. It
     skips one `END` at the start and reads up to the next; what follows that is ignored.

  2. **Specification** — `decode (encode x ++ tail)` is `x` whatever the tail, since the inside of
     an encoded frame holds no `END`.

  3. **The crux** — `escape` is written byte by byte and `unescape` takes one or two bytes at a
     step, so each step of the one undoes a step of the other.
-/
namespace CompanionBus.Slip

/-! ## The four special bytes -/

/-- Stands before and after every frame. -/
def END : UInt8 := 0xC0

/-- Announces a stand-in. -/
def ESC : UInt8 := 0xDB

/-- Stands in for `END`. -/
def ESC_END : UInt8 := 0xDC

/-- Stands in for `ESC`. -/
def ESC_ESC : UInt8 := 0xDD

/-! ## Wrapping -/

/-- The longest that a frame of `length` bytes can get: every byte escaped, and the two ends. -/
def maxEncodedLength (length : Nat) : Nat := length * 2 + 2

/-- The same, reckoned in a machine word. Nothing looks after the carry, so for a length of
    `2 ^ 63 - 1` it starts over from 0. -/
def maxEncodedWord (length : UInt64) : UInt64 := length * 2 + 2

theorem toNat_maxEncodedWord (length : UInt64) :
    (maxEncodedWord length).toNat = maxEncodedLength length.toNat % UInt64.size := by
  rw [maxEncodedWord, maxEncodedLength, UInt64.toNat_add, UInt64.toNat_mul]
  exact Nat.mod_add_mod _ _ _

/-- The bytes of a frame, with stand-ins where needed. -/
def escape : List UInt8 → List UInt8
  | [] => []
  | b :: rest =>
    if b = END then ESC :: ESC_END :: escape rest
    else if b = ESC then ESC :: ESC_ESC :: escape rest
    else b :: escape rest

/-- A frame between its two ends. -/
def encode (frame : List UInt8) : List UInt8 := END :: (escape frame ++ [END])

/-! ## Unwrapping -/

/-- The bytes up to the first `END`, or up to the end of input, with what the stand-ins stand for. -/
def unescape : List UInt8 → Except ProtocolError (List UInt8)
  | [] => .ok []
  | b :: rest =>
    if b = END then .ok []
    else if b = ESC then
      match rest with
      | [] => .error .danglingEscape
      | target :: rest =>
        if target = ESC_END then (unescape rest).map (END :: ·)
        else if target = ESC_ESC then (unescape rest).map (ESC :: ·)
        else .error (.invalidEscape target)
    else (unescape rest).map (b :: ·)

/-- The first frame of a byte string; an `END` in front of it is skipped. -/
def decode : List UInt8 → Except ProtocolError (List UInt8)
  | [] => unescape []
  | b :: rest => if b = END then unescape rest else unescape (b :: rest)

example : encode [0x01, 0xC0, 0x02] = [0xC0, 0x01, 0xDB, 0xDC, 0x02, 0xC0] := by decide

end CompanionBus.Slip
