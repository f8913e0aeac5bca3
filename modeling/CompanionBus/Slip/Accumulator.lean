import CompanionBus.Slip
/-
  Frames out of a stream that arrives in pieces.

  1. **Program** — an `Accumulator` keeps the bytes of the frame that has begun. `push` takes one
     more piece and returns the frame, still wrapped, as soon as its closing `END` is in.

  2. **The rules** — bytes before the first `END` are noise. `END`s in a row count as one, since an
     empty frame says nothing; so a frame is complete when an `END` follows at least one other
     byte. What comes after that `END` in the same piece is dropped: only one answer can be under
     way. A frame that would leave no room for its closing `END` is refused, and the bytes so far
     stay where they are.

  3. **Range** — lengths of byte strings are plain numbers, since no byte string in memory is longer
     than `2 ^ 63 - 1`. Only the limit is reckoned from a number that need not be such a length, and
     so it is reckoned in machine words.
-/
namespace CompanionBus

/-- The bytes collected of a frame, the opening `END` first, and how long they may get. -/
structure Accumulator where
  limit : Nat
  buffer : List UInt8 := []
  deriving DecidableEq, Repr

namespace Accumulator

/-- An accumulator for frames of up to `maxFrame` bytes, counted before wrapping. The number is a
    machine word, and so is the limit that is reckoned from it: where the longest wrapped frame does
    not fit a word, the accumulator is one for shorter frames. That there is memory for as many bytes
    as the limit says is taken for granted. -/
def ofMaxFrame (maxFrame : Nat) : Accumulator :=
  { limit := (Slip.maxEncodedWord (UInt64.ofNat maxFrame)).toNat }

theorem limit_ofMaxFrame_eq (maxFrame : Nat) :
    (ofMaxFrame maxFrame).limit = Slip.maxEncodedLength maxFrame % UInt64.size := by
  calc (Slip.maxEncodedWord (UInt64.ofNat maxFrame)).toNat
      = (maxFrame % UInt64.size * 2 + 2) % UInt64.size := by
        rw [Slip.toNat_maxEncodedWord, UInt64.toNat_ofNat', Slip.maxEncodedLength]
    _ = (maxFrame * 2 + 2) % UInt64.size := by
        rw [← Nat.mod_add_mod, Nat.mod_mul_mod, Nat.mod_add_mod]

/-- `Fits maxFrame` — the longest wrapped frame fits a machine word. -/
def Fits (maxFrame : Nat) : Prop := Slip.maxEncodedLength maxFrame < UInt64.size

instance (maxFrame : Nat) : Decidable (Fits maxFrame) :=
  inferInstanceAs (Decidable (_ < _))

theorem limit_ofMaxFrame {maxFrame : Nat} (h : Fits maxFrame) :
    (ofMaxFrame maxFrame).limit = 2 * maxFrame + 2 := by
  rw [limit_ofMaxFrame_eq, Nat.mod_eq_of_lt h, Slip.maxEncodedLength, Nat.mul_comm]

/-- The limit is never too large. -/
theorem limit_ofMaxFrame_le (maxFrame : Nat) : (ofMaxFrame maxFrame).limit ≤ 2 * maxFrame + 2 := by
  rw [limit_ofMaxFrame_eq, Nat.mul_comm 2]
  exact Nat.mod_le _ _

/-- How many bytes of an incomplete frame are there. -/
def pending (a : Accumulator) : Nat := a.buffer.length

/-- Forgets the frame that has begun. -/
def clear (a : Accumulator) : Accumulator := { a with buffer := [] }

/-- Takes one more piece of the stream: the frame that it completes, if it completes one, and what
    is kept. -/
def push (a : Accumulator) : List UInt8 → Except ProtocolError (Option (List UInt8)) × Accumulator
  | [] => (.ok none, a)
  | b :: rest =>
    if a.buffer = [] then
      if b = Slip.END then push { a with buffer := [Slip.END] } rest else push a rest
    else if b = Slip.END then
      if a.buffer.length = 1 then push a rest
      else (.ok (some (a.buffer ++ [Slip.END])), a.clear)
    else if a.limit ≤ a.buffer.length + 1 then
      (.error (.frameTooLarge (a.buffer.length + 1) a.limit), a)
    else push { a with buffer := a.buffer ++ [b] } rest

example : (push (ofMaxFrame 8) [0x55, 0xC0, 0xC0, 7, 0xC0, 9]).1 = .ok (some [0xC0, 7, 0xC0]) :=
  rfl

end Accumulator

end CompanionBus
