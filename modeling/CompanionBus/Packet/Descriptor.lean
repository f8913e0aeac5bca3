import CompanionBus.Error.Protocol
import CompanionBus.Packet.Field
/-
  Descriptors: the bytes of a frame that say which fields follow.

  1. **Program** — the low three bits of a descriptor pick a run of fields of equal width from a
     table of eight; the top bit says that another descriptor follows. `chain` describes any list of
     widths, always taking the longest run that fits; `readChain` reads such a chain off the front
     of a byte string.

  2. **Specification** — reading the chain of a list of widths gives that list back. Since entry 0
     describes nothing and a run can be split, many chains describe the same fields; `chain` gives
     one that no other is shorter than.
-/
namespace CompanionBus.Descriptor

/-! ## The table -/

/-- The run of fields behind the low three bits of a descriptor. -/
def run (descriptor : UInt8) : List Width :=
  match descriptor &&& 0x07 with
  | 1 => [.one]
  | 2 => [.one, .one]
  | 3 => [.one, .one, .one]
  | 4 => [.one, .one, .one, .one]
  | 5 => [.two]
  | 6 => [.two, .two]
  | 7 => [.four]
  | _ => []

/-- The width of each field of a run; a run of nothing has width 0. -/
def runWidth (descriptor : UInt8) : Nat :=
  match run descriptor with
  | [] => 0
  | w :: _ => w.bytes

/-- The bit that announces another descriptor. -/
def moreBit : UInt8 := 0x80

/-- The bits that have to be zero. -/
def reservedBits : UInt8 := 0x78

/-! ## Writing a chain -/

/-- The table entries for a list of widths: at each step the longest run that fits. -/
def codes : List Width → List UInt8
  | .one :: .one :: .one :: .one :: rest => 4 :: codes rest
  | .one :: .one :: .one :: rest => 3 :: codes rest
  | .one :: .one :: rest => 2 :: codes rest
  | .one :: rest => 1 :: codes rest
  | .two :: .two :: rest => 6 :: codes rest
  | .two :: rest => 5 :: codes rest
  | .four :: rest => 7 :: codes rest
  | [] => []

/-- Entries as a chain: all but the last announce another one, and a chain is never empty. -/
def link : List UInt8 → List UInt8
  | [] => [0]
  | [c] => [c]
  | c :: rest => (c ||| moreBit) :: link rest

/-- The descriptors for a list of widths. -/
def chain (widths : List Width) : List UInt8 := link (codes widths)

/-! ## Reading a chain -/

/-- The widths that the chain at the front of a byte string describes, and what follows the chain.
    `total` is the length of the whole frame, which ends where the bytes do. -/
def readChain (total : Nat) : List UInt8 → Except ProtocolError (List Width × List UInt8)
  | [] => .error (.packetTooShort (total + 1) total)
  | d :: rest =>
    if d &&& reservedBits ≠ 0 then .error (.invalidFrame (.reservedBits d))
    else if d &&& moreBit = 0 then .ok (run d, rest)
    else
      match readChain total rest with
      | .error e => .error e
      | .ok (widths, body) => .ok (run d ++ widths, body)

example : chain [.one, .one, .two, .four] = [0x82, 0x85, 0x07] := by decide
example : chain [.one, .one, .one, .one, .one] = [0x84, 0x01] := by decide
example : chain [] = [0] := by decide

end CompanionBus.Descriptor
