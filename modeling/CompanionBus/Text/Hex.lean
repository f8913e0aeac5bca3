/-
  Hexadecimal text.

  Three spellings are in use: a byte dump in lower case (`Hex.dump`), a single byte as two upper
  case digits behind `0x` (`Hex.byte`), and a number of any size in upper case digits without
  leading zeros behind `0x` (`Hex.number`).
-/
namespace CompanionBus.Hex

/-! ## Digits -/

/-- The two lower case digits of a byte, high half first. -/
def digits (b : UInt8) : List Char :=
  [Nat.digitChar (b.toNat / 16), Nat.digitChar (b.toNat % 16)]

/-- A byte string as lower case digits, two a byte and nothing between them. -/
def dump (bs : List UInt8) : String :=
  String.ofList (bs.flatMap digits)

/-- A byte as `0x` and two upper case digits. -/
def byte (b : UInt8) : String :=
  "0x" ++ String.ofList ((digits b).map Char.toUpper)

/-- A number as `0x` and its upper case digits, none of them a leading zero. -/
def number (n : Nat) : String :=
  "0x" ++ String.ofList ((Nat.toDigits 16 n).map Char.toUpper)

/-! ## Spellings -/

example : dump [0x00, 0xc0, 0x7f] = "00c07f" := by decide
example : byte 0x0a = "0x0A" := by decide
example : number 0x1fe = "0x1FE" := by decide

end CompanionBus.Hex
