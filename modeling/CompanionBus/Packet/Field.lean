import CompanionBus.Bytes.LittleEndian
/-
  Fields: small numbers of one, two or four bytes that stand between the header and the payload.
-/
namespace CompanionBus

/-- How many bytes a field takes. -/
inductive Width where
  | one
  | two
  | four
  deriving DecidableEq, Repr

/-- The number of bytes. -/
def Width.bytes : Width → Nat
  | .one => 1
  | .two => 2
  | .four => 4

/-- A field, a number of one of the three widths. -/
inductive Field where
  | byte (value : UInt8)
  | half (value : UInt16)
  | word (value : UInt32)
  deriving DecidableEq, Repr

namespace Field

/-- The width of a field. -/
def width : Field → Width
  | .byte _ => .one
  | .half _ => .two
  | .word _ => .four

/-- The number in a field. -/
def value : Field → UInt32
  | .byte v => v.toUInt32
  | .half v => v.toUInt32
  | .word v => v

/-- The field of a width that holds the low part of a number. -/
def ofNat : Width → Nat → Field
  | .one, n => .byte (UInt8.ofNat n)
  | .two, n => .half (UInt16.ofNat n)
  | .four, n => .word (UInt32.ofNat n)

/-- The bytes of a field. -/
def toBytes (f : Field) : List UInt8 := LittleEndian.encode f.width.bytes f.value.toNat

/-- The text of a field: its width in bits, and its number. -/
def render : Field → String
  | .byte v => s!"U8({v.toNat})"
  | .half v => s!"U16({v.toNat})"
  | .word v => s!"U32({v.toNat})"

/-! ## Laws -/

@[simp] theorem width_ofNat (w : Width) (n : Nat) : (ofNat w n).width = w := by cases w <;> rfl

@[simp] theorem length_toBytes (f : Field) : f.toBytes.length = f.width.bytes := by simp [toBytes]

/-- A field is read back from its bytes. -/
theorem ofNat_decode_toBytes (f : Field) :
    ofNat f.width (LittleEndian.decode f.toBytes) = f := by
  cases f with
  | byte v =>
    have h := v.toNat_lt
    simp [toBytes, width, value, Width.bytes, ofNat, LittleEndian.decode_encode_mod,
      LittleEndian.span]
  | half v =>
    have h := v.toNat_lt
    simp [toBytes, width, value, Width.bytes, ofNat, LittleEndian.decode_encode_mod,
      LittleEndian.span]
  | word v =>
    have h := v.toNat_lt
    simp [toBytes, width, value, Width.bytes, ofNat, LittleEndian.decode_encode_mod,
      LittleEndian.span]

/-- Every byte string of the right length is the bytes of the field it reads as. -/
theorem toBytes_ofNat_decode {w : Width} {bs : List UInt8} (h : bs.length = w.bytes) :
    (ofNat w (LittleEndian.decode bs)).toBytes = bs := by
  have hlt := LittleEndian.decode_lt bs
  rw [h] at hlt
  have hval : (ofNat w (LittleEndian.decode bs)).value.toNat = LittleEndian.decode bs := by
    cases w <;> simp [Width.bytes, LittleEndian.span] at hlt <;> simp [ofNat, value] <;> omega
  rw [toBytes, hval, width_ofNat, ← h, LittleEndian.encode_decode]

end Field

end CompanionBus
