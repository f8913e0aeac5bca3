/-
  Text as UTF-8, and where a byte string stops being text.

  1. **Program** — `encode` gives the bytes of a text; `decode` gives the text of a byte string, or
     the first fault in it. Whether there is a text at all is settled by `String.fromUTF8?`; the
     scan below only locates the fault, for the wording of the error.

  2. **Specification** — `decode_eq_ok_iff`: the bytes read as `s` exactly when they are the bytes
     of `s`, so a text has one written form.

  3. **The scan** — one state per character begun: where it began, how many of its bytes have been
     taken, how many are owed, and the range that the next one must lie in. The range is narrower
     than `80–BF` only for the second byte, after the leads `E0`, `ED`, `F0` and `F4`: that rules out
     overlong forms, surrogates and values above `10FFFF`.
-/
namespace CompanionBus.Utf8

/-! ## Faults -/

/-- The first place where a byte string is not UTF-8. -/
inductive Fault where
  /-- From `index` on, `length` bytes begin a character that the next byte cannot go on with. -/
  | broken (index length : Nat)
  /-- The character that begins at `index` is cut off by the end. -/
  | cutOff (index : Nat)
  deriving DecidableEq, Repr

/-- The wording of a fault. -/
def Fault.message : Fault → String
  | .broken index length =>
    s!"invalid utf-8 sequence of {length} bytes from index {index}"
  | .cutOff index => s!"incomplete utf-8 byte sequence from index {index}"

/-! ## The scan for the first fault -/

/-- What a first byte promises: how many bytes follow it, and the range of the next one. -/
def lead (b : UInt8) : Option (Nat × UInt8 × UInt8) :=
  if b < 0x80 then some (0, 0x80, 0xBF)
  else if b < 0xC2 then none
  else if b < 0xE0 then some (1, 0x80, 0xBF)
  else if b = 0xE0 then some (2, 0xA0, 0xBF)
  else if b = 0xED then some (2, 0x80, 0x9F)
  else if b < 0xF0 then some (2, 0x80, 0xBF)
  else if b = 0xF0 then some (3, 0x90, 0xBF)
  else if b < 0xF4 then some (3, 0x80, 0xBF)
  else if b = 0xF4 then some (3, 0x80, 0x8F)
  else none

/-- Where the scan stands: the character begun at `index` has `taken` bytes and is owed `owed`
    more, the next of them between `low` and `high`. -/
structure Scan where
  index : Nat := 0
  taken : Nat := 0
  owed : Nat := 0
  low : UInt8 := 0x80
  high : UInt8 := 0xBF

/-- The first fault from a state of the scan on. A byte string that is text has none; its scan ends
    between two characters. -/
def firstFault : Scan → List UInt8 → Option Fault
  | q, [] => if q.owed = 0 then none else some (.cutOff q.index)
  | q, b :: rest =>
    match q.owed with
    | 0 =>
      match lead b with
      | none => some (.broken (q.index + q.taken) 1)
      | some (owed, low, high) => firstFault ⟨q.index + q.taken, 1, owed, low, high⟩ rest
    | owed + 1 =>
      if q.low ≤ b ∧ b ≤ q.high then firstFault ⟨q.index, q.taken + 1, owed, 0x80, 0xBF⟩ rest
      else some (.broken q.index q.taken)

/-! ## Text and bytes -/

/-- The bytes of a text. -/
def encode (s : String) : List UInt8 := s.toByteArray.data.toList

/-- The text that a byte string writes, or its first fault. -/
def decode (bs : List UInt8) : Except Fault String :=
  match String.fromUTF8? bs.toByteArray with
  | some s => .ok s
  | none => .error ((firstFault {} bs).getD (.cutOff bs.length))

/-- The text that a byte string writes, if it writes one. -/
def text? (bs : List UInt8) : Option String := (decode bs).toOption

theorem toByteArray_encode (s : String) : (encode s).toByteArray = s.toByteArray := by
  apply ByteArray.ext
  simp [encode]

/-- The bytes read as `s` exactly when they are the bytes of `s`. -/
theorem decode_eq_ok_iff {bs : List UInt8} {s : String} : decode bs = .ok s ↔ bs = encode s := by
  unfold decode String.fromUTF8?
  constructor
  · intro h
    split at h
    · next t ht =>
      split at ht
      · obtain rfl := Option.some.inj ht
        obtain rfl := Except.ok.inj h
        simp [encode, String.fromUTF8]
      · cases ht
    · cases h
  · rintro rfl
    have hv : (encode s).toByteArray.IsValidUTF8 := by
      rw [toByteArray_encode]; exact s.isValidUTF8
    rw [dif_pos hv]
    simp only [Except.ok.injEq]
    apply String.toByteArray_inj.mp
    simp [String.fromUTF8, toByteArray_encode]

theorem decode_encode (s : String) : decode (encode s) = .ok s := decode_eq_ok_iff.mpr rfl

end CompanionBus.Utf8
