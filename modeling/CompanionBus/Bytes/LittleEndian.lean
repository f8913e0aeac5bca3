/-
  Numbers as bytes, lowest byte first.

  Every number on the wire (lengths, handles, offsets, times) is written this way, whatever its
  width, so one pair of functions serves all widths.

  1. **Program** — `encode w n` writes the `w` low bytes of `n`; `decode` reads a byte string of any
     length as one number; `numberAt` reads the `w` bytes at a position that lies in bounds.

  2. **Specification** — the two are inverse: `decode_encode` (numbers that fit their width come
     back) and `encode_decode` (every byte string is the encoding of what it reads as, at its own
     length).

  3. **The crux** — both go by recursion on the width, one base-256 digit at a step.
-/
namespace CompanionBus.LittleEndian

/-! ## Writing and reading -/

/-- The `w` low bytes of `n`, lowest first; what lies above them is dropped. -/
def encode : Nat → Nat → List UInt8
  | 0, _ => []
  | w + 1, n => UInt8.ofNat n :: encode w (n / 256)

/-- The number that a byte string writes, lowest byte first. -/
def decode : List UInt8 → Nat
  | [] => 0
  | b :: rest => b.toNat + 256 * decode rest

/-- How many numbers can be written in `w` bytes. -/
def span : Nat → Nat
  | 0 => 1
  | w + 1 => 256 * span w

/-! ## The two are inverse -/

@[simp] theorem length_encode (w n : Nat) : (encode w n).length = w := by
  induction w generalizing n with
  | zero => rfl
  | succ w ih => simp [encode, ih]

theorem decode_lt (bs : List UInt8) : decode bs < span bs.length := by
  induction bs with
  | nil => decide
  | cons b rest ih =>
    have hb := b.toNat_lt
    simp only [decode, List.length_cons, span]
    omega

/-- Reading what was written gives the part of the number that fits. -/
theorem decode_encode_mod (w n : Nat) : decode (encode w n) = n % span w := by
  induction w generalizing n with
  | zero => simp [encode, decode, span, Nat.mod_one]
  | succ w ih =>
    have hb : (UInt8.ofNat n).toNat = n % 256 := by simp
    rw [encode, decode, ih, hb, span, Nat.mod_mul]

/-- A number that fits its width comes back. -/
theorem decode_encode {w n : Nat} (h : n < span w) : decode (encode w n) = n := by
  rw [decode_encode_mod, Nat.mod_eq_of_lt h]

/-- Every byte string is the encoding of what it reads as. -/
theorem encode_decode (bs : List UInt8) : encode bs.length (decode bs) = bs := by
  induction bs with
  | nil => rfl
  | cons b rest ih =>
    have hb := b.toNat_lt
    have hdiv : (b.toNat + 256 * decode rest) / 256 = decode rest := by omega
    have hlow : UInt8.ofNat (b.toNat + 256 * decode rest) = b := by
      apply UInt8.toNat_inj.mp
      simp only [UInt8.toNat_ofNat']
      omega
    simp only [List.length_cons, decode, encode, hdiv, ih, hlow]

/-! ## Reading at a position -/

/-- The number in the `w` bytes from position `i` on, all of which are there. -/
def numberAt (bs : List UInt8) (i w : Nat) (_ : i + w ≤ bs.length) : Nat :=
  decode ((bs.drop i).take w)

/-- The 16-bit number at position `i`. -/
def word16At (bs : List UInt8) (i : Nat) (h : i + 2 ≤ bs.length) : UInt16 :=
  UInt16.ofNat (numberAt bs i 2 h)

/-- The 32-bit number at position `i`. -/
def word32At (bs : List UInt8) (i : Nat) (h : i + 4 ≤ bs.length) : UInt32 :=
  UInt32.ofNat (numberAt bs i 4 h)

/-- The 64-bit number at position `i`. -/
def word64At (bs : List UInt8) (i : Nat) (h : i + 8 ≤ bs.length) : UInt64 :=
  UInt64.ofNat (numberAt bs i 8 h)

variable {bs rest : List UInt8} {w : Nat}

/-- A number that fits its width is read where it has been written. -/
theorem numberAt_of_drop {i n : Nat} (hn : n < span w) (hdrop : bs.drop i = encode w n ++ rest)
    (h : i + w ≤ bs.length) : numberAt bs i w h = n := by
  rw [numberAt, hdrop, List.take_left' (length_encode w n), decode_encode hn]

theorem word16At_of_drop (i : Nat) (n : UInt16) (hdrop : bs.drop i = encode 2 n.toNat ++ rest)
    (h : i + 2 ≤ bs.length) : word16At bs i h = n := by
  rw [word16At, numberAt_of_drop n.toNat_lt hdrop, UInt16.ofNat_toNat]

theorem word32At_of_drop (i : Nat) (n : UInt32) (hdrop : bs.drop i = encode 4 n.toNat ++ rest)
    (h : i + 4 ≤ bs.length) : word32At bs i h = n := by
  rw [word32At, numberAt_of_drop n.toNat_lt hdrop, UInt32.ofNat_toNat]

theorem word64At_of_drop (i : Nat) (n : UInt64) (hdrop : bs.drop i = encode 8 n.toNat ++ rest)
    (h : i + 8 ≤ bs.length) : word64At bs i h = n := by
  rw [word64At, numberAt_of_drop n.toNat_lt hdrop, UInt64.ofNat_toNat]

/-- What follows makes no difference to the bytes at a position. -/
theorem take_drop_append {i : Nat} (h : i + w ≤ bs.length) :
    ((bs ++ rest).drop i).take w = (bs.drop i).take w := by
  rw [List.drop_append_of_le_length (by omega),
    List.take_append_of_le_length (by rw [List.length_drop]; omega)]

theorem numberAt_append {i : Nat} (h : i + w ≤ bs.length) (h' : i + w ≤ (bs ++ rest).length) :
    numberAt (bs ++ rest) i w h' = numberAt bs i w h := by
  rw [numberAt, numberAt, take_drop_append h]

theorem word16At_append {i : Nat} (h : i + 2 ≤ bs.length) (h' : i + 2 ≤ (bs ++ rest).length) :
    word16At (bs ++ rest) i h' = word16At bs i h := by
  rw [word16At, word16At, numberAt_append h]

theorem word32At_append {i : Nat} (h : i + 4 ≤ bs.length) (h' : i + 4 ≤ (bs ++ rest).length) :
    word32At (bs ++ rest) i h' = word32At bs i h := by
  rw [word32At, word32At, numberAt_append h]

theorem word64At_append {i : Nat} (h : i + 8 ≤ bs.length) (h' : i + 8 ≤ (bs ++ rest).length) :
    word64At (bs ++ rest) i h' = word64At bs i h := by
  rw [word64At, word64At, numberAt_append h]

/-- A byte string that is long enough begins with a number of a given width. -/
theorem exists_encode_append (h : w ≤ bs.length) :
    ∃ n rest, n < span w ∧ bs = encode w n ++ rest := by
  have hlen : (bs.take w).length = w := List.length_take_of_le h
  have hlt := decode_lt (bs.take w)
  have hfront := encode_decode (bs.take w)
  rw [hlen] at hlt hfront
  exact ⟨decode (bs.take w), bs.drop w, hlt, by rw [hfront, List.take_append_drop]⟩

theorem exists_word16_append (h : 2 ≤ bs.length) :
    ∃ (n : UInt16) (rest : List UInt8), bs = encode 2 n.toNat ++ rest := by
  obtain ⟨n, rest, hn, rfl⟩ := exists_encode_append h
  exact ⟨UInt16.ofNat n, rest, by rw [UInt16.toNat_ofNat_of_lt' hn]⟩

theorem exists_word32_append (h : 4 ≤ bs.length) :
    ∃ (n : UInt32) (rest : List UInt8), bs = encode 4 n.toNat ++ rest := by
  obtain ⟨n, rest, hn, rfl⟩ := exists_encode_append h
  exact ⟨UInt32.ofNat n, rest, by rw [UInt32.toNat_ofNat_of_lt' hn]⟩

theorem exists_word64_append (h : 8 ≤ bs.length) :
    ∃ (n : UInt64) (rest : List UInt8), bs = encode 8 n.toNat ++ rest := by
  obtain ⟨n, rest, hn, rfl⟩ := exists_encode_append h
  exact ⟨UInt64.ofNat n, rest, by rw [UInt64.toNat_ofNat_of_lt' hn]⟩

end CompanionBus.LittleEndian
