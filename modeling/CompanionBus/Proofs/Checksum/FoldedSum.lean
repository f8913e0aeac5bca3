import CompanionBus.Checksum
import Mathlib.Algebra.Ring.Nat
/-
  What the checksum of a frame comes to.

  1. **Program** — `Checksum.sum` folds the carry back in after every byte, and `frameSum` sums the
     two sides of the checksum's own place apart.

  2. **Specification** — only the plain sum of the bytes matters (`toNat_sum`): folding takes it
     modulo 255, with 255 in the place of 0 unless every byte is 0. So the checksum of a frame is the
     sum of the whole frame with a 0 at the checksum's own place (`frameSum_eq`).

  3. **The crux (`foldl_add`)** — the accumulator is below 256 after every byte, so the next addition
     carries at most once, and `fold` may be put off to the end (`fold_fold_add`). The accumulator has
     16 bits, and no addition leaves them (`addsExactly_of_lt`).
-/
namespace CompanionBus.Checksum

/-! ## Folding a number at once -/

/-- The sum of a byte string with no carry folded in. -/
def total (bs : List UInt8) : Nat := (bs.map UInt8.toNat).sum

/-- A number with its carries folded into one byte: 0 only for 0, and else from 1 to 255. -/
def fold (n : Nat) : Nat := if n = 0 then 0 else 1 + (n - 1) % 255

theorem fold_of_lt {n : Nat} (h : n < 256) : fold n = n := by
  unfold fold
  split <;> omega

theorem fold_lt (n : Nat) : fold n < 256 := by
  unfold fold
  split <;> omega

/-- Folding a part of a sum first makes no difference. -/
theorem fold_fold_add (m n : Nat) : fold (fold m + n) = fold (m + n) := by
  unfold fold
  split <;> split <;> split <;> omega

theorem fold_add_fold (m n : Nat) : fold (m + fold n) = fold (m + n) := by
  rw [Nat.add_comm, fold_fold_add, Nat.add_comm]

/-! ## The sum of a byte string -/

@[simp] theorem total_nil : total [] = 0 := rfl

@[simp] theorem total_cons (b : UInt8) (bs : List UInt8) :
    total (b :: bs) = b.toNat + total bs := by
  simp [total]

@[simp] theorem total_append (bs cs : List UInt8) : total (bs ++ cs) = total bs + total cs := by
  simp [total]

theorem total_eq_zero_iff {bs : List UInt8} : total bs = 0 ↔ ∀ b ∈ bs, b = 0 := by
  induction bs with
  | nil => simp
  | cons b bs ih =>
    rw [total_cons, Nat.add_eq_zero_iff, ih, List.forall_mem_cons, ← UInt8.toNat_inj]
    rfl

/-- The sum of the accumulator and a byte, before the carry is folded in. -/
theorem toNat_acc_add {acc : UInt16} (hacc : acc.toNat < 256) (b : UInt8) :
    (acc + b.toUInt16).toNat = acc.toNat + b.toNat := by
  have hb := b.toNat_lt
  rw [UInt16.toNat_add, UInt8.toNat_toUInt16]
  omega

/-- One byte more, with the carry folded in. -/
theorem toNat_add {acc : UInt16} (hacc : acc.toNat < 256) (b : UInt8) :
    (add acc b).toNat = fold (acc.toNat + b.toNat) := by
  have hb := b.toNat_lt
  have hs := toNat_acc_add hacc b
  have hhigh : ((acc + b.toUInt16) >>> 8).toNat = (acc.toNat + b.toNat) / 256 := by
    rw [UInt16.toNat_shiftRight, hs, Nat.shiftRight_eq_div_pow]
    rfl
  have hlow : ((acc + b.toUInt16) &&& 0xFF).toNat = (acc.toNat + b.toNat) % 256 := by
    rw [UInt16.toNat_and, hs]
    exact Nat.and_two_pow_sub_one_eq_mod _ 8
  have hsum : (add acc b).toNat
      = (acc.toNat + b.toNat) / 256 + (acc.toNat + b.toNat) % 256 := by
    show (((acc + b.toUInt16) >>> 8) + ((acc + b.toUInt16) &&& 0xFF)).toNat = _
    rw [UInt16.toNat_add, hhigh, hlow]
    omega
  rw [hsum]
  unfold fold
  split <;> omega

/-- **The accumulator stays below 256**, and holds the plain sum so far, folded. -/
theorem foldl_add (bs : List UInt8) :
    ∀ acc : UInt16, acc.toNat < 256 → (bs.foldl add acc).toNat = fold (acc.toNat + total bs) := by
  induction bs with
  | nil =>
    intro acc hacc
    rw [List.foldl_nil, total_nil, Nat.add_zero, fold_of_lt hacc]
  | cons b bs ih =>
    intro acc hacc
    have hadd := toNat_add hacc b
    have hnext : (add acc b).toNat < 256 := by
      rw [hadd]
      exact fold_lt _
    rw [List.foldl_cons, ih _ hnext, hadd, fold_fold_add, total_cons, Nat.add_assoc]

/-- The accumulator after a byte string. -/
theorem toNat_foldl_add (bs : List UInt8) : (bs.foldl add 0).toNat = fold (total bs) := by
  have hfold := foldl_add bs 0 (by decide)
  rwa [UInt16.toNat_zero, Nat.zero_add] at hfold

theorem foldl_add_lt (bs : List UInt8) : (bs.foldl add 0).toNat < 256 := by
  rw [toNat_foldl_add]
  exact fold_lt _

/-- Taking the low byte of the accumulator takes all of it. -/
theorem toNat_sum_eq_foldl (bs : List UInt8) : (sum bs).toNat = (bs.foldl add 0).toNat := by
  have hlt := foldl_add_lt bs
  rw [sum, UInt16.toNat_toUInt8]
  omega

/-- **The sum of a byte string is its plain sum, folded once.** -/
theorem toNat_sum (bs : List UInt8) : (sum bs).toNat = fold (total bs) := by
  rw [toNat_sum_eq_foldl, toNat_foldl_add]

/-- Neither of the two additions that take a byte into the accumulator leaves the 16 bits. -/
structure AddsExactly (acc : UInt16) (b : UInt8) : Prop where
  /-- The byte itself. -/
  byte : acc.toNat + b.toNat < UInt16.size
  /-- The carry, folded back in. -/
  carry : ((acc + b.toUInt16) >>> 8).toNat + ((acc + b.toUInt16) &&& 0xFF).toNat < UInt16.size

theorem addsExactly_of_lt {acc : UInt16} (hacc : acc.toNat < 256) (b : UInt8) :
    AddsExactly acc b := by
  have hb := b.toNat_lt
  have hs := toNat_acc_add hacc b
  have hsize : UInt16.size = 65536 := rfl
  have hhigh : ((acc + b.toUInt16) >>> 8).toNat ≤ acc.toNat + b.toNat := by
    rw [UInt16.toNat_shiftRight, hs]
    exact Nat.shiftRight_le _ _
  have hlow : ((acc + b.toUInt16) &&& 0xFF).toNat ≤ acc.toNat + b.toNat := by
    rw [UInt16.toNat_and, hs]
    exact Nat.and_le_left
  constructor
  · omega
  · omega

theorem sum_eq_sum_iff {bs cs : List UInt8} : sum bs = sum cs ↔ fold (total bs) = fold (total cs) := by
  rw [← UInt8.toNat_inj, toNat_sum, toNat_sum]

/-! ## The checksum of a frame -/

/-- The place of the checksum, with what stands before and after it. -/
theorem set_position {frame : List UInt8} (h : position < frame.length) (b : UInt8) :
    frame.set position b = frame.take position ++ b :: frame.drop (position + 1) :=
  List.set_eq_take_append_cons_drop.trans (if_pos h)

/-- **The checksum of a frame is the sum of the frame** with a 0 at the checksum's own place. -/
theorem frameSum_eq (frame : List UInt8) : frameSum frame = sum (frame.set position 0) := by
  unfold frameSum
  split
  · rename_i hshort
    rw [List.set_eq_of_length_le hshort]
  · rename_i hlong
    rw [set_position (by omega), sum_eq_sum_iff]
    -- the two sides come as one byte each, already folded
    simp only [total_append, total_cons, total_nil, toNat_sum, Nat.add_zero]
    rw [fold_fold_add, fold_add_fold, UInt8.toNat_zero, Nat.zero_add]

/-- The checksum does not count itself. -/
theorem frameSum_set_position (frame : List UInt8) (b : UInt8) :
    frameSum (frame.set position b) = frameSum frame := by
  rw [frameSum_eq, frameSum_eq, List.set_set]

/-- **What the sum of a byte string is**: 0 if every byte is, and else 1 more than the predecessor of
    the plain sum modulo 255. It is computed without overflow, and it does not matter that the sum of
    a frame is computed in two parts. -/
theorem checksum_closed_form (bs : List UInt8) :
    ((∀ b ∈ bs, b = 0) → sum bs = 0) ∧
      ((∃ b ∈ bs, b ≠ 0) → (sum bs).toNat = 1 + (total bs - 1) % 255) ∧
      (∀ before, before <+: bs → (before.foldl add 0).toNat ≤ 255) ∧
      (∀ before b after, bs = before ++ b :: after → AddsExactly (before.foldl add 0) b) ∧
      (sum bs).toNat = (bs.foldl add 0).toNat ∧
      (position < bs.length →
        frameSum bs = sum (bs.set position 0) ∧
          ∀ b, frameSum (bs.set position b) = frameSum bs) ∧
      (bs.length ≤ position → frameSum bs = sum bs) := by
  refine ⟨?_, ?_, ?_, ?_, toNat_sum_eq_foldl bs, ?_, ?_⟩
  · intro hzero
    rw [← UInt8.toNat_inj, toNat_sum, total_eq_zero_iff.mpr hzero]
    rfl
  · rintro ⟨b, hb, hne⟩
    have htotal : total bs ≠ 0 := fun h => hne (total_eq_zero_iff.mp h b hb)
    rw [toNat_sum, fold, if_neg htotal]
  · intro before _
    exact Nat.le_of_lt_succ (foldl_add_lt before)
  · intro before b after _
    exact addsExactly_of_lt (foldl_add_lt before) b
  · intro _
    exact ⟨frameSum_eq bs, frameSum_set_position bs⟩
  · intro hshort
    rw [frameSum_eq, List.set_eq_of_length_le hshort]

/-! ## Frames that carry their own checksum -/

theorem verify_iff {frame : List UInt8} :
    verify frame = true ↔ frame[position]? = some (frameSum frame) := by
  unfold verify
  cases frame[position]? with
  | none => exact ⟨fun h => (nomatch h), fun h => (nomatch h)⟩
  | some stored =>
    dsimp only
    rw [beq_iff_eq, Option.some.injEq]
    exact eq_comm

end CompanionBus.Checksum
