import CompanionBus.Proofs.Checksum.FoldedSum
/-
  Which replaced bytes the checksum sees.

  1. **Specification** — a frame that carries its own checksum does not carry it any more when one
     byte of it is replaced, with a single exception: 0x00 and 0xFF are the same to the fold, as long
     as there is anything else in the frame (`verify_set_iff`). In a frame of zeros the two differ,
     since 0 is the one number that folds to 0.

  2. **The crux (`toNat_frameSum_set`)** — a byte that is not the checksum is added to the bytes of
     all other places. They are the same before and after the replacement, so the question is only
     which two bytes, added to one number, fold alike (`fold_add_eq_iff`).
-/
namespace CompanionBus.Checksum

variable {frame : List UInt8} {i : Nat}

/-! ## One byte and all others -/

/-- Two bytes that are added to the same number fold alike only if they are 0x00 and 0xFF, and the
    number is not 0. -/
theorem fold_add_eq_iff {n a b : Nat} (ha : a < 256) (hb : b < 256) (hne : a ≠ b) :
    fold (n + a) = fold (n + b) ↔ ((a = 0 ∧ b = 255) ∨ (a = 255 ∧ b = 0)) ∧ n ≠ 0 := by
  unfold fold
  constructor
  · intro h
    split at h <;> split at h <;> omega
  · rintro ⟨⟨rfl, rfl⟩ | ⟨rfl, rfl⟩, hn⟩
    · rw [if_neg (by omega), if_neg (by omega)]
      omega
    · rw [if_neg (by omega), if_neg (by omega)]
      omega

/-- A byte that is replaced leaves the sum, and the new one comes into it. -/
theorem total_set {bs : List UInt8} (hi : i < bs.length) (v : UInt8) :
    total (bs.set i v) + bs[i].toNat = total bs + v.toNat := by
  induction bs generalizing i with
  | nil => exact absurd hi (Nat.not_lt_zero i)
  | cons b bs ih =>
    cases i with
    | zero =>
      rw [List.set_cons_zero, List.getElem_cons_zero, total_cons, total_cons]
      omega
    | succ i =>
      have hrest := ih (Nat.lt_of_succ_lt_succ hi)
      rw [List.set_cons_succ, List.getElem_cons_succ, total_cons, total_cons]
      omega

/-- What the checksum of a frame counts besides the byte at one place. -/
def others (frame : List UInt8) (i : Nat) : Nat := total ((frame.set position 0).set i 0)

theorem others_eq_zero_iff :
    others frame i = 0 ↔ ∀ j, ∀ hj : j < frame.length, j ≠ i → j ≠ position → frame[j] = 0 := by
  rw [others, total_eq_zero_iff, List.forall_mem_iff_forall_getElem]
  simp only [List.length_set]
  constructor
  · intro h j hj hne hplace
    have hzero := h j hj
    rwa [List.getElem_set_ne (Ne.symm hne), List.getElem_set_ne (Ne.symm hplace)] at hzero
  · intro h j hj
    rw [List.getElem_set, List.getElem_set]
    split
    · rfl
    · split
      · rfl
      · exact h j hj (Ne.symm ‹_›) (Ne.symm ‹_›)

/-- **A byte that is not the checksum itself** counts on top of all others. -/
theorem toNat_frameSum_set (hi : i < frame.length) (hplace : i ≠ position) (v : UInt8) :
    (frameSum (frame.set i v)).toNat = fold (others frame i + v.toNat) := by
  have hlen : i < ((frame.set position 0).set i 0).length := by
    rwa [List.length_set, List.length_set]
  have hset := total_set hlen v
  rw [List.getElem_set_self, List.set_set, UInt8.toNat_zero, Nat.add_zero] at hset
  rw [frameSum_eq, toNat_sum, List.set_comm v 0 hplace, hset, others]

/-! ## Replacing the checksum, and any other byte -/

/-- The checksum of a frame is the only byte that can stand in its place. -/
theorem eq_of_verify_set_position (hverify : verify frame = true) (hi : position < frame.length)
    {v : UInt8} (h : verify (frame.set position v) = true) : v = frame[position] := by
  rw [verify_iff, List.getElem?_set_self hi, frameSum_set_position, Option.some.injEq] at h
  rw [verify_iff, List.getElem?_eq_getElem hi, Option.some.injEq] at hverify
  rw [h, hverify]

/-- With any other byte replaced, a frame verifies if its checksum comes out as before. -/
theorem verify_set_iff_of_ne (hverify : verify frame = true) (hplace : i ≠ position) (v : UInt8) :
    verify (frame.set i v) = true ↔ frameSum frame = frameSum (frame.set i v) := by
  rw [verify_iff] at hverify
  rw [verify_iff, List.getElem?_set_ne hplace, hverify, Option.some.injEq]

theorem frameSum_set_eq_iff (hi : i < frame.length) (hplace : i ≠ position) {v : UInt8}
    (hv : v ≠ frame[i]) :
    frameSum frame = frameSum (frame.set i v) ↔
      ((frame[i] = 0 ∧ v = 0xFF) ∨ (frame[i] = 0xFF ∧ v = 0)) ∧ others frame i ≠ 0 := by
  have hself : (frameSum frame).toNat = fold (others frame i + frame[i].toNat) := by
    have h := toNat_frameSum_set hi hplace frame[i]
    rwa [List.set_getElem_self] at h
  have hne : frame[i].toNat ≠ v.toNat := fun h => hv (UInt8.toNat_inj.mp h).symm
  rw [← UInt8.toNat_inj, hself, toNat_frameSum_set hi hplace,
    fold_add_eq_iff frame[i].toNat_lt v.toNat_lt hne]
  simp only [← UInt8.toNat_inj]
  rfl

/-- **A replaced byte shows**, unless 0x00 and 0xFF have changed places; the byte is then not the
    checksum itself. -/
theorem swap_of_verify_set (hverify : verify frame = true) (hi : i < frame.length) {v : UInt8}
    (hv : v ≠ frame[i]) (h : verify (frame.set i v) = true) :
    i ≠ position ∧ ((frame[i] = 0 ∧ v = 0xFF) ∨ (frame[i] = 0xFF ∧ v = 0)) ∧
      others frame i ≠ 0 := by
  by_cases hplace : i = position
  · subst hplace
    exact absurd (eq_of_verify_set_position hverify hi h) hv
  · rw [verify_set_iff_of_ne hverify hplace, frameSum_set_eq_iff hi hplace hv] at h
    exact ⟨hplace, h⟩

/-- **What the checksum does not see**: 0x00 and 0xFF in each other's place, anywhere but in the
    place of the checksum, in a frame that is not all zeros otherwise. -/
theorem verify_set_iff (hverify : verify frame = true) (hi : i < frame.length) {v : UInt8}
    (hv : v ≠ frame[i]) :
    verify (frame.set i v) = true ↔
      i ≠ position ∧ ((frame[i] = 0 ∧ v = 0xFF) ∨ (frame[i] = 0xFF ∧ v = 0)) ∧
        ∃ j, ∃ hj : j < frame.length, j ≠ i ∧ j ≠ position ∧ frame[j] ≠ 0 := by
  have hothers : others frame i ≠ 0 ↔
      ∃ j, ∃ hj : j < frame.length, j ≠ i ∧ j ≠ position ∧ frame[j] ≠ 0 := by
    rw [Ne, others_eq_zero_iff]
    simp only [not_forall, exists_prop, Ne]
  rw [← hothers]
  constructor
  · exact swap_of_verify_set hverify hi hv
  · rintro ⟨hplace, hswap⟩
    rw [verify_set_iff_of_ne hverify hplace, frameSum_set_eq_iff hi hplace hv]
    exact hswap

/-- The high byte of the length can be taken for 0xFF, even in the shortest frame. -/
theorem verify_set_iff_length :
    verify [0x45, 0x01, 0x06, 0x00, 0x4C, 0x00] = true ∧
      verify [0x45, 0x01, 0x06, 0xFF, 0x4C, 0x00] = true :=
  have hverify : verify [0x45, 0x01, 0x06, 0x00, 0x4C, 0x00] = true := by decide
  ⟨hverify, (@verify_set_iff _ 3 hverify (by decide) 0xFF (by decide)).mpr
    ⟨by decide, Or.inl ⟨rfl, rfl⟩, 0, by decide, by decide, by decide, by decide⟩⟩

/-! ## Two frames that differ in one byte -/

/-- At most one of them carries its own checksum, unless they have 0x00 and 0xFF there. -/
theorem swap_of_verify {before after : List UInt8} {b c : UInt8}
    (hb : verify (before ++ b :: after) = true) (hc : verify (before ++ c :: after) = true)
    (hne : b ≠ c) :
    before.length ≠ position ∧ ((b = 0 ∧ c = 0xFF) ∨ (b = 0xFF ∧ c = 0)) := by
  have hset : before ++ c :: after = (before ++ b :: after).set before.length c := by
    rw [List.set_append_right _ _ (Nat.le_refl _), Nat.sub_self, List.set_cons_zero]
  have hlt : before.length < (before ++ b :: after).length := by
    rw [List.length_append, List.length_cons]
    omega
  have hget : (before ++ b :: after)[before.length] = b := by
    rw [List.getElem_append_right (Nat.le_refl _)]
    simp
  have hv : c ≠ (before ++ b :: after)[before.length] := by
    rw [hget]
    exact hne.symm
  rw [hset] at hc
  obtain ⟨hplace, hswap, -⟩ := swap_of_verify_set hb hlt hv hc
  rw [hget] at hswap
  exact ⟨hplace, hswap⟩

end CompanionBus.Checksum
