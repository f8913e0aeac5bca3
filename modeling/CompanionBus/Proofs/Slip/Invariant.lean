import CompanionBus.Proofs.Slip.Delimited
import CompanionBus.Proofs.Slip.Reference
/-
  What an accumulator can hold and what it can give away, whatever is done with it.

  1. **Invariant** — an accumulator holds nothing, or the beginning of a frame for which there is room
     (`Begun`). Pushing keeps it so, whatever comes out (`Begun.push`): what does not fit is refused
     and changes nothing, so it does not matter that the buffer is full then. Clearing keeps it so, too
     (`Begun.clear`). So it is kept by any use (`Used.begun`).

  2. **What is given away (`Begun.delimited_of_push`)** — one or more bytes between two `END`s, since the
     buffer is given away only with something behind its `END`.
-/
namespace CompanionBus.Accumulator

variable {a a' : Accumulator} {maxFrame : Nat} {piece delimited : List UInt8}

/-! ## One step -/

theorem Begun.clear (h : a.Begun maxFrame) : a.clear.Begun maxFrame := ⟨h.limit, Or.inl rfl⟩

/-- **Pushing keeps the invariant**, be it that a frame comes out, an error, or nothing. -/
theorem Begun.push (h : a.Begun maxFrame) (piece : List UInt8) :
    (a.push piece).2.Begun maxFrame := by
  -- along the bytes of the piece; three of the cases end it
  fun_induction Accumulator.push a piece with
  | case1 a => exact h
  | case2 a rest _ ih => exact ih h.opened
  | case3 a b rest _ _ ih => exact ih h
  | case4 a rest _ _ ih => exact ih h
  | case5 a rest _ _ => exact h.clear
  | case6 a b rest _ _ _ => exact h
  | case7 a b rest hne hb hroom ih => exact ih (h.kept hne hb (Nat.lt_of_not_le hroom))

/-- **A frame that comes out is delimited**, and what it has between its `END`s is not empty and not
    too long. -/
theorem Begun.delimited_of_push (h : a.Begun maxFrame)
    (hpush : a.push piece = (.ok (some delimited), a')) :
    ∃ body, delimited = Slip.END :: (body ++ [Slip.END]) ∧ Slip.END ∉ body ∧ body ≠ [] ∧
      body.length ≤ 2 * maxFrame := by
  -- along the bytes of the piece, up to the one that closes the frame
  fun_induction Accumulator.push a piece with
  | case1 a => cases hpush
  | case2 a rest _ ih => exact ih h.opened hpush
  | case3 a b rest _ _ ih => exact ih h hpush
  | case4 a rest _ _ ih => exact ih h hpush
  | case5 a rest hne hlong =>
    cases hpush
    obtain ⟨body, hbuffer, hbody, hlen⟩ := h.exists_body hne
    refine ⟨body, by rw [hbuffer]; rfl, hbody, ?_, hlen⟩
    rintro rfl
    exact hlong (by rw [hbuffer]; rfl)
  | case6 a b rest _ _ _ => cases hpush
  | case7 a b rest hne hb hroom ih => exact ih (h.kept hne hb (Nat.lt_of_not_le hroom)) hpush

/-! ## Any use -/

/-- **Whatever is done with an accumulator keeps the invariant.** -/
theorem Used.begun (h : a.Used maxFrame) : a.Begun maxFrame := by
  induction h with
  | new => exact begun_ofMaxFrame maxFrame
  | push _ piece ih => exact ih.push piece
  | clear _ ih => exact ih.clear

/-- The beginning of a frame is an `END` with other bytes behind it. -/
theorem Begun.buffer_eq (h : a.Begun maxFrame) :
    a.buffer = [] ∨ ∃ body, a.buffer = Slip.END :: body ∧ Slip.END ∉ body := by
  rcases h.buffer with hempty | ⟨body, hbuffer, hbody, -⟩
  · exact Or.inl hempty
  · exact Or.inr ⟨body, hbuffer, hbody⟩

/-- There is always room left for a closing `END`. -/
theorem Begun.pending_le (h : a.Begun maxFrame) : a.pending ≤ 2 * maxFrame + 1 := by
  rw [pending]
  rcases h.buffer with hempty | ⟨body, hbuffer, -, hlen⟩
  · rw [hempty]
    exact Nat.zero_le _
  · rw [hbuffer, List.length_cons]
    omega

end CompanionBus.Accumulator
