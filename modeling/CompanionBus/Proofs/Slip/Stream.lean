import CompanionBus.Proofs.Slip.RoundTrip
import CompanionBus.Slip.Accumulator
/-
  A frame out of a stream, however the stream is cut.

  1. **Specification** — `push_append`: pushing two pieces is pushing them as one, as long as the
     first completes nothing; what is decided by the first piece stays decided. So only the bytes
     matter, not the pieces they come in.

  2. **A stream with a frame in it** — noise, any number of `END`s, the wrapped frame, and whatever
     follows. `push_opening` takes the accumulator up to the last byte inside the frame, `push_frame`
     over the closing `END`.

  3. **The crux (`push_inside`)** — one induction on the bytes inside a frame. The buffer must have
     room for all of them and the closing `END`, and it does, since escaping at most doubles a frame
     and the limit is twice the frame, as long as that fits a machine word (`Fits`).
-/
namespace CompanionBus.Accumulator

/-! ## One byte at a time -/

theorem push_noise {a : Accumulator} (hempty : a.buffer = []) {b : UInt8} (hb : b ≠ Slip.END)
    (rest : List UInt8) : a.push (b :: rest) = a.push rest := by
  rw [push, if_pos hempty, if_neg hb]

theorem push_begin {a : Accumulator} (hempty : a.buffer = []) (rest : List UInt8) :
    a.push (Slip.END :: rest) = push { a with buffer := [Slip.END] } rest := by
  rw [push, if_pos hempty, if_pos rfl]

theorem push_again {a : Accumulator} (hone : a.buffer.length = 1) (rest : List UInt8) :
    a.push (Slip.END :: rest) = a.push rest := by
  have hne : a.buffer ≠ [] := fun h => by rw [h] at hone; cases hone
  rw [push, if_neg hne, if_pos rfl, if_pos hone]

theorem push_close {a : Accumulator} (hlen : 1 < a.buffer.length) (rest : List UInt8) :
    a.push (Slip.END :: rest) = (.ok (some (a.buffer ++ [Slip.END])), a.clear) := by
  have hne : a.buffer ≠ [] := fun h => by rw [h] at hlen; cases hlen
  rw [push, if_neg hne, if_pos rfl, if_neg (by omega)]

theorem push_keep {a : Accumulator} (hne : a.buffer ≠ []) {b : UInt8} (hb : b ≠ Slip.END)
    (hroom : a.buffer.length + 1 < a.limit) (rest : List UInt8) :
    a.push (b :: rest) = push { a with buffer := a.buffer ++ [b] } rest := by
  rw [push, if_neg hne, if_neg hb, if_neg (by omega)]

theorem push_overflow {a : Accumulator} (hne : a.buffer ≠ []) {b : UInt8} (hb : b ≠ Slip.END)
    (hfull : a.limit ≤ a.buffer.length + 1) (rest : List UInt8) :
    a.push (b :: rest) = (.error (.frameTooLarge (a.buffer.length + 1) a.limit), a) := by
  rw [push, if_neg hne, if_neg hb, if_pos hfull]

/-! ## One piece after another -/

/-- What is left to do after a piece of the stream: to take the next one, unless a frame is complete
    or has been refused. -/
def resume (rest : List UInt8) :
    Except ProtocolError (Option (List UInt8)) × Accumulator →
      Except ProtocolError (Option (List UInt8)) × Accumulator
  | (.ok none, a) => a.push rest
  | decided => decided

/-- **Cutting a stream makes no difference.** -/
theorem push_append (piece rest : List UInt8) (a : Accumulator) :
    a.push (piece ++ rest) = resume rest (a.push piece) := by
  -- on the bytes of the piece; the cases are the branches that the first of them can take
  induction piece generalizing a with
  | nil => rfl
  | cons b piece ih =>
    rw [List.cons_append]
    by_cases hempty : a.buffer = []
    · by_cases hb : b = Slip.END
      · subst hb
        rw [push_begin hempty, push_begin hempty, ih]
      · rw [push_noise hempty hb, push_noise hempty hb, ih]
    · by_cases hb : b = Slip.END
      · subst hb
        by_cases hone : a.buffer.length = 1
        · rw [push_again hone, push_again hone, ih]
        · have hlen : 1 < a.buffer.length := by
            have := List.length_pos_iff.mpr hempty
            omega
          rw [push_close hlen, push_close hlen]
          rfl
      · rcases Nat.lt_or_ge (a.buffer.length + 1) a.limit with hroom | hfull
        · rw [push_keep hempty hb hroom, push_keep hempty hb hroom, ih]
        · rw [push_overflow hempty hb hfull, push_overflow hempty hb hfull]
          rfl

/-- What the beginning of a stream decides, the stream does. -/
theorem push_decided {a : Accumulator} {piece : List UInt8} (h : (a.push piece).1 ≠ .ok none)
    (rest : List UInt8) : a.push (piece ++ rest) = a.push piece := by
  rw [push_append]
  rcases hpush : a.push piece with ⟨e | _ | frame, a'⟩
  · rfl
  · rw [hpush] at h
    exact absurd rfl h
  · rfl

/-- If a stream completes nothing, neither does its beginning. -/
theorem push_left_of_append {a a' : Accumulator} {piece rest : List UInt8}
    (h : a.push (piece ++ rest) = (.ok none, a')) :
    ∃ b, a.push piece = (.ok none, b) := by
  rw [push_append] at h
  cases hp : a.push piece with
  | mk result b =>
    rw [hp] at h
    cases result with
    | error e => cases h
    | ok found =>
      cases found with
      | none => exact ⟨b, rfl⟩
      | some f => cases h

/-! ## A frame in a stream -/

/-- Noise in front of the first `END` is dropped. -/
theorem push_noise_append {a : Accumulator} (hempty : a.buffer = []) {noise : List UInt8}
    (hnoise : Slip.END ∉ noise) (rest : List UInt8) : a.push (noise ++ rest) = a.push rest := by
  induction noise with
  | nil => rfl
  | cons b noise ih =>
    obtain ⟨hb, hnoise⟩ := not_or.mp (fun h => hnoise (List.mem_cons.mpr h))
    rw [List.cons_append, push_noise hempty (fun h => hb h.symm), ih hnoise]

/-- `END`s in a row count as one. -/
theorem push_ends {a : Accumulator} (hone : a.buffer.length = 1) (k : Nat) (rest : List UInt8) :
    a.push (List.replicate k Slip.END ++ rest) = a.push rest := by
  induction k with
  | zero => rfl
  | succ k ih => rw [List.replicate_succ, List.cons_append, push_again hone, ih]

/-- **The bytes inside a frame are kept**, if there is room for all of them. -/
theorem push_inside {inside : List UInt8} (hinside : Slip.END ∉ inside) (rest : List UInt8) :
    ∀ a : Accumulator, a.buffer ≠ [] → a.buffer.length + inside.length < a.limit →
      a.push (inside ++ rest) = push { a with buffer := a.buffer ++ inside } rest := by
  induction inside with
  | nil =>
    intro a _ _
    rw [List.append_nil]
    rfl
  | cons b inside ih =>
    intro a hne hroom
    obtain ⟨hb, hinside⟩ := not_or.mp (fun h => hinside (List.mem_cons.mpr h))
    rw [List.length_cons] at hroom
    have hroom' : (a.buffer ++ [b]).length + inside.length < a.limit := by
      rw [List.length_append, List.length_singleton]
      omega
    rw [List.cons_append, push_keep hne (fun h => hb h.symm) (by omega),
      ih hinside { a with buffer := a.buffer ++ [b] } (by simp) hroom']
    dsimp only
    rw [List.append_assoc, List.singleton_append]

/-- If a frame is made out, it is all that stands between the buffer and the next `END`. -/
theorem eq_of_push_inside {inside rest delimited : List UInt8} (hinside : Slip.END ∉ inside) :
    ∀ {a : Accumulator}, a.buffer ≠ [] → 1 < (a.buffer ++ inside).length →
      (a.push (inside ++ Slip.END :: rest)).1 = .ok (some delimited) →
      delimited = a.buffer ++ inside ++ [Slip.END] := by
  induction inside with
  | nil =>
    intro a _ hlong hpush
    rw [List.append_nil] at hlong ⊢
    rw [List.nil_append, push_close hlong] at hpush
    cases hpush
    rfl
  | cons b inside ih =>
    intro a hne hlong hpush
    obtain ⟨hb, hinside⟩ := not_or.mp (fun h => hinside (List.mem_cons.mpr h))
    rw [List.cons_append] at hpush
    rcases Nat.lt_or_ge (a.buffer.length + 1) a.limit with hroom | hfull
    · -- the byte moves over to the buffer
      rw [push_keep hne (fun h => hb h.symm) hroom] at hpush
      rw [List.append_cons a.buffer b inside] at hlong ⊢
      exact ih hinside (a := { a with buffer := a.buffer ++ [b] }) (by simp) hlong hpush
    · rw [push_overflow hne (fun h => hb h.symm) hfull] at hpush
      cases hpush

/-- Without an `END` nothing is completed. -/
theorem push_ne_some_of_not_mem {stream : List UInt8} (hstream : Slip.END ∉ stream)
    (a : Accumulator) (delimited : List UInt8) :
    (a.push stream).1 ≠ .ok (some delimited) := by
  induction stream generalizing a with
  | nil => exact fun h => nomatch h
  | cons b stream ih =>
    obtain ⟨hb, hstream⟩ := not_or.mp (fun h => hstream (List.mem_cons.mpr h))
    by_cases hempty : a.buffer = []
    · rw [push_noise hempty (fun h => hb h.symm)]
      exact ih hstream a
    · rcases Nat.lt_or_ge (a.buffer.length + 1) a.limit with hroom | hfull
      · rw [push_keep hempty (fun h => hb h.symm) hroom]
        exact ih hstream _
      · rw [push_overflow hempty (fun h => hb h.symm) hfull]
        exact fun h => nomatch h

/-- A stream up to the last byte inside its first frame: noise, `END`s, and the frame without its
    closing `END`. -/
def opening (noise : List UInt8) (k : Nat) (frame : List UInt8) : List UInt8 :=
  noise ++ (List.replicate k Slip.END ++ Slip.END :: Slip.escape frame)

/-- The closing `END` is what an opening lacks. -/
theorem opening_append (noise : List UInt8) (k : Nat) (frame rest : List UInt8) :
    opening noise k frame ++ Slip.END :: rest
      = noise ++ List.replicate k Slip.END ++ Slip.encode frame ++ rest := by
  simp only [opening, Slip.encode, List.append_assoc, List.cons_append, List.nil_append]

/-- A new accumulator takes in an opening and waits for the closing `END`. -/
theorem push_opening {noise frame : List UInt8} {maxFrame : Nat} (hfits : Fits maxFrame)
    (hnoise : Slip.END ∉ noise) (hlen : frame.length ≤ maxFrame) (k : Nat) :
    (ofMaxFrame maxFrame).push (opening noise k frame)
      = (.ok none, { ofMaxFrame maxFrame with buffer := Slip.END :: Slip.escape frame }) := by
  have hend : List.replicate k Slip.END ++ Slip.END :: Slip.escape frame
      = Slip.END :: (List.replicate k Slip.END ++ Slip.escape frame) := by
    rw [← List.singleton_append, ← List.append_assoc, ← List.replicate_succ',
      List.replicate_succ, List.cons_append]
  have hroom : 1 + (Slip.escape frame).length < (ofMaxFrame maxFrame).limit := by
    have := Slip.length_escape_le frame
    rw [limit_ofMaxFrame hfits]
    omega
  have hinside := push_inside (Slip.end_not_mem_escape frame) []
    { ofMaxFrame maxFrame with buffer := [Slip.END] } (List.cons_ne_nil _ _) hroom
  rw [List.append_nil] at hinside
  rw [opening, push_noise_append rfl hnoise, hend, push_begin rfl, push_ends rfl, hinside]
  rfl

/-- **A frame is found in a stream**: the closing `END` gives the frame as it was wrapped, and the
    accumulator is as good as new. -/
theorem push_frame {noise frame : List UInt8} {maxFrame : Nat} (hfits : Fits maxFrame)
    (hnoise : Slip.END ∉ noise) (hne : frame ≠ []) (hlen : frame.length ≤ maxFrame) (k : Nat)
    (rest : List UInt8) :
    (ofMaxFrame maxFrame).push (opening noise k frame ++ Slip.END :: rest)
      = (.ok (some (Slip.encode frame)), ofMaxFrame maxFrame) := by
  have hlong : 1 < (Slip.END :: Slip.escape frame).length := by
    have := List.length_pos_iff.mpr (Slip.escape_ne_nil hne)
    rw [List.length_cons]
    omega
  rw [push_append, push_opening hfits hnoise hlen k, resume, push_close hlong]
  rfl

/-- The longest frame of the bus fits. -/
theorem fits_maxFrame : Fits CompanionBus.maxFrame := by decide

end CompanionBus.Accumulator
