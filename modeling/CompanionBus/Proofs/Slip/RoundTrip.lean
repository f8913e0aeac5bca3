import CompanionBus.Slip
/-
  Wrapping a frame and unwrapping it.

  1. **Specification** — `decode_encode`: what was wrapped comes back, whatever follows it. So no two
     frames look the same when wrapped (`encode_injective`).

  2. **The crux** — `escape` leaves no `END` inside a frame (`end_not_mem_escape`), and every byte
     that it writes, alone or with its stand-in, is one step of `unescape`
     (`unescape_escape_append`).
-/
namespace CompanionBus.Slip

/-! ## The inside of a wrapped frame -/

theorem escape_end (rest : List UInt8) : escape (END :: rest) = ESC :: ESC_END :: escape rest := by
  rw [escape, if_pos rfl]

theorem escape_esc (rest : List UInt8) : escape (ESC :: rest) = ESC :: ESC_ESC :: escape rest := by
  rw [escape, if_neg (by decide), if_pos rfl]

theorem escape_plain {b : UInt8} (hend : b ≠ END) (hesc : b ≠ ESC) (rest : List UInt8) :
    escape (b :: rest) = b :: escape rest := by
  rw [escape, if_neg hend, if_neg hesc]

/-- The inside of a wrapped frame holds no `END`. -/
theorem end_not_mem_escape (frame : List UInt8) : END ∉ escape frame := by
  induction frame with
  | nil => exact List.not_mem_nil
  | cons b rest ih =>
    by_cases hend : b = END
    · subst hend
      rw [escape_end]
      simp only [List.mem_cons, not_or]
      exact ⟨by decide, by decide, ih⟩
    · by_cases hesc : b = ESC
      · subst hesc
        rw [escape_esc]
        simp only [List.mem_cons, not_or]
        exact ⟨by decide, by decide, ih⟩
      · rw [escape_plain hend hesc]
        simp only [List.mem_cons, not_or]
        exact ⟨fun h => hend h.symm, ih⟩

/-- Escaping at most doubles a frame. -/
theorem length_escape_le (frame : List UInt8) : (escape frame).length ≤ 2 * frame.length := by
  induction frame with
  | nil => exact Nat.le_refl 0
  | cons b rest ih =>
    rw [escape]
    split
    · simp only [List.length_cons]; omega
    · split <;> simp only [List.length_cons] <;> omega

/-- A frame that holds something holds something when it is escaped. -/
theorem escape_ne_nil {frame : List UInt8} (h : frame ≠ []) : escape frame ≠ [] := by
  obtain ⟨b, rest, rfl⟩ := List.exists_cons_of_ne_nil h
  rw [escape]
  split
  · exact List.cons_ne_nil _ _
  · split <;> exact List.cons_ne_nil _ _

/-- Such a frame begins with a byte that is no `END` when it is escaped. -/
theorem exists_escape_eq_cons {frame : List UInt8} (h : frame ≠ []) :
    ∃ b rest, escape frame = b :: rest ∧ b ≠ END := by
  obtain ⟨b, rest, hescape⟩ := List.exists_cons_of_ne_nil (escape_ne_nil h)
  refine ⟨b, rest, hescape, ?_⟩
  rintro rfl
  exact end_not_mem_escape frame (hescape ▸ List.mem_cons_self)

/-! ## Unwrapping undoes wrapping -/

theorem unescape_end (rest : List UInt8) : unescape (END :: rest) = .ok [] := by
  rw [unescape.eq_def]
  exact if_pos rfl

theorem unescape_esc_end (rest : List UInt8) :
    unescape (ESC :: ESC_END :: rest) = (unescape rest).map (END :: ·) := by
  rw [unescape.eq_def]
  rfl

theorem unescape_esc_esc (rest : List UInt8) :
    unescape (ESC :: ESC_ESC :: rest) = (unescape rest).map (ESC :: ·) := by
  rw [unescape.eq_def]
  rfl

theorem unescape_bad {b : UInt8} (hend : b ≠ ESC_END) (hesc : b ≠ ESC_ESC) (rest : List UInt8) :
    unescape (ESC :: b :: rest) = .error (.invalidEscape b) := by
  rw [unescape.eq_def]
  dsimp only
  rw [if_neg (by decide), if_pos rfl, if_neg hend, if_neg hesc]

theorem unescape_plain {b : UInt8} (hend : b ≠ END) (hesc : b ≠ ESC) (rest : List UInt8) :
    unescape (b :: rest) = (unescape rest).map (b :: ·) := by
  rw [unescape.eq_def]
  dsimp only
  rw [if_neg hend, if_neg hesc]

/-- An escaped frame is read back, whatever comes behind it. -/
theorem unescape_escape_append (frame rest : List UInt8) :
    unescape (escape frame ++ rest) = (unescape rest).map (frame ++ ·) := by
  induction frame with
  | nil =>
    rw [escape, List.nil_append]
    cases unescape rest <;> rfl
  | cons b frame ih =>
    -- one step of the reader for the byte, or for its stand-in; the rest by induction
    have hstep : unescape (escape (b :: frame) ++ rest)
        = (unescape (escape frame ++ rest)).map (b :: ·) := by
      by_cases hend : b = END
      · subst hend
        rw [escape_end, List.cons_append, List.cons_append, unescape_esc_end]
      · by_cases hesc : b = ESC
        · subst hesc
          rw [escape_esc, List.cons_append, List.cons_append, unescape_esc_esc]
        · rw [escape_plain hend hesc, List.cons_append, unescape_plain hend hesc]
    rw [hstep, ih]
    cases unescape rest <;> rfl

/-- An escaped frame is read back up to the `END` behind it. -/
theorem unescape_escape (tail frame : List UInt8) :
    unescape (escape frame ++ END :: tail) = .ok frame := by
  rw [unescape_escape_append, unescape_end]
  exact congrArg Except.ok (List.append_nil frame)

/-- **What was wrapped comes back**, whatever follows it. -/
theorem decode_encode (frame tail : List UInt8) : decode (encode frame ++ tail) = .ok frame := by
  have happ : encode frame ++ tail = END :: (escape frame ++ END :: tail) := by
    rw [encode, List.cons_append, List.append_assoc]
    rfl
  rw [happ, decode, if_pos rfl, unescape_escape]

/-- Frames that look the same when wrapped are the same. -/
theorem encode_injective {x y : List UInt8} (h : encode x = encode y) : x = y := by
  have hx := decode_encode x []
  rw [h, decode_encode y []] at hx
  exact (Except.ok.inj hx).symm

end CompanionBus.Slip
