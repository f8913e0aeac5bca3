import CompanionBus.Proofs.Slip.Unwrapping
/-
  Frames and well formed wrapped frames are in one-to-one correspondence.

  1. **Specification (`wrapping_is_bijective`)** — unwrapping undoes wrapping, with and without the
     `END` in front. Conversely, what stands between two `END`s and can be read at all is what
     wrapping the frame that is read gives; and it can be read unless one of its `ESC`s has a wrong
     byte behind it (`BadEscape`).

  2. **The crux (`escaped_or_refused`)** — a body without `END` is an escaped frame, or it has a bad
     escape and is refused, as `Unwraps` tells. That it is never both at the same time needs no
     induction: every `ESC` of an escaped frame has its place (`place_of_escape`), and so a stand-in
     behind it.
-/
namespace CompanionBus.Slip

/-! ## What a wrapped frame looks like -/

/-- Each `END` and each `ESC` of a frame takes one byte more when it is escaped. -/
theorem length_escape (frame : List UInt8) :
    (escape frame).length = frame.length + frame.count END + frame.count ESC := by
  induction frame with
  | nil => rfl
  | cons b frame ih =>
    by_cases hend : b = END
    · subst hend
      rw [escape_end, List.count_cons_self, List.count_cons_of_ne (by decide)]
      simp only [List.length_cons, ih]
      omega
    · by_cases hesc : b = ESC
      · subst hesc
        rw [escape_esc, List.count_cons_self, List.count_cons_of_ne (by decide)]
        simp only [List.length_cons, ih]
        omega
      · rw [escape_plain hend hesc, List.count_cons_of_ne hend, List.count_cons_of_ne hesc]
        simp only [List.length_cons, ih]
        omega

/-- The length of a wrapped frame. -/
theorem length_wrapped (frame : List UInt8) :
    (encode frame).length = frame.length + frame.count END + frame.count ESC + 2 := by
  rw [encode, List.length_cons, List.length_append, length_escape, List.length_singleton]

/-- A wrapped frame is not longer than the longest that it can get. -/
theorem length_wrapped_le (frame : List UInt8) :
    (encode frame).length ≤ maxEncodedLength frame.length := by
  have hescape := length_escape_le frame
  rw [encode, List.length_cons, List.length_append, List.length_singleton, maxEncodedLength]
  omega

/-- A frame that holds something is also read if its first `END` is missing: what it then begins with
    is no `END`. -/
theorem decode_tail_encode {frame : List UInt8} (hne : frame ≠ []) (tail : List UInt8) :
    decode ((encode frame).tail ++ tail) = .ok frame := by
  have hrest : (encode frame).tail ++ tail = escape frame ++ END :: tail := by
    rw [encode, List.tail_cons, List.append_assoc]
    rfl
  obtain ⟨b, rest, hescape, hb⟩ := exists_escape_eq_cons hne
  rw [hrest, hescape, List.cons_append, decode, if_neg hb, ← List.cons_append, ← hescape,
    unescape_escape]

/-! ## Bad escapes -/

/-- Some `ESC` has a byte directly behind it that is no stand-in. -/
def BadEscape (wire : List UInt8) : Prop :=
  ∃ before b after, wire = before ++ ESC :: b :: after ∧ b ≠ ESC_END ∧ b ≠ ESC_ESC

/-- An escaped frame has no bad escape. -/
theorem not_badEscape_escape (frame : List UInt8) : ¬ BadEscape (escape frame ++ [END]) := by
  rintro ⟨before, b, after, hwire, hend, hesc⟩
  -- the `ESC` is not the closing `END`, so it stands in the escaped frame
  rcases List.eq_nil_or_concat (b :: after) with hnil | ⟨inside, last, hlast⟩
  · cases hnil
  rw [List.concat_eq_append] at hlast
  rw [hlast, ← List.cons_append, ← List.append_assoc] at hwire
  obtain ⟨hescape, hclosing⟩ := List.append_inj' hwire rfl
  have hplace := place_of_escape hescape
  generalize hb : ESC = c at hplace
  cases hplace with
  | plain f₁ f₂ _ hne => exact hne hb.symm
  | escape f₁ f₂ ht =>
    have hstandIn := List.head_eq_of_cons_eq hlast
    cases ht with
    | ends => exact hend hstandIn
    | escapes => exact hesc hstandIn
  | standIn f₁ f₂ ht => exact ht.ne_esc hb.symm

/-- **What can stand between two `END`s**: an escaped frame, or something with a bad escape, which is
    refused. -/
theorem escaped_or_refused (body : List UInt8) (hbody : END ∉ body) :
    (∃ frame, body = escape frame) ∨
      (BadEscape (body ++ [END]) ∧ ∃ e, unescape (body ++ [END]) = .error e) := by
  have hunwraps := unwraps_unescape hbody
  generalize unescape (body ++ [END]) = result at hunwraps ⊢
  cases hunwraps with
  | @whole frame h => exact Or.inl ⟨frame, h⟩
  | @wrong part after b h hend hesc =>
    refine Or.inr ⟨⟨escape part, b, after ++ [END], ?_, hend, hesc⟩, _, rfl⟩
    rw [h, List.append_assoc]
    rfl
  | @unfinished part h =>
    refine Or.inr ⟨⟨escape part, END, [], ?_, by decide, by decide⟩, _, rfl⟩
    rw [h, List.append_assoc]
    rfl

/-! ## Both directions -/

/-- **A delimited frame that is read is the wrapped frame.** -/
theorem encode_of_decode {body frame : List UInt8} (hbody : END ∉ body)
    (h : decode (END :: (body ++ [END])) = .ok frame) : encode frame = END :: (body ++ [END]) := by
  rw [decode, if_pos rfl] at h
  rcases escaped_or_refused body hbody with ⟨frame', rfl⟩ | ⟨-, e, he⟩
  · rw [unescape_escape] at h
    cases h
    rfl
  · cases he.symm.trans h

/-- **A delimited frame is refused exactly for a bad escape.** -/
theorem decode_error_iff {body : List UInt8} (hbody : END ∉ body) :
    (∃ e, decode (END :: (body ++ [END])) = .error e) ↔ BadEscape (body ++ [END]) := by
  rw [decode, if_pos rfl]
  rcases escaped_or_refused body hbody with ⟨frame, rfl⟩ | ⟨hbad, he⟩
  · rw [unescape_escape]
    refine iff_of_false ?_ (not_badEscape_escape frame)
    rintro ⟨e, he⟩
    cases he
  · exact iff_of_true he hbad

/-- **Wrapping is a one-to-one correspondence between frames and well formed wrapped frames.** A
    wrapped frame is read back, whatever follows it, and if it holds something, also when its first
    `END` is missing. There is no `END` inside it; it is longer than the frame by its two `END`s and
    by one byte for each `END` and each `ESC` of the frame, which is never more than the longest it
    can get. Conversely, take any bytes without an `END` and put them between two: if they are read
    as a frame, they are what wrapping that frame gives; and they are refused exactly if one of their
    `ESC`s has a byte directly behind it that is no stand-in. -/
theorem wrapping_is_bijective (frame tail body : List UInt8) :
    decode (encode frame ++ tail) = .ok frame ∧
    (frame ≠ [] → decode ((encode frame).tail ++ tail) = .ok frame) ∧
    (∃ inside, encode frame = END :: (inside ++ [END]) ∧ END ∉ inside) ∧
    (encode frame).length = frame.length + frame.count END + frame.count ESC + 2 ∧
    (encode frame).length ≤ maxEncodedLength frame.length ∧
    (END ∉ body →
      (∀ x, decode (END :: (body ++ [END])) = .ok x → encode x = END :: (body ++ [END])) ∧
      ((∃ e, decode (END :: (body ++ [END])) = .error e) ↔
        ∃ before b after, body ++ [END] = before ++ ESC :: b :: after ∧
          b ≠ ESC_END ∧ b ≠ ESC_ESC)) := by
  refine ⟨decode_encode frame tail, fun hne => decode_tail_encode hne tail,
    ⟨escape frame, rfl, end_not_mem_escape frame⟩, length_wrapped frame, length_wrapped_le frame,
    fun hbody => ⟨fun x => encode_of_decode hbody, decode_error_iff hbody⟩⟩

end CompanionBus.Slip
