import CompanionBus.Proofs.Slip.RoundTrip
/-
  Where a byte of a wrapped frame belongs.

  1. **Stand-ins** — `StandsFor` tells which byte a stand-in stands for. Behind an `ESC` nothing else
     is read (`exists_standsFor_of_unescape`).

  2. **Places (`place_of_escape`)** — a byte between the two ends is a byte of the frame sent as it
     is, an `ESC`, or the stand-in behind one. What stands before it and behind it is an escaped
     frame too.
-/
namespace CompanionBus.Slip

/-! ## Stand-ins -/

/-- `StandsFor t c` — the byte `t` behind an `ESC` stands for the byte `c`. -/
inductive StandsFor : UInt8 → UInt8 → Prop where
  | ends : StandsFor ESC_END END
  | escapes : StandsFor ESC_ESC ESC

variable {b c t : UInt8}

theorem StandsFor.ne_end (h : StandsFor t c) : t ≠ END := by
  cases h <;> decide

theorem StandsFor.ne_esc (h : StandsFor t c) : t ≠ ESC := by
  cases h <;> decide

/-- The two bytes that have a stand-in. -/
theorem StandsFor.toNat_eq (h : StandsFor t c) : c.toNat = 0xC0 ∨ c.toNat = 0xDB := by
  cases h <;> decide

theorem StandsFor.le_standIn (h : StandsFor t c) : 0xDC ≤ t.toNat := by
  cases h <;> decide

/-- A stand-in stands for one byte only, and no other stands for it. -/
theorem StandsFor.eq_iff {u d : UInt8} (h : StandsFor t c) (h' : StandsFor u d) :
    t = u ↔ c = d := by
  cases h <;> cases h' <;> decide

theorem escape_of_standsFor (h : StandsFor t c) (rest : List UInt8) :
    escape (c :: rest) = ESC :: t :: escape rest := by
  cases h with
  | ends => exact escape_end rest
  | escapes => exact escape_esc rest

/-- Every byte is sent as it is, or has a stand-in. -/
theorem plain_or_standsFor (b : UInt8) : (b ≠ END ∧ b ≠ ESC) ∨ ∃ t, StandsFor t b := by
  by_cases hend : b = END
  · exact Or.inr ⟨ESC_END, hend ▸ .ends⟩
  · by_cases hesc : b = ESC
    · exact Or.inr ⟨ESC_ESC, hesc ▸ .escapes⟩
    · exact Or.inl ⟨hend, hesc⟩

/-- A frame is escaped byte by byte. -/
theorem escape_cons (c : UInt8) (rest : List UInt8) :
    escape (c :: rest) = escape [c] ++ escape rest := by
  rcases plain_or_standsFor c with ⟨hend, hesc⟩ | ⟨t, ht⟩
  · rw [escape_plain hend hesc, escape_plain hend hesc]
    rfl
  · rw [escape_of_standsFor ht, escape_of_standsFor ht]
    rfl

/-! ## What the reader has read -/

theorem exists_of_map_eq_ok {α β : Type} {f : α → β} {r : Except ProtocolError α} {b : β}
    (h : r.map f = .ok b) : ∃ a, r = .ok a ∧ b = f a := by
  cases r with
  | error e => cases h
  | ok a =>
    cases h
    exact ⟨a, rfl, rfl⟩

/-- Behind an `ESC` only a stand-in is read. -/
theorem exists_standsFor_of_unescape {rest g : List UInt8}
    (h : unescape (ESC :: b :: rest) = .ok g) :
    ∃ c g', StandsFor b c ∧ unescape rest = .ok g' ∧ g = c :: g' := by
  by_cases hend : b = ESC_END
  · subst hend
    rw [unescape_esc_end] at h
    obtain ⟨g', hrest, rfl⟩ := exists_of_map_eq_ok h
    exact ⟨END, g', .ends, hrest, rfl⟩
  · by_cases hesc : b = ESC_ESC
    · subst hesc
      rw [unescape_esc_esc] at h
      obtain ⟨g', hrest, rfl⟩ := exists_of_map_eq_ok h
      exact ⟨ESC, g', .escapes, hrest, rfl⟩
    · rw [unescape_bad hend hesc] at h
      cases h

/-- What is escaped is read as it is, and the rest after it. -/
theorem exists_of_unescape_escape {f rest g : List UInt8}
    (h : unescape (escape f ++ rest) = .ok g) : ∃ g', unescape rest = .ok g' ∧ g = f ++ g' := by
  rw [unescape_escape_append] at h
  exact exists_of_map_eq_ok h

/-! ## The places of a wrapped frame -/

/-- `Place f before b after` — the byte `b` stands between `before` and `after` in the escaped
    frame `f`. -/
inductive Place : List UInt8 → List UInt8 → UInt8 → List UInt8 → Prop where
  /-- A byte of the frame, sent as it is. -/
  | plain (f₁ f₂ : List UInt8) {c : UInt8} (hend : c ≠ END) (hesc : c ≠ ESC) :
      Place (f₁ ++ c :: f₂) (escape f₁) c (escape f₂)
  /-- The `ESC` in front of a stand-in. -/
  | escape (f₁ f₂ : List UInt8) {t c : UInt8} (hc : StandsFor t c) :
      Place (f₁ ++ c :: f₂) (escape f₁) ESC (t :: escape f₂)
  /-- A stand-in. -/
  | standIn (f₁ f₂ : List UInt8) {t c : UInt8} (hc : StandsFor t c) :
      Place (f₁ ++ c :: f₂) (escape f₁ ++ [ESC]) t (escape f₂)

/-- One more byte in front of a frame. -/
theorem Place.cons {f before after : List UInt8} (h : Place f before b after) (c : UInt8) :
    Place (c :: f) (Slip.escape [c] ++ before) b after := by
  cases h with
  | plain f₁ f₂ hend hesc =>
    rw [← escape_cons]
    exact .plain (c :: f₁) f₂ hend hesc
  | escape f₁ f₂ hc =>
    rw [← escape_cons]
    exact .escape (c :: f₁) f₂ hc
  | standIn f₁ f₂ hc =>
    rw [← List.append_assoc, ← escape_cons]
    exact .standIn (c :: f₁) f₂ hc

/-- **Every byte of an escaped frame has its place.** -/
theorem place_of_escape {f before after : List UInt8} (h : escape f = before ++ b :: after) :
    Place f before b after := by
  -- on the frame: the byte is among those of its first byte, or behind them
  induction f generalizing before with
  | nil =>
    cases before <;> cases h
  | cons c f ih =>
    rcases plain_or_standsFor c with ⟨hend, hesc⟩ | ⟨t, ht⟩
    · rw [escape_plain hend hesc] at h
      cases before with
      | nil =>
        cases h
        exact .plain [] f hend hesc
      | cons b' before =>
        rw [List.cons_append, List.cons.injEq] at h
        obtain ⟨rfl, h⟩ := h
        have hplace := (ih h).cons c
        rw [escape_plain hend hesc] at hplace
        exact hplace
    · rw [escape_of_standsFor ht] at h
      rcases before with _ | ⟨b', _ | ⟨b'', before⟩⟩
      · cases h
        exact .escape [] f ht
      · cases h
        exact .standIn [] f ht
      · simp only [List.cons_append, List.cons.injEq] at h
        obtain ⟨rfl, rfl, h⟩ := h
        have hplace := (ih h).cons c
        rw [escape_of_standsFor ht] at hplace
        exact hplace

end CompanionBus.Slip
