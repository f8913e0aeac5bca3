import CompanionBus.Proofs.Slip.Place
import CompanionBus.Proofs.Slip.Stream
/-
  One wrong byte on the wire, and what it makes of the frame inside.

  1. **Specification (`damage_of_wrong_byte`)** — let one byte of a wrapped frame arrive as another,
     and let the stream still give a frame. Then either a byte of the frame itself has been replaced,
     at the place where it was sent as it is; or the frame has been mangled in one of six ways
     (`Mangled`), since an escape or an end has come into being or has been lost.

  2. **Where a byte belongs (`place_of_escape`)** — a byte between the two ends is a byte of the frame
     sent as it is, an `ESC`, or the stand-in behind one.

  3. **The crux** — everything in front of the wrong byte is read as it was sent
     (`unescape_escape_append`), so only the next step of the reader, which takes one byte or two,
     can go wrong. A wrong byte that reads as `END` ends the frame; in place of the first byte it
     counts as one with the opening `END`, and the frame loses its head. Without its first or its
     last `END` no frame is found at all (`push_ne_some_of_not_mem`).
-/
namespace CompanionBus.Slip

variable {b : UInt8}

/-! ## Frames that have been mangled -/

/-- `Mangled f g` — the frame `g` is what has arrived of the frame `f`, after an escape or an end was
    made or lost on the way. -/
inductive Mangled : List UInt8 → List UInt8 → Prop where
  /-- One stand-in has become the other. -/
  | exchanged (f₁ f₂ : List UInt8) {t c u d : UInt8} (hc : StandsFor t c) (hd : StandsFor u d)
      (hne : d ≠ c) : Mangled (f₁ ++ c :: f₂) (f₁ ++ d :: f₂)
  /-- A byte has become an `ESC`, and the next one is taken for a stand-in. -/
  | merged (f₁ f₂ : List UInt8) {c t d : UInt8} (hd : StandsFor t d) :
      Mangled (f₁ ++ c :: t :: f₂) (f₁ ++ d :: f₂)
  /-- An `ESC` has become another byte, and its stand-in stands for itself. -/
  | split (f₁ f₂ : List UInt8) {c t d : UInt8} (hc : StandsFor t c) :
      Mangled (f₁ ++ c :: f₂) (f₁ ++ d :: t :: f₂)
  /-- An `END` has come up inside, and the frame ends there. -/
  | cut (f₁ f₂ : List UInt8) {c : UInt8} : Mangled (f₁ ++ c :: f₂) f₁
  /-- An `END` has come up in place of the first byte. -/
  | beheaded (f : List UInt8) {c : UInt8} : Mangled (c :: f) f
  /-- An `END` has come up in place of an `ESC` at the beginning. -/
  | bared (f : List UInt8) {t c : UInt8} (hc : StandsFor t c) : Mangled (c :: f) (t :: f)

/-- What is read up to the closing `END` when a byte has arrived as another one that is no `END`:
    a byte of the frame is replaced, or the frame is mangled. -/
theorem damage_inside {f before after g : List UInt8} {wrong : UInt8}
    (hplace : Place f before b after) (hwrong : wrong ≠ b) (hend : wrong ≠ END)
    (hread : unescape (before ++ wrong :: (after ++ [END])) = .ok g) :
    (∃ f₁ f₂, f = f₁ ++ b :: f₂ ∧ before = escape f₁ ∧ g = f₁ ++ wrong :: f₂) ∨ Mangled f g := by
  cases hplace with
  | plain f₁ f₂ hbend hbesc =>
    obtain ⟨g', hnext, rfl⟩ := exists_of_unescape_escape hread
    by_cases hesc : wrong = ESC
    · -- the reader takes the next byte along
      subst hesc
      cases f₂ with
      | nil =>
        obtain ⟨_, _, hstand, -⟩ := exists_standsFor_of_unescape hnext
        exact absurd rfl hstand.ne_end
      | cons t f₂ =>
        rcases plain_or_standsFor t with ⟨htend, htesc⟩ | ⟨u, hu⟩
        · rw [escape_plain htend htesc, List.cons_append] at hnext
          obtain ⟨d, g'', hd, hrest, rfl⟩ := exists_standsFor_of_unescape hnext
          rw [unescape_escape] at hrest
          cases hrest
          exact Or.inr (.merged f₁ f₂ hd)
        · rw [escape_of_standsFor hu] at hnext
          obtain ⟨_, _, hstand, -⟩ := exists_standsFor_of_unescape hnext
          exact absurd rfl hstand.ne_esc
    · rw [unescape_plain hend hesc, unescape_escape] at hnext
      cases hnext
      exact Or.inl ⟨f₁, f₂, rfl, rfl, rfl⟩
  | escape f₁ f₂ hc =>
    obtain ⟨g', hnext, rfl⟩ := exists_of_unescape_escape hread
    rw [unescape_plain hend hwrong, List.cons_append, unescape_plain hc.ne_end hc.ne_esc,
      unescape_escape] at hnext
    cases hnext
    exact Or.inr (.split f₁ f₂ hc)
  | standIn f₁ f₂ hc =>
    rw [List.append_assoc] at hread
    obtain ⟨g', hnext, rfl⟩ := exists_of_unescape_escape hread
    obtain ⟨d, g'', hd, hrest, rfl⟩ := exists_standsFor_of_unescape hnext
    rw [unescape_escape] at hrest
    cases hrest
    exact Or.inr (.exchanged f₁ f₂ hc hd (fun he => hwrong ((hd.eq_iff hc).mpr he)))

/-- What is read up to an `END` that has come up inside. -/
theorem damage_cut {f before after g : List UInt8} (hplace : Place f before b after)
    (hread : unescape (before ++ [END]) = .ok g) : Mangled f g := by
  cases hplace with
  | plain f₁ f₂ hbend hbesc =>
    rw [unescape_escape] at hread
    cases hread
    exact .cut _ f₂
  | escape f₁ f₂ hc =>
    rw [unescape_escape] at hread
    cases hread
    exact .cut _ f₂
  | standIn f₁ f₂ hc =>
    rw [List.append_assoc] at hread
    obtain ⟨g', hnext, rfl⟩ := exists_of_unescape_escape hread
    obtain ⟨_, _, hstand, -⟩ := exists_standsFor_of_unescape hnext
    exact absurd rfl hstand.ne_end

/-- What is read when an `END` has come up in place of the first byte. -/
theorem damage_head {f after g : List UInt8} (hplace : Place f [] b after)
    (hread : unescape (after ++ [END]) = .ok g) : Mangled f g := by
  generalize hbefore : ([] : List UInt8) = before at hplace
  cases hplace with
  | plain f₁ f₂ hbend hbesc =>
    cases f₁ with
    | nil =>
      rw [unescape_escape] at hread
      cases hread
      exact .beheaded _
    | cons c f₁ => exact absurd hbefore.symm (escape_ne_nil (List.cons_ne_nil c f₁))
  | escape f₁ f₂ hc =>
    cases f₁ with
    | nil =>
      rw [List.cons_append, unescape_plain hc.ne_end hc.ne_esc, unescape_escape] at hread
      cases hread
      exact .bared f₂ hc
    | cons c f₁ => exact absurd hbefore.symm (escape_ne_nil (List.cons_ne_nil c f₁))
  | standIn f₁ f₂ hc =>
    have hne : escape f₁ ++ [ESC] ≠ [] := List.append_ne_nil_of_right_ne_nil _ (List.cons_ne_nil _ _)
    exact absurd hbefore.symm hne

/-! ## A wrong byte in the stream -/

/-- `Yields maxFrame stream g` — the first frame that a stream brings is unwrapped as `g`. -/
def Yields (maxFrame : Nat) (stream g : List UInt8) : Prop :=
  ∃ delimited a, (Accumulator.ofMaxFrame maxFrame).push stream = (.ok (some delimited), a) ∧
    decode delimited = .ok g

/-- The frame between two `END`s is what the stream yields. -/
theorem unescape_of_yields {maxFrame : Nat} {body rest g : List UInt8} (hend : END ∉ body)
    (hne : body ≠ []) (h : Yields maxFrame (END :: (body ++ END :: rest)) g) :
    unescape (body ++ [END]) = .ok g := by
  obtain ⟨delimited, a, hpush, hdecode⟩ := h
  have hlong : 1 < ([END] ++ body).length := by
    have := List.length_pos_iff.mpr hne
    rw [List.length_append, List.length_singleton]
    omega
  rw [Accumulator.push_begin rfl] at hpush
  obtain rfl : delimited = [END] ++ body ++ [END] :=
    Accumulator.eq_of_push_inside hend (List.cons_ne_nil END []) hlong (congrArg Prod.fst hpush)
  rwa [List.append_assoc, List.singleton_append, decode, if_pos rfl] at hdecode

/-- **One wrong byte on the wire.** Where a byte of a wrapped frame arrives as another and the stream
    still yields a frame, that byte is one of the frame sent as it is, and replaced in the frame that
    arrives; or else the frame has been mangled. -/
theorem damage_of_wrong_byte {maxFrame : Nat} {f before after g : List UInt8}
    {sent received : UInt8} (hwire : encode f = before ++ sent :: after) (hwrong : received ≠ sent)
    (hyields : Yields maxFrame (before ++ received :: after) g) :
    (∃ f₁ f₂, f = f₁ ++ sent :: f₂ ∧ before = END :: escape f₁ ∧ g = f₁ ++ received :: f₂) ∨
      Mangled f g := by
  have hfree := end_not_mem_escape f
  rw [encode] at hwire
  cases before with
  | nil =>
    -- the first `END` is lost, and the last one opens a frame that never ends
    cases hwire
    obtain ⟨delimited, a, hpush, -⟩ := hyields
    rw [List.nil_append, Accumulator.push_noise rfl hwrong,
      Accumulator.push_noise_append rfl hfree] at hpush
    cases hpush
  | cons first before =>
    rw [List.cons_append, List.cons.injEq] at hwire
    obtain ⟨rfl, hwire⟩ := hwire
    rcases List.eq_nil_or_concat after with rfl | ⟨after, last, rfl⟩
    · -- the last `END` is lost
      obtain ⟨rfl, hsent⟩ := List.append_inj' hwire rfl
      cases hsent
      obtain ⟨delimited, a, hpush, -⟩ := hyields
      rw [List.cons_append, Accumulator.push_begin rfl] at hpush
      have hnone : END ∉ escape f ++ [received] := by
        simp only [List.mem_append, List.mem_singleton, not_or]
        exact ⟨hfree, hwrong.symm⟩
      exact absurd (congrArg Prod.fst hpush) (Accumulator.push_ne_some_of_not_mem hnone _ _)
    · rw [List.concat_eq_append] at hwire hyields
      rw [← List.cons_append, ← List.append_assoc] at hwire
      obtain ⟨hinside, hlast⟩ := List.append_inj' hwire rfl
      cases hlast
      have hplace := place_of_escape hinside
      rw [hinside] at hfree
      simp only [List.mem_append, List.mem_cons, not_or] at hfree
      by_cases hend : received = END
      · subst hend
        cases before with
        | nil =>
          -- both `END`s count as one
          rw [List.cons_append, List.nil_append, Yields] at hyields
          rw [Accumulator.push_begin rfl, Accumulator.push_again rfl,
            ← Accumulator.push_begin rfl] at hyields
          cases after with
          | nil =>
            obtain ⟨delimited, a, hpush, -⟩ := hyields
            cases hpush
          | cons b after =>
            exact Or.inr (damage_head hplace
              (unescape_of_yields hfree.2.2 (List.cons_ne_nil b after) hyields))
        | cons b before =>
          exact Or.inr (damage_cut hplace
            (unescape_of_yields hfree.1 (List.cons_ne_nil b before) hyields))
      · have hnone : END ∉ before ++ received :: after := by
          simp only [List.mem_append, List.mem_cons, not_or]
          exact ⟨hfree.1, fun he => hend he.symm, hfree.2.2⟩
        have hne : before ++ received :: after ≠ [] :=
          List.append_ne_nil_of_right_ne_nil _ (List.cons_ne_nil _ _)
        have hread := unescape_of_yields hnone hne (by simpa using hyields)
        rw [List.append_assoc, List.cons_append] at hread
        rcases damage_inside hplace hwrong hend hread with ⟨f₁, f₂, hf, hbefore, hg⟩ | hmangled
        · exact Or.inl ⟨f₁, f₂, hf, by rw [hbefore], hg⟩
        · exact Or.inr hmangled

end CompanionBus.Slip
