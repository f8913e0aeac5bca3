import CompanionBus.Proofs.Slip.Stream
/-
  What a stream has to contain for anything to come of it.

  1. **Specification** (`push_eq_none_iff`) — an accumulator decides something exactly if the stream
     contains a frame between two `END`s (`HasFrame`), or more bytes behind an `END` than a frame can
     take (`Overflows`). Both are said of the stream alone, wherever in it they occur. Noise, `END`s
     and the beginning of a frame contain neither (`push_partial`).

  2. **The crux** — the buffer is part of the stream: it is the bytes since the last `END`
     (`Accumulator.Begun`). So the induction is on the bytes to come, about the buffer and these
     bytes put together; a byte that is kept only moves over from the one to the other.
-/
namespace CompanionBus

namespace Slip

/-! ## Streams with something in them -/

/-- A frame is complete in the stream: two `END`s have other bytes in between. -/
def HasFrame (stream : List UInt8) : Prop :=
  ∃ before body after,
    stream = before ++ END :: (body ++ END :: after) ∧ body ≠ [] ∧ END ∉ body

/-- The stream has a run of more than `limit` bytes behind an `END`. -/
def Overflows (limit : Nat) (stream : List UInt8) : Prop :=
  ∃ before body after,
    stream = before ++ END :: (body ++ after) ∧ END ∉ body ∧ limit < body.length

variable {stream body : List UInt8} {b : UInt8} {limit : Nat}

/-- What is in a stream is in every longer one. -/
theorem HasFrame.cons (h : HasFrame stream) : HasFrame (b :: stream) := by
  obtain ⟨before, body, after, rfl, hne, hbody⟩ := h
  exact ⟨b :: before, body, after, rfl, hne, hbody⟩

theorem Overflows.cons (h : Overflows limit stream) : Overflows limit (b :: stream) := by
  obtain ⟨before, body, after, rfl, hbody, hlong⟩ := h
  exact ⟨b :: before, body, after, rfl, hbody, hlong⟩

/-- A byte in front of the first `END` makes no difference. -/
theorem hasFrame_noise (hb : b ≠ END) : HasFrame (b :: stream) ↔ HasFrame stream := by
  refine ⟨fun ⟨before, body, after, hstream, hne, hbody⟩ => ?_, HasFrame.cons⟩
  cases before with
  | nil => exact absurd (List.head_eq_of_cons_eq hstream) hb
  | cons c before => exact ⟨before, body, after, List.tail_eq_of_cons_eq hstream, hne, hbody⟩

theorem overflows_noise (hb : b ≠ END) :
    Overflows limit (b :: stream) ↔ Overflows limit stream := by
  refine ⟨fun ⟨before, body, after, hstream, hbody, hlong⟩ => ?_, Overflows.cons⟩
  cases before with
  | nil => exact absurd (List.head_eq_of_cons_eq hstream) hb
  | cons c before => exact ⟨before, body, after, List.tail_eq_of_cons_eq hstream, hbody, hlong⟩

/-- Of several `END`s in a row only the last counts. -/
theorem hasFrame_again : HasFrame (END :: END :: stream) ↔ HasFrame (END :: stream) := by
  refine ⟨fun ⟨before, body, after, hstream, hne, hbody⟩ => ?_, HasFrame.cons⟩
  cases before with
  | nil =>
    obtain ⟨c, body, rfl⟩ := List.exists_cons_of_ne_nil hne
    have hc : END = c := List.head_eq_of_cons_eq (List.tail_eq_of_cons_eq hstream)
    exact absurd (hc ▸ List.mem_cons_self) hbody
  | cons c before => exact ⟨before, body, after, List.tail_eq_of_cons_eq hstream, hne, hbody⟩

theorem overflows_again :
    Overflows limit (END :: END :: stream) ↔ Overflows limit (END :: stream) := by
  refine ⟨fun ⟨before, body, after, hstream, hbody, hlong⟩ => ?_, Overflows.cons⟩
  cases before with
  | nil =>
    obtain ⟨c, body, rfl⟩ := List.exists_cons_of_length_pos (l := body) (by omega)
    have hc : END = c := List.head_eq_of_cons_eq (List.tail_eq_of_cons_eq hstream)
    exact absurd (hc ▸ List.mem_cons_self) hbody
  | cons c before => exact ⟨before, body, after, List.tail_eq_of_cons_eq hstream, hbody, hlong⟩

/-- Where an `END` can stand if it stands nowhere behind the first byte. -/
theorem eq_nil_of_begun {before rest : List UInt8} (hbody : END ∉ body)
    (h : END :: body = before ++ END :: rest) : before = [] ∧ rest = body := by
  cases before with
  | nil => exact ⟨rfl, (List.tail_eq_of_cons_eq h).symm⟩
  | cons c before =>
    have hmem : END ∈ body := by
      rw [show body = before ++ END :: rest from List.tail_eq_of_cons_eq h]
      exact List.mem_append_right _ List.mem_cons_self
    exact absurd hmem hbody

/-- The beginning of a frame is no frame. -/
theorem not_hasFrame_begun (hbody : END ∉ body) : ¬ HasFrame (END :: body) := by
  rintro ⟨before, body', after, hstream, -, -⟩
  obtain ⟨-, hrest⟩ := eq_nil_of_begun hbody hstream
  exact hbody (hrest ▸ List.mem_append_right _ List.mem_cons_self)

theorem not_overflows_begun (hbody : END ∉ body) (hlen : body.length ≤ limit) :
    ¬ Overflows limit (END :: body) := by
  rintro ⟨before, body', after, hstream, -, hlong⟩
  obtain ⟨-, hrest⟩ := eq_nil_of_begun hbody hstream
  rw [← hrest, List.length_append] at hlen
  omega

end Slip

/-! ## What an accumulator makes of it -/

namespace Accumulator

open Slip (HasFrame Overflows)

/-- `a.Begun maxFrame` — the accumulator is for frames of at most `maxFrame` bytes, and holds nothing
    or the beginning of one. -/
structure Begun (maxFrame : Nat) (a : Accumulator) : Prop where
  limit : a.limit ≤ 2 * maxFrame + 2
  buffer : a.buffer = [] ∨
    ∃ body, a.buffer = Slip.END :: body ∧ Slip.END ∉ body ∧ body.length ≤ 2 * maxFrame

variable {a : Accumulator} {maxFrame : Nat}

theorem begun_ofMaxFrame (maxFrame : Nat) : (ofMaxFrame maxFrame).Begun maxFrame :=
  ⟨limit_ofMaxFrame_le maxFrame, Or.inl rfl⟩

/-- What is in the buffer has not been decided. -/
theorem Begun.not_decided (h : a.Begun maxFrame) :
    ¬ HasFrame a.buffer ∧ ¬ Overflows (2 * maxFrame) a.buffer := by
  rcases h.buffer with hempty | ⟨body, hbuffer, hbody, hlen⟩
  · rw [hempty]
    refine ⟨?_, ?_⟩
    · rintro ⟨before, _, _, hstream, -⟩
      exact absurd hstream.symm (List.append_ne_nil_of_right_ne_nil before (List.cons_ne_nil _ _))
    · rintro ⟨before, _, _, hstream, -⟩
      exact absurd hstream.symm (List.append_ne_nil_of_right_ne_nil before (List.cons_ne_nil _ _))
  · rw [hbuffer]
    exact ⟨Slip.not_hasFrame_begun hbody, Slip.not_overflows_begun hbody hlen⟩

/-- A buffer that is not empty holds the beginning of a frame. -/
theorem Begun.exists_body (h : a.Begun maxFrame) (hne : a.buffer ≠ []) :
    ∃ body, a.buffer = Slip.END :: body ∧ Slip.END ∉ body ∧ body.length ≤ 2 * maxFrame :=
  h.buffer.resolve_left hne

theorem Begun.opened (h : a.Begun maxFrame) : Begun maxFrame { a with buffer := [Slip.END] } :=
  ⟨h.limit, Or.inr ⟨[], rfl, List.not_mem_nil, Nat.zero_le _⟩⟩

/-- One more byte in the beginning of a frame. -/
theorem Begun.kept (h : a.Begun maxFrame) (hne : a.buffer ≠ []) {b : UInt8} (hb : b ≠ Slip.END)
    (hroom : a.buffer.length + 1 < a.limit) :
    Begun maxFrame { a with buffer := a.buffer ++ [b] } := by
  obtain ⟨body, hbuffer, hbody, -⟩ := h.exists_body hne
  have hlimit := h.limit
  rw [hbuffer, List.length_cons] at hroom
  refine ⟨hlimit, Or.inr ⟨body ++ [b], by rw [hbuffer]; rfl, ?_, ?_⟩⟩
  · simp only [List.mem_append, List.mem_singleton, not_or]
    exact ⟨hbody, fun he => hb he.symm⟩
  · rw [List.length_append, List.length_singleton]
    omega

/-- A byte for which there is no room is one too many, if the limit is not too small. -/
theorem Begun.overflows (h : a.Begun maxFrame) (hlimit : 2 * maxFrame + 2 ≤ a.limit)
    (hne : a.buffer ≠ []) {b : UInt8} (hb : b ≠ Slip.END)
    (hfull : a.limit ≤ a.buffer.length + 1) (stream : List UInt8) :
    Overflows (2 * maxFrame) (a.buffer ++ b :: stream) := by
  obtain ⟨body, hbuffer, hbody, -⟩ := h.exists_body hne
  rw [hbuffer, List.length_cons] at hfull
  refine ⟨[], body ++ [b], stream, ?_, ?_, ?_⟩
  · rw [hbuffer, List.append_assoc, List.singleton_append]
    rfl
  · simp only [List.mem_append, List.mem_singleton, not_or]
    exact ⟨hbody, fun he => hb he.symm⟩
  · rw [List.length_append, List.length_singleton]
    omega

/-- An `END` behind something else completes a frame. -/
theorem Begun.hasFrame (h : a.Begun maxFrame) (hlong : 1 < a.buffer.length)
    (stream : List UInt8) : HasFrame (a.buffer ++ Slip.END :: stream) := by
  have hne : a.buffer ≠ [] := fun hempty => by rw [hempty] at hlong; cases hlong
  obtain ⟨body, hbuffer, hbody, -⟩ := h.exists_body hne
  refine ⟨[], body, stream, by rw [hbuffer]; rfl, fun hempty => ?_, hbody⟩
  rw [hbuffer, hempty] at hlong
  exact absurd hlong (by decide)

/-- **An accumulator decides nothing exactly if the stream contains nothing**: neither a complete
    frame, nor one that is too long. -/
theorem push_eq_none_iff (stream : List UInt8) : ∀ {a : Accumulator}, a.Begun maxFrame →
    2 * maxFrame + 2 ≤ a.limit → ((a.push stream).1 = .ok none ↔
      ¬ HasFrame (a.buffer ++ stream) ∧ ¬ Overflows (2 * maxFrame) (a.buffer ++ stream)) := by
  -- on the bytes to come; the cases are the branches that the first of them can take
  induction stream with
  | nil =>
    intro a h _
    rw [List.append_nil]
    exact iff_of_true rfl h.not_decided
  | cons b stream ih =>
    intro a h hlimit
    by_cases hempty : a.buffer = []
    · by_cases hb : b = Slip.END
      · subst hb
        rw [push_begin hempty, ih h.opened hlimit, hempty]
        rfl
      · rw [push_noise hempty hb, ih h hlimit, hempty, List.nil_append, List.nil_append,
          Slip.hasFrame_noise hb, Slip.overflows_noise hb]
    · by_cases hb : b = Slip.END
      · subst hb
        rcases Nat.lt_or_ge 1 a.buffer.length with hlong | hshort
        · rw [push_close hlong]
          exact iff_of_false nofun (fun hnot => hnot.1 (h.hasFrame hlong stream))
        · -- the buffer holds an `END` and nothing else
          obtain ⟨body, hbuffer, -, -⟩ := h.exists_body hempty
          rw [hbuffer, List.length_cons] at hshort
          obtain rfl : body = [] := List.length_eq_zero_iff.mp (by omega)
          have hone : a.buffer.length = 1 := by rw [hbuffer]; rfl
          rw [push_again hone, ih h hlimit, hbuffer]
          exact and_congr (not_congr Slip.hasFrame_again.symm) (not_congr Slip.overflows_again.symm)
      · rcases Nat.lt_or_ge (a.buffer.length + 1) a.limit with hroom | hfull
        · -- the byte moves over to the buffer
          rw [push_keep hempty hb hroom, ih (h.kept hempty hb hroom) hlimit]
          dsimp only
          rw [List.append_assoc, List.singleton_append]
        · rw [push_overflow hempty hb hfull]
          exact iff_of_false nofun
            (fun hnot => hnot.2 (h.overflows hlimit hempty hb hfull stream))

/-- **Noise, `END`s and the beginning of a frame decide nothing.** -/
theorem push_partial {noise part : List UInt8} (hfits : Fits maxFrame)
    (hnoise : Slip.END ∉ noise) (hpart : Slip.END ∉ part) (hlen : part.length ≤ 2 * maxFrame)
    (k : Nat) :
    ((ofMaxFrame maxFrame).push (noise ++ (List.replicate k Slip.END ++ part))).1 = .ok none := by
  rw [push_noise_append rfl hnoise]
  cases k with
  | zero =>
    have hall := push_noise_append (a := ofMaxFrame maxFrame) rfl hpart []
    rw [List.append_nil] at hall
    rw [List.replicate_zero, List.nil_append, hall]
    rfl
  | succ k =>
    have hroom : 1 + part.length < (ofMaxFrame maxFrame).limit := by
      rw [limit_ofMaxFrame hfits]
      omega
    have hinside := push_inside hpart [] { ofMaxFrame maxFrame with buffer := [Slip.END] }
      (List.cons_ne_nil _ _) hroom
    rw [List.append_nil] at hinside
    rw [List.replicate_succ, List.cons_append, push_begin rfl, push_ends rfl, hinside]
    rfl

end Accumulator

end CompanionBus
