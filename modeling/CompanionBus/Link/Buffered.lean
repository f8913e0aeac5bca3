import CompanionBus.Link
/-
  A link with a receive buffer in front of it.

  Bytes that have come in stand in the buffer until somebody takes them or throws them away. What is
  in the buffer is received first, all at once and without waiting.
-/
namespace CompanionBus

/-- The state of a link, and the bytes in its receive buffer. -/
structure Buffered (σ : Type) where
  rest : σ
  input : List UInt8 := []
  deriving DecidableEq, Repr

/-- The link with a receive buffer. Throwing away what is there empties the buffer. -/
def Link.buffered {σ : Type} (l : Link σ) : Link (Buffered σ) where
  connect s := ((l.connect s.rest).1, { s with rest := (l.connect s.rest).2 })
  disconnect s := ((l.disconnect s.rest).1, { s with rest := (l.disconnect s.rest).2 })
  isConnected s := l.isConnected s.rest
  send bytes s := ((l.send bytes s.rest).1, { s with rest := (l.send bytes s.rest).2 })
  receive wait s :=
    if s.input = [] then ((l.receive wait s.rest).1, { s with rest := (l.receive wait s.rest).2 })
    else (.ok s.input, { s with input := [] })
  discard s :=
    match l.discard s.rest with
    | (.ok (), rest) => (.ok (), { rest, input := [] })
    | (.error e, rest) => (.error e, { s with rest })
  address s := l.address s.rest
  now s := l.now s.rest
  quota s := l.quota s.rest + min 1 s.input.length
  progress wait s hwait hkeeps := by
    by_cases hempty : s.input = []
    · rw [if_pos hempty] at hkeeps ⊢
      rcases l.progress wait s.rest hwait hkeeps with htime | ⟨htime, hquota⟩
      · exact Or.inl htime
      · exact Or.inr ⟨htime, Nat.add_lt_add_right hquota _⟩
    · rw [if_neg hempty]
      have hlen := List.length_pos_iff.mpr hempty
      refine Or.inr ⟨rfl, ?_⟩
      simp only [List.length_nil]
      omega

end CompanionBus
