import CompanionBus.Exchange
import CompanionBus.Proofs.Slip.Stream
/-
  Waiting for a frame, one look at the link at a time.

  1. **One turn** — `await_expired`, `await_silence`, `await_failure` and `await_chunk` say what a
     single turn of the wait does, for each way in which it can go. No later proof opens `await`.

  2. **Many turns** — `Receives` relates a link to the pieces that it hands over before the
     deadline, with any number of silent turns in between. `await_of_receives` is the invariant of
     the loop: as long as nothing is complete, the accumulator holds what pushing all the pieces at
     once would have left in it.

  3. **Errors** — a wait fails because of the link, or because the time is up (`await_eq_error`).

  4. **In front of the wait** — an exchange of frames fails before it, or is the wait
     (`transact_cases`). No later proof has to open `transact` for that.
-/
namespace CompanionBus.Exchange

variable {σ : Type} {x : Exchange} {l : Link σ} {deadline : Nat} {a : Accumulator} {s s' : σ}

/-! ## One turn -/

/-- After the deadline nothing is received. -/
theorem await_expired (h : deadline ≤ l.now s) :
    x.await l deadline a s = (.error (.timeout x.timeout), s) := by
  rw [await, dif_pos h]

/-- Before the deadline, a turn is one look at the link, and what follows from it. -/
theorem await_turn (h : l.now s < deadline) :
    x.await l deadline a s =
      match l.receive (x.wait (deadline - l.now s)) s with
      | (.error .readTimeout, s') => x.await l deadline a s'
      | (.error e, s') => (.error (.link e), s')
      | (.ok chunk, s') =>
        match a.push chunk with
        | (.error e, _) => (.error (undecodable e), s')
        | (.ok (some delimited), _) => (unwrap delimited, s')
        | (.ok none, a') => x.await l deadline a' s' := by
  rw [await, dif_neg (by omega)]
  -- the facts that the recursion keeps for its termination have to go before `hr` can be used
  split <;> dsimp only
  · rename_i hr
    rw [hr]
  · rename_i e s' hne hr
    rw [hr]
    cases e with
    | readTimeout => exact absurd rfl hne
    | _ => rfl
  · rename_i hr
    generalize l.receive (x.wait (deadline - l.now s)) s = outcome at hr ⊢
    subst hr
    rfl

theorem await_silence (h : l.now s < deadline)
    (hr : l.receive (x.wait (deadline - l.now s)) s = (.error .readTimeout, s')) :
    x.await l deadline a s = x.await l deadline a s' := by
  rw [await_turn h, hr]

theorem await_failure {e : LinkError} (h : l.now s < deadline)
    (hr : l.receive (x.wait (deadline - l.now s)) s = (.error e, s')) (he : e ≠ .readTimeout) :
    x.await l deadline a s = (.error (.link e), s') := by
  rw [await_turn h, hr]
  cases e with
  | readTimeout => exact absurd rfl he
  | _ => rfl

theorem await_chunk {chunk : List UInt8} (h : l.now s < deadline)
    (hr : l.receive (x.wait (deadline - l.now s)) s = (.ok chunk, s')) :
    x.await l deadline a s =
      match a.push chunk with
      | (.error e, _) => (.error (undecodable e), s')
      | (.ok (some delimited), _) => (unwrap delimited, s')
      | (.ok none, a') => x.await l deadline a' s' := by
  rw [await_turn h, hr]

/-! ## Many turns -/

/-- `Receives x l deadline s chunks s'` — looking at the link as `x` does, from the state `s` on,
    brings in the `chunks` one after the other and ends in `s'`. Every look is made before the
    deadline; in front of each piece there may be any number of looks that bring nothing. -/
inductive Receives (x : Exchange) (l : Link σ) (deadline : Nat) :
    σ → List (List UInt8) → σ → Prop where
  | done (s : σ) : Receives x l deadline s [] s
  | silence {s s₁ s₂ : σ} {chunk : List UInt8} {chunks : List (List UInt8)}
      (h : l.now s < deadline)
      (hr : l.receive (x.wait (deadline - l.now s)) s = (.error .readTimeout, s₁))
      (hrest : Receives x l deadline s₁ (chunk :: chunks) s₂) :
      Receives x l deadline s (chunk :: chunks) s₂
  | chunk {s s₁ s₂ : σ} {chunk : List UInt8} {chunks : List (List UInt8)}
      (h : l.now s < deadline)
      (hr : l.receive (x.wait (deadline - l.now s)) s = (.ok chunk, s₁))
      (hrest : Receives x l deadline s₁ chunks s₂) :
      Receives x l deadline s (chunk :: chunks) s₂

/-- **The invariant of the wait.** As long as the pieces complete nothing, taking them in one by one
    leaves the wait where pushing them all at once would; silent turns do not show. -/
theorem await_of_receives {chunks : List (List UInt8)}
    (h : Receives x l deadline s chunks s') :
    ∀ {a a' : Accumulator}, a.push chunks.flatten = (.ok none, a') →
      x.await l deadline a s = x.await l deadline a' s' := by
  induction h with
  | done s =>
    intro a a' hpush
    cases hpush
    rfl
  | silence hnow hr _ ih =>
    intro a a' hpush
    rw [await_silence hnow hr, ih hpush]
  | @chunk s s₁ s₂ chunk chunks hnow hr _ ih =>
    intro a a' hpush
    rw [List.flatten_cons] at hpush
    obtain ⟨b, hb⟩ := Accumulator.push_left_of_append hpush
    rw [Accumulator.push_append, hb] at hpush
    rw [await_chunk hnow hr, hb]
    exact ih hpush

/-- What brings in two lists of pieces brings in the first, and then the second. -/
theorem Receives.split {chunks chunks' : List (List UInt8)}
    (h : Receives x l deadline s (chunks ++ chunks') s') :
    ∃ s₁, Receives x l deadline s chunks s₁ ∧ Receives x l deadline s₁ chunks' s' := by
  -- on the looks at the link; a silent one leaves both lists as they are
  generalize hall : chunks ++ chunks' = all at h
  induction h generalizing chunks with
  | done s =>
    obtain ⟨rfl, rfl⟩ := List.append_eq_nil_iff.mp hall
    exact ⟨s, .done s, .done s⟩
  | silence hnow hr hrest ih =>
    cases chunks with
    | nil =>
      rw [List.nil_append] at hall
      subst hall
      exact ⟨_, .done _, .silence hnow hr hrest⟩
    | cons chunk chunks =>
      obtain ⟨s₁, hfst, hsnd⟩ := ih hall
      cases hall
      exact ⟨s₁, .silence hnow hr hfst, hsnd⟩
  | chunk hnow hr hrest ih =>
    cases chunks with
    | nil =>
      rw [List.nil_append] at hall
      subst hall
      exact ⟨_, .done _, .chunk hnow hr hrest⟩
    | cons chunk chunks =>
      cases hall
      obtain ⟨s₁, hfst, hsnd⟩ := ih rfl
      exact ⟨s₁, .chunk hnow hr hfst, hsnd⟩

/-- The piece that completes a frame ends the wait. -/
theorem await_of_completed {chunk delimited : List UInt8} {a a' : Accumulator}
    (h : Receives x l deadline s [chunk] s') (hpush : a.push chunk = (.ok (some delimited), a')) :
    x.await l deadline a s = (unwrap delimited, s') := by
  generalize hone : [chunk] = chunks at h
  induction h with
  | done s => cases hone
  | silence hnow hr _ ih => rw [await_silence hnow hr, ih hone]
  | chunk hnow hr hrest _ =>
    cases hone
    cases hrest
    rw [await_chunk hnow hr, hpush]

/-! ## Errors of a wait -/

theorem unwrap_eq_error {delimited : List UInt8} {e : ClientError}
    (h : unwrap delimited = .error e) :
    ∃ cause, e = .link cause := by
  rw [unwrap] at h
  split at h
  · cases h
    exact ⟨_, rfl⟩
  · cases h
    exact ⟨_, rfl⟩
  · cases h

/-- A wait ends in an error because of the link, or because the time is up. -/
theorem await_eq_error {e : ClientError} (h : (x.await l deadline a s).1 = .error e) :
    (∃ cause, e = .link cause) ∨ e = .timeout x.timeout := by
  -- along the turns of the wait
  fun_induction x.await l deadline a s with
  | case1 =>
    cases h
    exact Or.inr rfl
  | case2 a s _ _ s' hr _ ih => exact ih h
  | case3 =>
    cases h
    exact Or.inl ⟨_, rfl⟩
  | case4 =>
    cases h
    exact Or.inl ⟨_, rfl⟩
  | case5 => exact Or.inl (unwrap_eq_error h)
  | case6 a s _ _ chunk s' hr _ a' _ ih => exact ih h

/-! ## In front of the wait -/

section Transact

variable {question : List UInt8} {s₁ s₂ : σ} {e : LinkError}

theorem transact_of_undiscarded (hdiscard : l.discard s = (.error e, s₁)) :
    x.transact l question s = (.error (.link e), s₁) := by
  rw [transact, hdiscard]

theorem transact_of_unsent (hdiscard : l.discard s = (.ok (), s₁))
    (hsend : l.send (Slip.encode question) s₁ = (.error e, s₂)) :
    x.transact l question s = (.error (.link e), s₂) := by
  rw [transact, hdiscard]
  dsimp only
  rw [hsend]

/-- An exchange whose frame has been sent is the wait for the answer. -/
theorem transact_of_sent (hdiscard : l.discard s = (.ok (), s₁))
    (hsend : l.send (Slip.encode question) s₁ = (.ok (), s₂)) :
    x.transact l question s
      = x.await l (l.now s₂ + x.timeout) (Accumulator.ofMaxFrame maxFrame) s₂ := by
  rw [transact, hdiscard]
  dsimp only
  rw [hsend]

/-- **The three ways an exchange of frames can go**: it fails to throw away what is left over, or to
    send its frame, or it waits for the answer. -/
theorem transact_cases (x : Exchange) (l : Link σ) (question : List UInt8) (s : σ) :
    (∃ e s₁, l.discard s = (.error e, s₁) ∧
      x.transact l question s = (.error (.link e), s₁)) ∨
    (∃ e s₁ s₂, l.discard s = (.ok (), s₁) ∧
      l.send (Slip.encode question) s₁ = (.error e, s₂) ∧
      x.transact l question s = (.error (.link e), s₂)) ∨
    ∃ s₁ s₂, l.discard s = (.ok (), s₁) ∧ l.send (Slip.encode question) s₁ = (.ok (), s₂) ∧
      x.transact l question s
        = x.await l (l.now s₂ + x.timeout) (Accumulator.ofMaxFrame maxFrame) s₂ := by
  rcases hdiscard : l.discard s with ⟨e | _, s₁⟩
  · exact Or.inl ⟨e, s₁, rfl, transact_of_undiscarded hdiscard⟩
  rcases hsend : l.send (Slip.encode question) s₁ with ⟨e | _, s₂⟩
  · exact Or.inr (Or.inl ⟨e, s₁, s₂, rfl, hsend, transact_of_unsent hdiscard hsend⟩)
  · exact Or.inr (Or.inr ⟨s₁, s₂, rfl, hsend, transact_of_sent hdiscard hsend⟩)

end Transact

end CompanionBus.Exchange
