import CompanionBus.Proofs.Exchange.Delivery
import CompanionBus.Proofs.Slip.Bijection
import CompanionBus.Proofs.Slip.Invariant
/-
  How a wait ends, by the bytes that have come in.

  1. **What the bytes decide** — `Ends stream result` says of a stream that it decides, and what a
     wait comes to then: the frame in it, or an error for an escape that is wrong, or an error for
     too many bytes. That is all a stream can decide; an empty frame, for one, is never made out.

  2. **What decides otherwise** — `Fails` tells how a wait ends from a state on in which nothing more
     comes: the link breaks down, or the deadline comes.

  3. **Specification** — bytes that come in in time and decide end the wait as they say, whatever
     comes behind them (`ends_of_place`). And every wait ends in one of the two ways
     (`exists_ends`).

  4. **The proof** — for any accumulator, along the turns of the wait (`exists_conclusion`): a turn
     that decides nothing hands on the bytes so far in the accumulator. What a new accumulator comes
     to is the verdict on all the bytes.
-/
namespace CompanionBus

/-! ## What a stream decides -/

namespace Accumulator

/-- As long as the verdict has no place, nothing comes out. -/
theorem push_of_place_eq_none {stream : List UInt8}
    (h : (Slip.verdict maxFrame stream).place? = none) :
    ∃ a, (ofMaxFrame maxFrame).push stream = (.ok none, a) := by
  rcases push_verdict fits_maxFrame stream with ⟨a, -, hpush⟩ | ⟨place, hplace, -⟩
  · exact ⟨a, hpush⟩
  · cases h.symm.trans hplace

end Accumulator

namespace Slip

/-- The body of a frame in a stream. -/
theorem body_of_verdict {place : Nat} {stream body : List UInt8}
    (h : verdict maxFrame stream = .frame body place) :
    END ∉ body ∧ body ≠ [] ∧ body.length ≤ 2 * maxFrame := by
  have hpush := Accumulator.push_fst_eq Accumulator.fits_maxFrame stream
  rw [h] at hpush
  obtain ⟨body', hdelimited, hfree, hne, hlen⟩ :=
    (Accumulator.begun_ofMaxFrame maxFrame).delimited_of_push (Prod.ext hpush rfl)
  obtain rfl : body = body' := List.append_cancel_right (List.tail_eq_of_cons_eq hdelimited)
  exact ⟨hfree, hne, hlen⟩

end Slip

namespace Exchange

variable {σ : Type} {x : Exchange} {l : Link σ} {deadline : Nat} {s s' : σ}
  {chunks : List (List UInt8)} {stream : List UInt8} {e : ClientError}
  {result : Except ClientError (List UInt8)}

/-- `Ends stream result` — the stream decides, and a wait in which it has come in ends so. -/
inductive Ends (stream : List UInt8) : Except ClientError (List UInt8) → Prop where
  | frame {frame : List UInt8} {place : Nat}
      (h : Slip.verdict maxFrame stream = .frame (Slip.escape frame) place) :
      Ends stream (.ok frame)
  | badEscape {body : List UInt8} {place : Nat} {e : ProtocolError}
      (h : Slip.verdict maxFrame stream = .frame body place)
      (hbad : Slip.BadEscape (body ++ [Slip.END])) : Ends stream (.error (undecodable e))
  | tooLong {place : Nat} (h : Slip.verdict maxFrame stream = .tooLong place) :
      Ends stream (.error (undecodable (.frameTooLarge (Slip.maxEncodedLength maxFrame)
        (Slip.maxEncodedLength maxFrame))))

/-- What a wait comes to when its accumulator has come to something. -/
def conclude : Except ProtocolError (Option (List UInt8)) →
    Option (Except ClientError (List UInt8))
  | .error e => some (.error (undecodable e))
  | .ok (some delimited) => some (unwrap delimited)
  | .ok none => none

/-- What stands between two `END`s is unwrapped, or has a bad escape. -/
theorem unwrap_cases {body : List UInt8} (hbody : Slip.END ∉ body) (hne : body ≠ []) :
    (∃ frame, body = Slip.escape frame ∧ unwrap (Slip.END :: (body ++ [Slip.END])) = .ok frame) ∨
      (Slip.BadEscape (body ++ [Slip.END]) ∧
        ∃ e, unwrap (Slip.END :: (body ++ [Slip.END])) = .error (undecodable e)) := by
  rcases Slip.escaped_or_refused body hbody with ⟨frame, rfl⟩ | ⟨hbad, e, he⟩
  · have hframe : frame ≠ [] := by
      rintro rfl
      exact hne rfl
    exact Or.inl ⟨frame, rfl, unwrap_encode hframe⟩
  · refine Or.inr ⟨hbad, e, ?_⟩
    rw [unwrap, Slip.decode, if_pos rfl, he]

/-- **A stream concludes in one of three ways**, or it decides nothing. -/
theorem ends_of_conclude
    (h : conclude ((Accumulator.ofMaxFrame maxFrame).push stream).1 = some result) :
    Ends stream result := by
  rw [Accumulator.push_fst_eq Accumulator.fits_maxFrame] at h
  cases hverdict : Slip.verdict maxFrame stream with
  | nothing pending =>
    rw [hverdict] at h
    cases h
  | tooLong place =>
    rw [hverdict] at h
    cases h
    exact .tooLong hverdict
  | frame body place =>
    rw [hverdict] at h
    obtain ⟨hbody, hne, -⟩ := Slip.body_of_verdict hverdict
    have hresult : unwrap (Slip.END :: (body ++ [Slip.END])) = result := Option.some.inj h
    rcases unwrap_cases hbody hne with ⟨frame, rfl, hunwrap⟩ | ⟨hbad, e, hunwrap⟩
    · rw [← hresult, hunwrap]
      exact .frame hverdict
    · rw [← hresult, hunwrap]
      exact .badEscape hverdict hbad

/-! ## The wait -/

/-- Bytes that decide end the wait, whatever there is behind them. -/
theorem conclude_of_receives (h : Receives x l deadline s chunks s') :
    ∀ {a : Accumulator}, conclude (a.push chunks.flatten).1 = some result →
      (x.await l deadline a s).1 = result := by
  induction h with
  | done s =>
    intro a hconclude
    cases hconclude
  | silence hnow hr _ ih =>
    intro a hconclude
    rw [await_silence hnow hr]
    exact ih hconclude
  | @chunk s s₁ s₂ chunk chunks hnow hr _ ih =>
    intro a hconclude
    rw [List.flatten_cons, Accumulator.push_append] at hconclude
    rw [await_chunk hnow hr]
    rcases hpush : a.push chunk with ⟨e | _ | delimited, a'⟩
    all_goals rw [hpush] at hconclude
    · exact Option.some.inj hconclude
    · exact ih hconclude
    · exact Option.some.inj hconclude

/-- `Fails x l deadline s e` — looking at the link as `x` does, from the state `s` on, brings nothing
    more, and then the wait fails with `e`: the deadline has come, or the link has broken down. -/
inductive Fails (x : Exchange) (l : Link σ) (deadline : Nat) : σ → ClientError → Prop where
  | expired {s : σ} (h : deadline ≤ l.now s) : Fails x l deadline s (.timeout x.timeout)
  | broken {s s' : σ} {e : LinkError} (h : l.now s < deadline)
      (hr : l.receive (x.wait (deadline - l.now s)) s = (.error e, s')) (he : e ≠ .readTimeout) :
      Fails x l deadline s (.link e)
  | silence {s s' : σ} {e : ClientError} (h : l.now s < deadline)
      (hr : l.receive (x.wait (deadline - l.now s)) s = (.error .readTimeout, s'))
      (hrest : Fails x l deadline s' e) : Fails x l deadline s e

/-- A wait that fails ends with the error, whatever it has collected. -/
theorem Fails.await_eq (h : Fails x l deadline s e) {a : Accumulator} :
    (x.await l deadline a s).1 = .error e := by
  induction h with
  | expired h => rw [await_expired h]
  | broken h hr he => rw [await_failure h hr he]
  | silence h hr _ ih => rw [await_silence h hr, ih]

/-- A wait with any accumulator ends in one of two ways: some bytes have come in that decide, or some
    that do not, and nothing more comes. -/
theorem exists_conclusion (x : Exchange) (l : Link σ) (deadline : Nat) (a : Accumulator) (s : σ) :
    ∃ chunks s', Receives x l deadline s chunks s' ∧
      (conclude (a.push chunks.flatten).1 = some (x.await l deadline a s).1 ∨
        (conclude (a.push chunks.flatten).1 = none ∧
          ∃ e, Fails x l deadline s' e ∧ (x.await l deadline a s).1 = .error e)) := by
  -- along the turns of the wait
  fun_induction x.await l deadline a s with
  | case1 a s h => exact ⟨[], s, .done s, Or.inr ⟨rfl, _, .expired h, rfl⟩⟩
  | case2 a s h _ s₁ hr _ ih =>
    have hnow : l.now s < deadline := Nat.lt_of_not_le h
    obtain ⟨chunks, s', hreceives, hend⟩ := ih
    cases chunks with
    | nil =>
      cases hreceives
      refine ⟨[], s, .done s, ?_⟩
      rcases hend with hsome | ⟨hnone, e, hfails, hresult⟩
      · cases hsome
      · exact Or.inr ⟨hnone, e, .silence hnow hr hfails, hresult⟩
    | cons chunk chunks => exact ⟨_, s', .silence hnow hr hreceives, hend⟩
  | case3 a s h _ e s₁ he hr =>
    exact ⟨[], s, .done s, Or.inr ⟨rfl, _, .broken (Nat.lt_of_not_le h) hr he, rfl⟩⟩
  | case4 a s h _ chunk s₁ hr _ e a' hpush =>
    refine ⟨[chunk], s₁, .chunk (Nat.lt_of_not_le h) hr (.done s₁), Or.inl ?_⟩
    rw [List.flatten_singleton, hpush]
    rfl
  | case5 a s h _ chunk s₁ hr _ delimited a' hpush =>
    refine ⟨[chunk], s₁, .chunk (Nat.lt_of_not_le h) hr (.done s₁), Or.inl ?_⟩
    rw [List.flatten_singleton, hpush]
    rfl
  | case6 a s h _ chunk s₁ hr _ a' hpush ih =>
    obtain ⟨chunks, s', hreceives, hend⟩ := ih
    refine ⟨chunk :: chunks, s', .chunk (Nat.lt_of_not_le h) hr hreceives, ?_⟩
    rw [List.flatten_cons, Accumulator.push_append, hpush]
    exact hend

/-! ## The wait with a new accumulator -/

/-- What decides is what the verdict has a place for. -/
theorem conclude_eq_none_iff :
    conclude ((Accumulator.ofMaxFrame maxFrame).push stream).1 = none ↔
      (Slip.verdict maxFrame stream).place? = none := by
  rw [Accumulator.push_fst_eq Accumulator.fits_maxFrame]
  cases Slip.verdict maxFrame stream with
  | nothing pending => exact iff_of_true rfl rfl
  | frame body place => exact iff_of_false nofun nofun
  | tooLong place => exact iff_of_false nofun nofun

/-- **Bytes that decide end the wait as they say.** -/
theorem ends_of_place (h : Receives x l deadline s chunks s')
    (hplace : (Slip.verdict maxFrame chunks.flatten).place? ≠ none) :
    Ends chunks.flatten (x.await l deadline (Accumulator.ofMaxFrame maxFrame) s).1 := by
  cases hconclude : conclude ((Accumulator.ofMaxFrame maxFrame).push chunks.flatten).1 with
  | none => exact absurd (conclude_eq_none_iff.mp hconclude) hplace
  | some result =>
    rw [conclude_of_receives h hconclude]
    exact ends_of_conclude hconclude

/-- **Every wait ends in one of two ways**: some bytes have come in that decide, or some that do not,
    and nothing more comes. -/
theorem exists_ends (x : Exchange) (l : Link σ) (deadline : Nat) (s : σ) :
    ∃ chunks s', Receives x l deadline s chunks s' ∧
      (((Slip.verdict maxFrame chunks.flatten).place? ≠ none ∧
          Ends chunks.flatten (x.await l deadline (Accumulator.ofMaxFrame maxFrame) s).1) ∨
        ((Slip.verdict maxFrame chunks.flatten).place? = none ∧ ∃ e, Fails x l deadline s' e ∧
          (x.await l deadline (Accumulator.ofMaxFrame maxFrame) s).1 = .error e)) := by
  obtain ⟨chunks, s', hreceives, hsome | ⟨hnone, hfails⟩⟩ :=
    exists_conclusion x l deadline (Accumulator.ofMaxFrame maxFrame) s
  · refine ⟨chunks, s', hreceives, Or.inl ⟨fun hplace => ?_, ends_of_conclude hsome⟩⟩
    rw [conclude_eq_none_iff.mpr hplace] at hsome
    cases hsome
  · exact ⟨chunks, s', hreceives, Or.inr ⟨conclude_eq_none_iff.mp hnone, hfails⟩⟩

end Exchange

end CompanionBus
