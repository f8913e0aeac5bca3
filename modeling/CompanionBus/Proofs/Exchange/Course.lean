import CompanionBus.Link.Recorded
import CompanionBus.Proofs.Exchange.Await
/-
  The calls that an exchange makes, and the turns that its wait takes.

  1. **The course of a wait** — `Course` tells, turn by turn, which looks are made and what comes of
     them. A wait takes such a course, and its looks are all that it calls (`exists_course`).

  2. **The calls of an exchange** — `Exchanged` lists them for each way in which an exchange can go:
     it throws away what is left over, then sends its frame, then looks. Each call is made only if
     the one before it has succeeded, and none but the looks is made twice (`transact_exchanged`).
-/
namespace CompanionBus

variable {σ : Type} {l : Link σ} {s s' : σ}

/-- `Exchanged l s f made` — `made` are the calls of an exchange of the frame `f`, begun while the
    link is in the state `s`. -/
inductive Exchanged (l : Link σ) (s : σ) (f : List UInt8) : List LinkCall → Prop where
  | undiscarded {e : LinkError} (h : (l.discard s).1 = .error e) : Exchanged l s f [.discard]
  | unsent {e : LinkError} {s₁ : σ} (hdiscard : l.discard s = (.ok (), s₁))
      (hsend : (l.send (Slip.encode f) s₁).1 = .error e) :
      Exchanged l s f [.discard, .send (Slip.encode f)]
  | sent {s₁ s₂ : σ} (hdiscard : l.discard s = (.ok (), s₁))
      (hsend : l.send (Slip.encode f) s₁ = (.ok (), s₂)) (waits : List Nat) :
      Exchanged l s f (.discard :: .send (Slip.encode f) :: waits.map .receive)

namespace Exchange

variable {x : Exchange} {deadline : Nat} {a : Accumulator}

/-! ## The course of a wait -/

/-- `Course x l deadline a s waits result s'` — waiting for a frame with the accumulator `a`, from
    the state `s` on, takes looks of the lengths `waits` and ends with `result` in the state `s'`. -/
inductive Course (x : Exchange) (l : Link σ) (deadline : Nat) :
    Accumulator → σ → List Nat → Except ClientError (List UInt8) → σ → Prop where
  | expired {a : Accumulator} {s : σ} (h : deadline ≤ l.now s) :
      Course x l deadline a s [] (.error (.timeout x.timeout)) s
  | failure {a : Accumulator} {s s' : σ} {e : LinkError} (h : l.now s < deadline)
      (hr : l.receive (x.wait (deadline - l.now s)) s = (.error e, s')) (he : e ≠ .readTimeout) :
      Course x l deadline a s [x.wait (deadline - l.now s)] (.error (.link e)) s'
  | decided {a : Accumulator} {s s' : σ} {chunk : List UInt8}
      {result : Except ClientError (List UInt8)} (h : l.now s < deadline)
      (hr : l.receive (x.wait (deadline - l.now s)) s = (.ok chunk, s'))
      (hpush : (a.push chunk).1 ≠ .ok none) (hresult : result ≠ .error (.timeout x.timeout)) :
      Course x l deadline a s [x.wait (deadline - l.now s)] result s'
  | silence {a : Accumulator} {s s₁ s' : σ} {waits : List Nat}
      {result : Except ClientError (List UInt8)} (h : l.now s < deadline)
      (hr : l.receive (x.wait (deadline - l.now s)) s = (.error .readTimeout, s₁))
      (hrest : Course x l deadline a s₁ waits result s') :
      Course x l deadline a s (x.wait (deadline - l.now s) :: waits) result s'
  | kept {a a' : Accumulator} {s s₁ s' : σ} {chunk : List UInt8} {waits : List Nat}
      {result : Except ClientError (List UInt8)} (h : l.now s < deadline)
      (hr : l.receive (x.wait (deadline - l.now s)) s = (.ok chunk, s₁))
      (hpush : a.push chunk = (.ok none, a')) (hrest : Course x l deadline a' s₁ waits result s') :
      Course x l deadline a s (x.wait (deadline - l.now s) :: waits) result s'

/-- A look at a link that writes its calls down is a look at the link. -/
theorem receive_recorded {wait : Nat} {s s' : Recorded σ} {r : Except LinkError (List UInt8)}
    (h : l.recorded.receive wait s = (r, s')) :
    l.receive wait s.state = (r, s'.state) ∧ s'.calls = s.calls ++ [.receive wait] := by
  cases h
  exact ⟨rfl, rfl⟩

/-- What an answer is unwrapped to never looks like a timeout. -/
theorem unwrap_ne_timeout (delimited : List UInt8) (millis : Nat) :
    unwrap delimited ≠ .error (.timeout millis) := by
  intro h
  obtain ⟨cause, hcause⟩ := unwrap_eq_error h
  cases hcause

/-- **A wait takes a course**, and its looks are the calls that it makes. -/
theorem exists_course (x : Exchange) (l : Link σ) (deadline : Nat) (a : Accumulator)
    (s : Recorded σ) :
    ∃ waits, Course x l deadline a s.state waits (x.await l.recorded deadline a s).1
        (x.await l.recorded deadline a s).2.state ∧
      (x.await l.recorded deadline a s).2.calls = s.calls ++ waits.map .receive := by
  -- along the turns of the wait, each of which is one look
  fun_induction x.await l.recorded deadline a s with
  | case1 a s h => exact ⟨[], .expired h, (List.append_nil _).symm⟩
  | case2 a s h _ s' hr _ ih =>
    obtain ⟨hlook, hcall⟩ := receive_recorded hr
    obtain ⟨waits, hcourse, hcalls⟩ := ih
    refine ⟨_, .silence (Nat.lt_of_not_le h) hlook hcourse, ?_⟩
    rw [hcalls, hcall, List.append_assoc]
    rfl
  | case3 a s h _ e s' he hr =>
    obtain ⟨hlook, hcall⟩ := receive_recorded hr
    exact ⟨_, .failure (Nat.lt_of_not_le h) hlook he, hcall⟩
  | case4 a s h _ chunk s' hr _ e a' hpush =>
    obtain ⟨hlook, hcall⟩ := receive_recorded hr
    refine ⟨_, .decided (Nat.lt_of_not_le h) hlook (fun hnone => ?_) (fun htime => ?_), hcall⟩
    · rw [hpush] at hnone
      cases hnone
    · cases htime
  | case5 a s h _ chunk s' hr _ delimited a' hpush =>
    obtain ⟨hlook, hcall⟩ := receive_recorded hr
    refine ⟨_, .decided (Nat.lt_of_not_le h) hlook (fun hnone => ?_)
      (unwrap_ne_timeout delimited x.timeout), hcall⟩
    rw [hpush] at hnone
    cases hnone
  | case6 a s h _ chunk s' hr _ a' hpush ih =>
    obtain ⟨hlook, hcall⟩ := receive_recorded hr
    obtain ⟨waits, hcourse, hcalls⟩ := ih
    refine ⟨_, .kept (Nat.lt_of_not_le h) hlook hpush hcourse, ?_⟩
    rw [hcalls, hcall, List.append_assoc]
    rfl

/-! ## The calls of an exchange -/

theorem discard_recorded {r : Except LinkError Unit} (h : l.discard s = (r, s'))
    (calls : List LinkCall) :
    l.recorded.discard ⟨s, calls⟩ = (r, ⟨s', calls ++ [.discard]⟩) := by
  simp only [Link.recorded, Recorded.note, h]

theorem send_recorded {bytes : List UInt8} {r : Except LinkError Unit}
    (h : l.send bytes s = (r, s')) (calls : List LinkCall) :
    l.recorded.send bytes ⟨s, calls⟩ = (r, ⟨s', calls ++ [.send bytes]⟩) := by
  simp only [Link.recorded, Recorded.note, h]

/-- **An exchange whose frame has been sent waits for the answer**, with an empty accumulator. -/
theorem exists_transact_course (x : Exchange) {question : List UInt8} {s₁ s₂ : σ}
    (hdiscard : l.discard s = (.ok (), s₁))
    (hsend : l.send (Slip.encode question) s₁ = (.ok (), s₂)) (calls : List LinkCall) :
    ∃ waits result s₃,
      x.transact l.recorded question ⟨s, calls⟩
        = (result,
            ⟨s₃, calls ++ .discard :: .send (Slip.encode question) :: waits.map .receive⟩) ∧
      Course x l (l.now s₂ + x.timeout) (Accumulator.ofMaxFrame maxFrame) s₂ waits result s₃ := by
  obtain ⟨waits, hcourse, hcalls⟩ := exists_course x l (l.now s₂ + x.timeout)
    (Accumulator.ofMaxFrame maxFrame) ⟨s₂, calls ++ [.discard] ++ [.send (Slip.encode question)]⟩
  rcases hawait : x.await l.recorded (l.now s₂ + x.timeout) (Accumulator.ofMaxFrame maxFrame)
    ⟨s₂, calls ++ [.discard] ++ [.send (Slip.encode question)]⟩ with ⟨result, s₃, calls'⟩
  rw [hawait] at hcourse hcalls
  dsimp only at hcalls
  rw [List.append_assoc, List.append_assoc] at hcalls
  refine ⟨waits, result, s₃, ?_, hcourse⟩
  rw [transact_of_sent (discard_recorded hdiscard calls) (send_recorded hsend _)]
  exact hawait.trans (by rw [hcalls]; rfl)

/-- **An exchange throws away, sends and looks**, in this order, as far as each call succeeds. -/
theorem transact_exchanged (x : Exchange) (l : Link σ) (f : List UInt8) (s : Recorded σ) :
    ∃ made, (x.transact l.recorded f s).2.calls = s.calls ++ made ∧
      Exchanged l s.state f made := by
  obtain ⟨s, calls⟩ := s
  rcases hdiscard : l.discard s with ⟨e | _, s₁⟩
  · refine ⟨[.discard], ?_, .undiscarded (congrArg Prod.fst hdiscard)⟩
    rw [transact_of_undiscarded (discard_recorded hdiscard calls)]
  rcases hsend : l.send (Slip.encode f) s₁ with ⟨e | _, s₂⟩
  · refine ⟨[.discard, .send (Slip.encode f)], ?_, .unsent hdiscard (congrArg Prod.fst hsend)⟩
    rw [transact_of_unsent (discard_recorded hdiscard calls) (send_recorded hsend _)]
    exact List.append_assoc calls [.discard] [.send (Slip.encode f)]
  · obtain ⟨waits, result, s₃, htransact, -⟩ := exists_transact_course x hdiscard hsend calls
    exact ⟨_, congrArg (fun outcome => outcome.2.calls) htransact, .sent hdiscard hsend waits⟩

end Exchange

end CompanionBus
