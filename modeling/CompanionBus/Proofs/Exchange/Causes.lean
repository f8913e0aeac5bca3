import CompanionBus.Proofs.Exchange.Endings
import CompanionBus.Proofs.Response.Answers
import CompanionBus.Proofs.Response.Refusals
/-
  What an exchange fails for, once its request has been sent.

  1. **Specification** — `Caused` tells by the bytes that have come in what an exchange comes to when
     they decide. It reports a status exactly if a frame has come in that does (`status_iff`). For the
     rest, bytes that are not even a frame on the wire (`Slip.Garbled`) count as a failure of the
     link, and a frame that is no answer is refused for its bytes (`Response.Refused`).

  2. **The proof** — an exchange that has been sent is a wait, and then the reader of answers
     (`run_of_sent`). What the wait comes to is told by the bytes (`Ends`), what the reader comes to
     by the frame (`Response.decode_eq_error`).
-/
namespace CompanionBus

/-- `Slip.Garbled stream` — the stream has too many bytes for a frame, or its first frame has a bad
    escape. -/
def Slip.Garbled (stream : List UInt8) : Prop :=
  (∃ place, verdict maxFrame stream = .tooLong place) ∨
    ∃ body place, verdict maxFrame stream = .frame body place ∧ BadEscape (body ++ [END])

namespace Exchange

variable {σ : Type} {x : Exchange} {l : Link σ} {deadline : Nat} {s s' s₁ s₂ : σ}
  {request : Request} {question stream : List UInt8} {chunks : List (List UInt8)}

/-- `Brings x l deadline s frame` — looking at the link as `x` does, from the state `s` on and until
    the deadline, brings in a complete frame, and unwrapping it gives `frame`. -/
def Brings (x : Exchange) (l : Link σ) (deadline : Nat) (s : σ) (frame : List UInt8) : Prop :=
  ∃ chunks s' body place, Receives x l deadline s chunks s' ∧
    Slip.verdict maxFrame chunks.flatten = .frame body place ∧
    Slip.decode (Slip.END :: (body ++ [Slip.END])) = .ok frame

/-- `Caused command stream result` — the stream decides, and an exchange for the command in which it
    has come in comes to `result`. -/
inductive Caused (command : Command) (stream : List UInt8) : Except ClientError Response → Prop where
  | answered {frame : List UInt8} {place : Nat} {response : Response}
      (hframe : Slip.verdict maxFrame stream = .frame (Slip.escape frame) place)
      (h : Response.Answers command frame response) : Caused command stream (.ok response)
  | reported {frame : List UInt8} {place : Nat} {status : Status}
      (hframe : Slip.verdict maxFrame stream = .frame (Slip.escape frame) place)
      (h : Response.Reports command frame status) :
      Caused command stream (.error (.protocol (.status status)))
  | refused {frame : List UInt8} {place : Nat} {e : ProtocolError}
      (hframe : Slip.verdict maxFrame stream = .frame (Slip.escape frame) place)
      (h : Response.Refused command frame e) : Caused command stream (.error (.protocol e))
  | garbled {e : ProtocolError} (h : Slip.Garbled stream) :
      Caused command stream (.error (undecodable e))

/-! ## What the bytes come to -/

/-- A stream whose first frame can be unwrapped is not garbled. -/
theorem not_garbled_of_verdict {frame : List UInt8} {place : Nat}
    (h : Slip.verdict maxFrame stream = .frame (Slip.escape frame) place) :
    ¬ Slip.Garbled stream := by
  rintro (⟨place', hlong⟩ | ⟨body, place', hframe, hbad⟩)
  · cases h.symm.trans hlong
  · cases h.symm.trans hframe
    exact Slip.not_badEscape_escape frame hbad

theorem caused_of_ends {command : Command} {result : Except ClientError (List UInt8)}
    (h : Ends stream result) : Caused command stream (readAnswer command result) := by
  cases h with
  | @frame frame place hverdict =>
    rw [readAnswer]
    cases hdecode : Response.decode command frame with
    | ok response => exact .answered hverdict (Response.decode_eq_ok_iff.mp hdecode)
    | error e =>
      rcases Response.decode_eq_error hdecode with ⟨status, rfl, hreports⟩ | hrefused
      · exact .reported hverdict hreports
      · exact .refused hverdict hrefused
  | badEscape hverdict hbad => exact .garbled (Or.inr ⟨_, _, hverdict, hbad⟩)
  | tooLong hverdict => exact .garbled (Or.inl ⟨_, hverdict⟩)

/-- A frame that has come in complete is what the wait returns. -/
theorem await_of_brings {frame : List UInt8} (h : Brings x l deadline s frame) :
    (x.await l deadline (Accumulator.ofMaxFrame maxFrame) s).1 = .ok frame := by
  obtain ⟨chunks, s', body, place, hreceives, hverdict, hdecode⟩ := h
  have hends := ends_of_place hreceives (by rw [hverdict]; exact nofun)
  obtain ⟨hbody, -, -⟩ := Slip.body_of_verdict hverdict
  generalize (x.await l deadline (Accumulator.ofMaxFrame maxFrame) s).1 = result at hends ⊢
  cases hends with
  | @frame frame' place' hverdict' =>
    cases hverdict.symm.trans hverdict'
    have hescaped := Slip.decode_encode frame' []
    rw [List.append_nil, Slip.encode, hdecode] at hescaped
    rw [Except.ok.inj hescaped]
  | badEscape hverdict' hbad =>
    cases hverdict.symm.trans hverdict'
    obtain ⟨e, he⟩ := (Slip.decode_error_iff hbody).mpr hbad
    cases hdecode.symm.trans he
  | tooLong hverdict' => cases hverdict.symm.trans hverdict'

/-- What the wait returns has come in complete. -/
theorem brings_of_await {frame : List UInt8}
    (h : (x.await l deadline (Accumulator.ofMaxFrame maxFrame) s).1 = .ok frame) :
    Brings x l deadline s frame := by
  obtain ⟨chunks, s', hreceives, ⟨-, hends⟩ | ⟨-, e, -, he⟩⟩ := exists_ends x l deadline s
  · rw [h] at hends
    cases hends with
    | @frame _ place hverdict =>
      have hescaped := Slip.decode_encode frame []
      rw [List.append_nil] at hescaped
      exact ⟨chunks, s', _, place, hreceives, hverdict, hescaped⟩
  · cases h.symm.trans he

/-! ## The exchange -/

/-- An exchange that has been sent is a wait, and then the reader of answers. -/
theorem run_of_sent (hquestion : request.encode = .ok question)
    (hdiscard : l.discard s = (.ok (), s₁))
    (hsend : l.send (Slip.encode question) s₁ = (.ok (), s₂)) :
    (x.run l request s).1 = readAnswer request.command
      (x.await l (l.now s₂ + x.timeout) (Accumulator.ofMaxFrame maxFrame) s₂).1 := by
  rw [run_of_encode x l hquestion, transact_of_sent hdiscard hsend]

section Sent

variable (hquestion : request.encode = .ok question) (hdiscard : l.discard s = (.ok (), s₁))
  (hsend : l.send (Slip.encode question) s₁ = (.ok (), s₂))

include hquestion hdiscard hsend

/-- **An exchange reports a status exactly if a frame has come in that does.** -/
theorem status_iff (status : Status) :
    (x.run l request s).1 = .error (.protocol (.status status)) ↔
      ∃ frame, Brings x l (l.now s₂ + x.timeout) s₂ frame ∧
        Response.Reports request.command frame status := by
  rw [run_of_sent hquestion hdiscard hsend]
  constructor
  · intro h
    cases hawait : (x.await l (l.now s₂ + x.timeout) (Accumulator.ofMaxFrame maxFrame) s₂).1 with
    | error e =>
      rw [hawait] at h
      cases h
      rcases await_eq_error hawait with ⟨cause, he⟩ | he <;> cases he
    | ok frame =>
      rw [hawait, readAnswer] at h
      refine ⟨frame, brings_of_await hawait, Response.decode_eq_status_iff.mp ?_⟩
      cases hdecode : Response.decode request.command frame with
      | error e =>
        rw [hdecode] at h
        cases h
        rfl
      | ok response =>
        rw [hdecode] at h
        cases h
  · rintro ⟨frame, hbrings, hreports⟩
    rw [await_of_brings hbrings, readAnswer, Response.decode_eq_status_iff.mpr hreports]

/-- **Bytes that decide tell what the exchange comes to.** -/
theorem caused_of_place (h : Receives x l (l.now s₂ + x.timeout) s₂ chunks s')
    (hplace : (Slip.verdict maxFrame chunks.flatten).place? ≠ none) :
    Caused request.command chunks.flatten (x.run l request s).1 := by
  rw [run_of_sent hquestion hdiscard hsend]
  exact caused_of_ends (ends_of_place h hplace)

/-- **Every exchange has a cause**: bytes that decide, or that nothing more has come. -/
theorem exists_caused :
    ∃ chunks s', Receives x l (l.now s₂ + x.timeout) s₂ chunks s' ∧
      (((Slip.verdict maxFrame chunks.flatten).place? ≠ none ∧
          Caused request.command chunks.flatten (x.run l request s).1) ∨
        ((Slip.verdict maxFrame chunks.flatten).place? = none ∧
          ∃ e, Fails x l (l.now s₂ + x.timeout) s' e ∧ (x.run l request s).1 = .error e)) := by
  rw [run_of_sent hquestion hdiscard hsend]
  obtain ⟨chunks, s', hreceives, ⟨hplace, hends⟩ | ⟨hplace, e, hfails, he⟩⟩ :=
    exists_ends x l (l.now s₂ + x.timeout) s₂
  · exact ⟨chunks, s', hreceives, Or.inl ⟨hplace, caused_of_ends hends⟩⟩
  · refine ⟨chunks, s', hreceives, Or.inr ⟨hplace, e, hfails, ?_⟩⟩
    rw [he]
    rfl

end Sent

/-- A wait that fails is the fault of the link. -/
theorem Fails.kind {e : ClientError} (h : Fails x l deadline s e) : e.kind = .transport := by
  induction h with
  | expired _ => rfl
  | broken _ _ _ => rfl
  | silence _ _ _ ih => exact ih

end Exchange

end CompanionBus
