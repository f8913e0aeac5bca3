import CompanionBus.Proofs.Exchange.Await
import CompanionBus.Proofs.Request.Limits
import CompanionBus.Proofs.Response.Refusals
/-
  The errors that an exchange can end in.

  1. **Specification** (`run_eq_error`) — an exchange fails because of the link, because no answer
     came in time, or because of the bus protocol. In the last case the request breaks a limit, or
     the answer is malformed, or the device reports a status. In particular it never speaks about the
     table of sessions: slots and handles are no concern of an exchange.

  2. **Layers** — each has its own class of errors: writing a request blames the argument
     (`Request.blames_of_encode_eq_error`), waiting blames the link (`await_eq_error`), reading
     blames the frame (`Response.decode_eq_error`).
-/
namespace CompanionBus

namespace Exchange

variable {σ : Type} {x : Exchange} {l : Link σ} {s : σ} {e : ClientError}

/-! ## Errors of an exchange -/

theorem transact_eq_error {frame : List UInt8} (h : (x.transact l frame s).1 = .error e) :
    (∃ cause, e = .link cause) ∨ e = .timeout x.timeout := by
  rcases transact_cases x l frame s with
    ⟨e', s₁, -, htransact⟩ | ⟨e', s₁, s₂, -, -, htransact⟩ | ⟨s₁, s₂, -, -, htransact⟩
  all_goals rw [htransact] at h
  · cases h
    exact Or.inl ⟨e', rfl⟩
  · cases h
    exact Or.inl ⟨e', rfl⟩
  · exact await_eq_error h

/-- **The errors of an exchange**: of the link, of time, and of the bus protocol, where the request
    breaks a limit, the answer is malformed, or the device reports a status. -/
theorem run_eq_error {request : Request} (h : (x.run l request s).1 = .error e) :
    (∃ cause, e = .link cause) ∨ e = .timeout x.timeout ∨
      ∃ fault, e = .protocol fault ∧
        (fault.kind = .argument ∨ fault.kind = .protocol ∨ ∃ status, fault = .status status) := by
  rw [run] at h
  cases hquestion : request.encode with
  | error fault =>
    rw [hquestion] at h
    cases h
    exact Or.inr (Or.inr ⟨fault, rfl, Or.inl (Request.blames_of_encode_eq_error hquestion).1⟩)
  | ok question =>
    rw [hquestion] at h
    dsimp only at h
    cases hraw : (x.transact l question s).1 with
    | error e' =>
      rw [hraw] at h
      cases h
      rcases transact_eq_error hraw with hlink | htime
      · exact Or.inl hlink
      · exact Or.inr (Or.inl htime)
    | ok frame =>
      rw [hraw, readAnswer] at h
      cases hdecode : Response.decode request.command frame with
      | error fault =>
        rw [hdecode] at h
        cases h
        refine Or.inr (Or.inr ⟨fault, rfl, Or.inr ?_⟩)
        rcases Response.decode_eq_error hdecode with ⟨status, hstatus, -⟩ | hrefused
        · exact Or.inr ⟨status, hstatus⟩
        · exact Or.inl hrefused.proper.1
      | ok response =>
        rw [hdecode] at h
        cases h

/-- An exchange knows nothing of slots. -/
theorem run_ne_noHandles (request : Request) :
    (x.run l request s).1 ≠ .error (.protocol .noHandles) := by
  intro h
  rcases run_eq_error h with ⟨cause, he⟩ | he | ⟨fault, he, hkind⟩
  · cases he
  · cases he
  · cases he
    rcases hkind with hkind | hkind | ⟨status, hstatus⟩
    · cases hkind
    · cases hkind
    · cases hstatus

end Exchange

end CompanionBus
