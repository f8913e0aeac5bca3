import CompanionBus.Proofs.Packet.Grammar
import CompanionBus.Proofs.Response.Layout
/-
  What a frame is refused for when an answer is expected.

  1. **Specification (`decode_eq_error`)** — a frame is refused for the status that it reports
     (`Reports`), or for what is wrong with its bytes (`Refused`): it is no frame at all, or is one of
     another command, or its payload has not the layout of the answer.

  2. **The crux** — the two never meet (`decode_eq_status_iff`): no reader makes up a status, nor does
     any complain about the shape of an answer.
-/
namespace CompanionBus

/-- What counts against the protocol is final: there is no use in another try. -/
theorem ProtocolError.final_of_kind {e : ProtocolError} (h : e.kind = .protocol) :
    e.isRecoverable = false ∧ e.isNotReady = false := by
  cases e with
  | status status => cases status <;> first | exact ⟨rfl, rfl⟩ | cases h
  | _ => exact ⟨rfl, rfl⟩

namespace Response

variable {c : Command} {e : ProtocolError}

/-- `Refused c frame e` — the error `e` says what is wrong with the frame, of which an answer to the
    command `c` is expected. -/
inductive Refused (c : Command) (frame : List UInt8) : ProtocolError → Prop where
  | frame {e : ProtocolError} (h : Packet.Refusal frame.length e) : Refused c frame e
  | command {p : Packet} (hdecode : Packet.decode frame = .ok p) (h : p.command ≠ c) :
      Refused c frame (.unexpectedResponse c p.command)
  | payload {p : Packet} {e : ProtocolError} (hdecode : Packet.decode frame = .ok p)
      (h : Refusal p.payload e) : Refused c frame e

/-- Whatever is wrong with a frame counts against the protocol. It is not a status, nor is it the
    shape of an answer. -/
theorem Refused.proper {frame : List UInt8} (h : Refused c frame e) :
    e.kind = .protocol ∧ (∀ status, e ≠ .status status) ∧
      ∀ shape, e ≠ .invalidFrame (.unrelated shape) := by
  cases h with
  | frame h => exact h.proper
  | command _ _ => exact ⟨rfl, nofun, nofun⟩
  | payload _ h => exact h.proper

/-- `Reports c frame status` — the frame holds a packet of the command `c`, and the first field of the
    packet stands for a status other than success. -/
def Reports (c : Command) (frame : List UInt8) (status : Status) : Prop :=
  ∃ p first rest, Packet.decode frame = .ok p ∧ p.command = c ∧ p.fields = first :: rest ∧
    Status.ofCode first.value.toUInt8 = status ∧ status ≠ .ok

/-- The status of a packet that is read is what its first field stands for. -/
theorem reports_iff {frame : List UInt8} {status : Status} :
    Reports c frame status ↔
      ∃ p, Packet.decode frame = .ok p ∧ p.command = c ∧ p.status = status ∧ status ≠ .ok := by
  constructor
  · rintro ⟨p, first, rest, hdecode, hcommand, hfields, hstatus, hne⟩
    obtain ⟨d⟩ := Packet.dissection_of_decode hdecode
    refine ⟨p, hdecode, hcommand, ?_, hne⟩
    rw [d.status_eq, hfields]
    exact hstatus
  · rintro ⟨p, hdecode, hcommand, hstatus, hne⟩
    obtain ⟨d⟩ := Packet.dissection_of_decode hdecode
    rw [d.status_eq] at hstatus
    cases hfields : p.fields with
    | nil =>
      rw [hfields] at hstatus
      exact absurd hstatus.symm hne
    | cons first rest =>
      rw [hfields] at hstatus
      exact ⟨p, first, rest, hdecode, hcommand, hfields, hstatus, hne⟩

/-- **A frame is refused for the status that it reports, or for its bytes.** -/
theorem decode_eq_error {frame : List UInt8} (h : decode c frame = .error e) :
    (∃ status, e = .status status ∧ Reports c frame status) ∨ Refused c frame e := by
  rw [decode] at h
  cases hdecode : Packet.decode frame with
  | error e' =>
    rw [hdecode] at h
    cases h
    exact Or.inr (.frame (Packet.refusal_of_decode hdecode))
  | ok p =>
    rw [hdecode] at h
    dsimp only at h
    by_cases hcommand : p.command = c
    · by_cases hstatus : p.status = .ok
      · rw [parse_of_ok hcommand hstatus] at h
        exact Or.inr (.payload hdecode (refusal_of_ofPayload h))
      · rw [parse_of_status_ne hcommand hstatus] at h
        cases h
        exact Or.inl ⟨_, rfl, reports_iff.mpr ⟨p, hdecode, hcommand, rfl, hstatus⟩⟩
    · rw [parse_of_command_ne hcommand] at h
      cases h
      exact Or.inr (.command hdecode hcommand)

/-- **The status of a frame is what it is refused for**, exactly if it reports one. -/
theorem decode_eq_status_iff {frame : List UInt8} {status : Status} :
    decode c frame = .error (.status status) ↔ Reports c frame status := by
  constructor
  · intro h
    rcases decode_eq_error h with ⟨status', hstatus, hreports⟩ | hrefused
    · cases hstatus
      exact hreports
    · exact absurd rfl (hrefused.proper.2.1 status)
  · intro h
    obtain ⟨p, hdecode, hcommand, rfl, hne⟩ := reports_iff.mp h
    rw [decode, hdecode]
    exact parse_of_status_ne hcommand hne

end Response

end CompanionBus
