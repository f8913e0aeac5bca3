import CompanionBus.Exchange
import CompanionBus.Proofs.Packet.Grammar
import CompanionBus.Proofs.Response.Layout
/-
  Which frames are answers.

  1. **Specification (`decode_eq_ok_iff`)** — a frame answers a command if it can be cut into the
     parts of a packet of that command, with the status of success, whose payload begins with the
     layout of the answer. `Answers c frame r` says so with the grammar of frames and the layouts
     alone, and the readers agree with it.

  2. **Exchanges** — an exchange returns an answer exactly if the frame that comes back is one
     (`readAnswer_eq_ok_iff`). A frame is not shorter than the data that it answers a read with
     (`length_data_le`).
-/
namespace CompanionBus

namespace Response

variable {c : Command} {frame : List UInt8} {p : Packet} {r : Response}

/-- `Answers c frame r` — the frame holds an answer to the command `c`, and the answer is `r`. -/
def Answers (c : Command) (frame : List UInt8) (r : Response) : Prop :=
  ∃ p, Nonempty (Packet.Dissection frame p) ∧ p.command = c ∧ p.status = .ok ∧
    ∃ used rest, p.payload = used ++ rest ∧ Layout c used r

/-- What is parsed as an answer is of the command, reports success, and begins with the layout. -/
theorem parse_eq_ok_iff :
    parse c p = .ok r ↔
      p.command = c ∧ p.status = .ok ∧ ∃ used rest, p.payload = used ++ rest ∧ Layout c used r := by
  constructor
  · intro h
    by_cases hcommand : p.command = c
    · by_cases hstatus : p.status = .ok
      · rw [parse_of_ok hcommand hstatus] at h
        exact ⟨hcommand, hstatus, layout_of_ofPayload h⟩
      · rw [parse_of_status_ne hcommand hstatus] at h
        cases h
    · rw [parse_of_command_ne hcommand] at h
      cases h
  · rintro ⟨hcommand, hstatus, used, rest, hpayload, hlayout⟩
    rw [parse_of_ok hcommand hstatus, hpayload]
    exact ofPayload_of_layout hlayout rest

/-- **A frame is read as an answer exactly if it is one.** -/
theorem decode_eq_ok_iff : decode c frame = .ok r ↔ Answers c frame r := by
  rw [decode]
  constructor
  · intro h
    cases hdecode : Packet.decode frame with
    | error e =>
      rw [hdecode] at h
      cases h
    | ok p =>
      rw [hdecode] at h
      exact ⟨p, Packet.dissection_of_decode hdecode, parse_eq_ok_iff.mp h⟩
  · rintro ⟨p, ⟨d⟩, hparse⟩
    rw [d.decode_eq]
    exact parse_eq_ok_iff.mpr hparse

/-- A frame is one answer at most. -/
theorem Answers.unique {r' : Response} (h : Answers c frame r) (h' : Answers c frame r') : r = r' := by
  rw [← decode_eq_ok_iff] at h h'
  rw [h] at h'
  exact Except.ok.inj h'

/-! ## Answers to a read -/

/-- The answer to a read is data. -/
theorem exists_data_of_layout {used : List UInt8} (h : Layout .read used r) :
    ∃ reply, r = .data reply ∧ used.length = 12 + reply.data.length := by
  cases h with
  | data flags spare spare' handle offset length data h =>
    refine ⟨_, rfl, ?_⟩
    simp only [List.length_cons, List.length_append, LittleEndian.length_encode]
    omega
  | time hc => rcases hc with hc | hc | hc <;> cases hc
  | timezoneSet hc => rcases hc with hc | hc <;> cases hc

/-- A header, one descriptor at least, and the head of the payload stand in front of the data. -/
theorem Answers.length_data_le {reply : ReadReply} (h : Answers .read frame (.data reply)) :
    reply.data.length + 18 ≤ frame.length := by
  obtain ⟨p, ⟨d⟩, -, -, used, rest, hpayload, hlayout⟩ := h
  obtain ⟨reply', hreply, hused⟩ := exists_data_of_layout hlayout
  cases hreply
  have hchain := List.length_pos_iff.mpr d.describes.ne_nil
  have hframe := d.length_frame
  rw [hpayload, List.length_append] at hframe
  omega

end Response

namespace Exchange

/-- **An answer is read exactly from a frame that is one.** -/
theorem readAnswer_eq_ok_iff {command : Command} {raw : Except ClientError (List UInt8)}
    {r : Response} :
    readAnswer command raw = .ok r ↔ ∃ frame, raw = .ok frame ∧ Response.Answers command frame r := by
  cases raw with
  | error e =>
    refine iff_of_false nofun ?_
    rintro ⟨frame, hframe, -⟩
    cases hframe
  | ok frame =>
    have hanswer : readAnswer command (.ok frame) = .ok r ↔ Response.decode command frame = .ok r := by
      rw [readAnswer]
      cases Response.decode command frame with
      | error e => exact iff_of_false nofun nofun
      | ok response => exact ⟨fun h => by cases h; rfl, fun h => by cases h; rfl⟩
    rw [hanswer, Response.decode_eq_ok_iff]
    constructor
    · intro h
      exact ⟨frame, rfl, h⟩
    · rintro ⟨frame', hframe, h⟩
      cases hframe
      exact h

/-- What a request that can be sent comes to. -/
theorem run_of_encode {σ : Type} (x : Exchange) (l : Link σ) {request : Request}
    {question : List UInt8} (h : request.encode = .ok question) (s : σ) :
    x.run l request s =
      (readAnswer request.command (x.transact l question s).1, (x.transact l question s).2) := by
  rw [run, h]

end Exchange

end CompanionBus
