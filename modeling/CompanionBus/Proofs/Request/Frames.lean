import CompanionBus.Proofs.Request.Layout
import CompanionBus.Proofs.Slip.RoundTrip
/-
  The frames of requests, and what can be told from one.

  1. **Specification** (`frame_tells_request`) — a request has a frame exactly if it keeps to its
     limits, and its caller is to blame if it has none. The frame holds a packet without fields, from
     which every part of the request can be read again; so no two requests have the same frame.

  2. **The crux** — none of this is about frames. That a packet comes back from its frame has been
     shown for all packets, so what remains is that a request comes back from its payload
     (`ofPayload?_payload`).
-/
namespace CompanionBus.Request

variable {r r' : Request} {f : List UInt8}

/-- Reading the frame of a request gives its packet. -/
theorem decode_of_encode (h : r.encode = .ok f) : Packet.decode f = .ok r.packet := by
  obtain ⟨hlimits, rfl⟩ := encode_eq_ok_iff.mp h
  exact Packet.decode_frame_of_statusFits (size_le hlimits) (fun _ hf => nomatch hf)

/-- The request is read from its frame. -/
theorem ofPayload?_of_encode (h : r.encode = .ok f) :
    ofPayload? r.packet.command r.packet.payload = some r :=
  ofPayload?_payload (encode_eq_ok_iff.mp h).1

/-- A frame comes from one request only. -/
theorem eq_of_encode (h : r.encode = .ok f) (h' : r'.encode = .ok f) : r = r' := by
  have hpackets := (decode_of_encode h).symm.trans (decode_of_encode h')
  have hread := ofPayload?_of_encode h
  rw [Except.ok.inj hpackets, ofPayload?_of_encode h'] at hread
  exact (Option.some.inj hread).symm

/-- **Bytes on the link tell the request that they come from.** -/
theorem eq_of_wire {f' : List UInt8} (h : r.encode = .ok f) (h' : r'.encode = .ok f')
    (hwire : Slip.encode f = Slip.encode f') : r = r' := by
  cases Slip.encode_injective hwire
  exact eq_of_encode h h'

/-- **A frame tells its request.** A request is written exactly if it keeps to its limits. If it does
    not, its caller is to blame, and never the limit of frames. If it does, its frame is read as a
    packet with its command, without fields, and with a payload in whose layout the request stands
    in all its parts. So two requests with the same frame are one. -/
theorem frame_tells_request (r : Request) :
    ((∃ e, r.encode = .error e) ↔ ¬ r.WithinLimits) ∧
    (∀ e, r.encode = .error e →
      e.kind = .argument ∧ ∀ size, e ≠ .payloadTooLarge size maxFrame) ∧
    (∀ f, r.encode = .ok f → ∃ p, Packet.decode f = .ok p ∧ p.command = r.command ∧
      p.fields = [] ∧ ofPayload? p.command p.payload = some r) ∧
    ∀ f r', r.encode = .ok f → r'.encode = .ok f → r = r' := by
  refine ⟨?_, fun e => blames_of_encode_eq_error, fun f hf => ?_, fun f r' => eq_of_encode⟩
  · rw [← fault?_eq_none_iff, ← ne_eq, Option.ne_none_iff_exists']
    exact exists_congr fun e => encode_eq_error_iff
  · exact ⟨r.packet, decode_of_encode hf, rfl, rfl, ofPayload?_of_encode hf⟩

end CompanionBus.Request
