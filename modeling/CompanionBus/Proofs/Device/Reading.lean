import CompanionBus.Proofs.Device.Checks
import CompanionBus.Proofs.Exchange.Delivery
import CompanionBus.Proofs.Response.Answers
/-
  Reading delivers the data of the device, and nothing else.

  1. **Specification** (`read_delivers`) — a read of a session that is open, into a buffer that is
     not empty, asks for as much as the buffer takes, but one chunk at most. It succeeds exactly if
     the frame that comes back is the answer to a read and repeats handle and offset (`Echo`). Then
     the caller has the front of the data, and the session goes on behind it (`Delivered`). If the
     read fails, neither the buffer nor the table has been touched.

  2. **The parts** — a frame is an answer or not (`Response.Answers`), an answer that repeats handle
     and offset settles in one way (`settleRead_of_echo`), and any other changes nothing
     (`settleRead_cases`).

  3. **The crux** — the table is looked at twice, before the question and behind the answer. The slot
     that is found then is the one in which the session was, since nothing has changed it meanwhile
     (`SessionTable.update_of_holds`).
-/
namespace CompanionBus

open Response (Answers)

/-- `Echo handle offset frame reply` — the frame is the answer to a read, with the data of `reply`,
    and it repeats the handle and the offset that the read was for. -/
structure Echo (handle : UInt16) (offset : UInt32) (frame : List UInt8) (reply : ReadReply) :
    Prop where
  answers : Answers .read frame (.data reply)
  handle_eq : reply.handle = handle
  offset_eq : reply.offset = offset

/-- `Delivered t handle offset buffer reply outcome buffer' t'` — what a read for `handle` from
    `offset` on makes of the data of `reply`: it gives the outcome, and puts `buffer'` in the place
    of the buffer and the table `t'` in the place of `t`. -/
structure Delivered (t : SessionTable) (handle : UInt16) (offset : UInt32) (buffer : List UInt8)
    (reply : ReadReply) (outcome : ReadOutcome) (buffer' : List UInt8) (t' : SessionTable) :
    Prop where
  /-- The caller learns how much data there was, -/
  declared : outcome.declaredLength = reply.data.length
  /-- how much of it was taken, -/
  count : outcome.bytesRead = min reply.data.length buffer.length
  /-- and the flags, those included that mean nothing here. -/
  flags : outcome.flags = reply.flags
  /-- The buffer begins with the data, and behind it is as it was. -/
  filled : buffer' = reply.data.take outcome.bytesRead ++ buffer.drop outcome.bytesRead
  truncated : outcome.isTruncated = true ↔
    buffer.length < reply.data.length ∨ reply.flags.has .truncated = true
  /-- In the table the session has a new place to go on from, and nothing else has changed. -/
  cursor : ∃ i s n, t.Holds i s ∧ s.handle = handle ∧
    t'.slots = t.slots.set i (.active { s with readCursor := n }) ∧
    n.toNat = (offset.toNat + outcome.bytesRead) % 2 ^ 32

/-- The outcome is that of a buffer of the same size. -/
theorem Delivered.outcome_eq {t t' : SessionTable} {handle : UInt16} {offset : UInt32}
    {buffer buffer' : List UInt8} {reply : ReadReply} {outcome : ReadOutcome}
    (h : Delivered t handle offset buffer reply outcome buffer' t') :
    outcome = Operation.outcomeOf buffer.length reply := by
  show (⟨outcome.bytesRead, outcome.declaredLength, outcome.flags⟩ : ReadOutcome) = _
  rw [Operation.outcomeOf, ReadOutcome.mk.injEq]
  exact ⟨h.count, h.declared, h.flags⟩

/-! ## Settling the answer -/

namespace Operation

variable {t : SessionTable} {held : List Reservation} {s : Session} {offset : UInt32}
  {buffer : List UInt8} {reply : ReadReply}

/-- Data for the handle and the offset that were asked about is taken. -/
theorem settleRead_of_echo (hw : t.WellKept held) {i : Nat} (hi : t.Holds i s)
    (hhandle : reply.handle = s.handle) (hoffset : reply.offset = offset) (buffer : List UInt8) :
    settleRead s.handle offset buffer t (.ok (.data reply)) =
      (.ok ⟨.ok (outcomeOf buffer.length reply), reply.copyInto buffer⟩,
        ⟨t.slots.set i (.active (advanceRead offset (reply.copied buffer.length) s))⟩) := by
  rw [settleRead, checkHandle, if_pos hhandle.symm]
  dsimp only
  rw [checkOffset, if_pos hoffset.symm]
  dsimp only
  rw [record, SessionTable.update_of_holds hw hi]

/-- What has been taken is the front of the data. -/
theorem delivered_of_holds {i : Nat} (hi : t.Holds i s) (offset : UInt32) (buffer : List UInt8)
    (reply : ReadReply) :
    Delivered t s.handle offset buffer reply (outcomeOf buffer.length reply)
      (reply.copyInto buffer)
      ⟨t.slots.set i (.active (advanceRead offset (reply.copied buffer.length) s))⟩ where
  declared := rfl
  count := rfl
  flags := rfl
  filled := by
    have htake : reply.data.take (min reply.data.length buffer.length)
        = reply.data.take buffer.length := by
      rw [Nat.min_comm, ← List.take_take, List.take_length]
    show reply.data.take buffer.length ++ buffer.drop _
      = reply.data.take (min reply.data.length buffer.length) ++ buffer.drop _
    rw [htake]
    rfl
  truncated := by
    have hshort : min reply.data.length buffer.length < reply.data.length
        ↔ buffer.length < reply.data.length := by omega
    show (decide (min reply.data.length buffer.length < reply.data.length)
      || reply.flags.has .truncated) = true ↔ _
    rw [Bool.or_eq_true, decide_eq_true_iff, hshort]
  cursor := by
    refine ⟨i, s, _, hi, rfl, rfl, ?_⟩
    rw [UInt32.toNat_add, UInt32.toNat_ofNat']
    exact Nat.add_mod_mod _ _ _

end Operation

/-! ## One read on a device -/

namespace Device

variable {σ : Type} {l : Link σ} {d : Device l} {held : List Reservation} {handle : UInt16}
  {offset : UInt32} {buffer : List UInt8} {s : Session} {question : List UInt8}

/-- A read that nothing stands in the way of can be put into a frame. -/
theorem exists_encode_read (hw : d.sessions.WellKept held) (hs : d.session? handle = some s)
    (hbuffer : buffer ≠ []) (offset : UInt32) :
    ∃ question, (Request.read handle offset (Operation.readSize buffer.length)).encode
      = .ok question := by
  obtain ⟨rfl, i, hi⟩ := SessionTable.holds_of_get? hs
  have hlength : buffer.length ≠ 0 := fun h => hbuffer (List.eq_nil_of_length_eq_zero h)
  exact ⟨_, Request.encode_eq_ok_iff.mpr ⟨⟨hw.proper hi, readSize_withinLimits hlength⟩, rfl⟩⟩

/-- A read that nothing stands in the way of is one exchange, and what its answer comes to. -/
theorem perform_read (hready : d.isReady = true) (hs : d.session? handle = some s)
    (hbuffer : buffer ≠ [])
    (hquestion : (Request.read handle offset (Operation.readSize buffer.length)).encode
      = .ok question) :
    d.perform (Operation.read handle offset buffer) =
      let raw := d.exchange.transact l question d.line
      let settled := Operation.settleRead handle offset buffer d.sessions
        (Exchange.readAnswer .read raw.1)
      (settled.1, { d with line := raw.2, sessions := settled.2 }) := by
  have hop : Operation.read handle offset buffer d.sessions = .ok
      { request := .read handle offset (Operation.readSize buffer.length)
        settle := Operation.settleRead handle offset buffer d.sessions } := by
    rw [Operation.read, Operation.onSession, SessionTable.get,
      show d.sessions.get? handle = some s from hs]
    exact if_neg hbuffer
  rw [perform_of_ok hop, call, if_pos hready, Exchange.run_of_encode _ _ hquestion]
  rfl

/-- **An answer that repeats handle and offset is taken.** -/
theorem read_of_echo (hw : d.sessions.WellKept held) (hready : d.isReady = true)
    (hs : d.session? handle = some s) (hbuffer : buffer ≠ [])
    (hquestion : (Request.read handle offset (Operation.readSize buffer.length)).encode
      = .ok question) {frame : List UInt8} {reply : ReadReply}
    (hframe : (d.exchange.transact l question d.line).1 = .ok frame)
    (h : Echo handle offset frame reply) :
    ∃ outcome, (d.read handle offset buffer).1 = .ok outcome ∧
      Delivered d.sessions handle offset buffer reply outcome (d.read handle offset buffer).2.1
        (d.read handle offset buffer).2.2.sessions := by
  obtain ⟨rfl, i, hi⟩ := SessionTable.holds_of_get? hs
  have hanswer : Exchange.readAnswer .read (d.exchange.transact l question d.line).1
      = .ok (.data reply) :=
    Exchange.readAnswer_eq_ok_iff.mpr ⟨frame, hframe, h.answers⟩
  have hsettled := Operation.settleRead_of_echo hw hi h.handle_eq h.offset_eq buffer
  rw [read, perform_read hready hs hbuffer hquestion]
  dsimp only
  rw [hanswer, hsettled]
  exact ⟨_, rfl, Operation.delivered_of_holds hi offset buffer reply⟩

/-- **What has come about when a read succeeds**: it has been let through, and an answer that repeats
    handle and offset has come back. -/
theorem echo_of_read_eq_ok (hw : d.sessions.WellKept held) {outcome : ReadOutcome}
    (h : (d.read handle offset buffer).1 = .ok outcome) :
    ∃ question frame reply,
      (Request.read handle offset (Operation.readSize buffer.length)).encode = .ok question ∧
      (d.exchange.transact l question d.line).1 = .ok frame ∧ Echo handle offset frame reply ∧
      Delivered d.sessions handle offset buffer reply outcome (d.read handle offset buffer).2.1
        (d.read handle offset buffer).2.2.sessions := by
  have hperform := (read_eq d handle offset buffer).1
  rw [h] at hperform
  cases hop : Operation.read handle offset buffer d.sessions with
  | error e =>
    rw [perform_of_error hop] at hperform
    cases hperform
  | ok p =>
    obtain ⟨s, hs, hbuffer, hp⟩ := Operation.read_eq_ok hop
    cases hready : d.isReady with
    | false =>
      rw [perform_of_ok hop, call, hready, hp] at hperform
      cases hperform
    | true =>
      obtain ⟨question, hquestion⟩ := exists_encode_read (d := d) hw hs hbuffer offset
      rw [perform_read hready hs hbuffer hquestion] at hperform
      dsimp only at hperform
      rcases Operation.settleRead_cases hw hs offset buffer
        (Exchange.readAnswer .read (d.exchange.transact l question d.line).1) with
        ⟨e, he⟩ | ⟨reply, t', hanswer, hhandle, hoffset, -, -⟩
      · rw [he] at hperform
        cases hperform
      · obtain ⟨frame, hframe, hanswers⟩ := Exchange.readAnswer_eq_ok_iff.mp hanswer
        have hecho : Echo handle offset frame reply := ⟨hanswers, hhandle.symm, hoffset.symm⟩
        obtain ⟨outcome', houtcome, hdelivered⟩ :=
          read_of_echo hw hready hs hbuffer hquestion hframe hecho
        rw [h] at houtcome
        cases houtcome
        exact ⟨question, frame, reply, hquestion, hframe, hecho, hdelivered⟩

/-- A read that fails has touched neither the buffer nor the table. -/
theorem untouched_of_read_error (hw : d.sessions.WellKept held) (hready : d.isReady = true)
    (hs : d.session? handle = some s) (hbuffer : buffer ≠ [])
    (hquestion : (Request.read handle offset (Operation.readSize buffer.length)).encode
      = .ok question) {e : ClientError} (h : (d.read handle offset buffer).1 = .error e) :
    (d.read handle offset buffer).2.1 = buffer ∧
      (d.read handle offset buffer).2.2.sessions = d.sessions := by
  rw [read, perform_read hready hs hbuffer hquestion] at h ⊢
  dsimp only at h ⊢
  rcases Operation.settleRead_cases hw hs offset buffer
    (Exchange.readAnswer .read (d.exchange.transact l question d.line).1) with
    ⟨e', he⟩ | ⟨reply, t', -, -, -, -, he⟩
  · rw [he]
    exact ⟨rfl, rfl⟩
  · rw [he] at h
    cases h

/-! ## A device that sends data -/

section Sender

open LittleEndian (encode)

variable (handle : UInt16) (offset : UInt32) (flags : UInt8) (data : List UInt8)

/-- The answer to a read, as a packet. -/
def dataPacket : Packet :=
  .ofStatus .read .ok (1 :: flags :: 0 :: 0 :: (encode 2 handle.toNat
    ++ (encode 4 offset.toNat ++ (encode 2 data.length ++ data))))

/-- The answer to a read. -/
def dataReply : ReadReply := { handle, offset, flags := ⟨flags⟩, data }

/-- A device with one session, on a link that brings this packet once something is sent. -/
def sender : Device Script.link.recorded where
  line :=
    { state :=
        { connected := true
          reply := [.bytes (Slip.encode (dataPacket handle offset flags data).frame)] } }
  sessions := ⟨[.active { handle, kind := .http }]⟩
  exchange := .make 10 10
  initialized := true

variable {data}

theorem size_dataPacket : (dataPacket handle offset flags data).size = 19 + data.length := by
  simp only [dataPacket, Packet.ofStatus, Packet.size, List.length_cons, List.length_append,
    LittleEndian.length_encode]
  show 5 + 1 + 1 + _ = _
  omega

/-- The packet is an answer that repeats handle and offset. -/
theorem echo_dataPacket (hdata : 19 + data.length ≤ maxFrame) :
    Echo handle offset (dataPacket handle offset flags data).frame
      (dataReply handle offset flags data) := by
  have hsize : (dataPacket handle offset flags data).size ≤ maxFrame := by
    rwa [size_dataPacket]
  have hlength : data.length = (UInt16.ofNat data.length).toNat := by
    have hsmall : maxFrame < UInt16.size := by decide
    exact (UInt16.toNat_ofNat_of_lt' (by omega)).symm
  have hstatus : (dataPacket handle offset flags data).StatusFits := by
    intro f hf
    cases hf
    decide
  have hread := Packet.decode_frame_of_statusFits hsize hstatus
  have hlayout := Response.Layout.data flags 0 0 handle offset (UInt16.ofNat data.length) data hlength
  rw [← hlength] at hlayout
  exact ⟨⟨_, Packet.dissection_of_decode hread, rfl, rfl, _, [], (List.append_nil _).symm, hlayout⟩,
    rfl, rfl⟩

/-- Whatever is sent, the packet comes back. -/
theorem transact_sender (hdata : 19 + data.length ≤ maxFrame) (question : List UInt8) :
    ((sender handle offset flags data).exchange.transact Script.link.recorded question
      (sender handle offset flags data).line).1
      = .ok (dataPacket handle offset flags data).frame := by
  have hne : (dataPacket handle offset flags data).frame ≠ [] := List.cons_ne_nil _ _
  have hlen : (dataPacket handle offset flags data).frame.length ≤ maxFrame := by
    rwa [Packet.length_frame, size_dataPacket]
  have hpush := Accumulator.push_frame Accumulator.fits_maxFrame
    (List.not_mem_nil (a := Slip.END)) hne hlen 0 []
  rw [Accumulator.opening_append, List.replicate_zero, List.append_nil, List.append_nil,
    List.nil_append] at hpush
  rw [Exchange.transact]
  show ((Exchange.make 10 10).await Script.link.recorded 10 _ _).1 = _
  rw [Exchange.await_of_completed (.chunk (show 0 < 10 by decide) rfl (.done _)) hpush,
    Exchange.unwrap_encode hne]

variable (data)

theorem wellKept_sender (hhandle : handle ≠ noHandle) :
    (sender handle offset flags data).sessions.WellKept [] := by
  have hfree : (SessionTable.ofCapacity 1).slots[0]? = some .free := rfl
  refine (SessionTable.wellKept_ofCapacity 1).set hfree List.nodup_nil (by simp) (fun _ _ => Iff.rfl)
    fun s hs => ?_
  cases hs
  refine ⟨hhandle, fun j s' _ hj => ?_⟩
  cases SessionTable.eq_free_of_getElem?_ofCapacity hj

theorem session?_sender (hhandle : handle ≠ noHandle) :
    (sender handle offset flags data).session? handle = some { handle, kind := .http } :=
  (SessionTable.get?_eq_some_iff (wellKept_sender handle offset flags data hhandle)).mpr
    ⟨rfl, 0, rfl⟩

variable {handle offset flags data}

/-- The only slot of the device has the session. -/
theorem slots_of_delivered {buffer buffer' : List UInt8} {reply : ReadReply}
    {outcome : ReadOutcome} {t : SessionTable}
    (h : Delivered (sender handle offset flags data).sessions handle offset buffer reply outcome
      buffer' t) :
    ∃ n, t.slots = [.active { handle, kind := .http, readCursor := n }] ∧
      n.toNat = (offset.toNat + outcome.bytesRead) % 2 ^ 32 := by
  obtain ⟨i, s, n, hi, -, hslots, hn⟩ := h.cursor
  cases i with
  | zero =>
    cases hi
    exact ⟨n, hslots, hn⟩
  | succ i => cases hi

/-- The device delivers its data. -/
theorem read_sender {buffer : List UInt8} (hhandle : handle ≠ noHandle)
    (hdata : 19 + data.length ≤ maxFrame) (hbuffer : buffer ≠ []) :
    ∃ outcome, ((sender handle offset flags data).read handle offset buffer).1 = .ok outcome ∧
      Delivered (sender handle offset flags data).sessions handle offset buffer
        (dataReply handle offset flags data) outcome
        ((sender handle offset flags data).read handle offset buffer).2.1
        ((sender handle offset flags data).read handle offset buffer).2.2.sessions := by
  have hw := wellKept_sender handle offset flags data hhandle
  have hs := session?_sender handle offset flags data hhandle
  obtain ⟨question, hquestion⟩ := exists_encode_read hw hs hbuffer offset
  exact read_of_echo hw rfl hs hbuffer hquestion (transact_sender handle offset flags hdata question)
    (echo_dataPacket handle offset flags hdata)

end Sender

/-! ## Every read -/

/-- **A read delivers the data of the device.** Let a session be open on a device that is ready, and
    read from any offset into a buffer that is not empty, whatever the link does. The request asks
    for as many bytes as the buffer takes, but one chunk at most, and nothing else is sent. If the
    read succeeds, the frame that has come back answers it, with the handle and the offset that were
    asked for, and its data has been delivered. If such a frame comes back, the read succeeds. If it
    does not succeed, buffer and table are as they were. -/
theorem read_delivers {d : Device l.recorded} (hw : d.sessions.WellKept held)
    (hready : d.isReady = true) (hs : d.session? handle = some s) (offset : UInt32)
    (hbuffer : buffer ≠ []) :
    ∃ size question made,
      size.toNat = min buffer.length 512 ∧
      (Request.read handle offset size).encode = .ok question ∧
      (d.read handle offset buffer).2.2.line.calls = d.line.calls ++ made ∧
      Exchanged l d.line.state question made ∧
      (∀ outcome, (d.read handle offset buffer).1 = .ok outcome →
        ∃ frame reply, (d.exchange.transact l.recorded question d.line).1 = .ok frame ∧
          Echo handle offset frame reply ∧
          Delivered d.sessions handle offset buffer reply outcome
            (d.read handle offset buffer).2.1 (d.read handle offset buffer).2.2.sessions) ∧
      (∀ frame reply, (d.exchange.transact l.recorded question d.line).1 = .ok frame →
        Echo handle offset frame reply →
        ∃ outcome, (d.read handle offset buffer).1 = .ok outcome) ∧
      ∀ e, (d.read handle offset buffer).1 = .error e →
        (d.read handle offset buffer).2.1 = buffer ∧
          (d.read handle offset buffer).2.2.sessions = d.sessions := by
  obtain ⟨question, hquestion⟩ := exists_encode_read hw hs hbuffer offset
  obtain ⟨made, hcalls, hmade⟩ := d.exchange.transact_exchanged l question d.line
  refine ⟨_, question, made, toNat_readSize buffer.length, hquestion, ?_, hmade, ?_, ?_, ?_⟩
  · rw [(read_eq d handle offset buffer).2, perform_read hready hs hbuffer hquestion]
    exact hcalls
  · intro outcome houtcome
    obtain ⟨question', frame, reply, hquestion', hframe, hecho, hdelivered⟩ :=
      echo_of_read_eq_ok hw houtcome
    rw [hquestion] at hquestion'
    cases hquestion'
    exact ⟨frame, reply, hframe, hecho, hdelivered⟩
  · intro frame reply hframe hecho
    obtain ⟨outcome, houtcome, -⟩ := read_of_echo hw hready hs hbuffer hquestion hframe hecho
    exact ⟨outcome, houtcome⟩
  · intro e he
    exact untouched_of_read_error hw hready hs hbuffer hquestion he

/-- Three bytes are read into a buffer of four, from the last offset but one: the last byte of the
    buffer stays, a flag that means nothing here is kept, and the session goes on behind offset 0. -/
theorem read_delivers_around :
    ∃ d', (sender 7 0xFFFFFFFE 0x82 [1, 2, 3]).read 7 0xFFFFFFFE [0xEE, 0xEE, 0xEE, 0xEE]
        = (.ok ⟨3, 3, ⟨0x82⟩⟩, [1, 2, 3, 0xEE], d') ∧
      d'.sessions.slots = [.active { handle := 7, kind := .http, readCursor := 1 }] := by
  have hdata : 19 + [(1 : UInt8), 2, 3].length ≤ maxFrame := by decide
  obtain ⟨size, question, made, -, -, -, -, hdelivers, hsucceeds, -⟩ :=
    read_delivers (wellKept_sender 7 0xFFFFFFFE 0x82 [1, 2, 3] (by decide)) rfl
      (session?_sender 7 0xFFFFFFFE 0x82 [1, 2, 3] (by decide)) 0xFFFFFFFE
      (List.cons_ne_nil 0xEE [0xEE, 0xEE, 0xEE])
  have hframe := transact_sender 7 0xFFFFFFFE 0x82 hdata question
  have hecho := echo_dataPacket 7 0xFFFFFFFE 0x82 hdata
  obtain ⟨outcome, houtcome⟩ := hsucceeds _ _ hframe hecho
  obtain ⟨frame, reply, hframe', hecho', hdelivered⟩ := hdelivers outcome houtcome
  rw [hframe] at hframe'
  cases hframe'
  cases hecho.answers.unique hecho'.answers
  obtain ⟨n, hslots, hn⟩ := slots_of_delivered hdelivered
  have hfilled := hdelivered.filled
  rw [hdelivered.outcome_eq] at houtcome hfilled hn
  have hcursor : n = 1 := UInt32.toNat_inj.mp hn
  rw [hcursor] at hslots
  exact ⟨_, Prod.ext houtcome (Prod.ext hfilled rfl), hslots⟩

end Device

end CompanionBus
