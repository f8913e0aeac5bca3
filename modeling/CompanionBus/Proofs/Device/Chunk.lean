import CompanionBus.Proofs.Device.Reading
import CompanionBus.Proofs.Exchange.Received
/-
  How much a read moves.

  1. **Specification (`read_within_chunk_iff`)** — a read asks for one chunk at most, but the answer
     is not held to that: what is moved is bounded by the buffer and by the data that comes. So it
     keeps to one chunk exactly if the one or the other does. What can come is bounded by the room
     for a frame, which is almost four chunks.

  2. **The gap** — a device that sends a byte too many moves the caller's buffer and the place to go
     on from by more than one chunk (`read_beyond_chunk`).
-/
namespace CompanionBus.Device

variable {σ : Type} {l : Link σ} {d : Device l} {held : List Reservation} {handle : UInt16}
  {offset : UInt32} {buffer : List UInt8} {outcome : ReadOutcome}

/-- The data of an answer fits the room for a frame, behind the bytes in front of it. -/
theorem declaredLength_le (hw : d.sessions.WellKept held)
    (h : (d.read handle offset buffer).1 = .ok outcome) :
    outcome.declaredLength + 18 ≤ 2 * maxFrame := by
  obtain ⟨question, frame, reply, -, hframe, hecho, hdelivered⟩ := echo_of_read_eq_ok hw h
  have hdata := hecho.answers.length_data_le
  have hroom := Exchange.length_le_of_transact hframe
  rw [hdelivered.declared]
  omega

/-- **How much a read moves**: the data that comes, as far as the buffer takes it. This is no more
    than what was asked for exactly if the buffer takes one chunk at most, or no more than that has
    come; otherwise the only bound is the room for a frame. The place to go on from moves by as
    much. -/
theorem read_within_chunk_iff (hw : d.sessions.WellKept held)
    (h : (d.read handle offset buffer).1 = .ok outcome) :
    outcome.bytesRead = min outcome.declaredLength buffer.length ∧
      (outcome.bytesRead ≤ min buffer.length maxChunk ↔
        buffer.length ≤ maxChunk ∨ outcome.declaredLength ≤ maxChunk) ∧
      outcome.declaredLength + 18 ≤ 2 * maxFrame ∧
      ∃ s, (d.read handle offset buffer).2.2.session? handle = some s ∧
        s.readCursor.toNat = (offset.toNat + outcome.bytesRead) % 2 ^ 32 := by
  obtain ⟨question, frame, reply, -, -, -, hdelivered⟩ := echo_of_read_eq_ok hw h
  have hcount : outcome.bytesRead = min outcome.declaredLength buffer.length := by
    rw [hdelivered.count, hdelivered.declared]
  refine ⟨hcount, ?_, declaredLength_le hw h, ?_⟩
  · rw [hcount]
    omega
  · obtain ⟨i, s, n, hi, rfl, hslots, hn⟩ := hdelivered.cursor
    have hget : SessionTable.get? ⟨d.sessions.slots.set i (.active { s with readCursor := n })⟩
        s.handle = _ := SessionTable.get?_change hw hi rfl
    rw [if_pos rfl, ← hslots] at hget
    exact ⟨{ s with readCursor := n }, hget, hn⟩

/-- Data of just the size of the buffer is moved as a whole. -/
theorem read_sender_whole {flags : UInt8} {data : List UInt8} (hhandle : handle ≠ noHandle)
    (hdata : 19 + data.length ≤ maxFrame) (hbuffer : buffer ≠ [])
    (hlength : data.length = buffer.length) :
    ∃ d', (sender handle offset flags data).read handle offset buffer
        = (.ok ⟨data.length, data.length, ⟨flags⟩⟩, data, d') ∧
      d'.sessions.slots = [.active
        { handle, kind := .http, readCursor := offset + UInt32.ofNat data.length }] := by
  obtain ⟨outcome, houtcome, hdelivered⟩ :=
    @read_sender handle offset flags data buffer hhandle hdata hbuffer
  obtain ⟨n, hslots, hn⟩ := slots_of_delivered hdelivered
  have hfilled := hdelivered.filled
  have hwhole : Operation.outcomeOf buffer.length (dataReply handle offset flags data)
      = ⟨data.length, data.length, ⟨flags⟩⟩ := by
    show (⟨min data.length buffer.length, data.length, ⟨flags⟩⟩ : ReadOutcome) = _
    rw [← hlength, Nat.min_self]
  rw [hdelivered.outcome_eq, hwhole] at houtcome hfilled hn
  have hcursor : n = offset + UInt32.ofNat data.length := by
    rw [← UInt32.toNat_inj, hn, UInt32.toNat_add, UInt32.toNat_ofNat']
    exact (Nat.add_mod_mod _ _ _).symm
  have hdata' : (dataReply handle offset flags data).data = data := rfl
  rw [hdata', List.take_length, hlength, List.drop_length, List.append_nil] at hfilled
  rw [hcursor] at hslots
  exact ⟨_, Prod.ext houtcome (Prod.ext hfilled rfl), hslots⟩

/-- One byte more than a chunk, for a buffer with room for it: the read has not kept to what it has
    asked for. -/
theorem read_not_within_chunk :
    ∃ outcome, ((sender 1 0 0 (List.replicate 513 0)).read 1 0 (List.replicate 513 0xEE)).1
        = .ok outcome ∧ ¬ outcome.bytesRead ≤ min 513 maxChunk := by
  obtain ⟨d', hread, -⟩ := @read_sender_whole 1 0 (List.replicate 513 0xEE) 0
    (List.replicate 513 0) (by decide) (by rw [List.length_replicate]; decide)
    (List.cons_ne_nil _ _) (by rw [List.length_replicate, List.length_replicate])
  have houtcome := congrArg Prod.fst hread
  have hw := wellKept_sender 1 0 0 (List.replicate 513 0) (by decide)
  obtain ⟨-, hiff, -⟩ := read_within_chunk_iff hw houtcome
  rw [List.length_replicate, List.length_replicate] at hiff
  refine ⟨_, houtcome, ?_⟩
  rw [List.length_replicate, hiff]
  decide

/-- **One chunk is not the most that a read moves**: it moves 513 bytes, and the place to go on from
    by as many. -/
theorem read_beyond_chunk :
    ∃ d', (sender 1 0 0 (List.replicate 513 0)).read 1 0 (List.replicate 513 0xEE)
        = (.ok ⟨513, 513, ⟨0⟩⟩, List.replicate 513 0, d') ∧
      d'.sessions.slots = [.active { handle := 1, kind := .http, readCursor := 513 }] ∧
      maxChunk < 513 := by
  obtain ⟨d', hread, hslots⟩ := @read_sender_whole 1 0 (List.replicate 513 0xEE) 0
    (List.replicate 513 0) (by decide) (by rw [List.length_replicate]; decide)
    (List.cons_ne_nil _ _) (by rw [List.length_replicate, List.length_replicate])
  rw [List.length_replicate] at hread hslots
  exact ⟨d', hread, hslots, by decide⟩

end CompanionBus.Device
