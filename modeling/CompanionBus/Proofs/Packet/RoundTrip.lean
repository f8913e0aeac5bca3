import CompanionBus.Packet
/-
  Writing a packet and reading it back.

  1. **Specification** — a packet has a frame exactly when its size keeps to the limit. The frame is
     as long as the size says, in its own length bytes too, and it carries its own checksum. Reading
     it gives the packet back, except that a first field of more than a byte is no status and is
     refused.

  2. **The parts** — each writer is undone by its reader, whatever follows: `readChain_chain` for
     the descriptors, `readFields_toBytes` for the fields. A frame is its parts one after the other,
     so the readers meet each part where the writer put it.

  3. **The crux (`readChain_link`)** — the continuation bit is set on all descriptors but the last.
     It disturbs neither the table entry nor the reserved bits (`plain_more`), so the induction is
     on the list of table entries, and the runs of the entries are the widths again
     (`flatMap_run_codes`).
-/
namespace CompanionBus

/-! ## Descriptors -/

namespace Descriptor

/-- A table entry by itself: three bits, none of them reserved and none of them the continuation. -/
theorem plain_entry {c : UInt8} (h : c < 8) : c &&& reservedBits = 0 ∧ c &&& moreBit = 0 := by
  have key : ∀ n < 8, UInt8.ofNat n &&& reservedBits = 0 ∧ UInt8.ofNat n &&& moreBit = 0 := by
    decide
  have hc := key c.toNat (UInt8.lt_iff_toNat_lt.mp h)
  rwa [UInt8.ofNat_toNat] at hc

/-- An entry that announces another one describes the same fields, and still has no reserved bit. -/
theorem plain_more {c : UInt8} (h : c < 8) :
    (c ||| moreBit) &&& reservedBits = 0 ∧ (c ||| moreBit) &&& moreBit ≠ 0 ∧
      run (c ||| moreBit) = run c := by
  have key : ∀ n < 8, (UInt8.ofNat n ||| moreBit) &&& reservedBits = 0 ∧
      (UInt8.ofNat n ||| moreBit) &&& moreBit ≠ 0 ∧
      run (UInt8.ofNat n ||| moreBit) = run (UInt8.ofNat n) := by
    decide
  have hc := key c.toNat (UInt8.lt_iff_toNat_lt.mp h)
  rwa [UInt8.ofNat_toNat] at hc

/-- The entries chosen for a list of widths are entries of the table. -/
theorem lt_of_mem_codes {widths : List Width} : ∀ c ∈ codes widths, c < 8 := by
  fun_induction codes widths with
  | case8 => intro c hc; cases hc
  | _ =>
    rename_i ih
    intro c hc
    rcases List.mem_cons.mp hc with rfl | hc
    · decide
    · exact ih c hc

/-- The runs of the entries chosen for a list of widths make up that list. -/
theorem flatMap_run_codes (widths : List Width) : (codes widths).flatMap run = widths := by
  fun_induction codes widths with
  | case8 => rfl
  | _ =>
    rename_i ih
    rw [List.flatMap_cons, ih]
    rfl

/-- A chain is never empty. -/
theorem link_ne_nil (cs : List UInt8) : link cs ≠ [] := by
  match cs with
  | [] => exact List.cons_ne_nil _ _
  | [_] => exact List.cons_ne_nil _ _
  | _ :: _ :: _ => exact List.cons_ne_nil _ _

/-- **Chains are read back.** The chain of some table entries describes the runs of all of them, and
    the reader stops right behind it. -/
theorem readChain_link (total : Nat) (rest : List UInt8) :
    ∀ cs : List UInt8, (∀ c ∈ cs, c < 8) →
      readChain total (link cs ++ rest) = .ok (cs.flatMap run, rest)
  | [], _ => rfl
  | [c], h => by
    obtain ⟨hres, hmore⟩ := plain_entry (h c (List.mem_cons_self ..))
    show readChain total (c :: rest) = _
    rw [readChain, if_neg (fun hne => hne hres), if_pos hmore, List.flatMap_singleton]
  | c :: c' :: cs, h => by
    obtain ⟨hres, hmore, hrun⟩ := plain_more (h c (List.mem_cons_self ..))
    have ih := readChain_link total rest (c' :: cs) (fun d hd => h d (List.mem_cons_of_mem c hd))
    show readChain total ((c ||| moreBit) :: (link (c' :: cs) ++ rest)) = _
    rw [readChain, if_neg (fun hne => hne hres), if_neg hmore, ih, hrun]
    rfl

/-- **The chain of a list of widths describes it.** -/
theorem readChain_chain (total : Nat) (widths : List Width) (rest : List UInt8) :
    readChain total (chain widths ++ rest) = .ok (widths, rest) := by
  rw [chain, readChain_link total rest _ lt_of_mem_codes, flatMap_run_codes]

end Descriptor

namespace Packet

/-! ## Fields -/

/-- Fields are read back from their bytes, up to where the payload begins. -/
theorem readFields_toBytes (total : Nat) (payload : List UInt8) :
    ∀ fields : List Field,
      readFields total (fields.map Field.width) (fields.flatMap Field.toBytes ++ payload)
        = .ok (fields, payload)
  | [] => rfl
  | f :: fields => by
    have hlen : f.toBytes.length = f.width.bytes := Field.length_toBytes f
    have happ : (f :: fields).flatMap Field.toBytes ++ payload
        = f.toBytes ++ (fields.flatMap Field.toBytes ++ payload) := by
      rw [List.flatMap_cons, List.append_assoc]
    rw [happ, List.map_cons, readFields, if_neg (by rw [List.length_append, hlen]; omega),
      List.drop_left' hlen, readFields_toBytes total payload fields, List.take_left' hlen]
    show Except.ok (Field.ofNat f.width (LittleEndian.decode f.toBytes) :: fields, payload) = _
    rw [Field.ofNat_decode_toBytes]

/-- Fields take as many bytes as is counted for them. -/
theorem length_flatMap_toBytes (fields : List Field) :
    (fields.flatMap Field.toBytes).length = valueBytes fields := by
  induction fields with
  | nil => rfl
  | cons f fields ih =>
    rw [List.flatMap_cons, List.length_append, Field.length_toBytes, ih]
    rfl

/-! ## Frames -/

/-- The descriptors, the fields and the payload take what the size says, less the header in front
    of them. -/
theorem length_body (p : Packet) : p.size = 5 + p.body.length := by
  simp only [size, body, headerSize, List.length_append, length_flatMap_toBytes]
  omega

/-- The frame byte by byte, as far as the body. -/
theorem frameWith_eq (p : Packet) (checksum : UInt8) :
    p.frameWith checksum = p.command.service.code :: p.command.code ::
      UInt8.ofNat p.size :: UInt8.ofNat (p.size / 256) :: checksum :: p.body := rfl

@[simp] theorem length_frameWith (p : Packet) (checksum : UInt8) :
    (p.frameWith checksum).length = p.size := by
  rw [frameWith_eq, length_body]
  simp only [List.length_cons]
  omega

/-- The length bytes of a frame hold its length, if two bytes can. -/
theorem decode_length_frameWith {p : Packet} (checksum : UInt8) (h : p.size ≤ maxFrame) :
    LittleEndian.decode (((p.frameWith checksum).drop 2).take 2) = p.size := by
  show LittleEndian.decode (LittleEndian.encode 2 p.size) = p.size
  apply LittleEndian.decode_encode
  have hmax : maxFrame < LittleEndian.span 2 := by decide
  omega

/-- The checksum of a frame does not depend on the byte that carries it. -/
theorem frameSum_frameWith (p : Packet) (c c' : UInt8) :
    Checksum.frameSum (p.frameWith c) = Checksum.frameSum (p.frameWith c') := by
  have hlong : ∀ c, ¬ (p.frameWith c).length ≤ Checksum.position := by
    intro c
    rw [length_frameWith, length_body, Checksum.position]
    omega
  rw [Checksum.frameSum, Checksum.frameSum, if_neg (hlong c), if_neg (hlong c')]
  rfl

/-- The frame that a packet is sent as. -/
def frame (p : Packet) : List UInt8 := p.frameWith (Checksum.frameSum (p.frameWith 0))

theorem encode_of_le {p : Packet} (h : p.size ≤ maxFrame) : p.encode = .ok p.frame := by
  rw [encode, if_neg (by omega)]
  rfl

theorem encode_of_lt {p : Packet} (h : maxFrame < p.size) :
    p.encode = .error (.payloadTooLarge p.size maxFrame) := by
  rw [encode, if_pos h]

/-- Only a packet that keeps to the limit is written, and only as its frame. -/
theorem encode_eq_ok_iff {p : Packet} {f : List UInt8} :
    p.encode = .ok f ↔ p.size ≤ maxFrame ∧ f = p.frame := by
  constructor
  · intro h
    rcases Nat.lt_or_ge maxFrame p.size with hlt | hle
    · rw [encode_of_lt hlt] at h; cases h
    · rw [encode_of_le hle] at h; exact ⟨hle, (Except.ok.inj h).symm⟩
  · rintro ⟨hle, rfl⟩
    exact encode_of_le hle

@[simp] theorem length_frame (p : Packet) : p.frame.length = p.size := length_frameWith ..

/-- A frame carries its own checksum. -/
theorem frameSum_frame (p : Packet) :
    Checksum.frameSum p.frame = Checksum.frameSum (p.frameWith 0) :=
  frameSum_frameWith p _ 0

theorem verify_frame (p : Packet) : Checksum.verify p.frame = true := by
  show (Checksum.frameSum p.frame == Checksum.frameSum (p.frameWith 0)) = true
  rw [frameSum_frame, beq_self_eq_true]

/-! ## Reading a frame back -/

/-- Whether the first field of a packet, if it has one, can be a status. -/
def StatusFits (p : Packet) : Prop := ∀ f ∈ p.fields.head?, f.value ≤ 0xFF

instance (p : Packet) : Decidable p.StatusFits :=
  inferInstanceAs (Decidable (∀ f ∈ p.fields.head?, f.value ≤ 0xFF))

/-- Descriptors, fields and payload are read back; what remains is the check of the status. -/
theorem ofBody_body (p : Packet) (total : Nat) :
    ofBody p.command total p.body = (checkStatus p.fields).map fun _ => p := by
  have hbody : p.body = p.descriptors ++ (p.fields.flatMap Field.toBytes ++ p.payload) := by
    rw [body, List.append_assoc]
  rw [ofBody, hbody, descriptors, Descriptor.readChain_chain]
  dsimp only
  rw [readFields_toBytes]
  dsimp only
  cases checkStatus p.fields <;> rfl

/-- **Reading undoes writing**, up to the check of the status. -/
theorem decode_frame {p : Packet} (h : p.size ≤ maxFrame) :
    decode p.frame = (checkStatus p.fields).map fun _ => p := by
  have hne : p.body ≠ [] := by
    rw [body, List.append_assoc]
    exact List.append_ne_nil_of_left_ne_nil (Descriptor.link_ne_nil _) _
  obtain ⟨first, rest, hcons⟩ := List.exists_cons_of_ne_nil hne
  have hlen : LittleEndian.decode [UInt8.ofNat p.size, UInt8.ofNat (p.size / 256)]
      = p.frame.length := by
    rw [length_frame]
    exact decode_length_frameWith 0 h
  have hsum := frameSum_frame p
  have hcommand : Command.ofWire p.command.service.code p.command.code = .ok p.command :=
    Command.ofWire_eq_ok_iff.mpr ⟨rfl, rfl⟩
  have hframe : p.frame = p.command.service.code :: p.command.code ::
      UInt8.ofNat p.size :: UInt8.ofNat (p.size / 256) ::
      Checksum.frameSum (p.frameWith 0) :: first :: rest := by
    rw [frame, frameWith_eq, hcons]
  rw [← ofBody_body p p.frame.length, hcons]
  rw [hframe] at hlen hsum ⊢
  rw [decode, if_neg (fun hne => hne hlen), if_neg (fun hne => hne hsum), hcommand]

/-- A packet with a proper status comes back as it was. -/
theorem decode_frame_of_statusFits {p : Packet} (h : p.size ≤ maxFrame) (hs : p.StatusFits) :
    decode p.frame = .ok p := by
  rw [decode_frame h]
  cases hf : p.fields with
  | nil => rfl
  | cons f fields =>
    have hle : f.value ≤ 0xFF := hs f (by rw [hf]; rfl)
    rw [checkStatus, if_pos hle]
    rfl

/-- **The round trip of a packet.** Above the limit there is no frame, and the error tells the size.
    Otherwise the frame has the size of the packet, says so itself and carries its own checksum; it
    is read as the very same packet, unless the first field is too large to be a status. -/
theorem frame_round_trip (p : Packet) :
    if maxFrame < p.size then p.encode = .error (.payloadTooLarge p.size maxFrame)
    else ∃ f, p.encode = .ok f ∧
      f.length = p.size ∧
      LittleEndian.decode ((f.drop 2).take 2) = f.length ∧
      Checksum.verify f = true ∧
      decode f =
        match p.fields with
        | [] => .ok p
        | first :: _ =>
          if first.value ≤ 0xFF then .ok p else .error (.invalidFrame (.statusRange first.value)) := by
  split
  · rename_i hlt
    exact encode_of_lt hlt
  · rename_i hnlt
    have hle : p.size ≤ maxFrame := by omega
    refine ⟨p.frame, encode_of_le hle, length_frame p, ?_, verify_frame p, ?_⟩
    · rw [length_frame]
      exact decode_length_frameWith _ hle
    · rw [decode_frame hle]
      cases p.fields with
      | nil => rfl
      | cons first fields =>
        by_cases hs : first.value ≤ 0xFF
        · simp only [checkStatus, if_pos hs]; rfl
        · simp only [checkStatus, if_neg hs]; rfl

end Packet

end CompanionBus
