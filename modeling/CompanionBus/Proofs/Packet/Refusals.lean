import CompanionBus.Packet
/-
  What a byte string that is no frame is refused for.

  1. **Specification** (`refusal_of_decode`) — a byte string is refused for its length, its checksum,
     its command, its descriptors, its fields or its status; if it is said to be too short, then it
     is.

  2. **The proof** — the readers of the parts, one after the other. Each has few errors, and each of
     them is a `Refusal`.
-/
namespace CompanionBus.Packet

variable {total : Nat} {e : ProtocolError}

/-- `Refusal total e` — the error `e` is about the bytes of a frame of length `total`. -/
inductive Refusal (total : Nat) : ProtocolError → Prop where
  | tooShort {need : Nat} (h : total < need) : Refusal total (.packetTooShort need total)
  | length (declared : Nat) : Refusal total (.lengthMismatch declared total)
  | checksum (expected received : UInt8) : Refusal total (.checksumMismatch expected received)
  | service (code : UInt8) : Refusal total (.unknownService code)
  | command (service code : UInt8) : Refusal total (.unknownCommand service code)
  | reservedBits (descriptor : UInt8) : Refusal total (.invalidFrame (.reservedBits descriptor))
  | statusRange (value : UInt32) : Refusal total (.invalidFrame (.statusRange value))

/-- A refusal is an error of the protocol. It is not a status, nor does it complain about the shape of
    an answer. -/
theorem Refusal.proper (h : Refusal total e) :
    e.kind = .protocol ∧ (∀ status, e ≠ .status status) ∧
      ∀ shape, e ≠ .invalidFrame (.unrelated shape) := by
  cases h <;> exact ⟨rfl, nofun, nofun⟩

/-! ## Readers -/

theorem refusal_of_readChain {bytes : List UInt8}
    (h : Descriptor.readChain total bytes = .error e) : Refusal total e := by
  induction bytes with
  | nil =>
    cases h
    exact .tooShort (Nat.lt_succ_self total)
  | cons d bytes ih =>
    rw [Descriptor.readChain] at h
    split at h
    · cases h
      exact .reservedBits d
    split at h
    · cases h
    cases hread : Descriptor.readChain total bytes with
    | error e' =>
      rw [hread] at h
      cases h
      exact ih hread
    | ok r =>
      rw [hread] at h
      cases h

theorem refusal_of_readFields {widths : List Width} {bytes : List UInt8}
    (h : readFields total widths bytes = .error e) : Refusal total e := by
  induction widths generalizing bytes with
  | nil => cases h
  | cons w widths ih =>
    rw [readFields] at h
    split at h
    · cases h
      exact .tooShort (by omega)
    cases hread : readFields total widths (bytes.drop w.bytes) with
    | error e' =>
      rw [hread] at h
      cases h
      exact ih hread
    | ok r =>
      rw [hread] at h
      cases h

theorem refusal_of_checkStatus {fields : List Field} (h : checkStatus fields = .error e) :
    Refusal total e := by
  cases fields with
  | nil => cases h
  | cons f fields =>
    rw [checkStatus] at h
    split at h
    · cases h
    · cases h
      exact .statusRange _

theorem refusal_of_ofBody {command : Command} {bytes : List UInt8}
    (h : ofBody command total bytes = .error e) : Refusal total e := by
  rw [ofBody] at h
  split at h
  · rename_i hchain
    cases h
    exact refusal_of_readChain hchain
  split at h
  · rename_i hfields
    cases h
    exact refusal_of_readFields hfields
  split at h
  · rename_i hstatus
    cases h
    exact refusal_of_checkStatus hstatus
  · cases h

theorem refusal_of_ofWire {service code : UInt8} (h : Command.ofWire service code = .error e) :
    Refusal total e := by
  unfold Command.ofWire Service.ofCode at h
  cases hservice : Service.ofCode? service with
  | none =>
    rw [hservice] at h
    cases h
    exact .service service
  | some s =>
    rw [hservice] at h
    dsimp only at h
    cases hcode : Command.ofCode? s code with
    | none =>
      rw [hcode] at h
      cases h
      exact .command service code
    | some c =>
      rw [hcode] at h
      cases h

/-- **A byte string that is no frame is refused for its bytes.** -/
theorem refusal_of_decode {frame : List UInt8} (h : decode frame = .error e) :
    Refusal frame.length e := by
  rw [decode.eq_def] at h
  split at h
  · split at h
    · cases h
      exact .length _
    split at h
    · cases h
      exact .checksum _ _
    split at h
    · rename_i hcommand
      cases h
      exact refusal_of_ofWire hcommand
    · exact refusal_of_ofBody h
  · rename_i hshort
    cases h
    apply Refusal.tooShort
    -- six bytes would have matched
    rcases frame with _ | ⟨b₀, _ | ⟨b₁, _ | ⟨b₂, _ | ⟨b₃, _ | ⟨b₄, _ | ⟨b₅, rest⟩⟩⟩⟩⟩⟩
    case cons.cons.cons.cons.cons.cons => exact absurd rfl (hshort _ _ _ _ _ _ _)
    all_goals simp [headerSize]

end CompanionBus.Packet
