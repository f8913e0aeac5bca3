import CompanionBus.Proofs.Packet.RoundTrip
import CompanionBus.Request
/-
  The limits of requests, and that nothing else keeps a request from being written.

  1. **Specification** — `WithinLimits` lists what a request has to keep to. A request is written
     exactly if it keeps to that (`encode_eq_ok_iff`); if it is not written, its caller is to blame
     (`blames_of_encode_eq_error`).

  2. **The crux (`size_le`)** — a frame has a limit of its own, of which a request knows nothing. No
     request that keeps to its own limits comes near it, as each part of a payload is bounded; the
     longest payload is that of a write.
-/
namespace CompanionBus.Request

/-- A request keeps to the limits: addresses and timezones are neither empty nor too long, handles
    are handles of sessions, and no more is read or written than goes at once. -/
def WithinLimits : Request → Prop
  | .openUrl _ _ url _ => url ≠ "" ∧ url.utf8ByteSize ≤ maxUrl
  | .read handle _ maxBytes => handle ≠ noHandle ∧ maxBytes ≠ 0 ∧ maxBytes.toNat ≤ maxChunk
  | .write handle _ data => handle ≠ noHandle ∧ data.length ≤ maxChunk
  | .close handle | .info handle => handle ≠ noHandle
  | .clockFormat _ (some timezone) | .timezoneSet timezone _ =>
    timezone ≠ "" ∧ timezone.utf8ByteSize ≤ maxTimezone
  | .clockFormat _ none | .clockGet | .clockSet _ | .timezoneGet | .clockSync => True

variable {r : Request} {e : ProtocolError}

/-! ## One limit at a time -/

/-- The limits of a text: it is not empty, and not too long. -/
theorem textFault_eq_none_iff {text : String} {max : Nat} {empty long : ProtocolError} :
    (if text.utf8ByteSize = 0 then some empty
      else if max < text.utf8ByteSize then some long else none) = none ↔
      text ≠ "" ∧ text.utf8ByteSize ≤ max := by
  split
  · rename_i hempty
    exact iff_of_false nofun (fun h => h.1 (String.utf8ByteSize_eq_zero_iff.mp hempty))
  · rename_i hne
    split
    · exact iff_of_false nofun (by omega)
    · exact iff_of_true rfl ⟨fun h => hne (String.utf8ByteSize_eq_zero_iff.mpr h), by omega⟩

/-- What is wrong with a text is that it is empty, or that it is too long. -/
theorem textFault_eq_some {text : String} {max : Nat} {empty long : ProtocolError}
    (h : (if text.utf8ByteSize = 0 then some empty
      else if max < text.utf8ByteSize then some long else none) = some e) :
    (text = "" ∧ e = empty) ∨ (max < text.utf8ByteSize ∧ e = long) := by
  split at h
  · rename_i hempty
    exact Or.inl ⟨String.utf8ByteSize_eq_zero_iff.mp hempty, (Option.some.inj h).symm⟩
  · split at h
    · rename_i hlong
      exact Or.inr ⟨hlong, (Option.some.inj h).symm⟩
    · cases h

theorem urlFault?_eq_none_iff {url : String} :
    urlFault? url = none ↔ url ≠ "" ∧ url.utf8ByteSize ≤ maxUrl :=
  textFault_eq_none_iff

theorem timezoneFault?_eq_none_iff {timezone : String} :
    timezoneFault? timezone = none ↔ timezone ≠ "" ∧ timezone.utf8ByteSize ≤ maxTimezone :=
  textFault_eq_none_iff

theorem handleFault?_eq_none_iff {handle : UInt16} :
    handleFault? handle = none ↔ handle ≠ noHandle := by
  rw [handleFault?]
  split
  · rename_i hzero
    exact iff_of_false nofun (fun h => h hzero)
  · rename_i hne
    exact iff_of_true rfl hne

theorem chunkFault?_eq_none_iff {length : Nat} :
    chunkFault? length = none ↔ length ≤ maxChunk := by
  rw [chunkFault?]
  split
  · exact iff_of_false nofun (by omega)
  · exact iff_of_true rfl (by omega)

theorem chunkFault?_eq_some {length : Nat} (h : chunkFault? length = some e) :
    maxChunk < length ∧ e = .payloadTooLarge length maxChunk := by
  rw [chunkFault?] at h
  split at h
  · rename_i hlong
    exact ⟨hlong, (Option.some.inj h).symm⟩
  · cases h

/-- **A request has no fault exactly if it keeps to the limits.** -/
theorem fault?_eq_none_iff : r.fault? = none ↔ r.WithinLimits := by
  cases r with
  | openUrl method flags url bodyLength => exact urlFault?_eq_none_iff
  | read handle offset maxBytes =>
    rw [fault?, Option.or_eq_none_iff, handleFault?_eq_none_iff, WithinLimits]
    split
    · rename_i hzero
      refine iff_of_false (fun h => ?_) (fun h => h.2.1 hzero)
      cases h.2
    · rename_i hne
      rw [chunkFault?_eq_none_iff]
      exact and_congr_right fun _ => (and_iff_right hne).symm
  | write handle offset data =>
    rw [fault?, Option.or_eq_none_iff, handleFault?_eq_none_iff, chunkFault?_eq_none_iff,
      WithinLimits]
  | close handle => exact handleFault?_eq_none_iff
  | info handle => exact handleFault?_eq_none_iff
  | clockFormat format timezone =>
    cases timezone with
    | none => exact iff_of_true rfl trivial
    | some timezone => exact timezoneFault?_eq_none_iff
  | timezoneSet timezone persist => exact timezoneFault?_eq_none_iff
  | clockGet | clockSet | timezoneGet | clockSync => exact iff_of_true rfl trivial

/-! ## Whose fault it is -/

/-- An error that blames the caller for an argument, and not the size of a frame. -/
def BlamesArgument (e : ProtocolError) : Prop :=
  e.kind = .argument ∧ ∀ size, e ≠ .payloadTooLarge size maxFrame

theorem blames_of_textFault {text : String} {max : Nat} {empty long : ProtocolError}
    (h : (if text.utf8ByteSize = 0 then some empty
      else if max < text.utf8ByteSize then some long else none) = some e)
    (hempty : BlamesArgument empty) (hlong : BlamesArgument long) : BlamesArgument e := by
  rcases textFault_eq_some h with ⟨-, rfl⟩ | ⟨-, rfl⟩
  · exact hempty
  · exact hlong

theorem blames_of_urlFault? {url : String} (h : urlFault? url = some e) : BlamesArgument e :=
  blames_of_textFault h ⟨rfl, nofun⟩ ⟨rfl, nofun⟩

theorem blames_of_timezoneFault? {timezone : String} (h : timezoneFault? timezone = some e) :
    BlamesArgument e :=
  blames_of_textFault h ⟨rfl, nofun⟩ ⟨rfl, nofun⟩

theorem blames_of_handleFault? {handle : UInt16} (h : handleFault? handle = some e) :
    BlamesArgument e := by
  rw [handleFault?] at h
  split at h
  · cases h
    exact ⟨rfl, nofun⟩
  · cases h

theorem blames_of_chunkFault? {length : Nat} (h : chunkFault? length = some e) :
    BlamesArgument e := by
  obtain ⟨-, rfl⟩ := chunkFault?_eq_some h
  refine ⟨rfl, fun size hsize => ?_⟩
  have hmax : maxChunk = maxFrame := (ProtocolError.payloadTooLarge.inj hsize).2
  exact absurd hmax (by decide)

/-- A limit that a request breaks is one that its caller has to keep. -/
theorem blames_of_fault? (h : r.fault? = some e) : BlamesArgument e := by
  cases r with
  | openUrl method flags url bodyLength => exact blames_of_urlFault? h
  | read handle offset maxBytes =>
    rcases Option.or_eq_some_iff.mp h with hhandle | ⟨-, hbytes⟩
    · exact blames_of_handleFault? hhandle
    · split at hbytes
      · cases hbytes
        exact ⟨rfl, nofun⟩
      · exact blames_of_chunkFault? hbytes
  | write handle offset data =>
    rcases Option.or_eq_some_iff.mp h with hhandle | ⟨-, hdata⟩
    · exact blames_of_handleFault? hhandle
    · exact blames_of_chunkFault? hdata
  | close handle => exact blames_of_handleFault? h
  | info handle => exact blames_of_handleFault? h
  | clockFormat format timezone =>
    cases timezone with
    | none => cases h
    | some timezone => exact blames_of_timezoneFault? h
  | timezoneSet timezone persist => exact blames_of_timezoneFault? h
  | clockGet | clockSet | timezoneGet | clockSync => cases h

/-! ## The frame has room -/

@[simp] theorem length_half (n : Nat) : (half n).length = 2 := LittleEndian.length_encode 2 n

@[simp] theorem length_word (n : Nat) : (word n).length = 4 := LittleEndian.length_encode 4 n

/-- The bytes of a text are as many as its size says. -/
@[simp] theorem length_utf8 (s : String) : (Utf8.encode s).length = s.utf8ByteSize := rfl

/-- The longest payload is that of a write. -/
theorem length_payload_le (h : r.WithinLimits) : r.payload.length ≤ 9 + maxChunk := by
  have hurl : maxUrl = 256 := rfl
  have hchunk : maxChunk = 512 := rfl
  have htimezone : maxTimezone = 64 := rfl
  cases r with
  | openUrl method flags url bodyLength =>
    have hlen : url.utf8ByteSize ≤ maxUrl := h.2
    simp only [payload, List.length_cons, List.length_append, length_half, length_word, length_utf8]
    omega
  | read handle offset maxBytes =>
    simp only [payload, List.length_cons, List.length_append, length_half, length_word]
    omega
  | write handle offset data =>
    have hlen : data.length ≤ maxChunk := h.2
    simp only [payload, List.length_cons, List.length_append, length_half, length_word]
    omega
  | close handle =>
    simp only [payload, List.length_cons, length_half]
    omega
  | info handle =>
    simp only [payload, List.length_cons, length_half]
    omega
  | clockFormat format timezone =>
    have hlen : (timezone.getD "").utf8ByteSize ≤ maxTimezone := by
      cases timezone with
      | none => exact Nat.zero_le _
      | some timezone => exact h.2
    simp only [payload, List.length_cons, length_utf8]
    omega
  | timezoneSet timezone persist =>
    have hlen : timezone.utf8ByteSize ≤ maxTimezone := h.2
    simp only [payload, List.length_cons, length_utf8]
    omega
  | clockSet time =>
    simp only [payload, List.length_cons, LittleEndian.length_encode]
    omega
  | clockGet | timezoneGet | clockSync =>
    simp only [payload, List.length_cons, List.length_nil]
    omega

/-- The packet that a request is sent as. -/
def packet (r : Request) : Packet := { command := r.command, payload := r.payload }

/-- **The packet of a request that keeps to the limits fits a frame.** -/
theorem size_le (h : r.WithinLimits) : r.packet.size ≤ maxFrame := by
  have hpayload := length_payload_le h
  have hsize : r.packet.size = 6 + r.payload.length := rfl
  have hroom : 6 + (9 + maxChunk) ≤ maxFrame := by decide
  omega

/-! ## Writing a request -/

/-- **A request is written exactly if it keeps to the limits**, as the frame of its packet. -/
theorem encode_eq_ok_iff {f : List UInt8} :
    r.encode = .ok f ↔ r.WithinLimits ∧ f = r.packet.frame := by
  rw [← fault?_eq_none_iff, encode, toPacket]
  cases hfault : r.fault? with
  | some e => exact iff_of_false nofun (fun h => nomatch h.1)
  | none =>
    have hle := size_le (fault?_eq_none_iff.mp hfault)
    exact Packet.encode_eq_ok_iff.trans (and_congr_left fun _ => iff_of_true hle rfl)

/-- A request that is not written breaks a limit of its own, and the error names that limit. -/
theorem encode_eq_error_iff : r.encode = .error e ↔ r.fault? = some e := by
  rw [encode, toPacket]
  cases hfault : r.fault? with
  | some e' => exact ⟨fun h => congrArg some (Except.error.inj h),
      fun h => congrArg Except.error (Option.some.inj h)⟩
  | none =>
    have hle := size_le (fault?_eq_none_iff.mp hfault)
    have hwritten : Packet.encode { command := r.command, payload := r.payload } = .ok _ :=
      Packet.encode_of_le hle
    dsimp only
    rw [hwritten]
    exact iff_of_false nofun nofun

/-- **A request that cannot be written is the fault of its caller.** -/
theorem blames_of_encode_eq_error (h : r.encode = .error e) : BlamesArgument e :=
  blames_of_fault? (encode_eq_error_iff.mp h)

end CompanionBus.Request
