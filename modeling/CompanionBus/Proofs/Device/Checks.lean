import CompanionBus.Proofs.Device.Atomic
import CompanionBus.Proofs.Exchange.Course
/-
  The checks come before the link, and every operation is one exchange at most.

  1. **Specification** (`calls_of_operation`) — `Obstacle` lists what stands in the way of a call on
     this side of the bus, each with its error. If there is an obstacle, the call does not touch the
     link and ends in the error of one; which one, where there are several, depends on the order in
     which an operation makes its checks. If there is none, the call is one exchange (`Exchanged`).

  2. **Operations** — `Checks` says of an operation that it checks what a call is to be checked for:
     neither does it refuse a call for any other reason, nor does it let an obstacle pass. There is
     one lemma for each operation.

  3. **The crux** — the checks are made in three places: the operation looks at the table, the
     device at its link, and the request at its own limits. `perform_disposed` goes through the
     three, and is the only proof that does.
-/
namespace CompanionBus

variable {σ : Type} {l : Link σ}

/-! ## Calls -/

namespace DeviceCall

/-- The handle that a call is about, if it is about a session that is open. -/
def handle? : DeviceCall → Option UInt16
  | .write handle _ _ | .halfClose handle | .read handle _ _ | .info handle | .close handle =>
    some handle
  | _ => none

/-- The timezone that a call names, if it names one. -/
def timezone? : DeviceCall → Option String
  | .clockFormatIn _ timezone | .timezoneSet timezone | .timezoneSave timezone => some timezone
  | _ => none

/-- The one request of a call, given the table of sessions. -/
def request? (t : SessionTable) : DeviceCall → Option Request
  | .init | .shutdown => none
  | .openUrl method url flags => some (.openUrl method flags url 0)
  | .openWithBody method url flags bodyLength => some (.openUrl method flags url bodyLength)
  | .openTcp host port => some (.openUrl .stream Flags.none s!"tcp://{host}:{port.toNat}" 0)
  | .write handle offset data => some (.write handle offset data)
  | .halfClose handle => (t.get? handle).map fun s => .write handle s.writeCursor []
  | .read handle offset buffer =>
    some (.read handle offset (UInt16.ofNat (min buffer.length maxChunk)))
  | .info handle => some (.info handle)
  | .close handle => some (.close handle)
  | .clockGet => some .clockGet
  | .clockSet time => some (.clockSet time)
  | .clockSync => some .clockSync
  | .clockFormat format => some (.clockFormat format none)
  | .clockFormatIn format timezone => some (.clockFormat format (some timezone))
  | .timezoneGet => some .timezoneGet
  | .timezoneSet timezone => some (.timezoneSet timezone false)
  | .timezoneSave timezone => some (.timezoneSet timezone true)

end DeviceCall

/-! ## Obstacles -/

namespace Device

/-- `d.Obstacle c e` — the call `c` to the device fails one of the checks that are made on this side
    of the bus, the one whose error is `e`. -/
inductive Obstacle (d : Device l) : DeviceCall → ClientError → Prop where
  | notReady {c : DeviceCall} (h : d.isReady = false) : Obstacle d c .notInitialized
  | untracked {c : DeviceCall} {handle : UInt16} (hc : c.handle? = some handle)
      (h : d.session? handle = none) : Obstacle d c (.protocol (.handleNotFound handle))
  | writeOffset {handle : UInt16} {offset : UInt32} {data : List UInt8} {s : Session}
      (h : d.session? handle = some s) (hoffset : offset ≠ s.writeCursor) :
      Obstacle d (.write handle offset data)
        (.protocol (.invalidArgument (.writeOffset offset s.writeCursor handle)))
  | longData {handle : UInt16} {offset : UInt32} {data : List UInt8}
      (h : maxChunk < data.length) :
      Obstacle d (.write handle offset data)
        (.protocol (.payloadTooLarge data.length maxChunk))
  | emptyBuffer {handle : UInt16} {offset : UInt32} :
      Obstacle d (.read handle offset []) (.protocol (.invalidArgument .emptyBuffer))
  | emptyUrl {c : DeviceCall} (hc : c.address? = some "") :
      Obstacle d c (.protocol (.invalidArgument .emptyUrl))
  | longUrl {c : DeviceCall} {url : String} (hc : c.address? = some url)
      (h : maxUrl < url.utf8ByteSize) :
      Obstacle d c (.protocol (.urlTooLong url.utf8ByteSize maxUrl))
  | noSlot {c : DeviceCall} {url : String} (hc : c.address? = some url)
      (h : Slot.free ∉ d.sessions.slots) : Obstacle d c (.protocol .noHandles)
  | emptyTimezone {c : DeviceCall} (hc : c.timezone? = some "") :
      Obstacle d c (.protocol (.invalidArgument .emptyTimezone))
  | longTimezone {c : DeviceCall} {timezone : String} (hc : c.timezone? = some timezone)
      (h : maxTimezone < timezone.utf8ByteSize) :
      Obstacle d c (.protocol (.invalidArgument (.longTimezone timezone.utf8ByteSize)))

variable {d : Device l} {c : DeviceCall} {e : ClientError}

/-- **Whose fault an obstacle is**: that of an argument, of the table, or of a device that has not
    been made ready. -/
theorem Obstacle.kind (h : d.Obstacle c e) :
    e.kind = .argument ∨ e.kind = .resource ∨ e = .notInitialized := by
  cases h with
  | notReady => exact Or.inr (Or.inr rfl)
  | untracked | noSlot => exact Or.inr (Or.inl rfl)
  | writeOffset | longData | emptyBuffer | emptyUrl | longUrl | emptyTimezone | longTimezone =>
    exact Or.inl rfl

theorem Obstacle.of_urlFault? {url : String} {fault : ProtocolError} (hc : c.address? = some url)
    (h : Request.urlFault? url = some fault) : d.Obstacle c (.protocol fault) := by
  rcases Request.textFault_eq_some h with ⟨rfl, rfl⟩ | ⟨hlong, rfl⟩
  · exact .emptyUrl hc
  · exact .longUrl hc hlong

theorem Obstacle.of_timezoneFault? {timezone : String} {fault : ProtocolError}
    (hc : c.timezone? = some timezone) (h : Request.timezoneFault? timezone = some fault) :
    d.Obstacle c (.protocol fault) := by
  rcases Request.textFault_eq_some h with ⟨rfl, rfl⟩ | ⟨hlong, rfl⟩
  · exact .emptyTimezone hc
  · exact .longTimezone hc hlong

/-! ## What an operation checks -/

variable {α : Type} {op : Operation α}

/-- `d.Accepts c p` — `p` asks for what the call `c` is to ask for, and nothing but the limits of its
    request and the readiness of the device is left to be checked. -/
structure Accepts (d : Device l) (c : DeviceCall) (p : Pending α) : Prop where
  /-- It asks for the one request of the call. -/
  asked : c.request? d.sessions = some p.request
  /-- A limit that its request breaks is an obstacle. -/
  limited : ∀ {fault}, p.request.fault? = some fault → d.Obstacle c (.protocol fault)
  /-- A request that breaks no limit has only one obstacle left. -/
  passed : ∀ {e}, p.request.WithinLimits → d.Obstacle c e → d.isReady = false
  /-- An error that does not come from the device is the result. -/
  told : ∀ {e}, e.isUnsupported = false → (p.settle (.error e)).1 = .error e

/-- `d.Checks c op` — the operation checks what the call `c` is to be checked for. -/
structure Checks (d : Device l) (c : DeviceCall) (op : Operation α) : Prop where
  /-- What it refuses, it refuses because of an obstacle. -/
  refused : ∀ {e}, op d.sessions = .error e → d.Obstacle c e
  accepted : ∀ {p}, op d.sessions = .ok p → d.Accepts c p

/-- An open session has a proper handle. -/
theorem ne_noHandle_of_session? {handle : UInt16} {s : Session} (hw : d.sessions.WellKept [])
    (h : d.session? handle = some s) : handle ≠ noHandle := by
  obtain ⟨rfl, i, hi⟩ := SessionTable.holds_of_get? h
  exact hw.proper hi

theorem Checks.openUrl {method : Method} {url : String} {flags : Flags OpenFlag}
    {bodyLength : UInt32} (haddress : c.address? = some url) (hhandle : c.handle? = none)
    (htimezone : c.timezone? = none)
    (hrequest : c.request? d.sessions = some (.openUrl method flags url bodyLength)) :
    d.Checks c (Operation.openUrl method url flags bodyLength) where
  refused {e} h := by
    rw [Operation.openUrl, Request.toPacket] at h
    cases hfault : (Request.openUrl method flags url bodyLength).fault? with
    | some fault =>
      rw [hfault] at h
      cases h
      exact .of_urlFault? haddress hfault
    | none =>
      rw [hfault] at h
      dsimp only at h
      cases hres : d.sessions.reserve with
      | error fault =>
        rw [hres] at h
        cases h
        obtain ⟨rfl, hfull⟩ := SessionTable.reserve_eq_error_iff.mp hres
        exact .noSlot haddress hfull
      | ok reserved =>
        rw [hres] at h
        cases h
  accepted h := by
    obtain ⟨r, held, hres, rfl⟩ := Operation.openUrl_eq_ok h
    refine ⟨hrequest, .of_urlFault? haddress, fun hlimits hobstacle => ?_, fun _ => rfl⟩
    cases hobstacle with
    | notReady hready => exact hready
    | untracked hc _ => cases hhandle.symm.trans hc
    | writeOffset _ _ | longData _ => cases haddress
    | emptyBuffer => cases haddress
    | emptyUrl hc =>
      cases haddress.symm.trans hc
      exact absurd rfl hlimits.1
    | longUrl hc hlong =>
      cases haddress.symm.trans hc
      exact absurd hlong (Nat.not_lt.mpr hlimits.2)
    | noSlot _ hfull =>
      exact absurd (List.mem_of_getElem? (SessionTable.reserve_eq_ok hres).1) hfull
    | emptyTimezone hc => cases htimezone.symm.trans hc
    | longTimezone hc _ => cases htimezone.symm.trans hc

/-! ## Operations on a session -/

variable {handle : UInt16} {offset : UInt32} {s : Session}

/-- What stands in the way of a call that is about an open session. -/
theorem Obstacle.on_session (hc : c.handle? = some handle) (hs : d.session? handle = some s)
    (h : d.Obstacle c e) :
    d.isReady = false ∨
      (∃ offset data, c = .write handle offset data ∧
        (offset ≠ s.writeCursor ∨ maxChunk < data.length)) ∨
      ∃ offset, c = .read handle offset [] := by
  -- a call that is about a session names neither an address nor a timezone
  have hother : c.address? = none ∧ c.timezone? = none := by
    cases c <;> first | exact ⟨rfl, rfl⟩ | cases hc
  cases h with
  | notReady hready => exact Or.inl hready
  | untracked hc' hnone =>
    cases hc.symm.trans hc'
    cases hs.symm.trans hnone
  | writeOffset hs' hoffset =>
    cases hc
    cases hs.symm.trans hs'
    exact Or.inr (Or.inl ⟨_, _, rfl, Or.inl hoffset⟩)
  | longData hlong =>
    cases hc
    exact Or.inr (Or.inl ⟨_, _, rfl, Or.inr hlong⟩)
  | emptyBuffer =>
    cases hc
    exact Or.inr (Or.inr ⟨_, rfl⟩)
  | emptyUrl hc' => cases hother.1.symm.trans hc'
  | longUrl hc' _ => cases hother.1.symm.trans hc'
  | noSlot hc' _ => cases hother.1.symm.trans hc'
  | emptyTimezone hc' => cases hother.2.symm.trans hc'
  | longTimezone hc' _ => cases hother.2.symm.trans hc'

/-- Nothing but the device itself stands in the way of a call that neither writes nor reads. -/
theorem Obstacle.unready
    (hplain : c = .halfClose handle ∨ c = .info handle ∨ c = .close handle)
    (hs : d.session? handle = some s) (h : d.Obstacle c e) : d.isReady = false := by
  have hc : c.handle? = some handle := by
    rcases hplain with rfl | rfl | rfl <;> rfl
  rcases h.on_session hc hs with hready | ⟨offset, data, rfl, -⟩ | ⟨offset, rfl⟩
  · exact hready
  · rcases hplain with hwrite | hwrite | hwrite <;> cases hwrite
  · rcases hplain with hread | hread | hread <;> cases hread

/-- An operation on a session is refused if the session is not open, or for a reason of its own. -/
theorem Obstacle.of_onSession {op : Session → Operation α} (hc : c.handle? = some handle)
    (h : Operation.onSession handle op d.sessions = .error e)
    (hop : ∀ s, d.session? handle = some s → op s d.sessions = .error e → d.Obstacle c e) :
    d.Obstacle c e := by
  rw [Operation.onSession, SessionTable.get] at h
  cases hs : d.sessions.get? handle with
  | none =>
    rw [hs] at h
    cases h
    exact .untracked hc hs
  | some s =>
    rw [hs] at h
    exact hop s hs h

theorem Obstacle.of_write {data : List UInt8}
    (h : Operation.write handle offset data d.sessions = .error e) :
    d.Obstacle (.write handle offset data) e := by
  refine .of_onSession rfl h fun s hs hop => ?_
  split at hop
  · cases hop
  · rename_i hoffset
    cases hop
    exact .writeOffset hs hoffset

theorem Checks.write (hw : d.sessions.WellKept []) (handle : UInt16) (offset : UInt32)
    (data : List UInt8) :
    d.Checks (.write handle offset data) (Operation.write handle offset data) where
  refused h := .of_write h
  accepted h := by
    obtain ⟨s, hs, hoffset, rfl⟩ := Operation.write_eq_ok h
    refine ⟨rfl, fun hfault => ?_, fun hlimits hobstacle => ?_, fun _ => rfl⟩
    · rcases Option.or_eq_some_iff.mp hfault with hhandle | ⟨-, hdata⟩
      · have hproper := Request.handleFault?_eq_none_iff.mpr (ne_noHandle_of_session? hw hs)
        cases hproper.symm.trans hhandle
      · obtain ⟨hlong, rfl⟩ := Request.chunkFault?_eq_some hdata
        exact .longData hlong
    · rcases hobstacle.on_session rfl hs with hready | ⟨_, _, hc, hbad⟩ | ⟨_, hc⟩
      · exact hready
      · cases hc
        rcases hbad with hne | hlong
        · exact absurd hoffset hne
        · exact absurd hlong (Nat.not_lt.mpr hlimits.2)
      · cases hc

theorem Obstacle.of_halfClose (h : Operation.halfClose handle d.sessions = .error e) :
    d.Obstacle (.halfClose handle) e := by
  refine .of_onSession rfl h fun s hs hop => ?_
  -- the place where the session has to go on is the one that is named
  have hwrite : Operation.write handle s.writeCursor [] d.sessions = .ok
      { request := .write handle s.writeCursor []
        settle := Operation.settleWrite handle s.writeCursor [] d.sessions } := by
    rw [Operation.write, Operation.onSession, SessionTable.get,
      show d.sessions.get? handle = some s from hs]
    exact if_pos rfl
  rw [hwrite] at hop
  cases hop

theorem Checks.halfClose (hw : d.sessions.WellKept []) (handle : UInt16) :
    d.Checks (.halfClose handle) (Operation.halfClose handle) where
  refused h := .of_halfClose h
  accepted h := by
    obtain ⟨s, hs, rfl⟩ := Operation.halfClose_eq_ok h
    refine ⟨?_, fun hfault => ?_, fun _ h => h.unready (.inl rfl) hs, fun he => ?_⟩
    · rw [DeviceCall.request?, hs]
      rfl
    · have hlimits : (Request.write handle s.writeCursor []).WithinLimits :=
        ⟨ne_noHandle_of_session? hw hs, Nat.zero_le _⟩
      cases (Request.fault?_eq_none_iff.mpr hlimits).symm.trans hfault
    · -- only what the device does not support would be made into something else
      dsimp only [Operation.settleWrite, Operation.halfClosed]
      rw [he]
      rfl

/-- What a read asks for is what the buffer takes, but one chunk at most. -/
theorem toNat_readSize (room : Nat) : (Operation.readSize room).toNat = min room maxChunk :=
  UInt16.toNat_ofNat_of_lt' (lt_of_le_of_lt (Nat.min_le_right _ _) (by decide))

/-- What a read asks for keeps to the limits. -/
theorem readSize_withinLimits {room : Nat} (hroom : room ≠ 0) :
    Operation.readSize room ≠ 0 ∧ (Operation.readSize room).toNat ≤ maxChunk := by
  have hsize := toNat_readSize room
  refine ⟨fun hzero => ?_, hsize ▸ Nat.min_le_right _ _⟩
  rw [hzero] at hsize
  have hmax : maxChunk ≠ 0 := by decide
  exact absurd hsize.symm (by simp only [UInt16.toNat_zero]; omega)

theorem Obstacle.of_read {buffer : List UInt8}
    (h : Operation.read handle offset buffer d.sessions = .error e) :
    d.Obstacle (.read handle offset buffer) e := by
  refine .of_onSession rfl h fun s hs hop => ?_
  split at hop
  · rename_i hempty
    cases hop
    rw [hempty]
    exact .emptyBuffer
  · cases hop

theorem Checks.read (hw : d.sessions.WellKept []) (handle : UInt16) (offset : UInt32)
    (buffer : List UInt8) :
    d.Checks (.read handle offset buffer) (Operation.read handle offset buffer) where
  refused h := .of_read h
  accepted h := by
    obtain ⟨s, hs, hbuffer, rfl⟩ := Operation.read_eq_ok h
    refine ⟨rfl, fun hfault => ?_, fun _ hobstacle => ?_, fun _ => rfl⟩
    · have hlimits : (Request.read handle offset (Operation.readSize buffer.length)).WithinLimits :=
        ⟨ne_noHandle_of_session? hw hs,
          readSize_withinLimits (fun h => hbuffer (List.eq_nil_of_length_eq_zero h))⟩
      cases (Request.fault?_eq_none_iff.mpr hlimits).symm.trans hfault
    · rcases hobstacle.on_session rfl hs with hready | ⟨_, _, hc, _⟩ | ⟨_, hc⟩
      · exact hready
      · cases hc
      · cases hc
        exact absurd rfl hbuffer

theorem Checks.info (hw : d.sessions.WellKept []) (handle : UInt16) :
    d.Checks (.info handle) (Operation.info handle) where
  refused h := .of_onSession rfl h fun _ _ hop => nomatch hop
  accepted h := by
    obtain ⟨s, hs, hask⟩ := Operation.info_eq_ok h
    cases hask
    refine ⟨rfl, fun hfault => ?_, fun _ h => h.unready (.inr (.inl rfl)) hs, fun _ => rfl⟩
    have hproper := Request.handleFault?_eq_none_iff.mpr (ne_noHandle_of_session? hw hs)
    cases hproper.symm.trans hfault

theorem Checks.close (hw : d.sessions.WellKept []) (handle : UInt16) :
    d.Checks (.close handle) (Operation.close handle) where
  refused h := .of_onSession rfl h fun _ _ hop => nomatch hop
  accepted h := by
    obtain ⟨s, hs, rfl⟩ := Operation.close_eq_ok h
    refine ⟨rfl, fun hfault => ?_, fun _ h => h.unready (.inr (.inr rfl)) hs, fun _ => rfl⟩
    have hproper := Request.handleFault?_eq_none_iff.mpr (ne_noHandle_of_session? hw hs)
    cases hproper.symm.trans hfault

/-! ## Questions that do not concern the table -/

/-- A question is checked for its limits alone. -/
theorem Checks.ask {request : Request} {pick : Response → Except ClientError α}
    (hrequest : c.request? d.sessions = some request)
    (hlimited : ∀ {fault}, request.fault? = some fault → d.Obstacle c (.protocol fault))
    (hpassed : ∀ {e}, request.WithinLimits → d.Obstacle c e → d.isReady = false) :
    d.Checks c (Operation.ask request pick) where
  refused h := nomatch h
  accepted h := by
    cases h
    exact ⟨hrequest, hlimited, hpassed, fun _ => rfl⟩

/-- A call that is about neither a session nor an address has obstacles in its timezone alone. -/
theorem Obstacle.of_question (hhandle : c.handle? = none) (haddress : c.address? = none)
    (htimezone : ∀ timezone, c.timezone? = some timezone →
      timezone ≠ "" ∧ timezone.utf8ByteSize ≤ maxTimezone)
    (h : d.Obstacle c e) : d.isReady = false := by
  cases h with
  | notReady hready => exact hready
  | untracked hc _ => cases hhandle.symm.trans hc
  | writeOffset _ _ | longData _ => cases hhandle
  | emptyBuffer => cases hhandle
  | emptyUrl hc => cases haddress.symm.trans hc
  | longUrl hc _ => cases haddress.symm.trans hc
  | noSlot hc _ => cases haddress.symm.trans hc
  | emptyTimezone hc => exact absurd rfl (htimezone _ hc).1
  | longTimezone hc hlong => exact absurd hlong (Nat.not_lt.mpr (htimezone _ hc).2)

/-- A question without limits is checked for nothing. -/
theorem Checks.ask_free {request : Request} {pick : Response → Except ClientError α}
    (hrequest : c.request? d.sessions = some request) (hfault : request.fault? = none)
    (hhandle : c.handle? = none) (haddress : c.address? = none) (htimezone : c.timezone? = none) :
    d.Checks c (Operation.ask request pick) := by
  refine .ask hrequest (fun h => ?_) (fun _ h => h.of_question hhandle haddress fun _ hc => ?_)
  · cases hfault.symm.trans h
  · cases htimezone.symm.trans hc

/-- A question that names a timezone is checked for the limits of that. -/
theorem Checks.ask_timezone {request : Request} {pick : Response → Except ClientError α}
    {timezone : String} (hrequest : c.request? d.sessions = some request)
    (hfault : request.fault? = Request.timezoneFault? timezone) (hhandle : c.handle? = none)
    (haddress : c.address? = none) (htimezone : c.timezone? = some timezone) :
    d.Checks c (Operation.ask request pick) := by
  refine .ask hrequest (fun h => ?_) (fun hlimits h => ?_)
  · exact .of_timezoneFault? htimezone (hfault ▸ h)
  · refine h.of_question hhandle haddress fun timezone' hc => ?_
    cases htimezone.symm.trans hc
    rw [← Request.fault?_eq_none_iff, hfault] at hlimits
    exact Request.timezoneFault?_eq_none_iff.mp hlimits

/-! ## One operation on a device -/

/-- What becomes of a call, with its result: it is refused for an obstacle, or there is none and it
    is an exchange. -/
inductive Disposed (d : Device l.recorded) (c : DeviceCall) (result : Except ClientError α)
    (d' : Device l.recorded) : Prop where
  | refused {e : ClientError} (h : d.Obstacle c e) (hresult : result = .error e)
      (hcalls : d'.line.calls = d.line.calls)
  | exchanged {request : Request} {f : List UInt8} {made : List LinkCall}
      (hnone : ∀ e, ¬ d.Obstacle c e) (hrequest : c.request? d.sessions = some request)
      (hf : request.encode = .ok f) (hcalls : d'.line.calls = d.line.calls ++ made)
      (hmade : Exchanged l d.line.state f made)

/-- The errors of a request are not taken for those of the device. -/
theorem isUnsupported_of_fault? {r : Request} {fault : ProtocolError} (h : r.fault? = some fault) :
    (ClientError.protocol fault).isUnsupported = false := by
  have hkind := (Request.blames_of_fault? h).1
  cases fault with
  | status status =>
    cases status with
    | unsupported => cases hkind
    | _ => rfl
  | _ => rfl

/-- **An operation is refused or is one exchange.** -/
theorem perform_disposed {d : Device l.recorded} (h : d.Checks c op) :
    d.Disposed c (d.perform op).1 (d.perform op).2 := by
  cases hop : op d.sessions with
  | error e =>
    rw [perform_of_error hop]
    exact .refused (h.refused hop) rfl rfl
  | ok p =>
    have haccepts := h.accepted hop
    rw [perform_of_ok hop, call]
    cases hready : d.isReady with
    | false => exact .refused (.notReady hready) (haccepts.told rfl) rfl
    | true =>
      rw [if_pos rfl, Exchange.run]
      cases hf : p.request.encode with
      | error fault =>
        have hfault := Request.encode_eq_error_iff.mp hf
        exact .refused (haccepts.limited hfault)
          (haccepts.told (isUnsupported_of_fault? hfault)) rfl
      | ok f =>
        obtain ⟨made, hcalls, hmade⟩ := d.exchange.transact_exchanged l f d.line
        refine .exchanged (fun e hobstacle => ?_) haccepts.asked hf hcalls hmade
        have hlimits := (Request.encode_eq_ok_iff.mp hf).1
        cases (haccepts.passed hlimits hobstacle).symm.trans hready

/-! ## Every call -/

section Calls

variable {d d' : Device l.recorded} {β : Type} {result : Except ClientError α}
  {result' : Except ClientError β}

/-- Only an error of the result matters. -/
theorem Disposed.mono (h : d.Disposed c result d')
    (hresult : ∀ e, result = .error e → result' = .error e) : d.Disposed c result' d' := by
  cases h with
  | refused h he hcalls => exact .refused h (hresult _ he) hcalls
  | exchanged hnone hrequest hf hcalls hmade => exact .exchanged hnone hrequest hf hcalls hmade

theorem perform_disposed_map (h : d.Checks c op) (f : α → β) :
    d.Disposed c ((d.perform op).1.map f) (d.perform op).2 :=
  (perform_disposed h).mono fun _ he => map_eq_error_iff.mpr he

/-- **Every call is refused or is one exchange**, but for those that open and close the link. -/
theorem make_disposed (hw : d.sessions.WellKept []) (hinit : c ≠ .init)
    (hshutdown : c ≠ .shutdown) : d.Disposed c (d.outcome c) (d.make c).2 := by
  cases c with
  | init => exact absurd rfl hinit
  | shutdown => exact absurd rfl hshutdown
  | openUrl | openWithBody | openTcp => exact perform_disposed_map (.openUrl rfl rfl rfl rfl) _
  | write handle offset data => exact perform_disposed_map (.write hw handle offset data) _
  | halfClose handle => exact perform_disposed (.halfClose hw handle)
  | read handle offset buffer =>
    obtain ⟨hresult, hdevice⟩ := read_eq d handle offset buffer
    show d.Disposed _ ((d.read handle offset buffer).1.map _) (d.read handle offset buffer).2.2
    rw [hresult, hdevice]
    refine (perform_disposed (.read hw handle offset buffer)).mono fun e he => ?_
    rw [he]
    rfl
  | info handle => exact perform_disposed_map (.info hw handle) _
  | close handle => exact perform_disposed_map (.close hw handle) _
  | clockGet | clockSet | clockSync | clockFormat | timezoneGet =>
    exact perform_disposed_map (.ask_free rfl rfl rfl rfl rfl) _
  | clockFormatIn | timezoneSet | timezoneSave =>
    exact perform_disposed_map (.ask_timezone rfl rfl rfl rfl rfl) _

/-- **The checks come before the link, and every operation is one exchange at most.** Take any call
    but those that open and close the link, to any device that can come about. It makes no call to
    the link exactly if there is an obstacle, and then it ends in the error of one, which blames an
    argument, the table, or the device for not having been made ready. Otherwise it is one exchange
    of the frame of its one request: what is left over is thrown away once; if that succeeds, the
    frame is sent once; and only if that succeeds, the link is looked at. -/
theorem calls_of_operation (hd : d.Reachable) (hinit : c ≠ .init) (hshutdown : c ≠ .shutdown) :
    ∃ made, (d.make c).2.line.calls = d.line.calls ++ made ∧
      (made = [] ↔ ∃ e, d.Obstacle c e) ∧
      (made = [] → ∃ e, d.Obstacle c e ∧ d.outcome c = .error e ∧
        (e.kind = .argument ∨ e.kind = .resource ∨ e = .notInitialized)) ∧
      (made ≠ [] → ∃ request f, c.request? d.sessions = some request ∧ request.encode = .ok f ∧
        Exchanged l d.line.state f made) := by
  cases make_disposed hd.kept hinit hshutdown with
  | @refused e hobstacle hresult hcalls =>
    refine ⟨[], ?_, iff_of_true rfl ⟨e, hobstacle⟩, fun _ => ?_, fun hne => absurd rfl hne⟩
    · rw [hcalls, List.append_nil]
    · exact ⟨e, hobstacle, hresult, hobstacle.kind⟩
  | @exchanged request f made hnone hrequest hf hcalls hmade =>
    have hne : made ≠ [] := by
      cases hmade <;> exact List.cons_ne_nil _ _
    refine ⟨made, hcalls, iff_of_false hne (fun ⟨e, he⟩ => hnone e he), fun h => absurd h hne,
      fun _ => ⟨request, f, hrequest, hf, hmade⟩⟩

/-- A device on a link that is open, and the same made ready. -/
def unready : Device Script.link.recorded := fresh _ ⟨{ connected := true }, []⟩ .standard 2

def readied : Device Script.link.recorded := (unready.make .init).2

/-- A device that has not been made ready does not touch its link when it is asked for the time. One
    that is ready throws away what is left over, sends the one request, and looks for the answer. -/
theorem time_asked_once_when_ready :
    (unready.make .clockGet).2.line.calls = [] ∧
      ∃ waits : List Nat, (readied.make .clockGet).2.line.calls
        = readied.line.calls ++ .discard :: .send [0xC0, 0x45, 1, 6, 0, 0x4C, 0, 0xC0]
            :: waits.map .receive := by
  have hunready : unready.Reachable := .fresh _ _ 2
  constructor
  · obtain ⟨made, hcalls, hmade, -⟩ := calls_of_operation hunready (c := .clockGet) nofun nofun
    rw [hcalls, hmade.mpr ⟨_, .notReady rfl⟩]
    rfl
  · obtain ⟨made, hcalls, hmade, -, hexchange⟩ :=
      calls_of_operation (hunready.make .init) (c := .clockGet) nofun nofun
    have hnone : ¬ ∃ e, readied.Obstacle .clockGet e := by
      rintro ⟨e, hobstacle⟩
      cases hobstacle with
      | notReady h => cases h
      | untracked hc => cases hc
      | emptyUrl hc | longUrl hc | noSlot hc => cases hc
      | emptyTimezone hc | longTimezone hc => cases hc
    obtain ⟨request, f, hrequest, hf, hmade⟩ := hexchange fun h => hnone (hmade.mp h)
    cases hrequest
    have hframe : Request.clockGet.encode = .ok [0x45, 1, 6, 0, 0x4C, 0] := by decide
    obtain rfl := Except.ok.inj (hframe.symm.trans hf)
    cases hmade with
    | undiscarded h => cases h
    | unsent hdiscard hsend =>
      cases hdiscard
      cases hsend
    | sent hdiscard hsend waits => exact ⟨waits, hcalls⟩

end Calls

end Device

end CompanionBus
