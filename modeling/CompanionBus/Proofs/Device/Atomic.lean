import CompanionBus.Link.Script
import CompanionBus.Proofs.Device.History
import CompanionBus.Proofs.Exchange.Errors
/-
  A call that fails leaves no trace, and no slot is ever lost.

  1. **Specification** (`failed_call_leaves_no_trace`) — whatever the link does, a call that fails
     leaves every slot of the table as it was; closing is the one exception, it frees the slot of the
     session and no other, failed or not. So between two calls no slot is held, and a device refuses
     to open a session for want of a slot exactly if there are as many sessions as slots.

  2. **Which devices** — all that can come about (`Reachable`): a new one, after any calls and any
     changes of its settings.

  3. **The crux** — opening is the only operation that holds a slot, and it gives the slot back on
     each of its ways out but the last (`Operation.settleOpen_cases`). Writing and reading change the
     table last of all, when nothing can go wrong any more: the session that they change has been
     looked up before, so it is still there (`Operation.settleRead_cases`).
-/
namespace CompanionBus

/-! ## Operations that fail -/

namespace Operation

variable {α : Type} {t : SessionTable} {handle : UInt16} {offset : UInt32}

/-- `op.Atomic done t` — whatever comes back, the operation leaves the table `t` as it is, unless its
    result is one that counts as `done`. -/
def Atomic (op : Operation α) (done : α → Bool) (t : SessionTable) : Prop :=
  ∀ p, op t = .ok p → ∀ answer, (p.settle answer).1.map done ≠ .ok true → (p.settle answer).2 = t

theorem Atomic.openUrl (method : Method) (url : String) (flags : Flags OpenFlag)
    (bodyLength : UInt32) : (openUrl method url flags bodyLength).Atomic (fun _ => true) t := by
  intro p hp answer hfail
  obtain ⟨r, held, hres, rfl⟩ := openUrl_eq_ok hp
  rcases settleOpen_cases hres url answer with ⟨e, he⟩ | ⟨reply, -, -, -, he⟩
  · exact congrArg Prod.snd he
  · dsimp only at hfail
    rw [he] at hfail
    exact absurd rfl hfail

theorem Atomic.write (handle : UInt16) (offset : UInt32) (data : List UInt8) :
    (write handle offset data).Atomic (fun _ => true) t := by
  intro p hp answer hfail
  obtain ⟨s, -, -, rfl⟩ := write_eq_ok hp
  rcases settleWrite_cases handle offset data t answer with
    ⟨e, he⟩ | ⟨reply, t', -, -, -, -, -, he⟩
  · exact congrArg Prod.snd he
  · dsimp only at hfail
    rw [he] at hfail
    exact absurd rfl hfail

theorem Atomic.halfClose (handle : UInt16) : (halfClose handle).Atomic id t := by
  intro p hp answer hfail
  obtain ⟨s, -, rfl⟩ := halfClose_eq_ok hp
  rcases settleWrite_cases handle s.writeCursor [] t answer with
    ⟨e, he⟩ | ⟨reply, t', -, -, -, -, -, he⟩
  · exact congrArg Prod.snd he
  · dsimp only at hfail
    rw [he] at hfail
    exact absurd rfl hfail

/-- A read that has filled the buffer has succeeded. -/
theorem outcome_of_settled_read {held : List Reservation} {buffer : List UInt8}
    {p : Pending ReadResult} {answer : Except ClientError Response} {r : ReadResult}
    (hw : t.WellKept held) (hp : read handle offset buffer t = .ok p)
    (h : (p.settle answer).1 = .ok r) : ∃ outcome, r.outcome = .ok outcome := by
  obtain ⟨s, hget, -, rfl⟩ := read_eq_ok hp
  dsimp only at h
  rcases settleRead_cases hw hget offset buffer answer with ⟨e, he⟩ | ⟨reply, t', -, -, -, -, he⟩
  · rw [he] at h
    cases h
  · rw [he] at h
    cases h
    exact ⟨_, rfl⟩

theorem Atomic.read {held : List Reservation} (hw : t.WellKept held) (handle : UInt16)
    (offset : UInt32) (buffer : List UInt8) :
    (read handle offset buffer).Atomic (fun r => r.outcome.isOk) t := by
  intro p hp answer hfail
  obtain ⟨s, hget, -, rfl⟩ := read_eq_ok hp
  rcases settleRead_cases hw hget offset buffer answer with ⟨e, he⟩ | ⟨reply, t', -, -, -, -, he⟩
  · exact congrArg Prod.snd he
  · dsimp only at hfail
    rw [he] at hfail
    exact absurd rfl hfail

/-- A question never changes the table. -/
theorem settle_ask {request : Request} {pick : Response → Except ClientError α} {p : Pending α}
    (hp : ask request pick t = .ok p) (answer : Except ClientError Response) :
    (p.settle answer).2 = t := by
  cases hp
  cases answer <;> rfl

theorem Atomic.info (handle : UInt16) : (info handle).Atomic (fun _ => true) t := by
  intro p hp answer _
  obtain ⟨s, -, hask⟩ := info_eq_ok hp
  exact settle_ask hask answer

/-- Opening blames the table only if there was no slot to hold. -/
theorem settleOpen_ne_noHandles {url : String} {r : Reservation} {held : SessionTable}
    {answer : Except ClientError Response} (h : answer ≠ .error (.protocol .noHandles)) :
    (settleOpen url r held answer).1 ≠ .error (.protocol .noHandles) := by
  intro hresult
  cases answer with
  | error e =>
    cases hresult
    exact h rfl
  | ok response =>
    cases response with
    | opened reply =>
      rw [settleOpen] at hresult
      split at hresult
      · by_cases hzero : reply.handle = noHandle
        · rw [SessionTable.bind_of_noHandle hzero] at hresult
          cases hresult
        · rw [SessionTable.bind_of_ne hzero] at hresult
          cases hresult
      · cases hresult
    | _ => cases hresult

end Operation

/-- The address that a call opens a session on, if it opens one. -/
def DeviceCall.address? : DeviceCall → Option String
  | .openUrl _ url _ | .openWithBody _ url _ _ => some url
  | .openTcp host port => some s!"tcp://{host}:{port.toNat}"
  | _ => none

namespace Device

variable {σ : Type} {l : Link σ} {d : Device l} {α : Type} {op : Operation α}

/-! ## One operation on a device -/

theorem perform_atomic {done : α → Bool} (h : op.Atomic done d.sessions)
    (hfail : (d.perform op).1.map done ≠ .ok true) : (d.perform op).2.sessions = d.sessions := by
  cases hop : op d.sessions with
  | error e => rw [perform_of_error hop]
  | ok p =>
    rw [perform_of_ok hop] at hfail ⊢
    exact h p hop _ hfail

/-- An operation leaves the table in order, and no slot held. -/
theorem perform_kept
    {event : Option (Except ClientError Response) → Except ClientError α → DeviceEvent}
    (hw : d.sessions.WellKept []) (h : op.Records event d.sessions) :
    (d.perform op).2.sessions.WellKept [] := by
  cases hop : op d.sessions with
  | error e =>
    rw [perform_of_error hop]
    exact hw
  | ok p =>
    rw [perform_of_ok hop]
    exact (h.settled p hop _).1

theorem perform_ask (request : Request) (pick : Response → Except ClientError α) :
    (d.perform (Operation.ask request pick)).2.sessions = d.sessions := by
  rw [perform_of_ok rfl]
  exact Operation.settle_ask rfl _

theorem init_sessions (d : Device l) : d.init.2.sessions = d.sessions := by
  have hconnect : d.connect.2.sessions = d.sessions := by
    rw [connect]
    split <;> rfl
  rw [init]
  rcases hc : d.connect with ⟨e | _, d'⟩
  all_goals rw [hc] at hconnect
  · exact hconnect
  · dsimp only
    rcases l.discard d'.line with ⟨e | _, line⟩ <;> exact hconnect

/-- **Reading fills the buffer only if it succeeds.** -/
theorem read_buffer_of_error (hw : d.sessions.WellKept []) {handle : UInt16} {offset : UInt32}
    {buffer : List UInt8} {e : ClientError} (h : (d.read handle offset buffer).1 = .error e) :
    (d.read handle offset buffer).2.1 = buffer := by
  rw [read] at h ⊢
  cases hop : Operation.read handle offset buffer d.sessions with
  | error e' => rw [perform_of_error hop]
  | ok p =>
    rw [perform_of_ok hop] at h ⊢
    dsimp only at h ⊢
    cases hsettle : (p.settle (d.call p.request).1).1 with
    | error e' => rfl
    | ok r =>
      rw [hsettle] at h
      obtain ⟨outcome, houtcome⟩ := Operation.outcome_of_settled_read hw hop hsettle
      dsimp only at h
      rw [houtcome] at h
      cases h

/-- **Closing frees the slot of the session**, whatever the device answers. -/
theorem close_slots (hw : d.sessions.WellKept []) {handle : UInt16} {s : Session}
    (hget : d.session? handle = some s) :
    ∃ i, d.sessions.Holds i s ∧
      (d.close handle).2.sessions.slots = d.sessions.slots.set i .free := by
  obtain ⟨rfl, i, hi⟩ := SessionTable.holds_of_get? hget
  have hop : Operation.close s.handle d.sessions = .ok
      { request := .close s.handle
        settle := fun answer => (Operation.closed answer, (d.sessions.remove s.handle).2) } := by
    rw [Operation.close, Operation.onSession, SessionTable.get, show d.sessions.get? _ = _ from hget]
  refine ⟨i, hi, ?_⟩
  rw [close, perform_of_ok hop]
  dsimp only
  rw [SessionTable.remove_of_holds hw hi]

/-! ## Want of slots -/

theorem call_ne_noHandles (d : Device l) (request : Request) :
    (d.call request).1 ≠ .error (.protocol .noHandles) := by
  intro h
  rw [call] at h
  split at h
  · exact Exchange.run_ne_noHandles request h
  · cases h

/-- **A session is refused for want of a slot exactly if all slots have one.** -/
theorem perform_open_noHandles_iff (hw : d.sessions.WellKept []) {method : Method} {url : String}
    {flags : Flags OpenFlag} {bodyLength : UInt32} (hurl : Request.urlFault? url = none) :
    (d.perform (Operation.openUrl method url flags bodyLength)).1 = .error (.protocol .noHandles) ↔
      d.sessions.size = d.sessions.capacity := by
  have hfull := SessionTable.free_not_mem_iff hw
  rw [List.length_nil, Nat.add_zero] at hfull
  have hpacket : (Request.openUrl method flags url bodyLength).toPacket = .ok
      { command := .openUrl, payload := (Request.openUrl method flags url bodyLength).payload } := by
    rw [Request.toPacket, Request.fault?, hurl]
    rfl
  cases hres : d.sessions.reserve with
  | error e =>
    obtain ⟨rfl, hfree⟩ := SessionTable.reserve_eq_error_iff.mp hres
    have hop : Operation.openUrl method url flags bodyLength d.sessions
        = .error (.protocol .noHandles) := by
      rw [Operation.openUrl, hpacket]
      dsimp only
      rw [hres]
    rw [perform_of_error hop]
    exact iff_of_true rfl (hfull.mp hfree)
  | ok reserved =>
    obtain ⟨r, held⟩ := reserved
    have hop : Operation.openUrl method url flags bodyLength d.sessions = .ok
        { request := .openUrl method flags url bodyLength
          settle := Operation.settleOpen url r held } := by
      rw [Operation.openUrl, hpacket]
      dsimp only
      rw [hres]
    have hfree := (SessionTable.reserve_eq_ok hres).1
    rw [perform_of_ok hop]
    exact iff_of_false (Operation.settleOpen_ne_noHandles (d.call_ne_noHandles _))
      (fun hsize => hfull.mpr hsize (List.mem_of_getElem? hfree))

/-! ## Calls -/

/-- What comes of a call: an error, or whether it has done what it was to do. A half close that the
    device does not know has not. -/
def outcome (d : Device l) : DeviceCall → Except ClientError Bool
  | .init => d.init.1.map fun _ => true
  | .openUrl method url flags => (d.openUrl method url flags).1.map fun _ => true
  | .openWithBody method url flags bodyLength =>
    (d.openWithBody method url flags bodyLength).1.map fun _ => true
  | .openTcp host port => (d.openTcp host port).1.map fun _ => true
  | .write handle offset data => (d.write handle offset data).1.map fun _ => true
  | .halfClose handle => (d.halfClose handle).1
  | .read handle offset buffer => (d.read handle offset buffer).1.map fun _ => true
  | .info handle => (d.info handle).1.map fun _ => true
  | .close handle => (d.close handle).1.map fun _ => true
  | .clockGet => d.clockGet.1.map fun _ => true
  | .clockSet time => (d.clockSet time).1.map fun _ => true
  | .clockSync => d.clockSync.1.map fun _ => true
  | .clockFormat format => (d.clockFormat format).1.map fun _ => true
  | .clockFormatIn format timezone => (d.clockFormatIn format timezone).1.map fun _ => true
  | .timezoneGet => d.timezoneGet.1.map fun _ => true
  | .timezoneSet timezone => (d.timezoneSet timezone).1.map fun _ => true
  | .timezoneSave timezone => (d.timezoneSave timezone).1.map fun _ => true
  | .shutdown => d.shutdown.1.map fun _ => true

/-- **A call that fails leaves the table as it is**, unless it takes sessions out of it. -/
theorem make_atomic (hw : d.sessions.WellKept []) {c : DeviceCall}
    (hclose : ∀ handle, c ≠ .close handle) (hshutdown : c ≠ .shutdown)
    (hfail : d.outcome c ≠ .ok true) : (d.make c).2.sessions = d.sessions := by
  cases c with
  | init => exact init_sessions d
  | openUrl method url flags => exact perform_atomic (.openUrl method url flags 0) hfail
  | openWithBody method url flags bodyLength =>
    exact perform_atomic (.openUrl method url flags bodyLength) hfail
  | openTcp host port => exact perform_atomic (.openUrl .stream _ Flags.none 0) hfail
  | write handle offset data => exact perform_atomic (.write handle offset data) hfail
  | halfClose handle =>
    refine perform_atomic (.halfClose handle) (fun h => hfail ?_)
    show (d.perform (Operation.halfClose handle)).1 = _
    cases hresult : (d.perform (Operation.halfClose handle)).1 with
    | error e =>
      rw [hresult] at h
      cases h
    | ok told =>
      rw [hresult] at h
      exact h
  | read handle offset buffer =>
    obtain ⟨hresult, hdevice⟩ := read_eq d handle offset buffer
    show (d.read handle offset buffer).2.2.sessions = _
    rw [hdevice]
    refine perform_atomic (.read hw handle offset buffer) (fun h => hfail ?_)
    show (d.read handle offset buffer).1.map (fun _ => true) = _
    rw [hresult]
    cases hperform : (d.perform (Operation.read handle offset buffer)).1 with
    | error e =>
      rw [hperform] at h
      cases h
    | ok r =>
      rw [hperform] at h
      obtain ⟨outcome | e, buffer⟩ := r
      · cases h
      · rfl
  | info handle => exact perform_atomic (.info handle) hfail
  | close handle => exact absurd rfl (hclose handle)
  | shutdown => exact absurd rfl hshutdown
  | clockGet | clockSet | clockSync | clockFormat | clockFormatIn | timezoneGet | timezoneSet
  | timezoneSave => exact perform_ask _ _

/-- **Every call leaves the table in order**, with no slot held. -/
theorem make_kept (hw : d.sessions.WellKept []) (c : DeviceCall) :
    (d.make c).2.sessions.WellKept [] := by
  have hask : ∀ {β : Type} (request : Request) (pick : Response → Except ClientError β),
      (d.perform (Operation.ask request pick)).2.sessions.WellKept [] := by
    intro β request pick
    rw [perform_ask]
    exact hw
  cases c with
  | init =>
    show d.init.2.sessions.WellKept []
    rw [init_sessions]
    exact hw
  | openUrl method url flags => exact perform_kept hw (.openUrl hw method url flags 0)
  | openWithBody method url flags bodyLength =>
    exact perform_kept hw (.openUrl hw method url flags bodyLength)
  | openTcp host port => exact perform_kept hw (.openUrl hw .stream _ Flags.none 0)
  | write handle offset data => exact perform_kept hw (.write hw handle offset data)
  | halfClose handle => exact perform_kept hw (.halfClose hw handle)
  | read handle offset buffer =>
    show (d.read handle offset buffer).2.2.sessions.WellKept []
    rw [(read_eq d handle offset buffer).2]
    exact perform_kept hw (.read hw handle offset buffer)
  | info handle => exact perform_kept hw (.info hw handle)
  | close handle => exact perform_kept hw (.close hw handle)
  | shutdown => exact hw.clear
  | clockGet | clockSet | clockSync | clockFormat | clockFormatIn | timezoneGet | timezoneSet
  | timezoneSave => exact hask _ _

theorem map_eq_error_iff {β : Type} {f : α → β} {r : Except ClientError α} {e : ClientError} :
    r.map f = .error e ↔ r = .error e := by
  cases r with
  | error e' => exact ⟨fun h => congrArg Except.error (Except.error.inj h), fun h => by rw [h]; rfl⟩
  | ok a => exact ⟨nofun, nofun⟩

theorem make_noHandles_iff (hw : d.sessions.WellKept []) {c : DeviceCall} {url : String}
    (haddress : c.address? = some url) (hurl : Request.urlFault? url = none) :
    d.outcome c = .error (.protocol .noHandles) ↔ d.sessions.size = d.sessions.capacity := by
  cases c with
  | openUrl | openWithBody | openTcp =>
    cases haddress
    exact map_eq_error_iff.trans (perform_open_noHandles_iff hw hurl)
  | _ => cases haddress

/-! ## Every run -/

/-- `d.Reachable` — calls, and changes of the settings, have made a new device into `d`. -/
inductive Reachable : Device l → Prop where
  | fresh (line : σ) (exchange : Exchange) (capacity : Nat) :
      Reachable (fresh l line exchange capacity)
  | make {d : Device l} (h : d.Reachable) (c : DeviceCall) : Reachable (d.make c).2
  | withTimeout {d : Device l} (h : d.Reachable) (timeout : Nat) : Reachable (d.withTimeout timeout)
  | withPollInterval {d : Device l} (h : d.Reachable) (pollInterval : Nat) :
      Reachable (d.withPollInterval pollInterval)
  | withSessions {d : Device l} (h : d.Reachable) (capacity : Nat) :
      Reachable (d.withSessions capacity)

/-- A device that can come about has its table in order, and no slot held. -/
theorem Reachable.kept (h : d.Reachable) : d.sessions.WellKept [] := by
  induction h with
  | fresh line exchange capacity => exact SessionTable.wellKept_ofCapacity capacity
  | make _ c ih => exact make_kept ih c
  | withTimeout _ _ ih => exact ih
  | withPollInterval _ _ ih => exact ih
  | withSessions _ capacity _ => exact SessionTable.wellKept_ofCapacity capacity

theorem Reachable.run (calls : List DeviceCall) :
    ∀ {d : Device l}, d.Reachable → (d.run calls).2.Reachable := by
  induction calls with
  | nil =>
    intro d h
    exact h
  | cons c calls ih =>
    intro d h
    exact ih (h.make c)

theorem reserved_not_mem (h : d.sessions.WellKept []) : Slot.reserved ∉ d.sessions.slots := by
  intro hmem
  obtain ⟨i, hi⟩ := List.mem_iff_getElem?.mp hmem
  exact absurd ((h.reserved_iff i).mp hi) List.not_mem_nil

/-- **A call that fails leaves no trace.** Whatever the link does: a call that fails, and neither
    closes a session nor shuts the device down, leaves every slot as it was, and a read that fails
    leaves the buffer as it was. Closing a session frees its slot and no other, failed or not. So no
    run leaves a slot held, and a session is refused for want of a slot exactly if there are as many
    sessions as slots. -/
theorem failed_call_leaves_no_trace (hd : d.Reachable) :
    (∀ c, (∀ handle, c ≠ .close handle) → c ≠ .shutdown → d.outcome c ≠ .ok true →
      (d.make c).2.sessions.slots = d.sessions.slots) ∧
    (∀ handle offset buffer e, (d.read handle offset buffer).1 = .error e →
      (d.read handle offset buffer).2.1 = buffer) ∧
    (∀ handle s, d.session? handle = some s → ∃ i, d.sessions.Holds i s ∧
      (d.make (.close handle)).2.sessions.slots = d.sessions.slots.set i .free) ∧
    (∀ calls, Slot.reserved ∉ (d.run calls).2.sessions.slots) ∧
    ∀ c url, c.address? = some url → Request.urlFault? url = none →
      (d.outcome c = .error (.protocol .noHandles) ↔ d.sessions.size = d.sessions.capacity) := by
  have hw := hd.kept
  refine ⟨fun c hclose hshutdown hfail => ?_, fun handle offset buffer e => ?_, fun handle s => ?_,
    fun calls => ?_, fun c url => ?_⟩
  · exact congrArg SessionTable.slots (make_atomic hw hclose hshutdown hfail)
  · exact read_buffer_of_error hw
  · exact close_slots hw
  · exact reserved_not_mem (hd.run calls).kept
  · exact make_noHandles_iff hw

/-- A device whose link takes no more bytes. -/
def unheard : Device Script.link :=
  ((fresh Script.link { connected := true, failures := [(.send, .connectionClosed)] } .standard 2).make
    .init).2

/-- Opening holds a slot, fails, and gives the slot back. -/
theorem unheard_open_leaves_no_trace :
    (unheard.make (.openUrl .get "http://a/" Flags.none)).2.sessions.slots = [.free, .free] := by
  have hreachable : unheard.Reachable := .make (.fresh _ _ _) .init
  have hfail : unheard.outcome (.openUrl .get "http://a/" Flags.none)
      = .error (.link .connectionClosed) := by rfl
  exact (failed_call_leaves_no_trace hreachable).1 _ nofun nofun (by rw [hfail]; exact nofun)

end Device

end CompanionBus
