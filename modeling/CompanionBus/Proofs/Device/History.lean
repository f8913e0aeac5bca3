import CompanionBus.Device
import CompanionBus.Proofs.Exchange.Sent
import CompanionBus.Proofs.Operation.Recording
import CompanionBus.Proofs.Request.Frames
/-
  The sessions of a device are a function of its history.

  1. **Program** — `Device.make` makes one call of any kind to a device and writes down the event;
     `Device.run` makes one call after the other. The link is any link at all, with a record of what
     it is asked to do.

  2. **Specification (`sessions_tell_history`)** — after any calls to a new device, what is known
     about each handle is what the history says about it (`Known`). And whatever is called next:
     when it sends a request to write, the request goes on where the session has to.

  3. **The proof** — `Tells` says of one call that the table changes as the event tells
     (`make_tells`, one case for each kind of call). A run adds one event after the other, as
     `retrace` does.
-/
namespace CompanionBus

variable {σ : Type} {l : Link σ}

/-! ## Calls -/

/-- A call to a device. -/
inductive DeviceCall where
  | init
  | openUrl (method : Method) (url : String) (flags : Flags OpenFlag)
  | openWithBody (method : Method) (url : String) (flags : Flags OpenFlag) (bodyLength : UInt32)
  | openTcp (host : String) (port : UInt16)
  | write (handle : UInt16) (offset : UInt32) (data : List UInt8)
  | halfClose (handle : UInt16)
  | read (handle : UInt16) (offset : UInt32) (buffer : List UInt8)
  | info (handle : UInt16)
  | close (handle : UInt16)
  | clockGet
  | clockSet (time : ClockTime)
  | clockSync
  | clockFormat (format : TimeFormat)
  | clockFormatIn (format : TimeFormat) (timezone : String)
  | timezoneGet
  | timezoneSet (timezone : String)
  | timezoneSave (timezone : String)
  | shutdown

namespace Device

/-- A device on a link, with an empty table. -/
def fresh (l : Link σ) (line : σ) (exchange : Exchange) (capacity : Nat) : Device l :=
  ({ line, exchange } : Device l).withSessions capacity

/-- What comes of the request of an operation, if it makes one. -/
def answer? {α : Type} (d : Device l) (op : Operation α) :
    Option (Except ClientError Response) :=
  match op d.sessions with
  | .error _ => none
  | .ok p => some (d.call p.request).1

/-- Makes a call, and gives the event and the device afterwards. -/
def make (d : Device l) : DeviceCall → DeviceEvent × Device l
  | .init => (.other, d.init.2)
  | .openUrl method url flags =>
    (.opened url (d.answer? (Operation.openUrl method url flags 0)) (d.openUrl method url flags).1,
      (d.openUrl method url flags).2)
  | .openWithBody method url flags bodyLength =>
    (.opened url (d.answer? (Operation.openUrl method url flags bodyLength))
        (d.openWithBody method url flags bodyLength).1,
      (d.openWithBody method url flags bodyLength).2)
  | .openTcp host port =>
    (.opened s!"tcp://{host}:{port.toNat}"
        (d.answer? (Operation.openUrl .stream s!"tcp://{host}:{port.toNat}" Flags.none 0))
        (d.openTcp host port).1,
      (d.openTcp host port).2)
  | .write handle offset data =>
    (.wrote handle data (d.write handle offset data).1, (d.write handle offset data).2)
  | .halfClose handle => (.halfClosed handle (d.halfClose handle).1, (d.halfClose handle).2)
  | .read handle offset buffer =>
    (.hasRead handle offset (d.read handle offset buffer).1, (d.read handle offset buffer).2.2)
  | .info handle => (.other, (d.info handle).2)
  | .close handle => (.closed handle (d.close handle).1, (d.close handle).2)
  | .clockGet => (.other, d.clockGet.2)
  | .clockSet time => (.other, (d.clockSet time).2)
  | .clockSync => (.other, d.clockSync.2)
  | .clockFormat format => (.other, (d.clockFormat format).2)
  | .clockFormatIn format timezone => (.other, (d.clockFormatIn format timezone).2)
  | .timezoneGet => (.other, d.timezoneGet.2)
  | .timezoneSet timezone => (.other, (d.timezoneSet timezone).2)
  | .timezoneSave timezone => (.other, (d.timezoneSave timezone).2)
  | .shutdown => (.shutDown d.shutdown.1, d.shutdown.2)

/-- Makes one call after the other, and gives the history and the device afterwards. -/
def run (d : Device l) : List DeviceCall → List DeviceEvent × Device l
  | [] => ([], d)
  | c :: calls => ((d.make c).1 :: ((d.make c).2.run calls).1, ((d.make c).2.run calls).2)

/-! ## One operation -/

variable {α : Type} {op : Operation α}

theorem perform_of_error {d : Device l} {e : ClientError} (h : op d.sessions = .error e) :
    d.perform op = (.error e, d) := by
  rw [perform, h]

theorem perform_of_ok {d : Device l} {p : Pending α} (h : op d.sessions = .ok p) :
    d.perform op =
      ((p.settle (d.call p.request).1).1,
        { (d.call p.request).2 with sessions := (p.settle (d.call p.request).1).2 }) := by
  rw [perform, h]

/-- A request to write, if that is what the bytes are, goes on where the session in the table has
    to. -/
def AtCursor (t : SessionTable) (bytes : List UInt8) : Prop :=
  ∀ handle offset data f, (Request.write handle offset data).encode = .ok f →
    bytes = Slip.encode f → ∃ s, t.get? handle = some s ∧ offset = s.writeCursor

/-- `d.Tells e d'` — from `d` to `d'` the table has changed as the event tells, and nothing has been
    written but where it has to be. -/
structure Tells (d : Device l.recorded) (e : DeviceEvent) (d' : Device l.recorded) : Prop where
  kept : d'.sessions.WellKept []
  told : ∀ handle, d'.session? handle = e.apply handle (d.session? handle)
  sent : d.line.SendsOnly (AtCursor d.sessions) d'.line

variable {d : Device l.recorded}

theorem sendsOnly_call {P : List UInt8 → Prop} {request : Request}
    (h : ∀ f, request.encode = .ok f → P (Slip.encode f)) :
    d.line.SendsOnly P (d.call request).2.line := by
  rw [call]
  split
  · exact d.exchange.sendsOnly_run l d.line h
  · exact .refl P d.line

/-- **An operation does to the device what its event tells.** -/
theorem perform_tells
    {event : Option (Except ClientError Response) → Except ClientError α → DeviceEvent}
    (hw : d.sessions.WellKept []) (h : op.Records event d.sessions) :
    d.Tells (event (d.answer? op) (d.perform op).1) (d.perform op).2 := by
  cases hop : op d.sessions with
  | error e =>
    rw [perform_of_error hop, answer?, hop]
    exact ⟨hw, fun k => (h.refused e hop k).symm, .refl _ _⟩
  | ok p =>
    obtain ⟨hkept, htold⟩ := h.settled p hop (d.call p.request).1
    rw [perform_of_ok hop, answer?, hop]
    refine ⟨hkept, htold, sendsOnly_call fun f hf handle offset data f' hf' hwire => ?_⟩
    -- all that is on the link is bytes, but these tell the request that they come from
    exact h.cursor p hop handle offset data (Request.eq_of_wire hf hf' hwire)

/-! ## One call -/

theorem read_eq (d : Device l) (handle : UInt16) (offset : UInt32) (buffer : List UInt8) :
    (d.read handle offset buffer).1
        = (d.perform (Operation.read handle offset buffer)).1.bind Operation.ReadResult.outcome ∧
      (d.read handle offset buffer).2.2 = (d.perform (Operation.read handle offset buffer)).2 := by
  rw [read]
  cases d.perform (Operation.read handle offset buffer) with
  | mk result d' => cases result <;> exact ⟨rfl, rfl⟩

/-- Opening the link leaves the table alone, and sends nothing. -/
theorem connect_keeps (d : Device l.recorded) (P : List UInt8 → Prop) :
    d.connect.2.sessions = d.sessions ∧ d.line.SendsOnly P d.connect.2.line := by
  rw [connect]
  split
  · exact ⟨rfl, .refl P d.line⟩
  · exact ⟨rfl, Recorded.SendsOnly.note (.refl P d.line) nofun⟩

theorem init_keeps (d : Device l.recorded) (P : List UInt8 → Prop) :
    d.init.2.sessions = d.sessions ∧ d.line.SendsOnly P d.init.2.line := by
  obtain ⟨hsessions, hsent⟩ := connect_keeps d P
  rw [init]
  cases hconnect : d.connect with
  | mk result d' =>
    rw [hconnect] at hsessions hsent
    cases result with
    | error e => exact ⟨hsessions, hsent⟩
    | ok =>
      have hdiscarded : d.line.SendsOnly P (l.recorded.discard d'.line).2 := hsent.note nofun
      dsimp only
      cases hdiscard : l.recorded.discard d'.line with
      | mk result line =>
        rw [hdiscard] at hdiscarded
        cases result <;> exact ⟨hsessions, hdiscarded⟩

theorem init_tells (hw : d.sessions.WellKept []) : d.Tells .other d.init.2 := by
  obtain ⟨hsessions, hsent⟩ := init_keeps d (AtCursor d.sessions)
  refine ⟨hsessions ▸ hw, fun k => ?_, hsent⟩
  rw [DeviceEvent.apply_other, session?, hsessions, session?]

/-- A shutdown takes all sessions away, and sends nothing. -/
theorem shutdown_tells (hw : d.sessions.WellKept []) :
    d.Tells (.shutDown d.shutdown.1) d.shutdown.2 :=
  ⟨hw.clear, fun _ => SessionTable.get?_clear, Recorded.SendsOnly.note (.refl _ d.line) nofun⟩

theorem ask_tells (hw : d.sessions.WellKept []) (request : Request)
    (hcommand : request.command ≠ .write) (pick : Response → Except ClientError α) :
    d.Tells .other (d.perform (Operation.ask request pick)).2 :=
  perform_tells hw (.ask hw request hcommand pick)

/-- **Every call does to the device what its event tells.** -/
theorem make_tells (hw : d.sessions.WellKept []) (c : DeviceCall) :
    d.Tells (d.make c).1 (d.make c).2 := by
  cases c with
  | init => exact init_tells hw
  | openUrl method url flags => exact perform_tells hw (.openUrl hw method url flags 0)
  | openWithBody method url flags bodyLength =>
    exact perform_tells hw (.openUrl hw method url flags bodyLength)
  | openTcp host port => exact perform_tells hw (.openUrl hw .stream _ Flags.none 0)
  | write handle offset data => exact perform_tells hw (.write hw handle offset data)
  | halfClose handle => exact perform_tells hw (.halfClose hw handle)
  | read handle offset buffer =>
    have hread := perform_tells hw (.read hw handle offset buffer)
    obtain ⟨hresult, hdevice⟩ := read_eq d handle offset buffer
    rw [make, hresult, hdevice]
    exact hread
  | info handle => exact perform_tells hw (.info hw handle)
  | close handle => exact perform_tells hw (.close hw handle)
  | clockGet => exact ask_tells hw .clockGet nofun _
  | clockSet time => exact ask_tells hw (.clockSet time) nofun _
  | clockSync => exact ask_tells hw .clockSync nofun _
  | clockFormat format => exact ask_tells hw (.clockFormat format none) nofun _
  | clockFormatIn format timezone =>
    exact ask_tells hw (.clockFormat format (some timezone)) nofun _
  | timezoneGet => exact ask_tells hw .timezoneGet nofun _
  | timezoneSet timezone => exact ask_tells hw (.timezoneSet timezone false) nofun _
  | timezoneSave timezone => exact ask_tells hw (.timezoneSet timezone true) nofun _
  | shutdown => exact shutdown_tells hw

/-! ## Every run -/

/-- A run leaves the table in order, with no slot held, and adds its events to what is known. -/
theorem run_tells (calls : List DeviceCall) : ∀ {d : Device l.recorded}, d.sessions.WellKept [] →
    (d.run calls).2.sessions.WellKept [] ∧
      ∀ handle, (d.run calls).2.session? handle
        = (d.run calls).1.foldl (DeviceEvent.apply handle) (d.session? handle) := by
  -- on the calls, for every device whose table is in order: each call leaves it so
  induction calls with
  | nil =>
    intro d hw
    exact ⟨hw, fun _ => rfl⟩
  | cons c calls ih =>
    intro d hw
    obtain ⟨hkept, htold, -⟩ := make_tells hw c
    obtain ⟨hrun, hknown⟩ := ih hkept
    refine ⟨hrun, fun handle => ?_⟩
    rw [run]
    dsimp only
    rw [hknown, htold, List.foldl_cons]

/-- **The sessions of a device are a function of its history.** After any calls to a new device, on
    any link, a session is known exactly when some call has opened it, and none since has opened it
    anew, closed it or shut the device down; its state is what has happened since. Whatever is
    called next: every request to write that it puts on the link is for a session that is known, and
    names the place where its next write has to begin. -/
theorem sessions_tell_history (l : Link σ) (line : σ) (exchange : Exchange) (capacity : Nat)
    (calls : List DeviceCall) :
    ∃ history d, (fresh l.recorded ⟨line, []⟩ exchange capacity).run calls = (history, d) ∧
      (∀ handle s, d.session? handle = some s ↔
        ∃ before url answer since,
          history = before ++ .opened url answer (.ok handle) :: since ∧
          (∀ e ∈ since, ¬ e.Opens handle ∧ ¬ e.Drops handle) ∧
          s = sessionSince handle url answer since) ∧
      ∀ next, ∃ made, (d.make next).2.line.calls = d.line.calls ++ made ∧
        ∀ handle offset data f, (Request.write handle offset data).encode = .ok f →
          .send (Slip.encode f) ∈ made →
            ∃ s, d.session? handle = some s ∧ offset = s.writeCursor := by
  have hempty : (fresh l.recorded ⟨line, []⟩ exchange capacity).sessions.WellKept [] :=
    SessionTable.wellKept_ofCapacity capacity
  obtain ⟨hkept, hknown⟩ := run_tells calls hempty
  refine ⟨_, _, rfl, fun handle s => ?_, fun next => ?_⟩
  · rw [hknown handle]
    have hnone : (fresh l.recorded ⟨line, []⟩ exchange capacity).session? handle = none :=
      SessionTable.get?_ofCapacity capacity handle
    rw [hnone]
    exact retrace_eq_some_iff
  · obtain ⟨made, hmade, hsent⟩ := (make_tells hkept next).sent
    refine ⟨made, hmade, fun handle offset data f hf hmem => ?_⟩
    exact hsent _ hmem handle offset data f hf rfl

end Device

end CompanionBus
