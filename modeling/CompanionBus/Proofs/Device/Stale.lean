import CompanionBus.Link.Buffered
import CompanionBus.Link.Script
import CompanionBus.Proofs.Device.History
import CompanionBus.Proofs.Exchange.Course
import CompanionBus.Proofs.Exchange.Delivery
/-
  Bytes that are left over from earlier never influence anything.

  1. **Specification** (`stale_input_without_influence`) — make the same calls twice, with any bytes
     in the receive buffer at the beginning of each call, others each time. All that can be observed
     of the two runs is the same: results, buffers, calls to the link, sessions, readiness.

  2. **Which links** — those that do nothing with the buffer but receive from it, until it has been
     thrown away (`IgnoresInput`). Every link with a buffer put in front of it is one.

  3. **The crux** — two devices are alike if they differ in the buffer alone (`Alike`). Whatever does
     not get as far as throwing the buffer away keeps them alike; once it is thrown away they are one
     and the same, so that nothing has to be said about sending and receiving.
-/
namespace CompanionBus

variable {ρ : Type}

/-! ## Two outcomes that agree -/

/-- Two outcomes have the same result, and states that are alike. -/
def Agree {α τ : Type} (Alike : τ → τ → Prop) (x y : α × τ) : Prop :=
  x.1 = y.1 ∧ Alike x.2 y.2

theorem Agree.map {α β τ : Type} {Alike : τ → τ → Prop} {x y : α × τ} (h : Agree Alike x y)
    (f : α → β) : f x.1 = f y.1 ∧ Alike x.2 y.2 :=
  ⟨congrArg f h.1, h.2⟩

theorem Agree.exists_eq {α τ : Type} {Alike : τ → τ → Prop} {x y : α × τ} (h : Agree Alike x y) :
    ∃ a s t, x = (a, s) ∧ y = (a, t) ∧ Alike s t :=
  ⟨y.1, x.2, y.2, Prod.ext h.1 rfl, rfl, h.2⟩

/-! ## Links with a receive buffer -/

/-- Two links differ in their receive buffers alone. -/
def Buffered.Alike (s t : Buffered ρ) : Prop := s.rest = t.rest

/-- The link opens, closes and throws away in the same way whatever is in the receive buffer, and
    nothing is in it once it has been thrown away. -/
structure Link.IgnoresInput (l : Link (Buffered ρ)) : Prop where
  isConnected : ∀ {s t : Buffered ρ}, s.Alike t → l.isConnected s = l.isConnected t
  connect : ∀ {s t : Buffered ρ}, s.Alike t → Agree Buffered.Alike (l.connect s) (l.connect t)
  disconnect : ∀ {s t : Buffered ρ}, s.Alike t →
    Agree Buffered.Alike (l.disconnect s) (l.disconnect t)
  discard : ∀ {s t : Buffered ρ}, s.Alike t → Agree Buffered.Alike (l.discard s) (l.discard t)
  emptied : ∀ {s s' : Buffered ρ}, l.discard s = (.ok (), s') → s'.input = []

/-- A buffer that is put in front of a link is ignored. -/
theorem Link.buffered_ignoresInput (l : Link ρ) : l.buffered.IgnoresInput where
  isConnected h := congrArg l.isConnected h
  connect {s t} h := by
    obtain ⟨rest, input⟩ := s
    cases show rest = t.rest from h
    exact ⟨rfl, rfl⟩
  disconnect {s t} h := by
    obtain ⟨rest, input⟩ := s
    cases show rest = t.rest from h
    exact ⟨rfl, rfl⟩
  discard {s t} h := by
    simp only [buffered]
    rw [show s.rest = t.rest from h]
    rcases l.discard t.rest with ⟨e | _, rest⟩ <;> exact ⟨rfl, rfl⟩
  emptied {s s'} h := by
    simp only [buffered] at h
    rcases hdiscard : l.discard s.rest with ⟨e | _, rest⟩
    all_goals rw [hdiscard] at h
    · cases h
    · cases h
      rfl

variable {l : Link (Buffered ρ)}

/-- **Once the buffers are thrown away, the links are the same.** -/
theorem Link.IgnoresInput.discard_eq (hl : l.IgnoresInput) {s t s' : Buffered ρ} (h : s.Alike t)
    (hs : l.discard s = (.ok (), s')) : l.discard t = (.ok (), s') := by
  obtain ⟨result, s₁, t₁, hs₁, ht₁, hrest⟩ := (hl.discard h).exists_eq
  cases hs₁.symm.trans hs
  have hinput : s'.input = t₁.input := (hl.emptied hs).trans (hl.emptied ht₁).symm
  have hstate : t₁ = s' := by
    obtain ⟨rest, input⟩ := s'
    obtain ⟨rest', input'⟩ := t₁
    cases hinput
    cases show rest = rest' from hrest
    rfl
  rw [ht₁, hstate]

/-! ## Links that write their calls down -/

/-- Two links differ in their receive buffers alone, and have been asked the same. -/
structure Recorded.Alike (s t : Recorded (Buffered ρ)) : Prop where
  state : s.state.Alike t.state
  calls : s.calls = t.calls

variable {s t : Recorded (Buffered ρ)}

/-- Calls that agree are written down alike. -/
theorem Recorded.Alike.note {α : Type} {act : Buffered ρ → Except LinkError α × Buffered ρ}
    (h : s.Alike t) (call : LinkCall) (hact : Agree Buffered.Alike (act s.state) (act t.state)) :
    Agree Recorded.Alike (Recorded.note call act s) (Recorded.note call act t) :=
  ⟨hact.1, hact.2, congrArg (· ++ [call]) h.calls⟩

namespace Exchange

/-- **An exchange does the same on both**, since it begins with throwing away what is left over. -/
theorem transact_agree (hl : l.IgnoresInput) (x : Exchange) (f : List UInt8) (h : s.Alike t) :
    Agree Recorded.Alike (x.transact l.recorded f s) (x.transact l.recorded f t) := by
  obtain ⟨s, calls⟩ := s
  obtain ⟨t, calls'⟩ := t
  obtain ⟨hstate, hcalls⟩ := h
  dsimp only at hstate hcalls
  subst hcalls
  obtain ⟨result, s', t', hs, ht, hrest⟩ := (hl.discard hstate).exists_eq
  cases result with
  | error e =>
    rw [transact_of_undiscarded (discard_recorded hs calls),
      transact_of_undiscarded (discard_recorded ht calls)]
    exact ⟨rfl, hrest, rfl⟩
  | ok =>
    -- from here on the two links are one
    rw [transact, transact, discard_recorded hs, discard_recorded (hl.discard_eq hstate hs)]
    exact ⟨rfl, rfl, rfl⟩

theorem run_agree (hl : l.IgnoresInput) (x : Exchange) (request : Request) (h : s.Alike t) :
    Agree Recorded.Alike (x.run l.recorded request s) (x.run l.recorded request t) := by
  rw [run, run]
  cases request.encode with
  | error e => exact ⟨rfl, h⟩
  | ok f =>
    obtain ⟨hraw, halike⟩ := transact_agree hl x f h
    exact ⟨congrArg (readAnswer request.command) hraw, halike⟩

end Exchange

/-! ## Devices -/

namespace Device

/-- Two devices differ in the receive buffers of their links alone. -/
structure Alike (d e : Device l.recorded) : Prop where
  line : d.line.Alike e.line
  sessions : d.sessions = e.sessions
  exchange : d.exchange = e.exchange
  initialized : d.initialized = e.initialized

variable {d e : Device l.recorded} {α : Type}

theorem isReady_eq (hl : l.IgnoresInput) (h : d.Alike e) : d.isReady = e.isReady := by
  have hconnected : l.recorded.isConnected d.line = l.recorded.isConnected e.line :=
    hl.isConnected h.line.state
  rw [isReady, isReady, hconnected, h.initialized]

theorem call_agree (hl : l.IgnoresInput) (request : Request) (h : d.Alike e) :
    Agree Alike (d.call request) (e.call request) := by
  rw [call, call, isReady_eq hl h, h.exchange]
  cases e.isReady with
  | false => exact ⟨rfl, h⟩
  | true =>
    obtain ⟨hanswer, hline⟩ := e.exchange.run_agree hl request h.line
    exact ⟨hanswer, hline, h.sessions, rfl, h.initialized⟩

/-- **An operation does the same on both.** -/
theorem perform_agree (hl : l.IgnoresInput) (op : Operation α) (h : d.Alike e) :
    Agree Alike (d.perform op) (e.perform op) := by
  cases hop : op d.sessions with
  | error fault =>
    rw [perform_of_error hop, perform_of_error (h.sessions ▸ hop)]
    exact ⟨rfl, h⟩
  | ok p =>
    obtain ⟨hanswer, hcall⟩ := call_agree hl p.request h
    rw [perform_of_ok hop, perform_of_ok (h.sessions ▸ hop), hanswer]
    exact ⟨rfl, hcall.line, rfl, hcall.exchange, hcall.initialized⟩

theorem read_agree (hl : l.IgnoresInput) (handle : UInt16) (offset : UInt32) (buffer : List UInt8)
    (h : d.Alike e) :
    (d.read handle offset buffer).1 = (e.read handle offset buffer).1 ∧
      Agree Alike (d.read handle offset buffer).2 (e.read handle offset buffer).2 := by
  obtain ⟨result, d', e', hd, he, halike⟩ :=
    (perform_agree hl (Operation.read handle offset buffer) h).exists_eq
  rw [read, read, hd, he]
  cases result <;> exact ⟨rfl, rfl, halike⟩

theorem connect_agree (hl : l.IgnoresInput) (h : d.Alike e) : Agree Alike d.connect e.connect := by
  have hconnected : l.recorded.isConnected d.line = l.recorded.isConnected e.line :=
    hl.isConnected h.line.state
  have hconnect : Agree Recorded.Alike (l.recorded.connect d.line) (l.recorded.connect e.line) :=
    h.line.note .connect (hl.connect h.line.state)
  rw [connect, connect, hconnected]
  split
  · exact ⟨rfl, h⟩
  · exact ⟨hconnect.1, hconnect.2, h.sessions, h.exchange, h.initialized⟩

theorem init_agree (hl : l.IgnoresInput) (h : d.Alike e) : Agree Alike d.init e.init := by
  obtain ⟨result, d', e', hd, he, halike⟩ := (connect_agree hl h).exists_eq
  rw [init, init, hd, he]
  cases result with
  | error fault => exact ⟨rfl, halike⟩
  | ok =>
    have hnote : Agree Recorded.Alike (l.recorded.discard d'.line) (l.recorded.discard e'.line) :=
      halike.line.note .discard (hl.discard halike.line.state)
    obtain ⟨result, line, line', hd, he, hline⟩ := hnote.exists_eq
    dsimp only
    rw [hd, he]
    cases result with
    | error fault => exact ⟨rfl, hline, halike.sessions, halike.exchange, halike.initialized⟩
    | ok => exact ⟨rfl, hline, halike.sessions, halike.exchange, rfl⟩

theorem shutdown_agree (hl : l.IgnoresInput) (h : d.Alike e) :
    Agree Alike d.shutdown e.shutdown := by
  have hdisconnect :
      Agree Recorded.Alike (l.recorded.disconnect d.line) (l.recorded.disconnect e.line) :=
    h.line.note .disconnect (hl.disconnect h.line.state)
  rw [shutdown, shutdown]
  exact ⟨congrArg (Except.mapError ClientError.link) hdisconnect.1, hdisconnect.2,
    congrArg SessionTable.clear h.sessions, h.exchange, rfl⟩

end Device

/-! ## Calls and what can be observed of them -/

/-- The result of a call, whatever it is. -/
inductive DeviceResult where
  | done (result : Except ClientError Unit)
  | opened (handle : Except ClientError UInt16)
  | written (count : Except ClientError UInt16)
  | told (result : Except ClientError Bool)
  | hasRead (outcome : Except ClientError ReadOutcome) (buffer : List UInt8)
  | info (info : Except ClientError SessionInfo)
  | time (time : Except ClientError ClockTime)
  | formatted (time : Except ClientError FormattedTime)
  | timezone (name : Except ClientError String)

/-- What can be observed after a call: its result, all calls that have been made to the link, the
    sessions, and whether the device can be talked to. -/
structure Observation where
  result : DeviceResult
  calls : List LinkCall
  sessions : SessionTable
  isReady : Bool

namespace Device

/-- The result of a call. -/
def result {σ : Type} {l : Link σ} (d : Device l) : DeviceCall → DeviceResult
  | .init => .done d.init.1
  | .openUrl method url flags => .opened (d.openUrl method url flags).1
  | .openWithBody method url flags bodyLength =>
    .opened (d.openWithBody method url flags bodyLength).1
  | .openTcp host port => .opened (d.openTcp host port).1
  | .write handle offset data => .written (d.write handle offset data).1
  | .halfClose handle => .told (d.halfClose handle).1
  | .read handle offset buffer =>
    .hasRead (d.read handle offset buffer).1 (d.read handle offset buffer).2.1
  | .info handle => .info (d.info handle).1
  | .close handle => .done (d.close handle).1
  | .clockGet => .time d.clockGet.1
  | .clockSet time => .time (d.clockSet time).1
  | .clockSync => .time d.clockSync.1
  | .clockFormat format => .formatted (d.clockFormat format).1
  | .clockFormatIn format timezone => .formatted (d.clockFormatIn format timezone).1
  | .timezoneGet => .timezone d.timezoneGet.1
  | .timezoneSet timezone => .done (d.timezoneSet timezone).1
  | .timezoneSave timezone => .done (d.timezoneSave timezone).1
  | .shutdown => .done d.shutdown.1

/-- What can be observed after a call. -/
def observe {σ : Type} {l : Link σ} (d : Device l.recorded) (c : DeviceCall) : Observation where
  result := d.result c
  calls := (d.make c).2.line.calls
  sessions := (d.make c).2.sessions
  isReady := (d.make c).2.isReady

/-- The device when other bytes are in the receive buffer of its link. -/
def withInput (d : Device l.recorded) (input : List UInt8) : Device l.recorded :=
  { d with line := { d.line with state := { d.line.state with input } } }

/-- Makes one call after the other, each time with the given bytes in the receive buffer when the
    call begins, and gives what can be observed. -/
def observeRun (d : Device l.recorded) : List (DeviceCall × List UInt8) → List Observation
  | [] => []
  | (c, input) :: steps =>
    (d.withInput input).observe c :: ((d.withInput input).make c).2.observeRun steps

variable {d e : Device l.recorded}

/-- **A call does the same on both**, and leaves them alike. -/
theorem make_alike (hl : l.IgnoresInput) (h : d.Alike e) (c : DeviceCall) :
    d.result c = e.result c ∧ (d.make c).2.Alike (e.make c).2 := by
  cases c with
  | init => exact (init_agree hl h).map DeviceResult.done
  | openUrl | openWithBody | openTcp => exact (perform_agree hl _ h).map DeviceResult.opened
  | write => exact (perform_agree hl _ h).map DeviceResult.written
  | halfClose => exact (perform_agree hl _ h).map DeviceResult.told
  | read handle offset buffer =>
    obtain ⟨hresult, hbuffer, halike⟩ := read_agree hl handle offset buffer h
    exact ⟨congrArg₂ DeviceResult.hasRead hresult hbuffer, halike⟩
  | info => exact (perform_agree hl _ h).map DeviceResult.info
  | close => exact (perform_agree hl _ h).map DeviceResult.done
  | clockGet | clockSet | clockSync => exact (perform_agree hl _ h).map DeviceResult.time
  | clockFormat | clockFormatIn => exact (perform_agree hl _ h).map DeviceResult.formatted
  | timezoneGet => exact (perform_agree hl _ h).map DeviceResult.timezone
  | timezoneSet | timezoneSave => exact (perform_agree hl _ h).map DeviceResult.done
  | shutdown => exact (shutdown_agree hl h).map DeviceResult.done

theorem observe_eq (hl : l.IgnoresInput) (h : d.Alike e) (c : DeviceCall) :
    d.observe c = e.observe c := by
  obtain ⟨hresult, halike⟩ := make_alike hl h c
  rw [observe, observe, hresult, halike.line.calls, halike.sessions, isReady_eq hl halike]

/-- Whatever stands in the receive buffers, the devices stay alike. -/
theorem Alike.withInput (h : d.Alike e) (input input' : List UInt8) :
    (d.withInput input).Alike (e.withInput input') :=
  ⟨⟨h.line.state, h.line.calls⟩, h.sessions, h.exchange, h.initialized⟩

/-- **Alike devices look the same in every run**, whatever stands in their receive buffers. -/
theorem observeRun_eq (hl : l.IgnoresInput) (steps : List (DeviceCall × List UInt8)) :
    ∀ {steps' : List (DeviceCall × List UInt8)} {d e : Device l.recorded}, d.Alike e →
      steps.map Prod.fst = steps'.map Prod.fst → d.observeRun steps = e.observeRun steps' := by
  -- on the calls: each looks the same, and leaves the devices alike for the next
  induction steps with
  | nil =>
    intro steps' d e _ hcalls
    rw [List.map_eq_nil_iff.mp hcalls.symm]
    rfl
  | cons step steps ih =>
    intro steps' d e h hcalls
    obtain ⟨c, input⟩ := step
    obtain ⟨⟨c', input'⟩, steps', rfl, hc, hrest⟩ := List.map_eq_cons_iff.mp hcalls.symm
    dsimp only at hc
    subst hc
    have hinput := h.withInput input input'
    rw [observeRun, observeRun, observe_eq hl hinput c',
      ih (make_alike hl hinput c').2 hrest.symm]

/-- **Bytes that are left over from earlier never influence anything.** On a link that does nothing
    with its receive buffer but receive from it, until the buffer has been thrown away: let any calls
    be made twice to a device in any state, and let any bytes stand in the buffer at the beginning of
    each call, others each time. After each call all is the same in both runs: the result, with the
    buffer of a read; what the link has been asked to do, with the bytes that were sent; the
    sessions; and whether the device can be talked to. -/
theorem stale_input_without_influence (hl : l.IgnoresInput) (d : Device l.recorded)
    {first second : List (DeviceCall × List UInt8)}
    (hcalls : first.map Prod.fst = second.map Prod.fst) :
    d.observeRun first = d.observeRun second :=
  observeRun_eq hl first ⟨⟨rfl, rfl⟩, rfl, rfl, rfl⟩ hcalls

/-- A device that has not answered yet. -/
def silent : Device Script.link.buffered.recorded :=
  fresh Script.link.buffered.recorded ⟨{ rest := { connected := true } }, []⟩ .standard 2

/-- The time that comes in when nobody waits for it any more is not taken for the next answer. -/
theorem late_time_without_influence :
    silent.observeRun
        [(.init, []), (.clockGet, []), (.clockGet, Slip.encode Exchange.timeFrame)]
      = silent.observeRun [(.init, []), (.clockGet, [0x55]), (.clockGet, [])] :=
  stale_input_without_influence (Link.buffered_ignoresInput Script.link) silent rfl

end Device

end CompanionBus
