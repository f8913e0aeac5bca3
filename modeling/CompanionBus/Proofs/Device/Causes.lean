import CompanionBus.Proofs.Device.Checks
import CompanionBus.Proofs.Exchange.Causes
import CompanionBus.Proofs.Operation.Judging
/-
  What the errors of a call say about their cause.

  1. **Specification** (`errors_by_cause`) — a call whose request has been sent fails for a status
     exactly if a frame has come in that reports it. Every other error is told by the bytes that have
     come in, if they decide: bytes that are no frame on the wire count as a failure of the link, and
     what cannot be the answer counts against the protocol. There is no use in another try then. If
     the bytes do not decide, the link has failed or the time is up.

  2. **Which calls** — all that make a request, on any link and with any table of sessions: nothing
     is asked of the table but what the checks of the call ask of it (`Sent`).

  3. **The proof** — the exchange has its cause (`Exchange.exists_caused`), and the operation judges
     what comes back (`Operation.Judged`). `outcome_judged` puts the two together, with one case for
     each kind of call.
-/
namespace CompanionBus

open Operation (Judged Ensures misfit)

variable {σ : Type} {l : Link σ}

/-! ## What a call comes to -/

namespace DeviceCall

/-- What a call comes to. That a device cannot be told the end of a body is no failure. -/
def conclude : DeviceCall → Except ClientError Unit → Except ClientError Bool
  | .halfClose _, .error e => if e.isUnsupported then .ok false else .error e
  | _, result => result.map fun _ => true

variable {c : DeviceCall} {e : ClientError}

theorem conclude_ok (c : DeviceCall) : c.conclude (.ok ()) = .ok true := by
  cases c <;> rfl

/-- Only ending a body forgives an error, and only one. -/
theorem conclude_error (c : DeviceCall) (e : ClientError) :
    c.conclude (.error e) = .error e ∨
      ((∃ handle, c = .halfClose handle) ∧ e = .protocol (.status .unsupported) ∧
        c.conclude (.error e) = .ok false) := by
  cases c with
  | halfClose handle =>
    rw [conclude]
    split
    · rename_i h
      refine Or.inr ⟨⟨handle, rfl⟩, ?_, rfl⟩
      rw [ClientError.isUnsupported, beq_iff_eq] at h
      cases e with
      | protocol fault =>
        cases fault with
        | status status =>
          cases h
          rfl
        | _ => cases h
      | _ => cases h
    · exact Or.inl rfl
  | _ => exact Or.inl rfl

theorem eq_of_conclude_error {e' : ClientError} (h : c.conclude (.error e) = .error e') : e = e' := by
  rcases conclude_error c e with he | ⟨-, -, he⟩
  · exact Except.error.inj (he.symm.trans h)
  · cases he.symm.trans h

end DeviceCall

namespace Device

variable {d : Device l} {c : DeviceCall} {request : Request} {s : σ} {α : Type}
  {op : Operation α} {e : ClientError}

/-! ## Calls that have been sent -/

/-- `d.Sent c request s` — nothing stands in the way of the call `c` to the device, and its request
    has been sent. The link is in the state `s` then. -/
structure Sent (d : Device l) (c : DeviceCall) (request : Request) (s : σ) : Prop where
  free : ∀ e, ¬ d.Obstacle c e
  asks : c.request? d.sessions = some request
  sent : ∃ question s₁, request.encode = .ok question ∧ l.discard d.line = (.ok (), s₁) ∧
    l.send (Slip.encode question) s₁ = (.ok (), s)

/-- `d.Asks c op` — the operation is refused only for what stands in the way of the call `c`, and asks
    for the request of the call. -/
structure Asks (d : Device l) (c : DeviceCall) (op : Operation α) : Prop where
  refused : ∀ {e}, op d.sessions = .error e → d.Obstacle c e
  asked : ∀ {p}, op d.sessions = .ok p → c.request? d.sessions = some p.request

theorem Checks.asks (h : d.Checks c op) : d.Asks c op where
  refused := h.refused
  asked hp := (h.accepted hp).asked

theorem Asks.write (handle : UInt16) (offset : UInt32) (data : List UInt8) :
    d.Asks (.write handle offset data) (Operation.write handle offset data) where
  refused := .of_write
  asked hp := by
    obtain ⟨s, -, -, rfl⟩ := Operation.write_eq_ok hp
    rfl

theorem Asks.halfClose (handle : UInt16) :
    d.Asks (.halfClose handle) (Operation.halfClose handle) where
  refused := .of_halfClose
  asked hp := by
    obtain ⟨s, hs, rfl⟩ := Operation.halfClose_eq_ok hp
    rw [DeviceCall.request?, hs]
    rfl

theorem Asks.read (handle : UInt16) (offset : UInt32) (buffer : List UInt8) :
    d.Asks (.read handle offset buffer) (Operation.read handle offset buffer) where
  refused := .of_read
  asked hp := by
    obtain ⟨s, -, -, rfl⟩ := Operation.read_eq_ok hp
    rfl

theorem Asks.info (handle : UInt16) : d.Asks (.info handle) (Operation.info handle) where
  refused h := .of_onSession rfl h fun _ _ hop => nomatch hop
  asked hp := by
    obtain ⟨s, -, hask⟩ := Operation.info_eq_ok hp
    cases hask
    rfl

theorem Asks.close (handle : UInt16) : d.Asks (.close handle) (Operation.close handle) where
  refused h := .of_onSession rfl h fun _ _ hop => nomatch hop
  asked hp := by
    obtain ⟨s, -, rfl⟩ := Operation.close_eq_ok hp
    rfl

/-- **An operation that has been sent judges what comes back**, and what comes back suits it. -/
theorem perform_ensures {P : Except ClientError Response → Except ClientError α → Prop}
    (h : d.Sent c request s) (hasks : d.Asks c op) (hop : op.Ensures P d.sessions) :
    P (d.exchange.run l request d.line).1 (d.perform op).1 := by
  cases hp : op d.sessions with
  | error e => exact absurd (hasks.refused hp) (h.free e)
  | ok p =>
    have hready : d.isReady = true := by
      cases hready : d.isReady with
      | true => rfl
      | false => exact absurd (.notReady hready) (h.free _)
    obtain rfl : p.request = request := Option.some.inj ((hasks.asked hp).symm.trans h.asks)
    rw [perform_of_ok hp, call, if_pos hready]
    refine hop p hp _ fun r hr => ?_
    obtain ⟨question, s₁, hquestion, -⟩ := h.sent
    rw [Exchange.run_of_encode _ _ hquestion] at hr
    obtain ⟨frame, -, packet, -, -, -, used, rest, -, hlayout⟩ :=
      Exchange.readAnswer_eq_ok_iff.mp hr
    exact Response.suits_of_layout hlayout

theorem map_judged {answer : Except ClientError Response} {result : Except ClientError α}
    (hc : ∀ result, c.conclude result = result.map fun _ => true) (h : Judged answer result) :
    ∃ told, Judged answer told ∧ (result.map fun _ => true) = c.conclude told := by
  refine ⟨_, h.map fun _ => (), ?_⟩
  rw [hc]
  cases result <;> rfl

theorem perform_judged (h : d.Sent c request s) (hasks : d.Asks c op)
    (hop : op.Ensures Judged d.sessions)
    (hc : ∀ result, c.conclude result = result.map fun _ => true) :
    ∃ told, Judged (d.exchange.run l request d.line).1 told ∧
      ((d.perform op).1.map fun _ => true) = c.conclude told :=
  map_judged hc (perform_ensures h hasks hop)

/-- **Every call judges what comes back.** -/
theorem outcome_judged (h : d.Sent c request s) :
    ∃ told, Judged (d.exchange.run l request d.line).1 told ∧ d.outcome c = c.conclude told := by
  cases c with
  | init => cases h.asks
  | shutdown => cases h.asks
  | openUrl | openWithBody | openTcp =>
    exact perform_judged h (Checks.openUrl rfl rfl rfl rfl).asks (.openUrl _ _ _ _) fun _ => rfl
  | write handle offset data =>
    exact perform_judged h (.write handle offset data) (.write handle offset data) fun _ => rfl
  | halfClose handle =>
    obtain ⟨written, hwritten, hresult⟩ := perform_ensures h (.halfClose handle) (.halfClose handle)
    refine ⟨_, hwritten.map fun _ => (), ?_⟩
    show (d.perform (Operation.halfClose handle)).1 = _
    rw [hresult]
    cases written <;> rfl
  | read handle offset buffer =>
    have hread := perform_ensures h (.read handle offset buffer) (.read handle offset buffer)
    rw [← (read_eq d handle offset buffer).1] at hread
    exact map_judged (fun _ => rfl) hread
  | info handle => exact perform_judged h (.info handle) (.info handle) fun _ => rfl
  | close handle => exact perform_judged h (.close handle) (.close handle) fun _ => rfl
  | clockGet =>
    exact perform_judged h (Checks.ask_free rfl rfl rfl rfl rfl).asks
      (.ask fun _ => Operation.judged_pickTime (.inl rfl)) fun _ => rfl
  | clockSet time =>
    exact perform_judged h (Checks.ask_free rfl rfl rfl rfl rfl).asks
      (.ask fun _ => Operation.judged_pickTime (.inr (.inl rfl))) fun _ => rfl
  | clockSync =>
    exact perform_judged h (Checks.ask_free rfl rfl rfl rfl rfl).asks
      (.ask fun _ => Operation.judged_pickTime (.inr (.inr rfl))) fun _ => rfl
  | clockFormat format =>
    exact perform_judged h (Checks.ask_free rfl rfl rfl rfl rfl).asks
      (.ask fun _ => Operation.judged_pickFormatted format) fun _ => rfl
  | clockFormatIn format timezone =>
    exact perform_judged h (Checks.ask_timezone rfl rfl rfl rfl rfl).asks
      (.ask fun _ => Operation.judged_pickFormatted format) fun _ => rfl
  | timezoneGet =>
    exact perform_judged h (Checks.ask_free rfl rfl rfl rfl rfl).asks
      (.ask fun _ => Operation.judged_pickTimezone) fun _ => rfl
  | timezoneSet timezone =>
    exact perform_judged h (Checks.ask_timezone rfl rfl rfl rfl rfl).asks
      (.ask fun _ => Operation.judged_pickTimezoneSet (.inl rfl)) fun _ => rfl
  | timezoneSave timezone =>
    exact perform_judged h (Checks.ask_timezone rfl rfl rfl rfl rfl).asks
      (.ask fun _ => Operation.judged_pickTimezoneSet (.inr rfl)) fun _ => rfl

/-! ## Errors by their cause -/

/-- An error of the exchange is one of the call, unless it is forgiven. -/
theorem outcome_of_error (h : d.Sent c request s)
    (he : (d.exchange.run l request d.line).1 = .error e) :
    d.outcome c = c.conclude (.error e) := by
  obtain ⟨told, hjudged, houtcome⟩ := outcome_judged h
  rw [houtcome]
  cases hjudged with
  | told htold =>
    cases he.symm.trans htold
    rfl
  | done hanswer => cases he.symm.trans hanswer
  | unfit hanswer _ => cases he.symm.trans hanswer

/-- **An error of a call is that of the exchange**, or says that the answer belongs to another
    request. -/
theorem cause_of_error (h : d.Sent c request s) (he : d.outcome c = .error e) :
    (d.exchange.run l request d.line).1 = .error e ∨
      ∃ r fault, (d.exchange.run l request d.line).1 = .ok r ∧ e = misfit fault ∧
        ∀ shape, fault ≠ .unrelated shape := by
  obtain ⟨told, hjudged, houtcome⟩ := outcome_judged h
  rw [houtcome] at he
  cases hjudged with
  | told htold =>
    cases DeviceCall.eq_of_conclude_error he
    exact Or.inl htold
  | done hanswer =>
    rw [DeviceCall.conclude_ok] at he
    cases he
  | unfit hanswer hshape =>
    cases DeviceCall.eq_of_conclude_error he
    exact Or.inr ⟨_, _, hanswer, rfl, hshape⟩

/-- A call is forgiven exactly if it is to end a body, and the device reports that it cannot be told
    so. -/
theorem outcome_false_iff (h : d.Sent c request s) :
    d.outcome c = .ok false ↔ (∃ handle, c = .halfClose handle) ∧
      (d.exchange.run l request d.line).1 = .error (.protocol (.status .unsupported)) := by
  constructor
  · intro hfalse
    obtain ⟨told, hjudged, houtcome⟩ := outcome_judged h
    rw [houtcome] at hfalse
    cases hjudged with
    | @told e htold =>
      rcases DeviceCall.conclude_error c e with he | ⟨hhandle, rfl, -⟩
      · cases he.symm.trans hfalse
      · exact ⟨hhandle, htold⟩
    | done hanswer =>
      rw [DeviceCall.conclude_ok] at hfalse
      cases hfalse
    | @unfit r fault hanswer hshape =>
      rcases DeviceCall.conclude_error c (misfit fault) with he | ⟨-, hfault, -⟩
      · cases he.symm.trans hfalse
      · cases hfault
  · rintro ⟨⟨handle, rfl⟩, he⟩
    exact outcome_of_error h he

/-- What the bytes are to blame for: an error that is no status, when they decide. -/
theorem blamed_of_place (h : d.Sent c request s) {chunks : List (List UInt8)} {s' : σ}
    (hreceives : d.exchange.Receives l (l.now s + d.exchange.timeout) s chunks s')
    (hplace : (Slip.verdict maxFrame chunks.flatten).place? ≠ none) (he : d.outcome c = .error e)
    (hstatus : ∀ status, e ≠ .protocol (.status status)) :
    (Slip.Garbled chunks.flatten → e.kind = .transport) ∧
      (¬ Slip.Garbled chunks.flatten → e.kind = .protocol) ∧
      e.isRecoverable = false ∧ e.isNotReady = false ∧
      ∀ shape, e ≠ misfit (.unrelated shape) := by
  obtain ⟨question, s₁, hquestion, hdiscard, hsend⟩ := h.sent
  have hcaused := Exchange.caused_of_place hquestion hdiscard hsend hreceives hplace
  rcases cause_of_error h he with hrun | ⟨r, fault, hrun, rfl, hshape⟩
  all_goals rw [hrun] at hcaused
  · cases hcaused with
    | reported hframe hreports => exact absurd rfl (hstatus _)
    | refused hframe hrefused =>
      obtain ⟨hkind, -, hshape⟩ := hrefused.proper
      obtain ⟨hfinal, hnotReady⟩ := ProtocolError.final_of_kind hkind
      refine ⟨fun hgarbled => ?_, fun _ => hkind, hfinal, hnotReady, fun shape heq => ?_⟩
      · exact absurd hgarbled (Exchange.not_garbled_of_verdict hframe)
      · cases heq
        exact hshape shape rfl
    | garbled hgarbled =>
      exact ⟨fun _ => rfl, fun hnot => absurd hgarbled hnot, rfl, rfl, nofun⟩
  · cases hcaused with
    | answered hframe hanswers =>
      refine ⟨fun hgarbled => ?_, fun _ => rfl, rfl, rfl, fun shape heq => ?_⟩
      · exact absurd hgarbled (Exchange.not_garbled_of_verdict hframe)
      · cases heq
        exact hshape shape rfl

/-- **Every call that has been sent has a cause**: bytes that decide, or that nothing more has come. -/
theorem exists_cause (h : d.Sent c request s) :
    ∃ chunks s', d.exchange.Receives l (l.now s + d.exchange.timeout) s chunks s' ∧
      ((Slip.verdict maxFrame chunks.flatten).place? ≠ none ∨
        ∃ e, d.exchange.Fails l (l.now s + d.exchange.timeout) s' e ∧ d.outcome c = .error e) := by
  obtain ⟨question, s₁, hquestion, hdiscard, hsend⟩ := h.sent
  obtain ⟨chunks, s', hreceives, ⟨hplace, -⟩ | ⟨-, e, hfails, hrun⟩⟩ :=
    Exchange.exists_caused (x := d.exchange) hquestion hdiscard hsend
  · exact ⟨chunks, s', hreceives, Or.inl hplace⟩
  · refine ⟨chunks, s', hreceives, Or.inr ⟨e, hfails, ?_⟩⟩
    rw [outcome_of_error h hrun]
    rcases DeviceCall.conclude_error c e with he | ⟨-, rfl, -⟩
    · exact he
    · cases hfails.kind

/-- An error is a status, or counts against the protocol or the link; the shape of an answer is never
    its reason. -/
theorem error_cases (h : d.Sent c request s) (he : d.outcome c = .error e) :
    (∃ status, e = .protocol (.status status)) ∨
      ((e.kind = .protocol ∨ e.kind = .transport) ∧ ∀ shape, e ≠ misfit (.unrelated shape)) := by
  by_cases hstatus : ∃ status, e = .protocol (.status status)
  · exact Or.inl hstatus
  obtain ⟨chunks, s', hreceives, hplace | ⟨e', hfails, he'⟩⟩ := exists_cause h
  · obtain ⟨hgarbled, hproper, -, -, hshape⟩ :=
      blamed_of_place h hreceives hplace he fun status heq => hstatus ⟨status, heq⟩
    refine Or.inr ⟨?_, hshape⟩
    by_cases hg : Slip.Garbled chunks.flatten
    · exact Or.inr (hgarbled hg)
    · exact Or.inl (hproper hg)
  · cases he.symm.trans he'
    refine Or.inr ⟨Or.inr hfails.kind, fun shape heq => ?_⟩
    cases heq
    cases hfails.kind

/-- Some classes of failure have one status each, and are had by nothing else. -/
theorem eq_status_of_kind (h : d.Sent c request s) (he : d.outcome c = .error e)
    {status : Status} (hkind : e.kind = status.kind)
    (hclass : status = .invalid ∨ status = .notFound ∨ status = .notReady) :
    e = .protocol (.status status) := by
  rcases error_cases h he with ⟨status', rfl⟩ | ⟨hprotocol | htransport, -⟩
  · rcases hclass with rfl | rfl | rfl <;> cases status' <;> first | rfl | cases hkind
  · rcases hclass with rfl | rfl | rfl <;> cases hprotocol.symm.trans hkind
  · rcases hclass with rfl | rfl | rfl <;> cases htransport.symm.trans hkind

/-- **The errors of a call tell their cause.** Take any call that makes a request, to any device on any
    link, and let the request have been sent. The exchange fails for a status exactly if a complete
    frame comes in in time, it can be unwrapped, and it holds a packet of the command of the request
    whose first field stands for that status, which is not success. The call fails as its exchange
    does, but that ending a body is forgiven if the device does not support it. When bytes decide and
    the error is no status, it is one of the link if they are too many or have a bad escape, and one
    of the protocol otherwise; there is no use in another try. If no bytes decide, the link has broken
    down or the deadline has come. Arguments, the table, and things that are not there yet are blamed
    by the device alone, with one status each. The shape of an answer is never the reason of an error,
    nor is a session that has vanished during the exchange. -/
theorem errors_by_cause (h : d.Sent c request s) :
    (∀ status, (d.exchange.run l request d.line).1 = .error (.protocol (.status status)) ↔
      ∃ frame, d.exchange.Brings l (l.now s + d.exchange.timeout) s frame ∧
        Response.Reports request.command frame status) ∧
    (d.outcome c = .ok false ↔ (∃ handle, c = .halfClose handle) ∧
      (d.exchange.run l request d.line).1 = .error (.protocol (.status .unsupported))) ∧
    (∀ e, (d.exchange.run l request d.line).1 = .error e → d.outcome c ≠ .ok false →
      d.outcome c = .error e) ∧
    (∀ chunks s' e, d.exchange.Receives l (l.now s + d.exchange.timeout) s chunks s' →
      (Slip.verdict maxFrame chunks.flatten).place? ≠ none → d.outcome c = .error e →
      (∀ status, e ≠ .protocol (.status status)) →
        (Slip.Garbled chunks.flatten → e.kind = .transport) ∧
        (¬ Slip.Garbled chunks.flatten → e.kind = .protocol) ∧
        e.isRecoverable = false ∧ e.isNotReady = false) ∧
    (∃ chunks s', d.exchange.Receives l (l.now s + d.exchange.timeout) s chunks s' ∧
      ((Slip.verdict maxFrame chunks.flatten).place? ≠ none ∨
        ∃ e, d.exchange.Fails l (l.now s + d.exchange.timeout) s' e ∧ d.outcome c = .error e)) ∧
    ∀ e, d.outcome c = .error e →
      (e.kind = .argument → e = .protocol (.status .invalid)) ∧
      (e.kind = .resource → e = .protocol (.status .notFound)) ∧
      (e.kind = .notReady → e = .protocol (.status .notReady)) ∧
      (∀ shape, e ≠ misfit (.unrelated shape)) ∧
      ∀ handle, e ≠ .protocol (.handleNotFound handle) := by
  refine ⟨fun status => ?_, outcome_false_iff h, fun e hrun hne => ?_,
    fun chunks s' e hreceives hplace he hstatus => ?_, exists_cause h, fun e he => ?_⟩
  · obtain ⟨question, s₁, hquestion, hdiscard, hsend⟩ := h.sent
    exact Exchange.status_iff hquestion hdiscard hsend status
  · rw [outcome_of_error h hrun] at hne ⊢
    rcases DeviceCall.conclude_error c e with hresult | ⟨-, -, hresult⟩
    · exact hresult
    · exact absurd hresult hne
  · obtain ⟨hgarbled, hproper, hfinal, hnotReady, -⟩ := blamed_of_place h hreceives hplace he hstatus
    exact ⟨hgarbled, hproper, hfinal, hnotReady⟩
  · have hresource : e.kind = .resource → e = .protocol (.status .notFound) := fun hkind =>
      eq_status_of_kind h he hkind (Or.inr (Or.inl rfl))
    refine ⟨fun hkind => eq_status_of_kind h he hkind (Or.inl rfl), hresource,
      fun hkind => eq_status_of_kind h he hkind (Or.inr (Or.inr rfl)), ?_, fun handle heq => ?_⟩
    · rcases error_cases h he with ⟨status, rfl⟩ | ⟨-, hshape⟩
      · exact nofun
      · exact hshape
    · -- that would be of the class that only a status has
      subst heq
      cases hresource rfl

/-- An answer to a write: it is not supported. -/
def unsupportedWrite : List UInt8 := [0xFD, 0x03, 7, 0, 17, 1, 8]

/-- A device with an open session, which gives this answer. -/
def unending : Device Script.link where
  line := { connected := true, reply := [.bytes (Slip.encode unsupportedWrite)] }
  sessions := ⟨[.active { handle := 1, kind := .http }]⟩
  initialized := true

/-- That the end of the body cannot be told is no failure. -/
theorem unending_forgiven : unending.outcome (.halfClose 1) = .ok false := by
  have hsent : unending.Sent (.halfClose 1) (.write 1 0 [])
      { connected := true, inbound := [.bytes (Slip.encode unsupportedWrite)] } := by
    refine ⟨fun e hobstacle => ?_, rfl, _, _, rfl, rfl, rfl⟩
    cases hobstacle.unready (.inl rfl) rfl
  obtain ⟨hstatus, hforgiven, -⟩ := errors_by_cause hsent
  refine hforgiven.mpr ⟨⟨1, rfl⟩, (hstatus .unsupported).mpr ⟨unsupportedWrite, ?_, ?_⟩⟩
  · exact ⟨_, _, unsupportedWrite, _, .chunk (by decide) rfl (.done _), rfl, rfl⟩
  · exact ⟨Packet.ofStatus .write .unsupported [], .byte 8, [], rfl, rfl, rfl, rfl, nofun⟩

end Device

end CompanionBus
