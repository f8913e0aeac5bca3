import CompanionBus.Proofs.Device.Events
import CompanionBus.Proofs.Operation.Settling
/-
  What an operation does to the table, as an event of the history tells it.

  1. **Specification** — `op.Records event t` says that the table `t` changes under `op` in no other
     way than the event of its outcome tells, that it stays in order with no slot held, and that a
     request to write names the place where the session has to go on.

  2. **The proof** — one lemma for each operation. What an answer comes to has been told by the
     lemmas of `Settling`; here it is read under each handle, the one of the operation and all
     others.
-/
namespace CompanionBus

open DeviceEvent

/-! ## Events by their results -/

namespace DeviceEvent

variable {handle : UInt16} {known : Option Session}

@[simp] theorem apply_other : other.apply handle known = known :=
  map_advance_of_idle rfl rfl rfl

@[simp] theorem apply_opened_error (url : String)
    (answer : Option (Except ClientError Response)) (e : ClientError) :
    (opened url answer (.error e)).apply handle known = known :=
  map_advance_of_idle rfl rfl rfl

@[simp] theorem apply_wrote_error (h : UInt16) (data : List UInt8) (e : ClientError) :
    (wrote h data (.error e)).apply handle known = known :=
  map_advance_of_idle rfl rfl (by cases data <;> rfl)

@[simp] theorem apply_halfClosed_error (h : UInt16) (e : ClientError) :
    (halfClosed h (.error e)).apply handle known = known :=
  map_advance_of_idle rfl rfl rfl

@[simp] theorem apply_halfClosed_false (h : UInt16) :
    (halfClosed h (.ok false)).apply handle known = known :=
  map_advance_of_idle rfl rfl rfl

@[simp] theorem apply_hasRead_error (h : UInt16) (offset : UInt32) (e : ClientError) :
    (hasRead h offset (.error e)).apply handle known = known :=
  map_advance_of_idle rfl rfl rfl

/-- An event about the session with the handle `h` changes that session alone. -/
theorem apply_eq_ite {e : DeviceEvent} {h : UInt16} {f : Session → Session}
    (hkeeps : e.apply handle known = known.map (advance handle e)) (hself : advance h e = f)
    (hidle : h ≠ handle →
      e.taken handle = 0 ∧ e.readEnd? handle = none ∧ e.endsBody handle = false) :
    e.apply handle known = if handle = h then known.map f else known := by
  rw [hkeeps]
  by_cases hh : handle = h
  · rw [if_pos hh, hh, hself]
  · obtain ⟨htaken, hread, hbody⟩ := hidle (fun he => hh he.symm)
    rw [if_neg hh, map_advance_of_idle htaken hread hbody]

/-- The count of a write moves the place where the next one begins. -/
theorem apply_wrote_ok (h : UInt16) (data : List UInt8) (n : UInt16) :
    (wrote h data (.ok n)).apply handle known
      = if handle = h then known.map (Operation.advanceWrite data n) else known := by
  apply apply_eq_ite rfl
  · funext s
    rw [advance, Operation.advanceWrite, Session.mk.injEq]
    refine ⟨rfl, rfl, ?_, ?_, rfl⟩
    · cases data <;> simp [endsBody]
    · simp [taken]
  · intro hne
    exact ⟨if_neg hne, rfl, by cases data <;> simp [endsBody, hne]⟩

/-- Ending the body is writing nothing. -/
theorem apply_halfClosed_true (h : UInt16) :
    (halfClosed h (.ok true)).apply handle known
      = if handle = h then known.map (Operation.advanceWrite [] 0) else known := by
  apply apply_eq_ite rfl
  · funext s
    simp [advance, Operation.advanceWrite, endsBody, taken, readEnd?]
  · intro hne
    exact ⟨rfl, rfl, decide_eq_false hne⟩

/-- A read tells where it ended. -/
theorem apply_hasRead_ok (h : UInt16) (offset : UInt32) (outcome : ReadOutcome) :
    (hasRead h offset (.ok outcome)).apply handle known
      = if handle = h then known.map (Operation.advanceRead offset outcome.bytesRead)
        else known := by
  apply apply_eq_ite rfl
  · funext s
    simp [advance, Operation.advanceRead, endsBody, taken, readEnd?]
  · intro hne
    exact ⟨rfl, if_neg hne, rfl⟩

end DeviceEvent

/-! ## Operations as events -/

namespace Operation

variable {α : Type} {t : SessionTable}

/-- `op.Records event t` — on the table `t` the operation does what the event of its outcome tells.
    The event is made from the answer, if there has been one, and the result. -/
structure Records (op : Operation α)
    (event : Option (Except ClientError Response) → Except ClientError α → DeviceEvent)
    (t : SessionTable) : Prop where
  /-- An operation that is refused changes nothing, and its event says so. -/
  refused : ∀ e, op t = .error e → ∀ k, (event none (.error e)).apply k (t.get? k) = t.get? k
  /-- When an answer is settled no slot stays held, and what is found under each handle is what the
      event says. -/
  settled : ∀ p, op t = .ok p → ∀ answer, (p.settle answer).2.WellKept [] ∧
    ∀ k, (p.settle answer).2.get? k = (event (some answer) (p.settle answer).1).apply k (t.get? k)
  /-- A request to write goes on where the session has to. -/
  cursor : ∀ p, op t = .ok p → ∀ handle offset data, p.request = .write handle offset data →
    ∃ s, t.get? handle = some s ∧ offset = s.writeCursor

/-- The session that an answer makes is the one the history begins with. -/
theorem sessionOf_eq (url : String) (reply : OpenReply) :
    sessionOf url reply = sessionSince reply.handle url (some (.ok (.opened reply))) [] := by
  rw [sessionOf, SessionKind.ofUrl_eq, sessionSince, Session.mk.injEq]
  exact ⟨rfl, rfl, (Bool.and_true _).symm, rfl, rfl⟩

theorem Records.openUrl (hw : t.WellKept []) (method : Method) (url : String)
    (flags : Flags OpenFlag) (bodyLength : UInt32) :
    (openUrl method url flags bodyLength).Records (opened url) t := by
  refine ⟨fun e _ k => apply_opened_error .., fun p hp answer => ?_,
    fun p hp handle offset data hrequest => ?_⟩
  all_goals obtain ⟨r, held, hres, rfl⟩ := openUrl_eq_ok hp
  · dsimp only
    rcases settleOpen_cases hres url answer with ⟨e, he⟩ | ⟨reply, rfl, -, hne, he⟩
    · rw [he]
      exact ⟨hw, fun k => (apply_opened_error ..).symm⟩
    · -- the slot held is the only one, and the session takes it
      have hheld : held.WellKept [r] := hw.reserve hres
      have hr : r ∈ [r] := List.mem_singleton_self r
      have hbound := hheld.bind hr (sessionOf url reply)
      rw [List.erase_cons_head] at hbound
      have hget : ∀ k, (held.bind r (sessionOf url reply)).2.get? k
          = if k = reply.handle then some (sessionOf url reply) else t.get? k := by
        intro k
        rw [← SessionTable.get?_reserve hw hres]
        exact SessionTable.get?_bind hheld hr hne
      rw [he]
      refine ⟨hbound, fun k => ?_⟩
      rw [hget, DeviceEvent.apply, sessionOf_eq]
      by_cases hk : k = reply.handle
      · rw [if_pos hk, if_pos hk.symm, hk]
      · rw [if_neg hk, if_neg (fun h => hk h.symm)]
  · cases hrequest

/-- A session that has been changed under its handle. -/
theorem update_settled {t' : SessionTable} {handle : UInt16} {f : Session → Session}
    {e : DeviceEvent} (hw : t.WellKept []) (h : t.update handle f = .ok t')
    (hf : ∀ s, (f s).handle = s.handle)
    (he : ∀ k, e.apply k (t.get? k) = if k = handle then (t.get? k).map f else t.get? k) :
    t'.WellKept [] ∧ ∀ k, t'.get? k = e.apply k (t.get? k) := by
  refine ⟨hw.update hf h, fun k => ?_⟩
  rw [he, SessionTable.get?_update hw hf h]
  by_cases hk : k = handle
  · rw [if_pos hk, if_pos hk, hk]
  · rw [if_neg hk, if_neg hk]

theorem Records.write (hw : t.WellKept []) (handle : UInt16) (offset : UInt32)
    (data : List UInt8) :
    (write handle offset data).Records (fun _ => wrote handle data) t := by
  refine ⟨fun e _ k => apply_wrote_error .., fun p hp answer => ?_,
    fun p hp handle' offset' data' hrequest => ?_⟩
  all_goals obtain ⟨s, hget, hoffset, rfl⟩ := write_eq_ok hp
  · dsimp only
    rcases settleWrite_cases handle offset data t answer with
      ⟨e, he⟩ | ⟨reply, t', -, -, -, -, hupdate, he⟩
    · rw [he]
      exact ⟨hw, fun k => (apply_wrote_error ..).symm⟩
    · rw [he]
      exact update_settled hw hupdate (fun _ => rfl) (fun k => apply_wrote_ok ..)
  · cases hrequest
    exact ⟨s, hget, hoffset⟩

theorem Records.halfClose (hw : t.WellKept []) (handle : UInt16) :
    (halfClose handle).Records (fun _ => DeviceEvent.halfClosed handle) t := by
  refine ⟨fun e _ k => apply_halfClosed_error .., fun p hp answer => ?_,
    fun p hp handle' offset' data' hrequest => ?_⟩
  all_goals obtain ⟨s, hget, rfl⟩ := halfClose_eq_ok hp
  · dsimp only
    rcases settleWrite_cases handle s.writeCursor [] t answer with
      ⟨e, he⟩ | ⟨reply, t', -, -, -, hle, hupdate, he⟩
    · rw [he, halfClosed]
      dsimp only
      split
      · exact ⟨hw, fun k => (apply_halfClosed_false ..).symm⟩
      · exact ⟨hw, fun k => (apply_halfClosed_error ..).symm⟩
    · -- of no bytes none can have been taken
      have hzero : reply.written = 0 := UInt16.toNat_inj.mp (Nat.le_zero.mp hle)
      rw [hzero] at hupdate
      rw [he]
      exact update_settled hw hupdate (fun _ => rfl) (fun k => apply_halfClosed_true ..)
  · cases hrequest
    exact ⟨s, hget, rfl⟩

theorem Records.read (hw : t.WellKept []) (handle : UInt16) (offset : UInt32)
    (buffer : List UInt8) :
    (read handle offset buffer).Records
      (fun _ result => hasRead handle offset (result.bind ReadResult.outcome)) t := by
  refine ⟨fun e _ k => apply_hasRead_error .., fun p hp answer => ?_,
    fun p hp handle' offset' data' hrequest => ?_⟩
  all_goals obtain ⟨s, hget, -, rfl⟩ := read_eq_ok hp
  · dsimp only
    rcases settleRead_cases hw hget offset buffer answer with
      ⟨e, he⟩ | ⟨reply, t', -, -, -, hupdate, he⟩
    · rw [he]
      exact ⟨hw, fun k => (apply_hasRead_error ..).symm⟩
    · rw [he]
      exact update_settled hw hupdate (fun _ => rfl)
        (fun k => apply_hasRead_ok handle offset (outcomeOf buffer.length reply))
  · cases hrequest

/-- What is only asked changes nothing. -/
theorem Records.ask (hw : t.WellKept []) (request : Request)
    (hcommand : request.command ≠ .write) (pick : Response → Except ClientError α) :
    (ask request pick).Records (fun _ _ => other) t := by
  refine ⟨fun e he => (nomatch he), fun p hp answer => ?_,
    fun p hp handle offset data hrequest => ?_⟩
  all_goals cases hp
  · cases answer <;> exact ⟨hw, fun k => apply_other.symm⟩
  · rw [show request = _ from hrequest] at hcommand
    exact absurd rfl hcommand

theorem Records.info (hw : t.WellKept []) (handle : UInt16) :
    (info handle).Records (fun _ _ => other) t := by
  have hask : (Operation.ask (.info handle) (pickInfo handle)).Records (fun _ _ => other) t :=
    .ask hw (.info handle) nofun (pickInfo handle)
  refine ⟨fun e _ k => apply_other, fun p hp => ?_, fun p hp => ?_⟩
  all_goals obtain ⟨s, -, hp⟩ := info_eq_ok hp
  · exact hask.settled p hp
  · exact hask.cursor p hp

theorem Records.close (hw : t.WellKept []) (handle : UInt16) :
    (close handle).Records (fun _ => DeviceEvent.closed handle) t := by
  refine ⟨fun e he k => ?_, fun p hp answer => ?_, fun p hp handle' offset' data' hrequest => ?_⟩
  · rw [DeviceEvent.apply]
    by_cases hk : handle = k
    · rw [if_pos hk, ← hk, get?_of_close_eq_error he]
    · rw [if_neg hk]
  · obtain ⟨s, -, rfl⟩ := close_eq_ok hp
    refine ⟨hw.remove handle, fun k => ?_⟩
    rw [SessionTable.get?_remove hw, DeviceEvent.apply]
    by_cases hk : k = handle
    · rw [if_pos hk, if_pos hk.symm]
    · rw [if_neg hk, if_neg (fun h => hk h.symm)]
  · obtain ⟨s, -, rfl⟩ := close_eq_ok hp
    cases hrequest

end Operation

end CompanionBus
