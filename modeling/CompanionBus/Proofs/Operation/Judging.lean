import CompanionBus.Proofs.Operation.Settling
import CompanionBus.Proofs.Response.Layout
/-
  What an operation makes of what comes back, by the cause.

  1. **Specification** — `Judged answer result` says of a result what it comes from: an error that has
     come back is handed on as it is; of an answer, the caller gets what was asked for, or is told
     that the answer belongs to another request. There is one lemma for each operation.

  2. **What cannot happen** — the answer to a command has the shape of the command (`Suits`), since it
     has the layout. And a session that has been looked up can be changed, in any table at all
     (`record_of_get?`). So neither the one nor the other is ever the reason of an error.
-/
namespace CompanionBus

/-! ## Shapes of answers -/

namespace Response

/-- `Suits c r` — the answer `r` has the shape that belongs to the command `c`. -/
def Suits : Command → Response → Prop
  | .openUrl, .opened _ | .read, .data _ | .write, .written _ | .close, .closed | .info, .info _
  | .clockGet, .time _ | .clockSet, .time _ | .clockSync, .time _ | .clockFormat, .formatted _
  | .timezoneGet, .timezone _ | .timezoneSet, .timezoneSet | .timezoneSave, .timezoneSet => True
  | _, _ => False

/-- The layout gives the shape. -/
theorem suits_of_layout {c : Command} {used : List UInt8} {r : Response} (h : Layout c used r) :
    Suits c r := by
  cases h with
  | time hc => rcases hc with rfl | rfl | rfl <;> trivial
  | timezoneSet hc => rcases hc with rfl | rfl <;> trivial
  | _ => trivial

end Response

namespace Operation

open Response (Suits)

variable {α β : Type} {t : SessionTable} {handle : UInt16} {offset : UInt32}
  {answer : Except ClientError Response}

/-! ## What a result comes from -/

/-- `Judged answer result` — the result comes from what has come back. -/
inductive Judged (answer : Except ClientError Response) : Except ClientError α → Prop where
  | told {e : ClientError} (h : answer = .error e) : Judged answer (.error e)
  | done {r : Response} {a : α} (h : answer = .ok r) : Judged answer (.ok a)
  /-- The answer belongs to another request, but not because of its shape. -/
  | unfit {r : Response} {fault : FrameFault} (h : answer = .ok r)
      (hshape : ∀ shape, fault ≠ .unrelated shape) : Judged answer (.error (misfit fault))

theorem Judged.map {result : Except ClientError α} (h : Judged answer result) (f : α → β) :
    Judged answer (result.map f) := by
  cases h with
  | told h => exact .told h
  | done h => exact .done h
  | unfit h hshape => exact .unfit h hshape

/-- `op.Ensures P t` — if the operation asks for something, given the table `t`, then `P` holds of what
    comes back and the result, unless an answer comes back that does not suit the request. -/
def Ensures (op : Operation α) (P : Except ClientError Response → Except ClientError α → Prop)
    (t : SessionTable) : Prop :=
  ∀ p, op t = .ok p → ∀ answer, (∀ r, answer = .ok r → Suits p.request.command r) →
    P answer (p.settle answer).1

/-! ## Parts -/

/-- An answer for another handle is unfit. -/
theorem Judged.of_checkHandle {expected answered : UInt16} {r : Response} {e : ClientError}
    (h : checkHandle expected answered = .error e) :
    Judged (.ok r) (.error e : Except ClientError α) := by
  rw [checkHandle] at h
  split at h
  · cases h
  · cases h
    refine .unfit rfl fun shape hshape => ?_
    cases hshape

/-- An answer for another offset is unfit. -/
theorem Judged.of_checkOffset {expected answered : UInt32} {r : Response} {e : ClientError}
    (h : checkOffset expected answered = .error e) :
    Judged (.ok r) (.error e : Except ClientError α) := by
  rw [checkOffset] at h
  split at h
  · cases h
  · cases h
    refine .unfit rfl fun shape hshape => ?_
    cases hshape

/-- A session that is in the table can be changed, whatever else the table holds. -/
theorem record_of_get? {s : Session} (h : t.get? handle = some s) (f : Session → Session)
    (result : α) : ∃ t', record t handle f result = (.ok result, t') := by
  rw [record, SessionTable.update]
  cases hindex : t.indexOf? handle with
  | some i => exact ⟨_, rfl⟩
  | none =>
    -- no slot has the session, though one has been found to have it
    rw [SessionTable.indexOf?, List.findIdx?_eq_none_iff] at hindex
    obtain ⟨slot, hmem, hslot⟩ := List.exists_of_findSome?_eq_some h
    have hnone := hindex slot hmem
    rw [hslot] at hnone
    cases hnone

/-! ## Operations on sessions -/

theorem Ensures.openUrl (method : Method) (url : String) (flags : Flags OpenFlag)
    (bodyLength : UInt32) : (openUrl method url flags bodyLength).Ensures Judged t := by
  intro p hp answer hsuits
  obtain ⟨r, held, -, rfl⟩ := openUrl_eq_ok hp
  cases answer with
  | error e => exact .told rfl
  | ok response =>
    cases response with
    | opened reply =>
      show Judged _ (settleOpen url r held (.ok (.opened reply))).1
      rw [settleOpen]
      split
      · by_cases hzero : reply.handle = noHandle
        · rw [SessionTable.bind_of_noHandle (s := sessionOf url reply) hzero]
          refine .unfit rfl fun shape hshape => ?_
          cases hshape
        · rw [SessionTable.bind_of_ne (s := sessionOf url reply) hzero]
          exact .done rfl
      · refine .unfit rfl fun shape hshape => ?_
        cases hshape
    | _ => exact (hsuits _ rfl).elim

/-- What comes of a write to a session that is open. -/
theorem judged_settleWrite {s : Session} (hget : t.get? handle = some s) (offset : UInt32)
    (data : List UInt8) (hsuits : ∀ r, answer = .ok r → Suits .write r) :
    Judged answer (settleWrite handle offset data t answer).1 := by
  cases answer with
  | error e => exact .told rfl
  | ok response =>
    cases response with
    | written reply =>
      rw [settleWrite]
      split
      · rename_i hhandle
        exact .of_checkHandle hhandle
      split
      · rename_i hoffset
        exact .of_checkOffset hoffset
      split
      · refine .unfit rfl fun shape hshape => ?_
        cases hshape
      · obtain ⟨t', ht⟩ := record_of_get? hget (advanceWrite data reply.written) reply.written
        rw [ht]
        exact .done rfl
    | _ => exact (hsuits _ rfl).elim

theorem Ensures.write (handle : UInt16) (offset : UInt32) (data : List UInt8) :
    (write handle offset data).Ensures Judged t := by
  intro p hp answer hsuits
  obtain ⟨s, hget, -, rfl⟩ := write_eq_ok hp
  exact judged_settleWrite hget offset data hsuits

/-- Ending a body is a write, and then one error is forgiven. -/
theorem Ensures.halfClose (handle : UInt16) :
    (halfClose handle).Ensures
      (fun answer result => ∃ written, Judged answer written ∧ result = halfClosed written) t := by
  intro p hp answer hsuits
  obtain ⟨s, hget, rfl⟩ := halfClose_eq_ok hp
  exact ⟨_, judged_settleWrite hget s.writeCursor [] hsuits, rfl⟩

theorem Ensures.read (handle : UInt16) (offset : UInt32) (buffer : List UInt8) :
    (read handle offset buffer).Ensures
      (fun answer result => Judged answer (result.bind ReadResult.outcome)) t := by
  intro p hp answer hsuits
  obtain ⟨s, hget, -, rfl⟩ := read_eq_ok hp
  cases answer with
  | error e => exact .told rfl
  | ok response =>
    cases response with
    | data reply =>
      show Judged _ ((settleRead handle offset buffer t (.ok (.data reply))).1.bind _)
      rw [settleRead]
      split
      · rename_i hhandle
        exact .of_checkHandle hhandle
      split
      · rename_i hoffset
        exact .of_checkOffset hoffset
      · obtain ⟨t', ht⟩ := record_of_get? hget (advanceRead offset (reply.copied buffer.length))
          (outcomeOf buffer.length reply)
        rw [ht]
        exact .done rfl
    | _ => exact (hsuits _ rfl).elim

theorem Ensures.close (handle : UInt16) : (close handle).Ensures Judged t := by
  intro p hp answer hsuits
  obtain ⟨s, -, rfl⟩ := close_eq_ok hp
  cases answer with
  | error e => exact .told rfl
  | ok response =>
    cases response with
    | closed => exact .done rfl
    | _ => exact (hsuits _ rfl).elim

/-! ## Questions -/

/-- A question hands on what its reader picks from the answer. -/
theorem Ensures.ask {request : Request} {pick : Response → Except ClientError α}
    (hpick : ∀ r, Suits request.command r → Judged (.ok r) (pick r)) :
    (ask request pick).Ensures Judged t := by
  intro p hp answer hsuits
  cases hp
  cases answer with
  | error e => exact .told rfl
  | ok r => exact hpick r (hsuits r rfl)

theorem judged_pickInfo {r : Response} (handle : UInt16) (h : Suits .info r) :
    Judged (.ok r) (pickInfo handle r) := by
  cases r with
  | info reply =>
    rw [pickInfo]
    split
    · rename_i hhandle
      exact .of_checkHandle hhandle
    · exact .done rfl
  | _ => exact h.elim

theorem Ensures.info (handle : UInt16) : (info handle).Ensures Judged t := by
  have hask : (Operation.ask (.info handle) (pickInfo handle)).Ensures Judged t :=
    .ask fun _ => judged_pickInfo handle
  intro p hp
  obtain ⟨s, -, hp⟩ := info_eq_ok hp
  exact hask p hp

/-- Three questions are answered by a time. -/
theorem judged_pickTime {c : Command} (hc : c = .clockGet ∨ c = .clockSet ∨ c = .clockSync)
    {r : Response} (h : Suits c r) : Judged (.ok r) (pickTime r) := by
  cases r with
  | time time => exact .done rfl
  | _ => rcases hc with rfl | rfl | rfl <;> exact h.elim

theorem judged_pickFormatted {r : Response} (format : TimeFormat) (h : Suits .clockFormat r) :
    Judged (.ok r) (pickFormatted format r) := by
  cases r with
  | formatted time =>
    rw [pickFormatted]
    split
    · exact .done rfl
    · refine .unfit rfl fun shape hshape => ?_
      cases hshape
  | _ => exact h.elim

theorem judged_pickTimezone {r : Response} (h : Suits .timezoneGet r) :
    Judged (.ok r) (pickTimezone r) := by
  cases r with
  | timezone name => exact .done rfl
  | _ => exact h.elim

/-- Setting the timezone is answered alike, whether it is saved or not. -/
theorem judged_pickTimezoneSet {c : Command} (hc : c = .timezoneSet ∨ c = .timezoneSave)
    {r : Response} (h : Suits c r) : Judged (.ok r) (pickTimezoneSet r) := by
  cases r with
  | timezoneSet => exact .done rfl
  | _ => rcases hc with rfl | rfl <;> exact h.elim

end Operation

end CompanionBus
