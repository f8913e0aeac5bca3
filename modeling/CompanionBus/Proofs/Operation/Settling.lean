import CompanionBus.Operation
import CompanionBus.Proofs.Session.Operations
/-
  What comes of an answer.

  1. **Specification** — an answer is settled in one of two ways. Either the caller gets an error
     and the table is as it was before the operation; or the answer is the one that was asked for,
     and the table changes in the way of the operation. There is one such lemma for each operation
     that changes the table, and no later proof opens how an answer is settled.

  2. **The crux** — opening has taken a slot from the table before anything is sent. An error gives
     it back (`release_reserve`), so the table that has been there before is there again.
-/
namespace CompanionBus.Operation

variable {t : SessionTable} {handle : UInt16} {offset : UInt32}

/-! ## The checks of an answer -/

theorem checkHandle_cases (expected answered : UInt16) :
    (∃ e, checkHandle expected answered = .error e) ∨
      (expected = answered ∧ checkHandle expected answered = .ok ()) := by
  rw [checkHandle]
  split
  · rename_i h
    exact Or.inr ⟨h, rfl⟩
  · exact Or.inl ⟨_, rfl⟩

theorem checkOffset_cases (expected answered : UInt32) :
    (∃ e, checkOffset expected answered = .error e) ∨
      (expected = answered ∧ checkOffset expected answered = .ok ()) := by
  rw [checkOffset]
  split
  · rename_i h
    exact Or.inr ⟨h, rfl⟩
  · exact Or.inl ⟨_, rfl⟩

theorem record_cases {α : Type} (t : SessionTable) (handle : UInt16) (f : Session → Session)
    (result : α) :
    (∃ e, record t handle f result = (.error e, t)) ∨
      ∃ t', t.update handle f = .ok t' ∧ record t handle f result = (.ok result, t') := by
  rw [record]
  cases t.update handle f with
  | error e => exact Or.inl ⟨_, rfl⟩
  | ok t' => exact Or.inr ⟨t', rfl, rfl⟩

/-! ## Opening -/

/-- Every way out of opening either gives the slot back or has the session in it. -/
theorem settleOpen_cases {r : Reservation} {held : SessionTable}
    (hres : t.reserve = .ok (r, held)) (url : String) (answer : Except ClientError Response) :
    (∃ e, settleOpen url r held answer = (.error e, t)) ∨
      ∃ reply, answer = .ok (.opened reply) ∧ reply.accepted = true ∧ reply.handle ≠ noHandle ∧
        settleOpen url r held answer
          = (.ok reply.handle, (held.bind r (sessionOf url reply)).2) := by
  -- the table as it was before is the table with the slot given back
  rw [← SessionTable.release_reserve hres]
  cases answer with
  | error e => exact Or.inl ⟨e, rfl⟩
  | ok response =>
    cases response with
    | opened reply =>
      rw [settleOpen]
      split
      · rename_i haccepted
        by_cases hzero : reply.handle = noHandle
        · rw [SessionTable.bind_of_noHandle (s := sessionOf url reply) hzero]
          exact Or.inl ⟨_, rfl⟩
        · refine Or.inr ⟨reply, rfl, haccepted, hzero, ?_⟩
          rw [SessionTable.bind_of_ne (s := sessionOf url reply) hzero]
      · exact Or.inl ⟨_, rfl⟩
    | _ => exact Or.inl ⟨_, rfl⟩

/-- What an address asks for, if a slot is free and the address can be sent. -/
theorem openUrl_eq_ok {method : Method} {url : String} {flags : Flags OpenFlag}
    {bodyLength : UInt32} {p : Pending UInt16}
    (h : openUrl method url flags bodyLength t = .ok p) :
    ∃ r held, t.reserve = .ok (r, held) ∧
      p = { request := .openUrl method flags url bodyLength, settle := settleOpen url r held } := by
  rw [openUrl] at h
  split at h
  · cases h
  · split at h
    · cases h
    · rename_i r held hres
      cases h
      exact ⟨r, held, hres, rfl⟩

/-! ## Writing -/

/-- Data is taken only by an answer that repeats handle and offset and takes no more than was
    sent. -/
theorem settleWrite_cases (handle : UInt16) (offset : UInt32) (data : List UInt8)
    (t : SessionTable) (answer : Except ClientError Response) :
    (∃ e, settleWrite handle offset data t answer = (.error e, t)) ∨
      ∃ reply t', answer = .ok (.written reply) ∧ handle = reply.handle ∧ offset = reply.offset ∧
        reply.written.toNat ≤ data.length ∧
        t.update handle (advanceWrite data reply.written) = .ok t' ∧
        settleWrite handle offset data t answer = (.ok reply.written, t') := by
  cases answer with
  | error e => exact Or.inl ⟨e, rfl⟩
  | ok response =>
    cases response with
    | written reply =>
      -- one check after the other; each that fails ends in an error
      rw [settleWrite]
      rcases checkHandle_cases handle reply.handle with ⟨e, he⟩ | ⟨hhandle, he⟩
      · rw [he]
        exact Or.inl ⟨e, rfl⟩
      rw [he]
      dsimp only
      rcases checkOffset_cases offset reply.offset with ⟨e, he⟩ | ⟨hoffset, he⟩
      · rw [he]
        exact Or.inl ⟨e, rfl⟩
      rw [he]
      dsimp only
      split
      · exact Or.inl ⟨_, rfl⟩
      rcases record_cases t handle (advanceWrite data reply.written) reply.written with
        ⟨e, he⟩ | ⟨t', hupdate, he⟩
      · exact Or.inl ⟨e, he⟩
      · exact Or.inr ⟨reply, t', rfl, hhandle, hoffset, by omega, hupdate, he⟩
    | _ => exact Or.inl ⟨_, rfl⟩

/-! ## Reading -/

/-- Data arrives only by an answer that repeats handle and offset. Once it is in the buffer nothing
    goes wrong any more, since the session that it was asked for is in the table. -/
theorem settleRead_cases {held : List Reservation} {s : Session} (hw : t.WellKept held)
    (hget : t.get? handle = some s) (offset : UInt32) (buffer : List UInt8)
    (answer : Except ClientError Response) :
    (∃ e, settleRead handle offset buffer t answer = (.error e, t)) ∨
      ∃ reply t', answer = .ok (.data reply) ∧ handle = reply.handle ∧ offset = reply.offset ∧
        t.update handle (advanceRead offset (reply.copied buffer.length)) = .ok t' ∧
        settleRead handle offset buffer t answer
          = (.ok ⟨.ok (outcomeOf buffer.length reply), reply.copyInto buffer⟩, t') := by
  cases answer with
  | error e => exact Or.inl ⟨e, rfl⟩
  | ok response =>
    cases response with
    | data reply =>
      rw [settleRead]
      rcases checkHandle_cases handle reply.handle with ⟨e, he⟩ | ⟨hhandle, he⟩
      · rw [he]
        exact Or.inl ⟨e, rfl⟩
      rw [he]
      dsimp only
      rcases checkOffset_cases offset reply.offset with ⟨e, he⟩ | ⟨hoffset, he⟩
      · rw [he]
        exact Or.inl ⟨e, rfl⟩
      rw [he]
      dsimp only
      obtain ⟨t', hupdate⟩ := SessionTable.exists_update_of_get? hw hget
        (advanceRead offset (reply.copied buffer.length))
      rw [record, hupdate]
      exact Or.inr ⟨reply, t', rfl, hhandle, hoffset, hupdate, rfl⟩
    | _ => exact Or.inl ⟨_, rfl⟩

/-! ## Operations on a session -/

/-- An operation on a session asks for something only if the session is in the table. -/
theorem onSession_eq_ok {α : Type} {op : Session → Operation α} {p : Pending α}
    (h : onSession handle op t = .ok p) : ∃ s, t.get? handle = some s ∧ op s t = .ok p := by
  rw [onSession, SessionTable.get] at h
  cases hget : t.get? handle with
  | none =>
    rw [hget] at h
    cases h
  | some s =>
    rw [hget] at h
    exact ⟨s, rfl, h⟩

theorem write_eq_ok {data : List UInt8} {p : Pending UInt16}
    (h : write handle offset data t = .ok p) :
    ∃ s, t.get? handle = some s ∧ offset = s.writeCursor ∧
      p = { request := .write handle offset data, settle := settleWrite handle offset data t } := by
  obtain ⟨s, hget, hp⟩ := onSession_eq_ok h
  split at hp
  · rename_i hoffset
    cases hp
    exact ⟨s, hget, hoffset, rfl⟩
  · cases hp

theorem halfClose_eq_ok {p : Pending Bool} (h : halfClose handle t = .ok p) :
    ∃ s, t.get? handle = some s ∧
      p =
        { request := .write handle s.writeCursor []
          settle := fun answer =>
            (halfClosed (settleWrite handle s.writeCursor [] t answer).1,
              (settleWrite handle s.writeCursor [] t answer).2) } := by
  obtain ⟨s, hget, hp⟩ := onSession_eq_ok h
  split at hp
  · cases hp
  · rename_i q hq
    obtain ⟨s', -, -, rfl⟩ := write_eq_ok hq
    cases hp
    exact ⟨s, hget, rfl⟩

theorem read_eq_ok {buffer : List UInt8} {p : Pending ReadResult}
    (h : read handle offset buffer t = .ok p) :
    ∃ s, t.get? handle = some s ∧ buffer ≠ [] ∧
      p =
        { request := .read handle offset (readSize buffer.length)
          settle := settleRead handle offset buffer t } := by
  obtain ⟨s, hget, hp⟩ := onSession_eq_ok h
  split at hp
  · cases hp
  · rename_i hbuffer
    cases hp
    exact ⟨s, hget, hbuffer, rfl⟩

theorem info_eq_ok {p : Pending SessionInfo} (h : info handle t = .ok p) :
    ∃ s, t.get? handle = some s ∧ ask (.info handle) (pickInfo handle) t = .ok p :=
  onSession_eq_ok h

theorem close_eq_ok {p : Pending Unit} (h : close handle t = .ok p) :
    ∃ s, t.get? handle = some s ∧
      p =
        { request := .close handle
          settle := fun answer => (Operation.closed answer, (t.remove handle).2) } := by
  obtain ⟨s, hget, hp⟩ := onSession_eq_ok h
  cases hp
  exact ⟨s, hget, rfl⟩

/-- Closing is refused only when there is nothing to close. -/
theorem get?_of_close_eq_error {e : ClientError} (h : close handle t = .error e) :
    t.get? handle = none := by
  cases hget : t.get? handle with
  | none => rfl
  | some s =>
    rw [close, onSession, SessionTable.get, hget] at h
    cases h

end CompanionBus.Operation
