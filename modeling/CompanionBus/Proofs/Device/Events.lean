import CompanionBus.Operation
import CompanionBus.Proofs.Session.Kind
import Mathlib.Algebra.Ring.Nat
import Mathlib.Data.List.Induction
/-
  What the history of a device says about the session with a handle.

  1. **Events** — a `DeviceEvent` is a call that has been made, with its result. A history is a list
     of them, oldest first.

  2. **Specification** — a session is known if it has been opened, and neither been closed nor lost
     in a shutdown since. `sessionSince` tells its state from what has happened since it was opened:
     sums of counts, the last read, whether the body has been ended.

  3. **Step by step** — `retrace` gives the same in one pass from the oldest event on, which is how
     the table comes to it. `retrace_eq_some_iff` says that the two are one.

  4. **The crux** — in one pass nobody knows yet which opening is the last. So the induction is on
     the history from its end: the newest event either settles the matter by itself, or is added to
     what had happened since the same opening.
-/
namespace CompanionBus

/-! ## Events -/

/-- A call to a device that has been made. -/
inductive DeviceEvent where
  /-- A session was to be opened on `url`. If the device was asked, `answer` is what came of it. -/
  | opened (url : String) (answer : Option (Except ClientError Response))
      (result : Except ClientError UInt16)
  | wrote (handle : UInt16) (data : List UInt8) (result : Except ClientError UInt16)
  | halfClosed (handle : UInt16) (result : Except ClientError Bool)
  | hasRead (handle : UInt16) (offset : UInt32) (result : Except ClientError ReadOutcome)
  | closed (handle : UInt16) (result : Except ClientError Unit)
  | shutDown (result : Except ClientError Unit)
  /-- The link was made ready, or something was asked that has to do with no session or changes
      none. -/
  | other

/-- Whether an answer to an address says that a body has to be written. -/
def announcesBody : Option (Except ClientError Response) → Bool
  | some (.ok (.opened reply)) => reply.needsBody
  | _ => false

namespace DeviceEvent

variable {handle : UInt16}

/-- The event gives a session with the handle. -/
def Opens (handle : UInt16) : DeviceEvent → Prop
  | opened _ _ (.ok h) => h = handle
  | _ => False

/-- The event takes the session with the handle away, whatever its result. -/
def Drops (handle : UInt16) : DeviceEvent → Prop
  | closed h _ => h = handle
  | shutDown _ => True
  | _ => False

/-- How many bytes for the handle the event says were taken. -/
def taken (handle : UInt16) : DeviceEvent → Nat
  | wrote h _ (.ok n) => if h = handle then n.toNat else 0
  | _ => 0

/-- Where the event ended, if it read something with the handle. -/
def readEnd? (handle : UInt16) : DeviceEvent → Option UInt32
  | hasRead h offset (.ok outcome) =>
    if h = handle then some (UInt32.ofNat (offset.toNat + outcome.bytesRead)) else none
  | _ => none

/-- Whether the event ended the body for the handle. -/
def endsBody (handle : UInt16) : DeviceEvent → Bool
  | wrote h [] (.ok _) => h = handle
  | halfClosed h (.ok true) => h = handle
  | _ => false

end DeviceEvent

/-! ## The law -/

open DeviceEvent

/-- The session with a handle, from the address and the answer it was opened with and what has
    happened since. -/
def sessionSince (handle : UInt16) (url : String) (answer : Option (Except ClientError Response))
    (since : List DeviceEvent) : Session where
  handle
  kind := if BeginsWithTcp url then .tcp else .http
  needsBody := announcesBody answer && !since.any (endsBody handle)
  writeCursor := UInt32.ofNat (since.map (taken handle)).sum
  readCursor := (since.filterMap (readEnd? handle)).getLastD 0

/-- What a history says about a handle: the session has been opened, and not been dropped or opened
    anew since. -/
def Known (history : List DeviceEvent) (handle : UInt16) (s : Session) : Prop :=
  ∃ before url answer since,
    history = before ++ opened url answer (.ok handle) :: since ∧
    (∀ e ∈ since, ¬ e.Opens handle ∧ ¬ e.Drops handle) ∧
    s = sessionSince handle url answer since

/-! ## Step by step -/

/-- A session after an event that neither gives nor takes it. -/
def advance (handle : UInt16) (e : DeviceEvent) (s : Session) : Session :=
  { s with
    needsBody := s.needsBody && !e.endsBody handle
    writeCursor := s.writeCursor + UInt32.ofNat (e.taken handle)
    readCursor := (e.readEnd? handle).getD s.readCursor }

/-- What is known about a handle after an event. -/
def DeviceEvent.apply (handle : UInt16) (known : Option Session) (e : DeviceEvent) :
    Option Session :=
  match e with
  | opened url answer (.ok h) =>
    if h = handle then some (sessionSince handle url answer []) else known
  | closed h _ => if h = handle then none else known
  | shutDown _ => none
  | e => known.map (advance handle e)

/-- What is known about a handle after a history, from the oldest event on. -/
def retrace (history : List DeviceEvent) (handle : UInt16) : Option Session :=
  history.foldl (DeviceEvent.apply handle) none

@[simp] theorem retrace_append_singleton (history : List DeviceEvent) (e : DeviceEvent)
    (handle : UInt16) :
    retrace (history ++ [e]) handle = e.apply handle (retrace history handle) := by
  rw [retrace, List.foldl_append]
  rfl

/-! ## One event -/

section One

variable {handle : UInt16} {e : DeviceEvent} {known : Option Session} {s : Session}

theorem exists_of_opens (h : e.Opens handle) :
    ∃ url answer, e = opened url answer (.ok handle) := by
  cases e with
  | opened url answer result =>
    cases result with
    | ok h' =>
      cases h
      exact ⟨url, answer, rfl⟩
    | error _ => cases h
  | _ => cases h

theorem apply_of_drops (h : e.Drops handle) : e.apply handle known = none := by
  cases e with
  | closed h' result => exact if_pos h
  | shutDown result => rfl
  | _ => cases h

/-- An event that has nothing to do with the session leaves it as it is. -/
theorem map_advance_of_idle (htaken : e.taken handle = 0) (hread : e.readEnd? handle = none)
    (hbody : e.endsBody handle = false) : known.map (advance handle e) = known := by
  have hid : advance handle e = id := by
    funext s
    simp [advance, htaken, hread, hbody]
  rw [hid, Option.map_id]
  rfl

/-- An event that neither gives nor takes the session may still change it. -/
theorem apply_of_keeps (hopens : ¬ e.Opens handle) (hdrops : ¬ e.Drops handle) :
    e.apply handle known = known.map (advance handle e) := by
  cases e with
  | opened url answer result =>
    cases result with
    | ok h' =>
      have hne : h' ≠ handle := hopens
      rw [DeviceEvent.apply, if_neg hne, map_advance_of_idle rfl rfl rfl]
    | error _ => rfl
  | closed h' result =>
    have hne : h' ≠ handle := hdrops
    rw [DeviceEvent.apply, if_neg hne, map_advance_of_idle rfl rfl rfl]
  | shutDown result => exact absurd trivial hdrops
  | _ => rfl

/-- A session known after an event has been opened by it, or was known before and is kept. -/
theorem apply_eq_some_iff :
    e.apply handle known = some s ↔
      (∃ url answer, e = opened url answer (.ok handle) ∧ s = sessionSince handle url answer []) ∨
        (¬ e.Opens handle ∧ ¬ e.Drops handle ∧
          ∃ s', known = some s' ∧ s = advance handle e s') := by
  by_cases hopens : e.Opens handle
  · obtain ⟨url, answer, rfl⟩ := exists_of_opens hopens
    rw [DeviceEvent.apply, if_pos rfl]
    constructor
    · intro h
      cases h
      exact Or.inl ⟨url, answer, rfl, rfl⟩
    · rintro (⟨url', answer', he, rfl⟩ | ⟨hnot, -⟩)
      · cases he
        rfl
      · exact absurd hopens hnot
  have hnew : ¬ ∃ url answer, e = opened url answer (.ok handle) ∧
      s = sessionSince handle url answer [] := by
    rintro ⟨url, answer, rfl, -⟩
    exact hopens rfl
  rw [or_iff_right hnew]
  by_cases hdrops : e.Drops handle
  · rw [apply_of_drops hdrops]
    constructor
    · intro h
      cases h
    · rintro ⟨-, hnot, -⟩
      exact absurd hdrops hnot
  · rw [apply_of_keeps hopens hdrops, Option.map_eq_some_iff]
    constructor
    · rintro ⟨s', hs', rfl⟩
      exact ⟨hopens, hdrops, s', hs', rfl⟩
    · rintro ⟨-, -, s', hs', rfl⟩
      exact ⟨s', hs', rfl⟩

/-- One more event goes into each part of the state. -/
theorem sessionSince_append (url : String) (answer : Option (Except ClientError Response))
    (since : List DeviceEvent) :
    sessionSince handle url answer (since ++ [e])
      = advance handle e (sessionSince handle url answer since) := by
  rw [sessionSince, advance, sessionSince, Session.mk.injEq]
  refine ⟨rfl, rfl, ?_, ?_, ?_⟩
  · rw [List.any_append, Bool.not_or, Bool.and_assoc, List.any_cons, List.any_nil, Bool.or_false]
  · rw [List.map_append, List.sum_append, UInt32.ofNat_add]
    rfl
  · rw [List.filterMap_append, List.filterMap_cons, List.filterMap_nil]
    cases e.readEnd? handle with
    | none => simp
    | some n => simp

end One

/-! ## The two are one -/

/-- The newest event either opens the session, or is the latest of those since it was opened. -/
theorem known_append_singleton {history : List DeviceEvent} {e : DeviceEvent} {handle : UInt16}
    {s : Session} :
    Known (history ++ [e]) handle s ↔
      (∃ url answer, e = opened url answer (.ok handle) ∧ s = sessionSince handle url answer []) ∨
        (¬ e.Opens handle ∧ ¬ e.Drops handle ∧
          ∃ s', Known history handle s' ∧ s = advance handle e s') := by
  constructor
  · rintro ⟨before, url, answer, since, hhistory, hkeeps, rfl⟩
    -- the newest event is the opening itself, or else the last of those since
    induction since using List.reverseRecOn with
    | nil =>
      obtain ⟨-, he⟩ := List.append_inj' hhistory rfl
      exact Or.inl ⟨url, answer, List.head_eq_of_cons_eq he, rfl⟩
    | append_singleton since last _ =>
      rw [← List.cons_append, ← List.append_assoc] at hhistory
      obtain ⟨rfl, he⟩ := List.append_inj' hhistory rfl
      cases he
      obtain ⟨hopens, hdrops⟩ := hkeeps e (List.mem_append_right _ List.mem_cons_self)
      refine Or.inr ⟨hopens, hdrops, _, ⟨before, url, answer, since, rfl, ?_, rfl⟩,
        sessionSince_append url answer since⟩
      exact fun e' he' => hkeeps e' (List.mem_append_left _ he')
  · rintro (⟨url, answer, rfl, rfl⟩ | ⟨hopens, hdrops, s', hknown, rfl⟩)
    · exact ⟨history, url, answer, [], rfl, (fun _ h => nomatch h), rfl⟩
    · obtain ⟨before, url, answer, since, rfl, hkeeps, rfl⟩ := hknown
      refine ⟨before, url, answer, since ++ [e], ?_, fun e' he' => ?_,
        (sessionSince_append url answer since).symm⟩
      · rw [List.append_assoc, List.cons_append]
      · rcases List.mem_append.mp he' with he' | he'
        · exact hkeeps e' he'
        · rw [List.mem_singleton.mp he']
          exact ⟨hopens, hdrops⟩

/-- **What is retraced step by step is what the history says.** -/
theorem retrace_eq_some_iff {history : List DeviceEvent} {handle : UInt16} {s : Session} :
    retrace history handle = some s ↔ Known history handle s := by
  induction history using List.reverseRecOn generalizing s with
  | nil =>
    constructor
    · intro h
      cases h
    · rintro ⟨before, url, answer, since, hnil, -⟩
      cases before <;> cases hnil
  | append_singleton history e ih =>
    -- what the newest event does is the same on both sides; what it is done to, by induction
    rw [retrace_append_singleton, apply_eq_some_iff, known_append_singleton]
    simp only [ih]

/-- Two of three bytes written, and four read from the tenth on. -/
example :
    retrace [opened "TCP://host:7" none (.ok 3), wrote 3 [1, 2, 3] (.ok 2),
        hasRead 5 0 (.ok ⟨1, 1, ⟨0⟩⟩), hasRead 3 10 (.ok ⟨4, 4, ⟨0⟩⟩)] 3
      = some { handle := 3, kind := .tcp, writeCursor := 2, readCursor := 14 } := by decide

end CompanionBus
