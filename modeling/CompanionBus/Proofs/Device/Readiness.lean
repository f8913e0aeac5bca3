import CompanionBus.Proofs.Device.Checks
/-
  A device can be talked to from an `init` that succeeds to the next `shutdown`, and not otherwise.

  1. **Histories** — a call is made to the device, or its link changes by itself: it may drop, or come
     back, at any time (`Happening`).

  2. **Specification (`ready_from_init_to_shutdown`)** — an operation touches the link only if the link
     is open when it begins, and some `init` has succeeded with no `shutdown` after it. From a
     `shutdown` on, failed or not, the device knows no session and cannot be talked to, until an
     `init` succeeds. A device that cannot be talked to fails every operation and leaves the link
     alone.

  3. **The crux (`initialized_iff`)** — the flag says what the history does: an `init` that succeeds
     sets it, a `shutdown` clears it, and nothing else changes it, an `init` that fails no more than
     an operation or a link that drops. The induction is on the history from its end, since it is the
     newest call of the two kinds that counts.
-/
namespace CompanionBus

variable {σ : Type} {l : Link σ}

/-! ## What happens to a device -/

/-- Something that happens to a device. -/
inductive Happening (σ : Type) where
  /-- A call is made. -/
  | call (c : DeviceCall)
  /-- The link is in another state from now on. -/
  | change (state : σ)

namespace Device

/-- The device after something has happened to it. -/
def undergo (d : Device l.recorded) : Happening σ → Device l.recorded
  | .call c => (d.make c).2
  | .change state => { d with line := { d.line with state } }

/-- The device after one thing has happened to it after the other. -/
def after (d : Device l.recorded) (history : List (Happening σ)) : Device l.recorded :=
  history.foldl undergo d

/-- `d.Initiated history` — in what has happened to the device, some `init` has succeeded, and there
    has been no `shutdown` since. -/
def Initiated (d : Device l.recorded) (history : List (Happening σ)) : Prop :=
  ∃ before since, history = before ++ .call .init :: since ∧ (d.after before).init.1 = .ok () ∧
    .call .shutdown ∉ since

variable {d : Device l.recorded} {history : List (Happening σ)}

theorem after_append (first second : List (Happening σ)) :
    d.after (first ++ second) = (d.after first).after second :=
  List.foldl_append

theorem after_append_singleton (history : List (Happening σ)) (h : Happening σ) :
    d.after (history ++ [h]) = (d.after history).undergo h :=
  after_append history [h]

/-! ## The flag -/

theorem call_initialized (d : Device l) (request : Request) :
    (d.call request).2.initialized = d.initialized := by
  rw [call]
  split <;> rfl

theorem perform_initialized {α : Type} (d : Device l) (op : Operation α) :
    (d.perform op).2.initialized = d.initialized := by
  cases hop : op d.sessions with
  | error e => rw [perform_of_error hop]
  | ok p =>
    rw [perform_of_ok hop]
    exact d.call_initialized p.request

/-- No operation changes the flag. -/
theorem make_initialized (d : Device l) {c : DeviceCall} (hinit : c ≠ .init)
    (hshutdown : c ≠ .shutdown) : (d.make c).2.initialized = d.initialized := by
  cases c with
  | init => exact absurd rfl hinit
  | shutdown => exact absurd rfl hshutdown
  | read handle offset buffer =>
    show (d.read handle offset buffer).2.2.initialized = _
    rw [(read_eq d handle offset buffer).2]
    exact perform_initialized d _
  | _ => exact perform_initialized d _

/-- Making ready sets the flag if it succeeds, and leaves it alone if it fails. -/
theorem init_initialized (d : Device l) :
    (d.init.1 = .ok () ∧ d.init.2.initialized = true) ∨
      (d.init.1 ≠ .ok () ∧ d.init.2.initialized = d.initialized) := by
  have hconnect : d.connect.2.initialized = d.initialized := by
    rw [connect]
    split <;> rfl
  rw [init]
  rcases hc : d.connect with ⟨e | _, d'⟩
  all_goals rw [hc] at hconnect
  · refine Or.inr ⟨?_, hconnect⟩
    intro h
    cases h
  · dsimp only
    rcases l.discard d'.line with ⟨e | _, line⟩
    · refine Or.inr ⟨?_, hconnect⟩
      intro h
      cases h
    · exact Or.inl ⟨rfl, rfl⟩

/-- The last thing that has happened is an `init` that succeeds; or it is no `shutdown`, and what was
    so before it still is. -/
theorem initiated_append_singleton {h : Happening σ} :
    d.Initiated (history ++ [h]) ↔
      (h = .call .init ∧ (d.after history).init.1 = .ok ()) ∨
        (h ≠ .call .shutdown ∧ d.Initiated history) := by
  constructor
  · rintro ⟨before, since, hhistory, hok, hsince⟩
    -- the `init` is the last thing itself, or one before it
    induction since using List.reverseRecOn with
    | nil =>
      obtain ⟨rfl, hlast⟩ := List.append_inj' hhistory rfl
      exact Or.inl ⟨List.head_eq_of_cons_eq hlast, hok⟩
    | append_singleton since last _ =>
      rw [← List.cons_append, ← List.append_assoc] at hhistory
      obtain ⟨rfl, hlast⟩ := List.append_inj' hhistory rfl
      cases hlast
      rw [List.mem_append, not_or] at hsince
      exact Or.inr ⟨fun he => hsince.2 (List.mem_singleton.mpr he.symm),
        before, since, rfl, hok, hsince.1⟩
  · rintro (⟨rfl, hok⟩ | ⟨hne, before, since, rfl, hok, hsince⟩)
    · exact ⟨history, [], rfl, hok, List.not_mem_nil⟩
    · refine ⟨before, since ++ [h], ?_, hok, ?_⟩
      · rw [List.append_assoc, List.cons_append]
      · rw [List.mem_append, not_or]
        exact ⟨hsince, fun he => hne (List.mem_singleton.mp he).symm⟩

/-- What one thing does to the flag. -/
theorem undergo_initialized (d : Device l.recorded) (h : Happening σ) :
    (d.undergo h).initialized = true ↔
      (h = .call .init ∧ d.init.1 = .ok ()) ∨ (h ≠ .call .shutdown ∧ d.initialized = true) := by
  cases h with
  | change state =>
    refine ⟨fun hd => Or.inr ⟨nofun, hd⟩, ?_⟩
    rintro (⟨hc, -⟩ | ⟨-, hd⟩)
    · cases hc
    · exact hd
  | call c =>
    show (d.make c).2.initialized = true ↔ _
    by_cases hinit : c = .init
    · subst hinit
      rcases d.init_initialized with ⟨hok, hset⟩ | ⟨hfails, hkept⟩
      · exact iff_of_true hset (Or.inl ⟨rfl, hok⟩)
      · rw [show (d.make .init).2.initialized = d.initialized from hkept]
        refine ⟨fun hd => Or.inr ⟨nofun, hd⟩, ?_⟩
        rintro (⟨-, hok⟩ | ⟨-, hd⟩)
        · exact absurd hok hfails
        · exact hd
    · by_cases hshutdown : c = .shutdown
      · subst hshutdown
        refine iff_of_false nofun ?_
        rintro (⟨hc, -⟩ | ⟨hne, -⟩)
        · cases hc
        · exact hne rfl
      · rw [make_initialized d hinit hshutdown]
        refine ⟨fun hd => Or.inr ⟨fun hc => hshutdown (Happening.call.inj hc), hd⟩, ?_⟩
        rintro (⟨hc, -⟩ | ⟨-, hd⟩)
        · exact absurd (Happening.call.inj hc) hinit
        · exact hd

/-- **The flag says what the history does**: it is set exactly if some `init` has succeeded, with no
    `shutdown` since. -/
theorem initialized_iff (hd : d.initialized = false) :
    (d.after history).initialized = true ↔ d.Initiated history := by
  induction history using List.reverseRecOn with
  | nil =>
    refine iff_of_false (fun h => ?_) ?_
    · exact absurd (hd.symm.trans h) Bool.false_ne_true
    · rintro ⟨before, since, hnil, -⟩
      cases before <;> cases hnil
  | append_singleton history h ih =>
    rw [after_append_singleton, undergo_initialized, ih, initiated_append_singleton]

/-! ## A device that cannot be talked to -/

/-- **A device that cannot be talked to fails every operation**, and leaves the link alone. -/
theorem make_of_unready {c : DeviceCall} (hw : d.sessions.WellKept []) (hready : d.isReady = false)
    (hinit : c ≠ .init) (hshutdown : c ≠ .shutdown) :
    (d.make c).2.line.calls = d.line.calls ∧ ∃ e, d.outcome c = .error e := by
  cases make_disposed hw hinit hshutdown with
  | refused h hresult hcalls => exact ⟨hcalls, _, hresult⟩
  | exchanged hnone hrequest hf hcalls hmade => exact absurd (.notReady hready) (hnone _)

/-- An operation that touches the link has found it open. -/
theorem exists_calls (hw : d.sessions.WellKept []) {c : DeviceCall} (hinit : c ≠ .init)
    (hshutdown : c ≠ .shutdown) :
    ∃ made, (d.make c).2.line.calls = d.line.calls ++ made ∧ (made ≠ [] → d.isReady = true) := by
  cases hready : d.isReady with
  | true =>
    obtain ⟨made, hmade, -⟩ := (make_tells hw c).sent
    exact ⟨made, hmade, fun _ => rfl⟩
  | false =>
    have hcalls := (make_of_unready hw hready hinit hshutdown).1
    exact ⟨[], by rw [hcalls, List.append_nil], fun hne => absurd rfl hne⟩

/-- `d.Closed` — no session is known, and the device has not been made ready. -/
structure Closed (d : Device l) : Prop where
  forgotten : ∀ handle, d.session? handle = none
  initialized : d.initialized = false

theorem Closed.isReady (h : d.Closed) : d.isReady = false := by
  rw [Device.isReady, h.initialized, Bool.false_and]

/-- A `shutdown` closes the device, whatever comes of it. -/
theorem closed_shutdown (d : Device l) : d.shutdown.2.Closed :=
  ⟨fun _ => SessionTable.get?_clear, rfl⟩

/-- An `init` that fails leaves a closed device closed. -/
theorem Closed.init (h : d.Closed) (hfails : d.init.1 ≠ .ok ()) : d.init.2.Closed := by
  rcases d.init_initialized with ⟨hok, -⟩ | ⟨-, hkept⟩
  · exact absurd hok hfails
  · refine ⟨fun handle => ?_, hkept.trans h.initialized⟩
    rw [session?, init_sessions]
    exact h.forgotten handle

/-- So does every operation: it fails, and closing a session finds none. -/
theorem Closed.make (h : d.Closed) (hw : d.sessions.WellKept []) {c : DeviceCall}
    (hinit : c ≠ .init) (hshutdown : c ≠ .shutdown) : (d.make c).2.Closed := by
  refine ⟨fun handle => ?_, (make_initialized d hinit hshutdown).trans h.initialized⟩
  have hsessions : (d.make c).2.sessions = d.sessions := by
    by_cases hclose : ∃ handle, c = .close handle
    · obtain ⟨handle, rfl⟩ := hclose
      have hop : Operation.close handle d.sessions = .error (.protocol (.handleNotFound handle)) := by
        rw [Operation.close, Operation.onSession, SessionTable.get,
          show d.sessions.get? handle = none from h.forgotten handle]
      show (d.perform (Operation.close handle)).2.sessions = _
      rw [perform_of_error hop]
    · obtain ⟨-, e, he⟩ := make_of_unready hw h.isReady hinit hshutdown
      have hfailed : d.outcome c ≠ .ok true := by
        rw [he]
        intro h
        cases h
      exact make_atomic hw (fun handle hc => hclose ⟨handle, hc⟩) hshutdown hfailed
  rw [session?, hsessions]
  exact h.forgotten handle

/-- Nothing but an `init` that succeeds opens a closed device. -/
theorem Closed.undergo (hd : d.Closed) (hw : d.sessions.WellKept []) {h : Happening σ}
    (hfails : h = .call .init → d.init.1 ≠ .ok ()) : (d.undergo h).Closed := by
  cases h with
  | change state => exact ⟨hd.forgotten, hd.initialized⟩
  | call c =>
    by_cases hinit : c = .init
    · subst hinit
      exact hd.init (hfails rfl)
    · by_cases hshutdown : c = .shutdown
      · subst hshutdown
        exact closed_shutdown d
      · exact hd.make hw hinit hshutdown

/-! ## Every history -/

theorem undergo_kept (hw : d.sessions.WellKept []) (h : Happening σ) :
    (d.undergo h).sessions.WellKept [] := by
  cases h with
  | call c => exact make_kept hw c
  | change state => exact hw

theorem after_kept (hw : d.sessions.WellKept []) (history : List (Happening σ)) :
    (d.after history).sessions.WellKept [] := by
  induction history using List.reverseRecOn with
  | nil => exact hw
  | append_singleton history h ih =>
    rw [after_append_singleton]
    exact undergo_kept ih h

/-- **A closed device stays closed** until an `init` succeeds. -/
theorem Closed.after (hd : d.Closed) (hw : d.sessions.WellKept []) (history : List (Happening σ))
    (hfails : ∀ before since, history = before ++ .call .init :: since →
      (d.after before).init.1 ≠ .ok ()) : (d.after history).Closed := by
  induction history using List.reverseRecOn with
  | nil => exact hd
  | append_singleton history h ih =>
    rw [after_append_singleton]
    refine (ih fun before since hhistory => ?_).undergo (after_kept hw history) fun hinit => ?_
    · exact hfails before (since ++ [h]) (by rw [hhistory, List.append_assoc, List.cons_append])
    · exact hfails history [] (by rw [hinit])

/-- **A device can be talked to from an `init` that succeeds to the next `shutdown`, and not
    otherwise.** Take a new device, on any link, and whatever happens to it: calls, and changes of its
    link. It can be talked to exactly if its link is open, some `init` has succeeded, and there has
    been no `shutdown` since; an operation that is made next touches the link only if this is so when
    it begins. From a `shutdown` on, whatever came of it, no session is known and the device cannot be
    talked to, until an `init` succeeds. While it cannot be talked to, every operation fails and
    leaves the link alone. -/
theorem ready_from_init_to_shutdown (l : Link σ) (line : σ) (exchange : Exchange) (capacity : Nat)
    (history : List (Happening σ)) :
    ∃ start d, start = fresh l.recorded ⟨line, []⟩ exchange capacity ∧ d = start.after history ∧
      (d.isReady = true ↔ l.isConnected d.line.state = true ∧ start.Initiated history) ∧
      (∀ c, c ≠ .init → c ≠ .shutdown → ∃ made,
        (d.make c).2.line.calls = d.line.calls ++ made ∧
        (made ≠ [] → l.isConnected d.line.state = true ∧ start.Initiated history)) ∧
      (∀ before since, history = before ++ .call .shutdown :: since →
        (∀ first rest, since = first ++ .call .init :: rest →
          (start.after (before ++ .call .shutdown :: first)).init.1 ≠ .ok ()) →
        (∀ handle, d.session? handle = none) ∧ d.isReady = false) ∧
      (d.isReady = false → ∀ c, c ≠ .init → c ≠ .shutdown →
        (d.make c).2.line.calls = d.line.calls ∧ ∃ e, d.outcome c = .error e) := by
  have hempty : (fresh l.recorded ⟨line, []⟩ exchange capacity).sessions.WellKept [] :=
    SessionTable.wellKept_ofCapacity capacity
  refine ⟨_, _, rfl, rfl, ?_⟩
  generalize hstart : fresh l.recorded ⟨line, []⟩ exchange capacity = start at hempty ⊢
  have hflag : start.initialized = false := hstart ▸ rfl
  have hw := after_kept hempty history
  have hready : (start.after history).isReady = true ↔
      l.isConnected (start.after history).line.state = true ∧ start.Initiated history := by
    rw [← initialized_iff hflag, isReady, Bool.and_eq_true, and_comm]
    rfl
  refine ⟨hready, fun c hinit hshutdown => ?_, fun before since hhistory hfails => ?_,
    fun hunready c hinit hshutdown => make_of_unready hw hunready hinit hshutdown⟩
  · obtain ⟨made, hmade, hfound⟩ := exists_calls hw hinit hshutdown
    exact ⟨made, hmade, fun hne => hready.mp (hfound hne)⟩
  · -- what has happened since the `shutdown` has happened to a closed device
    have hafter : ∀ first, start.after (before ++ .call .shutdown :: first)
        = (start.after before).shutdown.2.after first := fun first => after_append _ _
    rw [hhistory, hafter]
    have hclosed := (closed_shutdown (start.after before)).after
      (after_kept hempty before).clear since fun first rest hsince => ?_
    · exact ⟨hclosed.forgotten, hclosed.isReady⟩
    · rw [← hafter]
      exact hfails first rest hsince

end Device

end CompanionBus
