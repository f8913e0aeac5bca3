import CompanionBus.Link.Schedule
import CompanionBus.Proofs.Exchange.Course
import CompanionBus.Proofs.Slip.Delimited
/-
  An exchange ends by its deadline, and what it ends with.

  1. **Specification** (`ends_by_deadline`) — take a link that keeps to the waits it is given
     (`Punctual`) and brings a limited number of pieces. However an exchange has been set up, it ends
     no later than its timeout allows, after a limited number of looks. Each look starts before the
     deadline and may last as long as the poll interval, but not beyond the deadline. The exchange
     times out exactly if the pieces that came in contain neither a complete frame nor one that is
     too long.

  2. **The proof** — all bounds are inductions on the course of the wait (`Course`), one case for
     each kind of turn.

  3. **The crux (`Course.length_le`)** — a turn takes time or uses up a piece. A silent look takes at
     least a millisecond, since it never lasts zero; a look that brings a piece may take no time at
     all, but there are not many of those.
-/
namespace CompanionBus

variable {σ : Type}

/-! ## Links that keep to their waits -/

/-- `l.Punctual left` — no look at the link lasts longer than it may, one that brings nothing lasts
    exactly so long, and in each state at most `left` pieces are still to come. -/
structure Link.Punctual (l : Link σ) (left : σ → Nat) : Prop where
  le_wait : ∀ wait s, l.now (l.receive wait s).2 ≤ l.now s + wait
  silence : ∀ {wait s s'}, l.receive wait s = (.error .readTimeout, s') →
    l.now s + wait ≤ l.now s' ∧ left s' ≤ left s
  piece : ∀ {wait s chunk s'}, l.receive wait s = (.ok chunk, s') → left s' < left s

/-- Pieces that arrive at set times are a punctual link. -/
theorem Schedule.punctual : Schedule.link.Punctual (fun s => s.arrivals.length) where
  le_wait wait s := by
    show (Schedule.take wait s).2.clock ≤ s.clock + wait
    rcases Schedule.take_cases wait s with htake | ⟨time, bs, rest, -, htime, htake⟩
    · exact Nat.le_of_eq (congrArg (fun taken => taken.2.clock) htake)
    · rw [htake]
      exact Nat.max_le.mpr ⟨Nat.le_add_right _ _, htime⟩
  silence {wait s s'} h := by
    rcases Schedule.take_cases wait s with htake | ⟨time, bs, rest, -, -, htake⟩
    · cases htake.symm.trans h
      exact ⟨Nat.le_refl _, Nat.le_refl _⟩
    · cases htake.symm.trans h
  piece {wait s chunk s'} h := by
    rcases Schedule.take_cases wait s with htake | ⟨time, bs, rest, harrivals, -, htake⟩
    · cases htake.symm.trans h
    · cases htake.symm.trans h
      rw [harrivals]
      exact Nat.lt_succ_self _

/-! ## Looks, one after the other -/

/-- `l.EachLook P s waits` — when the link is looked at from the state `s` on, each time for so long
    as `waits` says, then `P` holds of the state and the wait of each look. -/
def Link.EachLook (l : Link σ) (P : σ → Nat → Prop) : σ → List Nat → Prop
  | _, [] => True
  | s, wait :: waits => P s wait ∧ l.EachLook P (l.receive wait s).2 waits

theorem Link.eachLook_of_forall {l : Link σ} {P : σ → Nat → Prop} (h : ∀ s wait, P s wait) :
    ∀ {s : σ} {waits : List Nat}, l.EachLook P s waits
  | _, [] => trivial
  | s, wait :: _ => ⟨h s wait, eachLook_of_forall h⟩

/-- The pieces that such looks bring in. -/
def Link.heard (l : Link σ) : σ → List Nat → List (List UInt8)
  | _, [] => []
  | s, wait :: waits =>
    match l.receive wait s with
    | (.ok chunk, s') => chunk :: l.heard s' waits
    | (.error _, s') => l.heard s' waits

namespace Exchange

variable {x : Exchange} {l : Link σ} {deadline : Nat} {a : Accumulator} {s s' : σ}

/-! ## Settings -/

/-- A change of the settings of an exchange. -/
inductive Setting where
  | timeout (millis : Nat)
  | pollInterval (millis : Nat)

namespace Setting

/-- The timeout that is set, if one is. -/
def timeout? : Setting → Option Nat
  | .timeout millis => some millis
  | .pollInterval _ => none

/-- The poll interval that is set, if one is. -/
def pollInterval? : Setting → Option Nat
  | .timeout _ => none
  | .pollInterval millis => some millis

end Setting

/-- An exchange with one setting changed. -/
def change (x : Exchange) : Setting → Exchange
  | .timeout millis => x.withTimeout millis
  | .pollInterval millis => x.withPollInterval millis

/-- Raising what is set first makes no difference to what the last change raises again. -/
theorem max_getLastD (millis : List Nat) (first : Nat) :
    max (millis.getLastD (max first 1)) 1 = max (millis.getLastD first) 1 := by
  cases millis with
  | nil =>
    show max (max first 1) 1 = max first 1
    omega
  | cons => rfl

/-- **Of each setting the last change counts**, and a poll interval of zero is raised to one. -/
theorem foldl_change (settings : List Setting) (x : Exchange) :
    (settings.foldl change x).timeout = (settings.filterMap Setting.timeout?).getLastD x.timeout ∧
      (settings.foldl change x).pollInterval
        = max ((settings.filterMap Setting.pollInterval?).getLastD x.pollInterval) 1 := by
  induction settings generalizing x with
  | nil => exact ⟨rfl, (Nat.max_eq_left x.poll_pos).symm⟩
  | cons setting settings ih =>
    obtain ⟨htimeout, hpoll⟩ := ih (x.change setting)
    rw [List.foldl_cons, htimeout, hpoll]
    cases setting with
    | timeout millis =>
      show List.getLastD _ millis = List.getLastD (millis :: _) _ ∧
        max (List.getLastD _ (max x.pollInterval 1)) 1 = _
      rw [List.getLastD_cons, max_getLastD]
      exact ⟨rfl, rfl⟩
    | pollInterval millis =>
      show _ ∧ max (List.getLastD _ (max millis 1)) 1 = max (List.getLastD (millis :: _) _) 1
      rw [List.getLastD_cons, max_getLastD]
      exact ⟨rfl, rfl⟩

/-! ## Bounds -/

variable {waits : List Nat} {result : Except ClientError (List UInt8)} {left : σ → Nat}

/-- Before the deadline, a look lasts at least a millisecond, and neither longer than the poll
    interval nor beyond the deadline. -/
theorem wait_bounds {remaining : Nat} (h : 0 < remaining) :
    0 < x.wait remaining ∧ x.wait remaining ≤ min x.pollInterval remaining := by
  have := x.poll_pos
  simp only [wait]
  omega

/-- **Each look is in time.** -/
theorem Course.timed (h : Course x l deadline a s waits result s') :
    l.EachLook (fun s wait => l.now s < deadline ∧ 0 < wait ∧
      wait ≤ min x.pollInterval (deadline - l.now s)) s waits := by
  induction h with
  | expired _ => trivial
  | failure h hr _ => exact ⟨⟨h, wait_bounds (Nat.sub_pos_of_lt h)⟩, trivial⟩
  | decided h hr _ _ => exact ⟨⟨h, wait_bounds (Nat.sub_pos_of_lt h)⟩, trivial⟩
  | silence h hr _ ih =>
    refine ⟨⟨h, wait_bounds (Nat.sub_pos_of_lt h)⟩, ?_⟩
    rw [hr]
    exact ih
  | kept h hr _ _ ih =>
    refine ⟨⟨h, wait_bounds (Nat.sub_pos_of_lt h)⟩, ?_⟩
    rw [hr]
    exact ih

/-- **A wait does not last beyond the deadline.** -/
theorem Course.now_le (hl : l.Punctual left) (h : Course x l deadline a s waits result s')
    (hs : l.now s ≤ deadline) : l.now s' ≤ deadline := by
  -- no look that starts before the deadline lasts beyond it
  have hlook : ∀ s, l.now s < deadline →
      l.now (l.receive (x.wait (deadline - l.now s)) s).2 ≤ deadline := by
    intro s hnow
    have hlasts := hl.le_wait (x.wait (deadline - l.now s)) s
    have hwait := (wait_bounds (x := x) (Nat.sub_pos_of_lt hnow)).2
    omega
  induction h with
  | expired _ => exact hs
  | @failure a s s' e h hr _ =>
    have hend := hlook s h
    rwa [hr] at hend
  | @decided a s s' chunk result h hr _ _ =>
    have hend := hlook s h
    rwa [hr] at hend
  | @silence a s s₁ s' waits result h hr _ ih =>
    have hend := hlook s h
    rw [hr] at hend
    exact ih hend
  | @kept a a' s s₁ s' chunk waits result h hr _ _ ih =>
    have hend := hlook s h
    rw [hr] at hend
    exact ih hend

/-- **Nobody gives up early**: a wait that times out has lasted up to the deadline. -/
theorem Course.le_now_of_timeout (h : Course x l deadline a s waits result s')
    (htimeout : result = .error (.timeout x.timeout)) : deadline ≤ l.now s' := by
  induction h with
  | expired h => exact h
  | failure _ _ _ => cases htimeout
  | decided _ _ _ hresult => exact absurd htimeout hresult
  | silence _ _ _ ih => exact ih htimeout
  | kept _ _ _ _ ih => exact ih htimeout

/-- **A wait ends after a limited number of looks**: each takes time or uses up a piece, except that
    the last may find a broken link. -/
theorem Course.length_le (hl : l.Punctual left) (h : Course x l deadline a s waits result s') :
    waits.length ≤ (deadline - l.now s) + left s + 1 := by
  induction h with
  | expired _ => exact Nat.zero_le _
  | failure _ _ _ => exact Nat.le_add_left _ _
  | decided _ _ _ _ => exact Nat.le_add_left _ _
  | @silence a s s₁ s' waits result h hr _ ih =>
    obtain ⟨htime, hleft⟩ := hl.silence hr
    have hpos := (wait_bounds (x := x) (Nat.sub_pos_of_lt h)).1
    rw [List.length_cons]
    omega
  | @kept a a' s s₁ s' chunk waits result h hr _ _ ih =>
    -- a look that brings a piece may take no time, but does not turn the clock back
    have hpos := (wait_bounds (x := x) (Nat.sub_pos_of_lt h)).1
    have htime := l.progress (x.wait (deadline - l.now s)) s hpos (by rw [hr]; rfl)
    have hleft := hl.piece hr
    rw [hr] at htime
    dsimp only at htime
    rw [List.length_cons]
    omega

/-! ## What a wait ends with -/

/-- A link that does not break down. -/
def Sound (l : Link σ) (s : σ) (wait : Nat) : Prop :=
  ∀ e, (l.receive wait s).1 = .error e → e = .readTimeout

/-- A link with pieces that arrive at set times never does. -/
theorem sound_schedule (s : Schedule) (wait : Nat) :
    Sound Schedule.link s wait := by
  intro e he
  rcases Schedule.take_cases wait s with htake | ⟨time, bs, rest, -, -, htake⟩
  · cases (congrArg Prod.fst htake).symm.trans he
    rfl
  · cases (congrArg Prod.fst htake).symm.trans he

/-- **A wait times out exactly if the pieces decide nothing.** -/
theorem Course.timeout_iff (h : Course x l deadline a s waits result s')
    (hsound : l.EachLook (Sound l) s waits) :
    result = .error (.timeout x.timeout) ↔ (a.push (l.heard s waits).flatten).1 = .ok none := by
  induction h with
  | expired _ => exact iff_of_true rfl rfl
  | failure _ hr he => exact absurd (hsound.1 _ (congrArg Prod.fst hr)) he
  | @decided a s s' chunk result h hr hpush hresult =>
    have hheard : (l.heard s [x.wait (deadline - l.now s)]).flatten = chunk := by
      rw [Link.heard, hr]
      exact List.append_nil chunk
    rw [hheard]
    exact iff_of_false hresult hpush
  | @silence a s s₁ s' waits result h hr _ ih =>
    rw [Link.EachLook, hr] at hsound
    rw [Link.heard, hr]
    exact ih hsound.2
  | @kept a a' s s₁ s' chunk waits result h hr hpush _ ih =>
    rw [Link.EachLook, hr] at hsound
    rw [Link.heard, hr, ih hsound.2]
    dsimp only
    rw [List.flatten_cons, Accumulator.push_append, hpush]
    rfl

/-! ## The exchange of two frames -/

/-- **An exchange ends by its deadline.** Of each of its settings the last one counts. Let the link
    keep to the waits it is given, and let what is left over be thrown away and the question sent.
    Then the exchange makes a limited number of looks and ends within its timeout; it times out at the
    deadline and not before. Each look starts before the deadline, and lasts neither longer than the
    poll interval nor beyond the deadline. Unless the link breaks down, the exchange times out exactly
    if the pieces that came in contain neither a complete frame nor one that is too long; noise, `END`s
    and a part of a frame do not. -/
theorem ends_by_deadline (x : Exchange) {l : Link σ} {left : σ → Nat} (hl : l.Punctual left)
    {question : List UInt8} {s s₁ s₂ : σ} (hdiscard : l.discard s = (.ok (), s₁))
    (hsend : l.send (Slip.encode question) s₁ = (.ok (), s₂)) :
    (∀ (timeout pollInterval : Nat) (settings : List Setting),
      x = settings.foldl change (make timeout pollInterval) →
      x.timeout = (settings.filterMap Setting.timeout?).getLastD timeout ∧
      x.pollInterval
        = max ((settings.filterMap Setting.pollInterval?).getLastD pollInterval) 1) ∧
    ∃ waits result s₃,
      x.transact l.recorded question ⟨s, []⟩
        = (result, ⟨s₃, .discard :: .send (Slip.encode question) :: waits.map .receive⟩) ∧
      l.now s₃ ≤ l.now s₂ + x.timeout ∧
      (result = .error (.timeout x.timeout) → l.now s₃ = l.now s₂ + x.timeout) ∧
      waits.length ≤ x.timeout + left s₂ + 1 ∧
      l.EachLook (fun s wait => l.now s < l.now s₂ + x.timeout ∧ 0 < wait ∧
        wait ≤ min x.pollInterval (l.now s₂ + x.timeout - l.now s)) s₂ waits ∧
      (l.EachLook (Sound l) s₂ waits →
        (result = .error (.timeout x.timeout) ↔
          ¬ Slip.HasFrame (l.heard s₂ waits).flatten ∧
          ¬ Slip.Overflows (2 * maxFrame) (l.heard s₂ waits).flatten) ∧
        ∀ noise k part,
          (l.heard s₂ waits).flatten = noise ++ (List.replicate k Slip.END ++ part) →
          Slip.END ∉ noise → Slip.END ∉ part → part.length ≤ 2 * maxFrame →
          result = .error (.timeout x.timeout)) := by
  refine ⟨?_, ?_⟩
  · rintro timeout pollInterval settings rfl
    obtain ⟨htimeout, hpoll⟩ := foldl_change settings (make timeout pollInterval)
    rw [htimeout, hpoll]
    exact ⟨rfl, max_getLastD _ _⟩
  obtain ⟨waits, result, s₃, htransact, hcourse⟩ := exists_transact_course x hdiscard hsend []
  have hend := hcourse.now_le hl (Nat.le_add_right _ _)
  refine ⟨waits, result, s₃, htransact, hend,
    fun htimeout => Nat.le_antisymm hend (hcourse.le_now_of_timeout htimeout), ?_,
    hcourse.timed, fun hsound => ?_⟩
  · have hlength := hcourse.length_le hl
    have hremaining : l.now s₂ + x.timeout - l.now s₂ = x.timeout := Nat.add_sub_cancel_left ..
    rwa [hremaining] at hlength
  · have hiff := hcourse.timeout_iff hsound
    have hlimit := Accumulator.limit_ofMaxFrame Accumulator.fits_maxFrame
    refine ⟨hiff.trans (Accumulator.push_eq_none_iff _ (Accumulator.begun_ofMaxFrame maxFrame)
      (Nat.le_of_eq hlimit.symm)), ?_⟩
    intro noise k part hheard hnoise hpart hlen
    rw [hiff, hheard]
    exact Accumulator.push_partial Accumulator.fits_maxFrame hnoise hpart hlen k

/-- A frame of which only the beginning arrives in time. The exchange looks up to its deadline, and
    then times out. -/
theorem late_frame_not_awaited :
    ∃ s₃ : Schedule,
      (make 10 4).transact Schedule.link.recorded [0x42]
          ⟨⟨7, [(3, [0x55]), (12, [Slip.END, 1]), (18, [2, Slip.END])]⟩, []⟩
        = (.error (.timeout 10),
            ⟨s₃, .discard :: .send (Slip.encode [0x42]) :: [4, 4, 4, 1].map .receive⟩) ∧
      s₃.clock = 17 := by
  have hdiscard : Schedule.link.discard ⟨7, [(3, [0x55]), (12, [Slip.END, 1]), (18, [2, Slip.END])]⟩
      = (.ok (), ⟨7, [(12, [Slip.END, 1]), (18, [2, Slip.END])]⟩) := rfl
  have hsend : Schedule.link.send (Slip.encode [0x42])
        ⟨7, [(12, [Slip.END, 1]), (18, [2, Slip.END])]⟩
      = (.ok (), ⟨7, [(12, [Slip.END, 1]), (18, [2, Slip.END])]⟩) := rfl
  obtain ⟨-, waits, result, s₃, htransact, -, hdeadline, -, -, htimeout⟩ :=
    ends_by_deadline (make 10 4) Schedule.punctual hdiscard hsend
  -- the looks: one in vain, one that brings the beginning, two more in vain
  obtain rfl : waits = [4, 4, 4, 1] := by
    have hawait := transact_of_sent (x := make 10 4) (discard_recorded hdiscard [])
      (send_recorded hsend _)
    rw [await_of_receives (.silence (by decide) rfl <| .chunk (by decide) rfl <| .done _) rfl,
      await_silence (by decide) rfl, await_silence (by decide) rfl, await_expired (by decide),
      htransact] at hawait
    have hcalls := congrArg (fun outcome => outcome.2.calls.drop 2) hawait
    exact (List.map_inj_right fun _ _ => LinkCall.receive.inj).mp hcalls
  obtain ⟨-, hpartial⟩ := htimeout (Link.eachLook_of_forall sound_schedule)
  have hresult := hpartial [] 1 [1] rfl (by decide) (by decide) (by decide)
  exact ⟨s₃, hresult ▸ htransact, hdeadline hresult⟩

end Exchange

end CompanionBus
