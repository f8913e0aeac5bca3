import CompanionBus.Link.Channel
import CompanionBus.Proofs.Exchange.Delivery
/-
  Replies, and which of them an exchange takes.

  1. **What a link may do** — `Link.Carries` is what is assumed of a link that carries replies: every
     request that goes out causes one reply, with a tag of its own; a reply is under way until it
     reaches the receive buffer, whenever that is and in whatever order; what is received stands in
     the buffer, and throwing away what is there empties it. Nothing is said about times, or about
     where the bytes are cut. A `Channel` is such a link (`Channel.carries`).

  2. **The first reply** (`first_of_await_eq_ok`) — a wait that returns a frame returns that of the
     first reply which has come into the buffer since it was emptied. The invariant is that the bytes
     received so far, pushed into an accumulator all at once, complete nothing.

  3. **Tags** (`Traffic.Sound`) — no two replies have the same tag, and none has the tag of a request
     still to come. Every operation of the link keeps it so.
-/
namespace CompanionBus

/-! ## What may happen to the replies -/

namespace Traffic

variable {t t' t'' : Traffic} {bytes : List UInt8} {r : Reply}

/-- All replies there have been. -/
def replies (t : Traffic) : List Reply := t.reached ++ t.underway

/-- `t.Delivers t'` — from `t` to `t'` some of the replies under way have reached the buffer, in any
    order, and nothing else has happened. -/
inductive Delivers (t : Traffic) : Traffic → Prop where
  | intro {arriving underway : List Reply} (h : t.underway.Perm (arriving ++ underway)) :
      Delivers t { t with underway, current := t.current ++ arriving }

theorem Delivers.refl (t : Traffic) : t.Delivers t := by
  have hnone := @Delivers.intro t [] t.underway (.refl _)
  rwa [List.append_nil] at hnone

/-- Replies that are due have been delivered. -/
theorem delivers_settle (t : Traffic) (due : Reply → Bool) : t.Delivers (t.settle due) :=
  .intro (List.filter_append_perm due t.underway).symm

/-- `t.Onward t'` — from `t` to `t'` nothing has been sent, and the buffer has not been emptied. -/
structure Onward (t t' : Traffic) : Prop where
  sent : t'.sent = t.sent
  earlier : t'.earlier = t.earlier
  replies : (t'.current ++ t'.underway).Perm (t.current ++ t.underway)

theorem Onward.trans (h : t.Onward t') (h' : t'.Onward t'') : t.Onward t'' :=
  ⟨h'.sent.trans h.sent, h'.earlier.trans h.earlier, h'.replies.trans h.replies⟩

theorem Delivers.onward (h : t.Delivers t') : t.Onward t' := by
  obtain ⟨hperm⟩ := h
  refine ⟨rfl, rfl, ?_⟩
  dsimp only
  rw [List.append_assoc]
  exact hperm.symm.append_left _

theorem onward_hand (t : Traffic) (bytes : List UInt8) : t.Onward (t.hand bytes) :=
  ⟨rfl, rfl, .refl _⟩

/-- The buffer has brought in what has been received. -/
def InStep (t : Traffic) : Prop := t.received <+: t.stream

/-- A delivery leaves what has been received as it is, and at the beginning of the stream. -/
theorem Delivers.inStep (h : t.Delivers t') (hstep : t.InStep) :
    t'.received = t.received ∧ t'.InStep := by
  obtain ⟨-⟩ := h
  refine ⟨rfl, ?_⟩
  rw [InStep, stream]
  dsimp only
  rw [List.flatMap_append]
  exact hstep.trans (List.prefix_append _ _)

theorem inStep_of_nil (h : t.received = []) : t.InStep := by
  rw [InStep, h]
  exact List.nil_prefix

theorem InStep.hand (h : t.InStep) (hbytes : bytes <+: t.unread) : (t.hand bytes).InStep := by
  obtain ⟨rest, hrest⟩ := h
  show t.received ++ bytes <+: t.stream
  rw [unread, ← hrest, List.drop_left] at hbytes
  rw [← hrest]
  exact (List.prefix_append_right_inj _).mpr hbytes

/-! ## Tags -/

/-- No two replies have the same tag, and no reply has the tag of a request still to come. -/
structure Sound (t : Traffic) : Prop where
  nodup : (t.replies.map Reply.tag).Nodup
  lt_sent : ∀ r ∈ t.replies, r.tag < t.sent

theorem sound_new : Sound {} := ⟨List.nodup_nil, nofun⟩

/-- Tags do not depend on where the replies are. -/
theorem Sound.of_perm (h : t.Sound) (hsent : t'.sent = t.sent) (hperm : t'.replies.Perm t.replies) :
    t'.Sound := by
  refine ⟨(hperm.map Reply.tag).nodup_iff.mpr h.nodup, fun r hr => ?_⟩
  rw [hsent]
  exact h.lt_sent r (hperm.mem_iff.mp hr)

theorem Sound.onward (h : t.Sound) (h' : t.Onward t') : t'.Sound := by
  refine h.of_perm h'.sent ?_
  rw [replies, replies, reached, reached, List.append_assoc, List.append_assoc, h'.earlier]
  exact h'.replies.append_left _

theorem Sound.forget (h : t.Sound) : t.forget.Sound := by
  refine h.of_perm rfl ?_
  rw [replies, replies, Traffic.forget, reached, List.append_nil]

/-- The reply to the next request has a tag of its own. -/
theorem Sound.ask (h : t.Sound) (htag : r.tag = t.sent) : (t.ask r).Sound := by
  have hreplies : (t.ask r).replies = t.replies ++ [r] := (List.append_assoc ..).symm
  refine ⟨?_, fun r' hr' => ?_⟩
  · rw [hreplies, List.map_append, List.nodup_append]
    refine ⟨h.nodup, List.pairwise_singleton _ _, ?_⟩
    intro tag hmem tag' hmem' heq
    obtain ⟨r', hr', rfl⟩ := List.mem_map.mp hmem
    have hlt := h.lt_sent r' hr'
    rw [List.map_singleton, List.mem_singleton] at hmem'
    omega
  · rw [hreplies, List.mem_append, List.mem_singleton] at hr'
    show r'.tag < t.sent + 1
    rcases hr' with hr' | rfl
    · exact Nat.lt_succ_of_lt (h.lt_sent r' hr')
    · rw [htag]
      exact Nat.lt_succ_self _

/-- A reply under way has not reached the buffer before. -/
theorem Sound.not_reached (h : t.Sound) (hr : r ∈ t.underway) : r ∉ t.reached := by
  intro hreached
  have hnodup := h.nodup
  rw [replies, List.map_append, List.nodup_append] at hnodup
  exact hnodup.2.2 _ (List.mem_map_of_mem hreached) _ (List.mem_map_of_mem hr) rfl

/-- What can still come in is the reply to the next request, or else one to an earlier request; in
    neither case has it been in the buffer before. -/
theorem Sound.to_come (h : t.Sound) {own : Reply} (htag : own.tag = t.sent)
    (hr : r ∈ t.underway ++ [own]) :
    (r.tag = t.sent ∨ r ∈ t.underway ∧ r.tag < t.sent) ∧ r ∉ t.reached := by
  rcases List.mem_append.mp hr with hunderway | hown
  · have hlt := h.lt_sent r (List.mem_append_right _ hunderway)
    exact ⟨Or.inr ⟨hunderway, hlt⟩, h.not_reached hunderway⟩
  · rw [List.mem_singleton.mp hown]
    refine ⟨Or.inl htag, fun hreached => ?_⟩
    have hlt := h.lt_sent own (List.mem_append_left _ hreached)
    omega

end Traffic

/-! ## Links that carry replies -/

variable {σ : Type} {l : Link σ} {view : σ → Traffic} {s s' : σ}

/-- `l.Carries view` — the link carries replies, and `view` shows which. An operation may be preceded
    by any delivery. Where it fails, bytes that were to go out may have done so, and the buffer may
    have been emptied. -/
structure Link.Carries (l : Link σ) (view : σ → Traffic) : Prop where
  discard : ∀ s, ∃ t, (view s).Delivers t ∧
    match l.discard s with
    | (.ok (), s') => view s' = t.forget
    | (.error _, s') => view s' = t ∨ view s' = t.forget
  send : ∀ bytes s, ∃ t, (view s).Delivers t ∧
    match l.send bytes s with
    | (.ok (), s') => ∃ r, r.tag = t.sent ∧ view s' = t.ask r
    | (.error _, s') => view s' = t ∨ ∃ r, r.tag = t.sent ∧ view s' = t.ask r
  receive : ∀ wait s, ∃ t, (view s).Delivers t ∧
    match l.receive wait s with
    | (.ok chunk, s') => chunk <+: t.unread ∧ view s' = t.hand chunk
    | (.error _, s') => view s' = t

/-- A channel carries replies. -/
theorem Channel.carries (f : FarEnd) : (link f).Carries traffic where
  discard c := ⟨c.settled f, Traffic.delivers_settle _ _, rfl⟩
  send bytes c := ⟨c.traffic, .refl _, _, rfl, rfl⟩
  receive wait c := by
    rcases receive_cases f wait c with htimeout | ⟨time, -, hbytes⟩
    · rw [show (link f).receive wait c = _ from htimeout]
      exact ⟨c.traffic, .refl _, rfl⟩
    · rw [show (link f).receive wait c = _ from hbytes]
      exact ⟨(c.later time).settled f, Traffic.delivers_settle _ _, List.prefix_rfl, rfl⟩

namespace Link.Carries

/-- Every operation of the link keeps the tags apart. -/
theorem sound_discard (h : l.Carries view) (hs : (view s).Sound) :
    (view (l.discard s).2).Sound := by
  obtain ⟨t, hdelivers, hlaw⟩ := h.discard s
  have ht := hs.onward hdelivers.onward
  rcases hdiscard : l.discard s with ⟨e | _, s'⟩
  all_goals
    rw [hdiscard] at hlaw
    dsimp only at hlaw
  · rcases hlaw with hview | hview
    all_goals rw [hview]
    · exact ht
    · exact ht.forget
  · rw [hlaw]
    exact ht.forget

theorem sound_send (h : l.Carries view) (bytes : List UInt8) (hs : (view s).Sound) :
    (view (l.send bytes s).2).Sound := by
  obtain ⟨t, hdelivers, hlaw⟩ := h.send bytes s
  have ht := hs.onward hdelivers.onward
  rcases hsend : l.send bytes s with ⟨e | _, s'⟩
  all_goals
    rw [hsend] at hlaw
    dsimp only at hlaw
  · rcases hlaw with hview | ⟨r, htag, hview⟩
    all_goals rw [hview]
    · exact ht
    · exact ht.ask htag
  · obtain ⟨r, htag, hview⟩ := hlaw
    rw [hview]
    exact ht.ask htag

theorem sound_receive (h : l.Carries view) (wait : Nat) (hs : (view s).Sound) :
    (view (l.receive wait s).2).Sound := by
  obtain ⟨t, hdelivers, hlaw⟩ := h.receive wait s
  have ht := hs.onward hdelivers.onward
  rcases hr : l.receive wait s with ⟨e | chunk, s'⟩
  all_goals
    rw [hr] at hlaw
    dsimp only at hlaw
  · rw [hlaw]
    exact ht
  · rw [hlaw.2]
    exact ht.onward (t.onward_hand chunk)

end Link.Carries

namespace Exchange

variable {x : Exchange} {deadline : Nat} {a : Accumulator} {frame : List UInt8}

/-! ## The reply that a wait takes -/

/-- The first frame in the buffer is that of the first reply. -/
theorem exists_first_of_push {t : Traffic} {delimited : List UInt8} {a' : Accumulator}
    (hpush : (Accumulator.ofMaxFrame maxFrame).push t.stream = (.ok (some delimited), a')) :
    ∃ r rest, t.current = r :: rest ∧ delimited = r.wire := by
  cases hcurrent : t.current with
  | nil =>
    rw [Traffic.stream, hcurrent] at hpush
    cases hpush
  | cons r rest =>
    refine ⟨r, rest, rfl, ?_⟩
    have hstream : t.stream
        = Slip.END :: (Slip.escape r.frame ++ Slip.END :: rest.flatMap Reply.wire) := by
      rw [Traffic.stream, hcurrent, List.flatMap_cons, Reply.wire, Slip.encode]
      simp only [List.cons_append, List.append_assoc, List.nil_append]
    rw [hstream, Accumulator.push_begin rfl] at hpush
    have hlong : 1 < ([Slip.END] ++ Slip.escape r.frame).length := by
      have := List.length_pos_iff.mpr (Slip.escape_ne_nil r.frame_ne)
      rw [List.length_append, List.length_singleton]
      omega
    exact Accumulator.eq_of_push_inside (Slip.end_not_mem_escape r.frame)
      (List.cons_ne_nil _ _) hlong (congrArg Prod.fst hpush)

/-- What a look at the link does that brings bytes. -/
theorem view_of_receive_ok (hcarries : l.Carries view) {wait : Nat} {chunk : List UInt8}
    (hr : l.receive wait s = (.ok chunk, s')) (hstep : (view s).InStep) :
    (view s).Onward (view s') ∧ (view s').received = (view s).received ++ chunk ∧
      (view s').InStep := by
  obtain ⟨t, hdelivers, hlaw⟩ := hcarries.receive wait s
  obtain ⟨hreceived, ht⟩ := hdelivers.inStep hstep
  rw [hr] at hlaw
  obtain ⟨hbytes, hview⟩ := hlaw
  rw [hview, ← hreceived]
  exact ⟨hdelivers.onward.trans (t.onward_hand chunk), rfl, ht.hand hbytes⟩

/-- What a look at the link does that brings none. -/
theorem view_of_receive_error (hcarries : l.Carries view) {wait : Nat} {e : LinkError}
    (hr : l.receive wait s = (.error e, s')) (hstep : (view s).InStep) :
    (view s).Onward (view s') ∧ (view s').received = (view s).received ∧ (view s').InStep := by
  obtain ⟨t, hdelivers, hlaw⟩ := hcarries.receive wait s
  rw [hr] at hlaw
  rw [show view s' = t from hlaw]
  exact ⟨hdelivers.onward, hdelivers.inStep hstep⟩

/-- **A wait takes the first reply.** If what has been received so far completes nothing, a frame that
    the wait returns is that of the first reply which has come into the buffer. -/
theorem first_of_await_eq_ok (hcarries : l.Carries view) (hstep : (view s).InStep)
    (hpush : (Accumulator.ofMaxFrame maxFrame).push (view s).received = (.ok none, a))
    (hawait : x.await l deadline a s = (.ok frame, s')) :
    (view s).Onward (view s') ∧
      ∃ r rest, (view s').current = r :: rest ∧ r.frame = frame := by
  -- along the turns of the wait
  fun_induction x.await l deadline a s with
  | case1 => cases hawait
  | case2 a s _ _ s₁ hr _ ih =>
    obtain ⟨honward, hreceived, hstep⟩ := view_of_receive_error hcarries hr hstep
    rw [← hreceived] at hpush
    obtain ⟨hrest, htaken⟩ := ih hstep hpush hawait
    exact ⟨honward.trans hrest, htaken⟩
  | case3 => cases hawait
  | case4 => cases hawait
  | case5 a s _ _ chunk s₁ hr _ delimited a' hchunk =>
    obtain ⟨hunwrap, rfl⟩ := Prod.mk.inj hawait
    obtain ⟨honward, hreceived, rest, hrest⟩ := view_of_receive_ok hcarries hr hstep
    -- all that has been received completes the frame, hence so does the stream
    have hall : (Accumulator.ofMaxFrame maxFrame).push ((view s).received ++ chunk)
        = (.ok (some delimited), a') := by
      rw [Accumulator.push_append, hpush]
      exact hchunk
    have hdecided : ((Accumulator.ofMaxFrame maxFrame).push ((view s).received ++ chunk)).1
        ≠ .ok none := by
      rw [hall]
      intro h
      cases h
    have hstream : (Accumulator.ofMaxFrame maxFrame).push (view s₁).stream
        = (.ok (some delimited), a') := by
      rw [← hrest, hreceived, Accumulator.push_decided hdecided, hall]
    obtain ⟨r, others, hcurrent, rfl⟩ := exists_first_of_push hstream
    rw [Reply.wire, unwrap_encode r.frame_ne] at hunwrap
    exact ⟨honward, r, others, hcurrent, Except.ok.inj hunwrap⟩
  | case6 a s _ _ chunk s₁ hr _ a' hchunk ih =>
    obtain ⟨honward, hreceived, hstep⟩ := view_of_receive_ok hcarries hr hstep
    have hall : (Accumulator.ofMaxFrame maxFrame).push (view s₁).received = (.ok none, a') := by
      rw [hreceived, Accumulator.push_append, hpush]
      exact hchunk
    obtain ⟨hrest, htaken⟩ := ih hstep hall hawait
    exact ⟨honward.trans hrest, htaken⟩

end Exchange

end CompanionBus
