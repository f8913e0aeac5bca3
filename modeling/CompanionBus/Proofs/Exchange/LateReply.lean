import CompanionBus.Proofs.Exchange.Corruption
import CompanionBus.Proofs.Exchange.Replies
import CompanionBus.Proofs.Response.Layout
/-
  Late replies, and what an exchange makes of them.

  1. **Specification** (`answer_is_first_reply`) — after any number of exchanges, one that returns an
     answer has read it from the first reply that reached the receive buffer after the exchange had
     emptied it. So a late reply that was in the buffer by then is never taken.

  2. **What the protocol leaves open** — nothing on the wire tells for which request a reply is. A
     late reply that is still under way when the buffer is emptied, and overtakes the reply to the
     new request, is taken for it if it is of the same command (`late_time_mistaken`).

  3. **The crux** — the tags. Where the first reply comes from is known from the pool of replies that
     were under way, which no wait changes but for their place (`Traffic.Onward`); and that it was
     not in the buffer before, from its tag (`Traffic.Sound`).
-/
namespace CompanionBus

namespace Exchange

variable {σ : Type} {l : Link σ} {view : σ → Traffic} {s s' : σ}
  {x : Exchange} {request : Request} {response : Response}

/-! ## Exchanges one after the other -/

/-- A wait keeps what every look at the link keeps. -/
theorem await_keeps {P : σ → Prop} {deadline : Nat} {a : Accumulator}
    (hreceive : ∀ wait s, P s → P (l.receive wait s).2) (hs : P s) :
    P (x.await l deadline a s).2 := by
  -- along the turns of the wait
  have hlook : ∀ {wait : Nat} {s s' : σ} {result : Except LinkError (List UInt8)},
      l.receive wait s = (result, s') → P s → P s' := by
    intro wait s s' result hr hs
    have := hreceive wait s hs
    rwa [hr] at this
  fun_induction x.await l deadline a s with
  | case1 => exact hs
  | case2 a s _ _ s' hr _ ih => exact ih (hlook hr hs)
  | case3 a s _ _ e s' _ hr => exact hlook hr hs
  | case4 a s _ _ chunk s' hr => exact hlook hr hs
  | case5 a s _ _ chunk s' hr => exact hlook hr hs
  | case6 a s _ _ chunk s' hr _ a' _ ih => exact ih (hlook hr hs)

/-- An exchange keeps the tags apart. -/
theorem sound_run (h : l.Carries view) (x : Exchange) (request : Request) (hs : (view s).Sound) :
    (view (x.run l request s).2).Sound := by
  rw [run]
  cases request.encode with
  | error e => exact hs
  | ok question =>
    show (view (x.transact l question s).2).Sound
    have hdiscarded := h.sound_discard hs
    rcases transact_cases x l question s with ⟨e, s₁, hdiscard, htransact⟩ |
      ⟨e, s₁, s₂, hdiscard, hsend, htransact⟩ | ⟨s₁, s₂, hdiscard, hsend, htransact⟩
    all_goals rw [hdiscard] at hdiscarded
    all_goals rw [htransact]
    · exact hdiscarded
    · have hsent := h.sound_send (Slip.encode question) hdiscarded
      rw [hsend] at hsent
      exact hsent
    · have hsent := h.sound_send (Slip.encode question) hdiscarded
      rw [hsend] at hsent
      exact await_keeps (P := fun s => (view s).Sound) (fun wait _ => h.sound_receive wait) hsent

/-- The state after exchanges that are run one after the other. -/
def converse (l : Link σ) : List (Exchange × Request) → σ → σ
  | [], s => s
  | (x, request) :: rest, s => converse l rest (x.run l request s).2

/-- Any number of exchanges keeps the tags apart. -/
theorem sound_converse (h : l.Carries view) (exchanges : List (Exchange × Request)) :
    ∀ {s : σ}, (view s).Sound → (view (converse l exchanges s)).Sound := by
  induction exchanges with
  | nil => exact fun hs => hs
  | cons exchange rest ih => exact fun hs => ih (sound_run h exchange.1 exchange.2 hs)

/-! ## The reply that an exchange takes -/

/-- What an exchange comes to when the link does its part. -/
theorem run_of_await (x : Exchange) (l : Link σ) (request : Request) (s : σ)
    {question : List UInt8} {raw : Except ClientError (List UInt8)} {s₁ s₂ : σ}
    (hquestion : request.encode = .ok question) (hdiscard : l.discard s = (.ok (), s₁))
    (hsend : l.send (Slip.encode question) s₁ = (.ok (), s₂))
    (hawait : x.await l (l.now s₂ + x.timeout) (Accumulator.ofMaxFrame maxFrame) s₂ = (raw, s')) :
    x.run l request s = (readAnswer request.command raw, s') := by
  rw [run_of_encode x l hquestion, transact_of_sent hdiscard hsend, hawait]

/-- The stages of an exchange that returns an answer, and the states that it goes through. -/
theorem stages_of_run_eq_ok (hrun : x.run l request s = (.ok response, s')) :
    ∃ question s₁ s₂ frame p, l.discard s = (.ok (), s₁) ∧
      l.send (Slip.encode question) s₁ = (.ok (), s₂) ∧
      x.await l (l.now s₂ + x.timeout) (Accumulator.ofMaxFrame maxFrame) s₂ = (.ok frame, s') ∧
      Packet.decode frame = .ok p ∧ Response.parse request.command p = .ok response := by
  obtain ⟨question, frame, p, hquestion, htransact, hdecode, hparse⟩ :=
    run_eq_ok (congrArg Prod.fst hrun)
  obtain ⟨s₁, s₂, hdiscard, hsend, hawait⟩ := transact_eq_ok htransact
  have hall := run_of_await x l request s hquestion hdiscard hsend (Prod.ext hawait rfl)
  rw [hrun] at hall
  have hstate := congrArg Prod.snd hall
  exact ⟨question, s₁, s₂, frame, p, hdiscard, hsend, Prod.ext hawait hstate.symm, hdecode, hparse⟩

/-- Behind an emptied buffer and a request, the only replies to come are the one to the request and
    those that were under way. -/
theorem view_of_send_ok (hcarries : l.Carries view) {bytes : List UInt8}
    (hcurrent : (view s).current = []) (hreceived : (view s).received = [])
    (hsend : l.send bytes s = (.ok (), s')) :
    (view s').sent = (view s).sent + 1 ∧ (view s').earlier = (view s).earlier ∧
      (view s').received = [] ∧
      ∃ own, own.tag = (view s).sent ∧
        ((view s').current ++ (view s').underway).Perm ((view s).underway ++ [own]) := by
  obtain ⟨t, hdelivers, hlaw⟩ := hcarries.send bytes s
  have honward := hdelivers.onward
  rw [hsend] at hlaw
  obtain ⟨own, htag, hview⟩ := hlaw
  rw [hview]
  refine ⟨congrArg (· + 1) honward.sent, honward.earlier, ?_, own, htag.trans honward.sent, ?_⟩
  · exact (hdelivers.inStep (Traffic.inStep_of_nil hreceived)).1.trans hreceived
  · have hpool := honward.replies
    rw [hcurrent, List.nil_append] at hpool
    show (t.current ++ (t.underway ++ [own])).Perm _
    rw [← List.append_assoc]
    exact hpool.append_right _

/-- An answer is of the command that was asked for. -/
theorem command_of_parse_eq_ok {command : Command} {p : Packet}
    (h : Response.parse command p = .ok response) : p.command = command := by
  by_contra hne
  rw [Response.parse_of_command_ne hne] at h
  cases h

/-- **An answer is read from the first reply that reached the buffer after the exchange had emptied
    it.** Let a link carry replies, and let any exchanges be run on it one after the other. If the
    next one returns an answer, then there is a reply `r`, of the command that was asked for, from
    which it has been read. All that had reached the buffer before was thrown away, and `r` is not
    among it. It is the reply to the request that the exchange has sent, or else one to an earlier
    request that was still under way at that time. -/
theorem answer_is_first_reply (hcarries : l.Carries view) {s₀ : σ} (hfresh : view s₀ = {})
    (exchanges : List (Exchange × Request))
    (hrun : x.run l request (converse l exchanges s₀) = (.ok response, s')) :
    ∃ s₁ r rest p, l.discard (converse l exchanges s₀) = (.ok (), s₁) ∧
      (view s').sent = (view s₁).sent + 1 ∧
      (view s').reached = (view s₁).reached ++ r :: rest ∧ r ∉ (view s₁).reached ∧
      Packet.decode r.frame = .ok p ∧ p.command = request.command ∧
      Response.parse request.command p = .ok response ∧
      (r.tag = (view s₁).sent ∨ r ∈ (view s₁).underway ∧ r.tag < (view s₁).sent) ∧
      ((view s₁).underway = [] → r.tag = (view s₁).sent) := by
  obtain ⟨question, s₁, s₂, frame, p, hdiscard, hsend, hawait, hdecode, hparse⟩ :=
    stages_of_run_eq_ok hrun
  -- the buffer has been emptied, and the tags are apart
  have hsound : (view s₁).Sound := by
    have := hcarries.sound_discard (sound_converse hcarries exchanges (hfresh ▸ Traffic.sound_new))
    rwa [hdiscard] at this
  obtain ⟨t, -, hforget⟩ := hcarries.discard (converse l exchanges s₀)
  rw [hdiscard] at hforget
  have hcurrent : (view s₁).current = [] := by rw [hforget]; rfl
  have hreceived : (view s₁).received = [] := by rw [hforget]; rfl
  -- the wait has taken the first reply since then
  obtain ⟨hsent, hearlier, hreceived', own, htag, hpool⟩ :=
    view_of_send_ok hcarries hcurrent hreceived hsend
  have hpush : (Accumulator.ofMaxFrame maxFrame).push (view s₂).received
      = (.ok none, Accumulator.ofMaxFrame maxFrame) := by rw [hreceived']; rfl
  obtain ⟨honward, r, rest, hfirst, rfl⟩ :=
    first_of_await_eq_ok hcarries (Traffic.inStep_of_nil hreceived') hpush hawait
  have hreached : (view s').reached = (view s₁).reached ++ r :: rest := by
    rw [Traffic.reached, Traffic.reached, honward.earlier, hearlier, hcurrent, hfirst,
      List.append_nil]
  -- it comes from the pool that there was behind the request
  have hmem : r ∈ (view s₁).underway ++ [own] := by
    refine hpool.mem_iff.mp (honward.replies.mem_iff.mp ?_)
    rw [hfirst]
    exact List.mem_append_left _ List.mem_cons_self
  obtain ⟨horigin, hnew⟩ := hsound.to_come htag hmem
  refine ⟨s₁, r, rest, p, hdiscard, honward.sent.trans hsent, hreached, hnew, hdecode,
    command_of_parse_eq_ok hparse, hparse, horigin, ?_⟩
  intro hnone
  rw [hnone] at horigin
  exact horigin.resolve_right (fun h => List.not_mem_nil h.1)

/-- The reply of a clock that tells how many requests there have been. -/
def countReply (n : Nat) : Reply where
  tag := n
  frame := (Packet.ofStatus .clockGet .ok
    [1, 0, 0, 0, UInt8.ofNat (n + 1), 0, 0, 0, 0, 0, 0, 0]).frame
  frame_ne := List.cons_ne_nil _ _

/-- A clock that tells how many requests there have been, and whose replies are there at given
    times. -/
def counter (due : Nat → Nat) : FarEnd where
  reply n _ := (countReply n).frame
  reply_ne n _ := (countReply n).frame_ne
  due := due

/-- A time that comes in when its exchange is over is thrown away by the next exchange. -/
theorem late_time_thrown_away :
    ∃ c r rest, (make 2 2).run (Channel.link (counter id)) .clockGet
        (converse (Channel.link (counter id)) [(make 0 1, .clockGet)] {}) = (.ok (.time ⟨2⟩), c) ∧
      c.traffic.reached = countReply 0 :: r :: rest ∧ r.tag = 1 := by
  have hfirst : converse (Channel.link (counter id)) [(make 0 1, .clockGet)] {}
      = { traffic := { sent := 1, underway := [countReply 0] } } := by
    have hrun := run_of_await (make 0 1) (Channel.link (counter id)) .clockGet {}
      rfl rfl rfl (await_expired (by decide))
    exact congrArg Prod.snd hrun
  have hsecond := run_of_await (make 2 2) (Channel.link (counter id)) .clockGet
    { traffic := { sent := 1, underway := [countReply 0] } } rfl rfl rfl
    (await_of_completed (.chunk (by decide) rfl (.done _)) rfl)
  have hrun := (congrArg ((make 2 2).run (Channel.link (counter id)) .clockGet) hfirst).trans hsecond
  obtain ⟨c₁, r, rest, -, hdiscard, -, hreached, -, -, -, -, -, hown⟩ :=
    answer_is_first_reply (Channel.carries (counter id)) rfl [(make 0 1, .clockGet)] hrun
  rw [hfirst] at hdiscard
  cases hdiscard
  exact ⟨_, r, rest, hrun, hreached, hown rfl⟩

/-- A time that comes in while the next exchange waits for its own is taken for it. -/
theorem late_time_mistaken :
    ∃ c₁ c₂, (make 2 2).run (Channel.link (counter (· + 3))) .clockGet {}
        = (.error (.timeout 2), c₁) ∧
      c₁.traffic.sent = 1 ∧
      (make 2 2).run (Channel.link (counter (· + 3))) .clockGet c₁ = (.ok (.time ⟨1⟩), c₂) ∧
      (∃ r ∈ c₂.traffic.replies, r.tag = 1) ∧
      ∀ r ∈ c₂.traffic.replies, r.tag = 1 →
        Response.decode .clockGet r.frame = .ok (.time ⟨2⟩) := by
  have hfirst := run_of_await (make 2 2) (Channel.link (counter (· + 3))) .clockGet {}
    rfl rfl rfl
    ((await_silence (by decide) rfl).trans (await_expired (by decide)))
  have hsecond := run_of_await (make 2 2) (Channel.link (counter (· + 3))) .clockGet
    { clock := 2, traffic := { sent := 1, underway := [countReply 0] } } rfl rfl rfl
    (await_of_completed (.chunk (by decide) rfl (.done _)) rfl)
  refine ⟨_, _, hfirst, rfl, hsecond, ⟨countReply 1, by decide, rfl⟩, ?_⟩
  intro r hr htag
  have hreplies : r ∈ [countReply 0, countReply 1] := hr
  rw [List.mem_cons, List.mem_singleton] at hreplies
  rcases hreplies with rfl | rfl
  · cases htag
  · rfl

end Exchange

end CompanionBus
