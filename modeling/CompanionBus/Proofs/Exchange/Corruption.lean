import CompanionBus.Link.Script
import CompanionBus.Proofs.Exchange.Await
import CompanionBus.Proofs.Packet.Damage
import CompanionBus.Proofs.Response.Answers
/-
  An answer with one wrong byte in it is refused.

  1. **Specification** (`corrupted_answer_refused`) — let one byte of a wrapped frame arrive as
     another, whichever byte it is, an `END` or an `ESC` included. Let the stream come in cut in any
     way and in any rhythm, and nothing else come until the deadline. Then the exchange fails, unless
     0x00 and 0xFF have changed places in the fields or in the payload (`BlindSpot`).

  2. **What is heard** — `Hears` relates a link to the pieces that it still hands over. In contrast
     to `Receives` it covers the whole time up to the deadline, since what is to be shown is that no
     answer is made out in all that time. `push_of_await_eq_ok` is the invariant of the loop: a frame
     that the wait returns is the first frame of all the pieces put together.

  3. **Layers** — that frame is the one that was sent but for one byte, or it has been mangled
     (`Slip.damage_of_wrong_byte`); neither is read (`Packet.swap_of_decode_replaced`,
     `Packet.not_decode_of_mangled`).
-/
namespace CompanionBus.Exchange

variable {σ : Type} {x : Exchange} {l : Link σ} {deadline : Nat} {s : σ}

/-! ## What comes in until the deadline -/

/-- `Hears x l deadline s chunks` — looking at the link as `x` does, from the state `s` on and until
    the deadline, brings in the `chunks` one after the other, with silence in between and after the
    last; the deadline may come before all of them are in, and the link may break down. -/
inductive Hears (x : Exchange) (l : Link σ) (deadline : Nat) : σ → List (List UInt8) → Prop where
  | expired {s : σ} {chunks : List (List UInt8)} (h : deadline ≤ l.now s) :
      Hears x l deadline s chunks
  | failure {s s' : σ} {chunks : List (List UInt8)} {e : LinkError} (h : l.now s < deadline)
      (hr : l.receive (x.wait (deadline - l.now s)) s = (.error e, s')) (he : e ≠ .readTimeout) :
      Hears x l deadline s chunks
  | silence {s s' : σ} {chunks : List (List UInt8)} (h : l.now s < deadline)
      (hr : l.receive (x.wait (deadline - l.now s)) s = (.error .readTimeout, s'))
      (hrest : Hears x l deadline s' chunks) : Hears x l deadline s chunks
  | chunk {s s' : σ} {chunk : List UInt8} {chunks : List (List UInt8)} (h : l.now s < deadline)
      (hr : l.receive (x.wait (deadline - l.now s)) s = (.ok chunk, s'))
      (hrest : Hears x l deadline s' chunks) : Hears x l deadline s (chunk :: chunks)

/-- Every link is heard in some way: the clock comes to the deadline. -/
theorem exists_hears (x : Exchange) (l : Link σ) (deadline : Nat) (s : σ) :
    ∃ chunks, Hears x l deadline s chunks := by
  by_cases hnow : deadline ≤ l.now s
  · exact ⟨[], .expired hnow⟩
  · have hbefore : l.now s < deadline := by omega
    have hwait : 0 < x.wait (deadline - l.now s) := by
      have := x.poll_pos
      simp only [wait]
      omega
    have hp := l.progress _ s hwait
    rcases hr : l.receive (x.wait (deadline - l.now s)) s with ⟨e | chunk, s'⟩
    all_goals rw [hr] at hp
    · by_cases he : e = .readTimeout
      · subst he
        have hp := hp rfl
        obtain ⟨chunks, hrest⟩ := exists_hears x l deadline s'
        exact ⟨chunks, .silence hbefore hr hrest⟩
      · exact ⟨[], .failure hbefore hr he⟩
    · have hp := hp rfl
      obtain ⟨chunks, hrest⟩ := exists_hears x l deadline s'
      exact ⟨chunk :: chunks, .chunk hbefore hr hrest⟩
termination_by (deadline - l.now s, l.quota s)
decreasing_by
  all_goals
    dsimp only at hp
    rcases hp with hp | ⟨hp, hq⟩
    · left; omega
    · rw [hp]; right; exact hq

/-- **A frame that the wait returns is the first frame of all that is heard**, put together. -/
theorem push_of_await_eq_ok {chunks : List (List UInt8)} (h : Hears x l deadline s chunks) :
    ∀ {a : Accumulator} {frame : List UInt8}, (x.await l deadline a s).1 = .ok frame →
      ∃ delimited a', a.push chunks.flatten = (.ok (some delimited), a') ∧
        unwrap delimited = .ok frame := by
  induction h with
  | expired hnow =>
    intro a frame hawait
    rw [await_expired hnow] at hawait
    cases hawait
  | failure hnow hr he =>
    intro a frame hawait
    rw [await_failure hnow hr he] at hawait
    cases hawait
  | silence hnow hr _ ih =>
    intro a frame hawait
    rw [await_silence hnow hr] at hawait
    exact ih hawait
  | @chunk s s' chunk chunks hnow hr _ ih =>
    intro a frame hawait
    rw [await_chunk hnow hr] at hawait
    rw [List.flatten_cons, Accumulator.push_append]
    rcases hpush : a.push chunk with ⟨e | _ | delimited, a'⟩
    all_goals rw [hpush] at hawait
    · cases hawait
    · exact ih hawait
    · exact ⟨delimited, a', rfl, hawait⟩

/-- What is unwrapped has been decoded. -/
theorem decode_of_unwrap_eq_ok {delimited frame : List UInt8} (h : unwrap delimited = .ok frame) :
    Slip.decode delimited = .ok frame := by
  rw [unwrap] at h
  split at h
  · cases h
  · cases h
  · rename_i hdecode
    rw [hdecode]
    exact congrArg Except.ok (Except.ok.inj h)

/-- What has been heard when the wait of an exchange returns a frame. -/
theorem yields_of_await_eq_ok {chunks : List (List UInt8)} {frame : List UInt8}
    (h : Hears x l deadline s chunks)
    (hawait : (x.await l deadline (Accumulator.ofMaxFrame maxFrame) s).1 = .ok frame) :
    Slip.Yields maxFrame chunks.flatten frame := by
  obtain ⟨delimited, a, hpush, hunwrap⟩ := push_of_await_eq_ok h hawait
  exact ⟨delimited, a, hpush, decode_of_unwrap_eq_ok hunwrap⟩

/-! ## An exchange that returns an answer -/

/-- The stages of an exchange of frames that succeeds. -/
theorem transact_eq_ok {question frame : List UInt8}
    (h : (x.transact l question s).1 = .ok frame) :
    ∃ s₁ s₂, l.discard s = (.ok (), s₁) ∧ l.send (Slip.encode question) s₁ = (.ok (), s₂) ∧
      (x.await l (l.now s₂ + x.timeout) (Accumulator.ofMaxFrame maxFrame) s₂).1 = .ok frame := by
  rcases transact_cases x l question s with
    ⟨e, s₁, -, htransact⟩ | ⟨e, s₁, s₂, -, -, htransact⟩ | ⟨s₁, s₂, hdiscard, hsend, htransact⟩
  all_goals rw [htransact] at h
  · cases h
  · cases h
  · exact ⟨s₁, s₂, hdiscard, hsend, h⟩

/-- The stages of an exchange that returns an answer. -/
theorem run_eq_ok {request : Request} {response : Response}
    (h : (x.run l request s).1 = .ok response) :
    ∃ question frame p, request.encode = .ok question ∧
      (x.transact l question s).1 = .ok frame ∧ Packet.decode frame = .ok p ∧
      Response.parse request.command p = .ok response := by
  cases hquestion : request.encode with
  | error e =>
    rw [run, hquestion] at h
    cases h
  | ok question =>
    rw [run_of_encode x l hquestion] at h
    obtain ⟨frame, hframe, p, ⟨d⟩, hparse⟩ := readAnswer_eq_ok_iff.mp h
    exact ⟨question, frame, p, rfl, hframe, d.decode_eq, Response.parse_eq_ok_iff.mpr hparse⟩

/-! ## One wrong byte -/

/-- `BlindSpot p before sent received` — the checksum cannot tell `received` from `sent`, the byte
    behind `before` in the wrapped frame of `p`: it is a byte of the fields or of the payload, sent
    as it is, and 0x00 and 0xFF have changed places. -/
def BlindSpot (p : Packet) (before : List UInt8) (sent received : UInt8) : Prop :=
  ((sent = 0 ∧ received = 0xFF) ∨ (sent = 0xFF ∧ received = 0)) ∧
    ∃ f₁ f₂, p.frame = f₁ ++ sent :: f₂ ∧ before = Slip.END :: Slip.escape f₁ ∧
      5 + p.descriptors.length ≤ f₁.length

/-- Where a frame is read in spite of a wrong byte on the wire, the byte is in the blind spot. -/
theorem blindSpot_of_decode {p q : Packet} {before after g : List UInt8} {sent received : UInt8}
    (hsize : p.size ≤ maxFrame) (hwire : Slip.encode p.frame = before ++ sent :: after)
    (hwrong : received ≠ sent) (hyields : Slip.Yields maxFrame (before ++ received :: after) g)
    (hdecode : Packet.decode g = .ok q) : BlindSpot p before sent received := by
  rcases Slip.damage_of_wrong_byte hwire hwrong hyields with
    ⟨f₁, f₂, hframe, hbefore, rfl⟩ | hmangled
  · obtain ⟨hswap, hbehind⟩ :=
      Packet.swap_of_decode_replaced hsize hframe hwrong.symm hdecode
    exact ⟨hswap, f₁, f₂, hframe, hbefore, hbehind⟩
  · exact absurd hdecode (Packet.not_decode_of_mangled hsize hmangled)

/-- **A corrupted answer is refused.** Let one byte of a wrapped frame, but none in the blind spot,
    arrive as another. If this is all that an exchange hears between its question and the deadline,
    cut in any way, then it returns no answer, whatever the question was. -/
theorem corrupted_answer_refused (x : Exchange) (l : Link σ) {request : Request} {answer : Packet}
    {frame before after : List UInt8} {sent received : UInt8} {chunks : List (List UInt8)} {s : σ}
    (hanswer : answer.encode = .ok frame)
    (hwire : Slip.encode frame = before ++ sent :: after)
    (hwrong : received ≠ sent)
    (hblind : ¬ BlindSpot answer before sent received)
    (hchunks : chunks.flatten = before ++ received :: after)
    (hhears : ∀ question s₁ s₂, request.encode = .ok question → l.discard s = (.ok (), s₁) →
      l.send (Slip.encode question) s₁ = (.ok (), s₂) →
      Hears x l (l.now s₂ + x.timeout) s₂ chunks) :
    ∃ e, (x.run l request s).1 = .error e := by
  obtain ⟨hsize, rfl⟩ := Packet.encode_eq_ok_iff.mp hanswer
  cases hrun : (x.run l request s).1 with
  | error e => exact ⟨e, rfl⟩
  | ok response =>
    obtain ⟨question, g, q, hquestion, htransact, hdecode, -⟩ := run_eq_ok hrun
    obtain ⟨s₁, s₂, hdiscard, hsend, hawait⟩ := transact_eq_ok htransact
    have hyields := yields_of_await_eq_ok (hhears question s₁ s₂ hquestion hdiscard hsend) hawait
    rw [hchunks] at hyields
    exact absurd (blindSpot_of_decode hsize hwire hwrong hyields hdecode) hblind

/-- A wrapped frame that tells the time, up to the stand-in for the byte 0xC0 in it. -/
def timeUpToStandIn : List UInt8 :=
  [0xC0, 0x45, 0x01, 0x13, 0x00, 0x1C, 0x01, 0x00, 0x01, 0, 0, 0, 0xDB]

/-- The device tells the time, and the stand-in for 0xC0 arrives as the one for 0xDB, after a pause.
    The exchange fails. -/
theorem damaged_time_refused :
    ∃ e, ((make 10 4).run Script.link .clockGet
      { connected := true,
        reply := [.bytes timeUpToStandIn, .pause 5, .bytes [0xDD, 0, 0, 0, 0, 0, 0, 0, 0xC0]] }).1
      = .error e := by
  have hanswer : (Packet.ofStatus .clockGet .ok [1, 0, 0, 0, 0xC0, 0, 0, 0, 0, 0, 0, 0]).encode
      = .ok [0x45, 0x01, 0x13, 0x00, 0x1C, 0x01, 0x00, 0x01, 0, 0, 0, 0xC0, 0, 0, 0, 0, 0, 0, 0] :=
    rfl
  have hwire : Slip.encode
        [0x45, 0x01, 0x13, 0x00, 0x1C, 0x01, 0x00, 0x01, 0, 0, 0, 0xC0, 0, 0, 0, 0, 0, 0, 0]
      = timeUpToStandIn ++ 0xDC :: [0, 0, 0, 0, 0, 0, 0, 0xC0] := by decide
  have hchunks : [timeUpToStandIn, [0xDD, 0, 0, 0, 0, 0, 0, 0, 0xC0]].flatten
      = timeUpToStandIn ++ 0xDD :: [0, 0, 0, 0, 0, 0, 0, 0xC0] := by decide
  refine corrupted_answer_refused (make 10 4) Script.link hanswer hwire (by decide) ?_ hchunks ?_
  · rintro ⟨⟨hsent, -⟩ | ⟨hsent, -⟩, -⟩
    · cases hsent
    · cases hsent
  · rintro question s₁ s₂ - hdiscard hsend
    cases hdiscard
    cases hsend
    exact .chunk (by decide) rfl <| .silence (by decide) rfl <| .chunk (by decide) rfl <|
      .silence (by decide) rfl <| .silence (by decide) rfl <| .expired (by decide)

end CompanionBus.Exchange
