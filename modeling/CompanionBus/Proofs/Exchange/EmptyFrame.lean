import CompanionBus.Link.Script
import CompanionBus.Proofs.Exchange.Endings
import CompanionBus.Proofs.Slip.Invariant
/-
  Frames that come in are never empty.

  1. **Specification (`frames_never_empty`)** — an accumulator that has been used in any way, also after
     it has refused a frame, holds nothing or the beginning of one, and gives away only frames with
     something in them. Unwrapping such a frame reads all of it or meets a bad escape in it; it neither
     runs out of bytes nor ends up with nothing. So an exchange has no use for its check against empty
     frames, and reports one only if the link itself does.

  2. **The proof** — the accumulator keeps its invariant (`Accumulator.Used.begun`), and `Slip.Unwraps`
     lists what becomes of what it gives away. In an exchange, an error of the link is one that bytes
     have decided, and then it tells of bytes that cannot be unwrapped; or else a call of the link has
     failed with it (`link_error_iff`).
-/
namespace CompanionBus.Exchange

variable {σ : Type} {x : Exchange} {l : Link σ} {question : List UInt8} {s : σ}

/-! ## Frames with something in them -/

/-- The check against empty frames does nothing to a frame that is not empty. -/
theorem unwrap_of_ne {delimited : List UInt8} (h : Slip.decode delimited ≠ .ok []) :
    unwrap delimited = (Slip.decode delimited).mapError undecodable := by
  rw [unwrap]
  cases hdecode : Slip.decode delimited with
  | error e => rfl
  | ok frame =>
    cases frame with
    | nil => exact absurd hdecode h
    | cons b rest => rfl

/-! ## Errors of the link -/

/-- `x.Breaks l question s e` — in an exchange of the frame `question`, begun in the state `s`, a call
    of the link fails with `e`, while nothing has been decided yet. -/
inductive Breaks (x : Exchange) (l : Link σ) (question : List UInt8) (s : σ) (e : LinkError) :
    Prop where
  | discarding (h : (l.discard s).1 = .error e)
  | sending {s₁ : σ} (hdiscard : l.discard s = (.ok (), s₁))
      (h : (l.send (Slip.encode question) s₁).1 = .error e)
  | receiving {s₁ s₂ s' : σ} {chunks : List (List UInt8)} (hdiscard : l.discard s = (.ok (), s₁))
      (hsend : l.send (Slip.encode question) s₁ = (.ok (), s₂))
      (hreceives : Receives x l (l.now s₂ + x.timeout) s₂ chunks s')
      (hopen : (Slip.verdict maxFrame chunks.flatten).place? = none)
      (h : Fails x l (l.now s₂ + x.timeout) s' (.link e))

/-- What a link fails with is what the exchange fails with. -/
theorem Breaks.transact_eq {e : LinkError} (h : x.Breaks l question s e) :
    (x.transact l question s).1 = .error (.link e) := by
  cases h with
  | discarding h => rw [transact_of_undiscarded (Prod.ext h rfl)]
  | sending hdiscard h => rw [transact_of_unsent hdiscard (Prod.ext h rfl)]
  | @receiving s₁ s₂ s' chunks hdiscard hsend hreceives hopen h =>
    obtain ⟨a, hpush⟩ := Accumulator.push_of_place_eq_none hopen
    rw [transact_of_sent hdiscard hsend, await_of_receives hreceives hpush, h.await_eq]

/-- **An error of the link is the fault of the link**, unless bytes that have come in cannot be
    unwrapped. -/
theorem link_error_iff {e : LinkError} (he : ∀ fault, e ≠ .io (.undecodable fault)) :
    (x.transact l question s).1 = .error (.link e) ↔ x.Breaks l question s e := by
  refine ⟨fun h => ?_, Breaks.transact_eq⟩
  rcases transact_cases x l question s with ⟨e', s₁, hdiscard, htransact⟩ |
    ⟨e', s₁, s₂, hdiscard, hsend, htransact⟩ | ⟨s₁, s₂, hdiscard, hsend, htransact⟩
  all_goals rw [htransact] at h
  · cases h
    exact .discarding (congrArg Prod.fst hdiscard)
  · cases h
    exact .sending hdiscard (congrArg Prod.fst hsend)
  obtain ⟨chunks, s', hreceives, ⟨-, hends⟩ | ⟨hopen, e', hfails, he'⟩⟩ :=
    exists_ends x l (l.now s₂ + x.timeout) s₂
  · rw [h] at hends
    generalize hresult : Except.error (ClientError.link e) = result at hends
    cases hends with
    | frame => cases hresult
    | badEscape =>
      cases hresult
      exact absurd rfl (he _)
    | tooLong =>
      cases hresult
      exact absurd rfl (he _)
  · rw [h] at he'
    cases he'
    exact .receiving hdiscard hsend hreceives hopen hfails

/-! ## No empty frame -/

/-- **No frame that comes in is empty.** Take an accumulator for frames of up to `size` bytes and do
    anything with it: push any pieces, also after a frame has been refused, and clear it at any time.
    It holds nothing, or an `END` and no other behind it, and never more than `2 * size + 1` bytes. What
    it gives away is a frame between two `END`s, without an `END` inside, of one byte at least and
    `2 * size` at most. Unwrapping that frame reads all of its bytes, or else fails for the first `ESC`
    with a wrong byte behind it, which is the closing `END` exactly if the frame ends in the middle of
    an escape; it never lacks a byte, and never reads nothing.

    So in an exchange the check against empty frames does nothing: it returns what unwrapping gives, for
    any frame that comes in complete, and fails for an empty frame exactly if a call of the link does. -/
theorem frames_never_empty (x : Exchange) (l : Link σ) :
    (∀ (size : Nat) (a : Accumulator), a.Used size →
      (a.buffer = [] ∨ ∃ body, a.buffer = Slip.END :: body ∧ Slip.END ∉ body) ∧
      a.pending ≤ 2 * size + 1 ∧
      ∀ piece delimited a', a.push piece = (.ok (some delimited), a') →
        ∃ body, delimited = Slip.END :: (body ++ [Slip.END]) ∧ Slip.END ∉ body ∧
          1 ≤ body.length ∧ body.length ≤ 2 * size ∧
          (∀ result, Slip.decode delimited = result ↔ Slip.Unwraps body result) ∧
          Slip.decode delimited ≠ .error .danglingEscape ∧ Slip.decode delimited ≠ .ok []) ∧
    ∀ question s,
      (∀ s₁ s₂ chunks s' delimited, l.discard s = (.ok (), s₁) →
        l.send (Slip.encode question) s₁ = (.ok (), s₂) →
        Receives x l (l.now s₂ + x.timeout) s₂ chunks s' →
        ((Accumulator.ofMaxFrame maxFrame).push chunks.flatten).1 = .ok (some delimited) →
        (x.transact l question s).1 = (Slip.decode delimited).mapError undecodable) ∧
      ((x.transact l question s).1 = .error (.link (.io .emptyFrame)) ↔
        x.Breaks l question s (.io .emptyFrame)) := by
  refine ⟨fun size a hused => ?_, fun question s => ⟨?_, link_error_iff nofun⟩⟩
  · have hbegun := hused.begun
    refine ⟨hbegun.buffer_eq, hbegun.pending_le, fun piece delimited a' hpush => ?_⟩
    obtain ⟨body, rfl, hbody, hne, hlen⟩ := hbegun.delimited_of_push hpush
    have hunwraps := (Slip.decode_eq_iff hbody).mp rfl
    exact ⟨body, rfl, hbody, List.length_pos_iff.mpr hne, hlen, fun _ => Slip.decode_eq_iff hbody,
      hunwraps.ne_dangling, hunwraps.ne_nil hne⟩
  · intro s₁ s₂ chunks s' delimited hdiscard hsend hreceives hpush
    obtain ⟨body, rfl, hbody, hne, -⟩ :=
      (Accumulator.begun_ofMaxFrame maxFrame).delimited_of_push (Prod.ext hpush rfl)
    rw [transact_of_sent hdiscard hsend]
    apply conclude_of_receives hreceives
    rw [hpush]
    exact congrArg some (unwrap_of_ne (((Slip.decode_eq_iff hbody).mp rfl).ne_nil hne))

/-- An accumulator that has refused a byte for which there was no room. -/
def overfull : Accumulator := ((Accumulator.ofMaxFrame 1).push [0xC0, 7, 0xDB, 0xDC]).2

/-- The far end while it sends an empty frame, and one that ends in the middle of an escape. -/
def cutShort : Script := { connected := true, reply := [.bytes [0xC0, 0xC0, 7, 0xDB], .bytes [0xC0]] }

/-- A frame that ends in the middle of an escape is refused for its closing `END`. One such comes out
    of an overfull accumulator, which refuses what does not fit, a stand-in for example, and goes on
    with what comes next; and the far end can send one, too. -/
theorem cut_frame_refused :
    (overfull.push [9]).1 = .error (.frameTooLarge 4 4) ∧
      (overfull.push [9]).2.pending ≤ 3 ∧
      (overfull.push [9]).2.push [0xC0]
        = (.ok (some [0xC0, 7, 0xDB, 0xC0]), Accumulator.ofMaxFrame 1) ∧
      Slip.decode [0xC0, 7, 0xDB, 0xC0] = .error (.invalidEscape 0xC0) ∧
      (standard.transact Script.link [1] cutShort).1
        = .error (undecodable (.invalidEscape 0xC0)) := by
  have hpush : (overfull.push [9]).2.push [0xC0]
      = (.ok (some [0xC0, 7, 0xDB, 0xC0]), Accumulator.ofMaxFrame 1) := rfl
  obtain ⟨hused, hexchange⟩ := frames_never_empty standard Script.link
  obtain ⟨-, hpending, hframes⟩ := hused 1 _ (.push (.push .new [0xC0, 7, 0xDB, 0xDC]) [9])
  obtain ⟨body, hdelimited, -, -, -, hdecode, -⟩ := hframes _ _ _ hpush
  obtain rfl : [7, 0xDB] = body := List.append_cancel_right (List.tail_eq_of_cons_eq hdelimited)
  have hcut : Slip.decode [0xC0, 7, 0xDB, 0xC0] = .error (.invalidEscape 0xC0) :=
    (hdecode _).mpr (.unfinished (show [7, 0xDB] = Slip.escape [7] ++ [Slip.ESC] from rfl))
  obtain ⟨hframe, -⟩ := hexchange [1] cutShort
  refine ⟨rfl, hpending, hpush, hcut, ?_⟩
  rw [hframe _ _ [[0xC0, 0xC0, 7, 0xDB], [0xC0]] _ [0xC0, 7, 0xDB, 0xC0] rfl rfl
    (.chunk (by decide) rfl <| .chunk (by decide) rfl <| .done _) rfl, hcut]
  rfl

end CompanionBus.Exchange
