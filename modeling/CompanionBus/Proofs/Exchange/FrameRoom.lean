import CompanionBus.Proofs.Exchange.Endings
import CompanionBus.Proofs.Exchange.Received
import CompanionBus.Proofs.Response.Answers
/-
  Which answers are too long to be taken, and that it is not those longer than a frame may be.

  1. **Specification (`answer_fits_iff_room`)** — take any frame that is an answer and let it come in
     wrapped. It is taken exactly if its bytes, those that have to be escaped counted twice, are not
     more than twice as many as a frame may have; otherwise the exchange fails, since too many bytes
     have come in. No answer is taken otherwise.

  2. **No limit on what is unwrapped (`frame_beyond_limit`)** — a frame without any byte to escape is
     taken up to twice the length that is kept to in sending. Neither the wait nor the reader of
     frames looks at the length again.

  3. **The proof** — the body of the stream is the escaped frame (`body_of_wrapped`), so the verdict
     on the stream hangs on its length alone.
-/
namespace CompanionBus

/-! ## The verdict on a wrapped frame -/

namespace Slip

variable {noise frame : List UInt8}

theorem inside_of_wrapped (hnoise : END ∉ noise) (hne : frame ≠ []) (k : Nat) (tail : List UInt8) :
    inside (noise ++ List.replicate k END ++ encode frame ++ tail) = escape frame ++ END :: tail := by
  obtain ⟨b, rest, hescape, hb⟩ := exists_escape_eq_cons hne
  have hstream : noise ++ List.replicate k END ++ encode frame ++ tail
      = noise ++ (List.replicate (k + 1) END ++ (escape frame ++ END :: tail)) := by
    rw [List.replicate_succ']
    simp only [encode, List.append_assoc, List.cons_append, List.nil_append]
  have hopened : opened (noise ++ List.replicate k END ++ encode frame ++ tail)
      = List.replicate (k + 1) END ++ (escape frame ++ END :: tail) := by
    rw [hstream, opened, List.dropWhile_append_of_pos]
    · exact List.dropWhile_cons_of_neg (by decide)
    · intro c hc
      exact decide_eq_true fun h => hnoise (h ▸ hc)
  rw [inside, hopened, List.dropWhile_append_of_pos]
  · rw [hescape, List.cons_append]
    exact List.dropWhile_cons_of_neg (by simpa using hb)
  · intro c hc
    exact decide_eq_true (List.eq_of_mem_replicate hc)

/-- The body of a stream with a wrapped frame is the escaped frame. -/
theorem body_of_wrapped (hnoise : END ∉ noise) (hne : frame ≠ []) (k : Nat) (tail : List UInt8) :
    body (noise ++ List.replicate k END ++ encode frame ++ tail) = escape frame := by
  rw [body, inside_of_wrapped hnoise hne, List.takeWhile_append_of_pos]
  · rw [List.takeWhile_cons_of_neg (by decide), List.append_nil]
  · intro c hc
    exact decide_eq_true fun h => end_not_mem_escape frame (h ▸ hc)

/-- **What a wrapped frame comes to** hangs on how long it is once it is escaped. -/
theorem verdict_of_wrapped (hnoise : END ∉ noise) (hne : frame ≠ []) (k : Nat) (tail : List UInt8)
    (maxFrame : Nat) :
    ∃ place, verdict maxFrame (noise ++ List.replicate k END ++ encode frame ++ tail) =
      if frame.length + frame.count END + frame.count ESC ≤ 2 * maxFrame
        then .frame (escape frame) place else .tooLong place := by
  have hmore : (escape frame).length < (escape frame ++ END :: tail).length := by
    rw [List.length_append, List.length_cons]
    omega
  rw [verdict, body_of_wrapped hnoise hne, inside_of_wrapped hnoise hne, ← length_escape]
  rcases Nat.lt_or_ge (2 * maxFrame) (escape frame).length with hlong | hroom
  · rw [if_pos hlong]
    exact ⟨_, (if_neg (Nat.not_le.mpr hlong)).symm⟩
  · rw [if_neg (Nat.not_lt.mpr hroom), if_pos hmore]
    exact ⟨_, (if_pos hroom).symm⟩

end Slip

/-! ## The exchange -/

namespace Exchange

variable {σ : Type} {x : Exchange} {l : Link σ}

/-- A wrapped frame that comes in is returned if there is room for it. -/
theorem transact_of_wrapped {question noise frame tail : List UInt8} {k : Nat}
    {chunks : List (List UInt8)} {s s₁ s₂ s' : σ} (hdiscard : l.discard s = (.ok (), s₁))
    (hsend : l.send (Slip.encode question) s₁ = (.ok (), s₂)) (hnoise : Slip.END ∉ noise)
    (hne : frame ≠ []) (hreceives : Receives x l (l.now s₂ + x.timeout) s₂ chunks s')
    (hchunks : chunks.flatten = noise ++ List.replicate k Slip.END ++ Slip.encode frame ++ tail) :
    (x.transact l question s).1 =
      if frame.length + frame.count Slip.END + frame.count Slip.ESC ≤ 2 * maxFrame then .ok frame
      else .error (undecodable (.frameTooLarge (Slip.maxEncodedLength maxFrame)
        (Slip.maxEncodedLength maxFrame))) := by
  rw [transact_of_sent hdiscard hsend]
  apply conclude_of_receives hreceives
  obtain ⟨place, hverdict⟩ := Slip.verdict_of_wrapped hnoise hne k tail maxFrame
  rw [hchunks, Accumulator.push_fst_eq Accumulator.fits_maxFrame, hverdict]
  split
  · exact congrArg some (unwrap_encode hne)
  · rfl

/-- **An answer is taken exactly if there is room for it.** Let the request have been sent. If the
    exchange returns an answer, then the frame that holds it, with each `END` and each `ESC` in it
    counted twice, is not longer than twice the limit for frames that are sent. Conversely let any
    frame that is an answer come in wrapped, behind noise and any number of `END`s, cut in any way,
    and with anything behind it. If it keeps to that bound, then its answer is returned, be it longer
    than the limit or not; otherwise the exchange fails, for too many bytes. -/
theorem answer_fits_iff_room (x : Exchange) (l : Link σ) {request : Request} {question : List UInt8}
    {s s₁ s₂ : σ} (hquestion : request.encode = .ok question)
    (hdiscard : l.discard s = (.ok (), s₁))
    (hsend : l.send (Slip.encode question) s₁ = (.ok (), s₂)) :
    (∀ response, (x.run l request s).1 = .ok response →
      ∃ frame, (x.transact l question s).1 = .ok frame ∧
        Response.Answers request.command frame response ∧
        frame.length + frame.count Slip.END + frame.count Slip.ESC ≤ 2 * maxFrame) ∧
    ∀ frame response noise k tail chunks s', Response.Answers request.command frame response →
      Slip.END ∉ noise → Receives x l (l.now s₂ + x.timeout) s₂ chunks s' →
      chunks.flatten = noise ++ List.replicate k Slip.END ++ Slip.encode frame ++ tail →
      (x.run l request s).1 =
        if frame.length + frame.count Slip.END + frame.count Slip.ESC ≤ 2 * maxFrame
          then .ok response
          else .error (undecodable (.frameTooLarge (Slip.maxEncodedLength maxFrame)
            (Slip.maxEncodedLength maxFrame))) := by
  rw [run_of_encode x l hquestion]
  constructor
  · intro response hresponse
    obtain ⟨frame, hframe, hanswers⟩ := readAnswer_eq_ok_iff.mp hresponse
    exact ⟨frame, hframe, hanswers, length_le_of_transact hframe⟩
  · intro frame response noise k tail chunks s' hanswers hnoise hreceives hchunks
    have hne : frame ≠ [] := by
      rintro rfl
      obtain ⟨p, ⟨d⟩, -⟩ := hanswers
      exact absurd d.headerSize_le (by decide)
    dsimp only
    rw [transact_of_wrapped hdiscard hsend hnoise hne hreceives hchunks]
    split
    · exact readAnswer_eq_ok_iff.mpr ⟨frame, rfl, hanswers⟩
    · rfl

end Exchange

/-! ## Long frames -/

/-- The frame of a packet is read whether it keeps to the limit or not, as long as two bytes can hold
    its length. -/
theorem Packet.nonempty_dissection_frame {p : Packet} (h : p.size < LittleEndian.span 2)
    (hstatus : p.StatusFits) : Nonempty (Packet.Dissection p.frame p) := by
  have hread := Descriptor.readChain_chain 0 (p.fields.map Field.width) []
  obtain ⟨chain, happ, hchain⟩ := Descriptor.chain_of_readChain hread
  rw [← List.append_cancel_right happ] at hchain
  refine ⟨⟨UInt8.ofNat p.size, UInt8.ofNat (p.size / 256), Checksum.frameSum (p.frameWith 0),
    p.descriptors, rfl, ?_, ?_, hchain, hstatus⟩⟩
  · show LittleEndian.decode (LittleEndian.encode 2 p.size) = p.frame.length
    rw [LittleEndian.decode_encode h, length_frame]
  · rw [← Checksum.frameSum_eq, frameSum_frame]

namespace Exchange

/-- An answer to closing a session, with a payload that nobody reads. -/
def paddedAnswer (fill : UInt8) (length : Nat) : Packet :=
  .ofStatus .close .ok (List.replicate length fill)

theorem answers_padded (fill : UInt8) {length : Nat} (h : 7 + length < LittleEndian.span 2) :
    Response.Answers .close (paddedAnswer fill length).frame .closed := by
  have hsize : (paddedAnswer fill length).size = 7 + length := by
    show 5 + 1 + 1 + (List.replicate length fill).length = _
    rw [List.length_replicate]
  have hstatus : (paddedAnswer fill length).StatusFits := by
    intro f hf
    cases hf
    decide
  exact ⟨_, Packet.nonempty_dissection_frame (hsize ▸ h) hstatus, rfl, rfl, [], _, rfl, .closed⟩

/-- A link on which this answer comes in. -/
def padding (fill : UInt8) (length : Nat) : Script :=
  { connected := true, reply := [.bytes (Slip.encode (paddedAnswer fill length).frame)] }

/-- What there is to be heard once something has been sent. -/
def heardPadding (fill : UInt8) (length : Nat) : Script :=
  { connected := true, inbound := [.bytes (Slip.encode (paddedAnswer fill length).frame)] }

/-- The link brings the whole answer at once. -/
theorem receives_padding (fill : UInt8) (length : Nat) :
    ∃ chunks s', Receives standard Script.link
        (Script.link.now (heardPadding fill length) + standard.timeout) (heardPadding fill length)
        chunks s' ∧
      chunks.flatten = [] ++ List.replicate 0 Slip.END
        ++ Slip.encode (paddedAnswer fill length).frame ++ [] := by
  refine ⟨[Slip.encode (paddedAnswer fill length).frame], _,
    .chunk (show 0 < 0 + standard.timeout by decide) rfl (.done _), ?_⟩
  rw [List.flatten_singleton, List.append_nil]
  rfl

theorem discard_padding (fill : UInt8) (length : Nat) :
    Script.link.discard (padding fill length) = (.ok (), padding fill length) := rfl

theorem send_padding (fill : UInt8) (length : Nat) (bytes : List UInt8) :
    Script.link.send bytes (padding fill length) = (.ok (), heardPadding fill length) := rfl

/-- A frame of 1028 bytes is refused, because 1021 of them have to be escaped. -/
theorem escaped_answer_refused :
    (standard.run Script.link (.close 1) (padding 0xC0 1021)).1
      = .error (undecodable (.frameTooLarge 2050 2050)) := by
  obtain ⟨question, hquestion⟩ : ∃ question, (Request.close 1).encode = .ok question := ⟨_, rfl⟩
  obtain ⟨chunks, s', hreceives, hchunks⟩ := receives_padding 0xC0 1021
  obtain ⟨-, hfits⟩ := answer_fits_iff_room standard Script.link hquestion
    (discard_padding 0xC0 1021) (send_padding 0xC0 1021 _)
  rw [hfits _ _ _ _ _ _ _ (answers_padded 0xC0 (by decide)) List.not_mem_nil hreceives hchunks]
  exact if_neg (by decide +kernel)

/-- **An answer longer than a frame may be is taken**: one of 1025 bytes, of which none has to be
    escaped. -/
theorem frame_beyond_limit :
    ∃ question frame, (Request.close 1).encode = .ok question ∧
      (standard.transact Script.link question (padding 0 1018)).1 = .ok frame ∧
      maxFrame < frame.length ∧
      (standard.run Script.link (.close 1) (padding 0 1018)).1 = .ok .closed := by
  obtain ⟨question, hquestion⟩ : ∃ question, (Request.close 1).encode = .ok question := ⟨_, rfl⟩
  obtain ⟨chunks, s', hreceives, hchunks⟩ := receives_padding 0 1018
  have htransact := transact_of_wrapped (discard_padding 0 1018)
    (send_padding 0 1018 (Slip.encode question)) List.not_mem_nil (List.cons_ne_nil _ _)
    hreceives hchunks
  rw [if_pos (by decide +kernel)] at htransact
  refine ⟨question, _, hquestion, htransact, by decide +kernel, ?_⟩
  rw [run_of_encode standard Script.link hquestion]
  dsimp only
  rw [htransact]
  exact readAnswer_eq_ok_iff.mpr ⟨_, rfl, answers_padded 0 (by decide)⟩

end Exchange

end CompanionBus
