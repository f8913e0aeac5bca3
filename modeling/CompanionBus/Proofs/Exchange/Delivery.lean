import CompanionBus.Link.Script
import CompanionBus.Proofs.Exchange.Await
import CompanionBus.Proofs.Packet.RoundTrip
/-
  From the far end to the caller: an answer that the device sends is the answer that is returned.

  1. **Specification** (`answer_delivered`) — the wrapped frame of a packet may stand behind noise
     and any number of `END`s, may be followed by anything, and may come in cut anywhere, with
     silence in between. As long as every look at the link up to the one that brings the closing
     `END` is made in time, the exchange returns that frame, and the answer that its packet parses
     as.

  2. **Layers** — from the outside in: the wait (`await_of_receives`), the accumulator
     (`push_frame`), the wrapping (`Slip.decode_encode`), the frame (`Packet.decode_frame`), and the
     parser, which is where both sides meet.

  3. **The crux (`push_pieces`)** — up to the closing `END` no piece completes anything, because the
     pieces so far are the beginning of an opening, and a stream that completes nothing has no
     beginning that does. The piece with the closing `END` then completes the frame, since it does
     so when all is pushed at once.
-/
namespace CompanionBus.Exchange

variable {σ : Type}

/-- The frame in a wrapped frame that holds something. -/
theorem unwrap_encode {frame : List UInt8} (hne : frame ≠ []) :
    unwrap (Slip.encode frame) = .ok frame := by
  obtain ⟨b, rest, rfl⟩ := List.exists_cons_of_ne_nil hne
  have hdecode := Slip.decode_encode (b :: rest) []
  rw [List.append_nil] at hdecode
  rw [unwrap, hdecode]

/-- **Where the pieces are cut does not matter.** If a stream is cut into a piece that falls short of
    the closing `END`, a piece that brings it, and a remainder, then the first completes nothing and
    the second completes the frame. -/
theorem push_pieces {noise frame trailing before last rest : List UInt8} {k maxFrame : Nat}
    (hfits : Accumulator.Fits maxFrame) (hnoise : Slip.END ∉ noise) (hne : frame ≠ []) (hlen : frame.length ≤ maxFrame)
    (hstream : before ++ (last ++ rest)
      = Accumulator.opening noise k frame ++ Slip.END :: trailing)
    (hbefore : before.length ≤ (Accumulator.opening noise k frame).length)
    (hlast : (Accumulator.opening noise k frame).length < (before ++ last).length) :
    ∃ a, (Accumulator.ofMaxFrame maxFrame).push before = (.ok none, a) ∧
      a.push last = (.ok (some (Slip.encode frame)), Accumulator.ofMaxFrame maxFrame) := by
  -- the piece that falls short is the beginning of the opening
  have hshort : before <+: Accumulator.opening noise k frame :=
    List.prefix_of_prefix_length_le ⟨last ++ rest, hstream⟩ (List.prefix_append _ _) hbefore
  obtain ⟨remaining, hremaining⟩ := hshort
  have hopening := Accumulator.push_opening hfits hnoise hlen k
  rw [← hremaining] at hopening
  obtain ⟨a, ha⟩ := Accumulator.push_left_of_append hopening
  -- both pieces together begin with the opening and the closing `END`
  have hclosed : Accumulator.opening noise k frame ++ [Slip.END] <+: before ++ last := by
    have hopened : Accumulator.opening noise k frame ++ [Slip.END] <+: before ++ (last ++ rest) :=
      ⟨trailing, by rw [hstream, List.append_assoc, List.singleton_append]⟩
    have hpieces : before ++ last <+: before ++ (last ++ rest) := ⟨rest, List.append_assoc ..⟩
    apply List.prefix_of_prefix_length_le hopened hpieces
    rw [List.length_append, List.length_singleton]
    exact hlast
  obtain ⟨middle, hmiddle⟩ := hclosed
  rw [List.append_assoc, List.singleton_append] at hmiddle
  have hframe := Accumulator.push_frame hfits hnoise hne hlen k middle
  rw [hmiddle, Accumulator.push_append, ha] at hframe
  exact ⟨a, ha, hframe⟩

/-- **An answer is delivered.** Let the far end send the wrapped frame of a packet with a proper
    status, after noise and any number of `END`s, and with anything behind it; let this stream come
    in cut in any way, `last` being the piece that brings the closing `END`, and let every look at
    the link up to that one be made before the deadline. Then the exchange of frames returns that
    frame, the exchange of the request returns what the packet parses as, and nothing more is
    received. -/
theorem answer_delivered (x : Exchange) (l : Link σ) {request : Request} {answer : Packet}
    {question frame noise trailing last : List UInt8} {before after : List (List UInt8)} {k : Nat}
    {s s₁ s₂ s₃ : σ}
    (hquestion : request.encode = .ok question)
    (hanswer : answer.encode = .ok frame)
    (hstatus : answer.StatusFits)
    (hnoise : Slip.END ∉ noise)
    (hdiscard : l.discard s = (.ok (), s₁))
    (hsend : l.send (Slip.encode question) s₁ = (.ok (), s₂))
    (hstream : (before ++ last :: after).flatten
      = noise ++ List.replicate k Slip.END ++ Slip.encode frame ++ trailing)
    (hbefore : before.flatten.length
      < (noise ++ List.replicate k Slip.END ++ Slip.encode frame).length)
    (hlast : (noise ++ List.replicate k Slip.END ++ Slip.encode frame).length
      ≤ (before ++ [last]).flatten.length)
    (hreceives : Receives x l (l.now s₂ + x.timeout) s₂ (before ++ [last]) s₃) :
    x.transact l question s = (.ok frame, s₃) ∧
      x.run l request s =
        ((Response.parse request.command answer).mapError ClientError.protocol, s₃) := by
  obtain ⟨hsize, rfl⟩ := Packet.encode_eq_ok_iff.mp hanswer
  have hne : answer.frame ≠ [] := List.cons_ne_nil _ _
  have hlen : answer.frame.length ≤ maxFrame := by rwa [Packet.length_frame]
  -- the accumulator: the pieces before the last complete nothing, and the last one the frame
  have hopening : (Accumulator.opening noise k answer.frame).length + 1
      = (noise ++ List.replicate k Slip.END ++ Slip.encode answer.frame).length := by
    have := congrArg List.length (Accumulator.opening_append noise k answer.frame [])
    simpa using this
  rw [← Accumulator.opening_append, List.flatten_append, List.flatten_cons] at hstream
  rw [List.flatten_append, List.flatten_singleton] at hlast
  obtain ⟨a, ha, hcompleted⟩ :=
    push_pieces Accumulator.fits_maxFrame hnoise hne hlen hstream (by omega) (by omega)
  -- the wait: it goes through all pieces and ends with the last
  obtain ⟨s', hfirst, hrest⟩ := hreceives.split
  have hawait : x.await l (l.now s₂ + x.timeout) (Accumulator.ofMaxFrame maxFrame) s₂
      = (.ok answer.frame, s₃) := by
    rw [await_of_receives hfirst ha, await_of_completed hrest hcompleted, unwrap_encode hne]
  have htransact : x.transact l question s = (.ok answer.frame, s₃) := by
    rw [transact, hdiscard]
    dsimp only
    rw [hsend]
    exact hawait
  refine ⟨htransact, ?_⟩
  rw [run, hquestion]
  dsimp only
  rw [htransact]
  dsimp only
  rw [readAnswer, Response.decode, Packet.decode_frame_of_statusFits hsize hstatus]
  dsimp only
  cases Response.parse request.command answer <;> rfl

/-- A frame that tells the time, with a byte in it that has to be escaped. -/
def timeFrame : List UInt8 :=
  [0x45, 0x01, 0x13, 0x00, 0x1C, 0x01, 0x00, 0x01, 0, 0, 0, 0xC0, 0, 0, 0, 0, 0, 0, 0]

/-- That frame in pieces, after noise and an extra `END`; the last cut goes through a stand-in. -/
def timePieces : List (List UInt8) :=
  [[0x00], [], [0x13, 0xC0, 0xC0, 0x45, 0x01, 0x13, 0x00, 0x1C, 0x01, 0x00, 0x01, 0, 0, 0, 0xDB]]

/-- The piece that closes the frame, and a byte too many. -/
def closingPiece : List UInt8 := [0xDC, 0, 0, 0, 0, 0, 0, 0, 0xC0, 0x55]

/-- The far end while it sends those pieces, with a pause in between that is longer than one look at
    the link. -/
def timeEvents : List Event :=
  [.bytes [0x00], .bytes [], .pause 150, .bytes timePieces[2], .bytes closingPiece]

/-- The time is delivered in those pieces. -/
theorem time_delivered_in_pieces :
    standard.run Script.link .clockGet { connected := true, reply := timeEvents }
      = (.ok (.time ⟨0xC0⟩), { connected := true, clock := 150 }) := by
  have hanswer : (Packet.ofStatus .clockGet .ok [1, 0, 0, 0, 0xC0, 0, 0, 0, 0, 0, 0, 0]).encode
      = .ok timeFrame := rfl
  have hstream : (timePieces ++ [closingPiece]).flatten
      = [0x00, 0x13] ++ List.replicate 1 Slip.END ++ Slip.encode timeFrame ++ [0x55] := by decide
  have hreceives : Receives standard Script.link
      (Script.link.now { connected := true, inbound := timeEvents } + standard.timeout)
      { connected := true, inbound := timeEvents }
      (timePieces ++ [closingPiece]) { connected := true, clock := 150 } :=
    .chunk (by decide) rfl <| .chunk (by decide) rfl <| .silence (by decide) rfl <|
      .chunk (by decide) rfl <| .chunk (by decide) rfl <| .done _
  exact (answer_delivered standard Script.link rfl hanswer (by decide) (by decide) rfl rfl hstream
    (by decide) (by decide) hreceives).2

end CompanionBus.Exchange
