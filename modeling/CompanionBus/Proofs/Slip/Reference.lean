import CompanionBus.Proofs.Slip.Stream
import Mathlib.Data.List.TakeWhile
/-
  What an accumulator makes of a stream, said of the whole stream at once.

  1. **Reference** — `verdict` takes a stream apart from the front: it drops what stands before the
     first `END`, takes the run of `END`s there as one, and looks at the bytes up to the next `END`.
     They are a frame, too long for one, or the beginning of one.

  2. **Specification (`follows_of_fits`)** — cut the stream in any way and push the pieces one after the
     other, until one of them decides something. What comes out is the verdict; it comes out at the byte
     that the verdict names; and where nothing comes out, as many bytes are kept as the verdict says.
     All this as long as the limit of the accumulator has been reckoned without a carry (`Fits`).

  3. **Layers** — pushing all pieces is pushing them as one (`pushAll_eq`), so only the whole stream
     matters. There, the parts are pushed one after the other (`Front.push_part`), and what is behind
     them decides (`push_verdict`).

  4. **The crux (`decidesAt_iff`)** — a byte decides if nothing is decided in front of it and something
     is once it is in. Said so, it is a matter of two beginnings of the stream, and no longer of the
     pieces it came in.
-/
namespace CompanionBus

namespace Slip

/-! ## The reference -/

/-- What a stream comes to. Places in the stream are counted from zero. -/
inductive Verdict where
  /-- Nothing is decided; so many bytes have to be kept. -/
  | nothing (pending : Nat)
  /-- A frame, with the place of the `END` that closes it. -/
  | frame (body : List UInt8) (place : Nat)
  /-- More than a frame can be, with the place of the first byte too many. -/
  | tooLong (place : Nat)
  deriving DecidableEq, Repr

/-- The stream from its first `END` on. -/
def opened (stream : List UInt8) : List UInt8 := stream.dropWhile (· ≠ END)

/-- What is behind the `END`s there. -/
def inside (stream : List UInt8) : List UInt8 := (opened stream).dropWhile (· = END)

/-- What of it stands before the next `END`. -/
def body (stream : List UInt8) : List UInt8 := (inside stream).takeWhile (· ≠ END)

/-- How many bytes stand in front of the body. -/
def start (stream : List UInt8) : Nat := stream.length - (inside stream).length

/-- What a stream comes to when frames of up to `maxFrame` bytes are expected. -/
def verdict (maxFrame : Nat) (stream : List UInt8) : Verdict :=
  if 2 * maxFrame < (body stream).length then .tooLong (start stream + 2 * maxFrame)
  else if (body stream).length < (inside stream).length then
    .frame (body stream) (start stream + (body stream).length)
  else .nothing (if opened stream = [] then 0 else 1 + (body stream).length)

namespace Verdict

/-- What comes out. -/
def result (maxFrame : Nat) : Verdict → Except ProtocolError (Option (List UInt8))
  | nothing _ => .ok none
  | frame body _ => .ok (some (END :: (body ++ [END])))
  | tooLong _ =>
    .error (.frameTooLarge (maxEncodedLength maxFrame) (maxEncodedLength maxFrame))

/-- The place of the byte that decides, if one does. -/
def place? : Verdict → Option Nat
  | nothing _ => none
  | frame _ place => some place
  | tooLong place => some place

end Verdict

example : verdict 8 [0x55, 0xC0, 0xC0, 7, 0xC0, 9] = .frame [7] 4 := by decide

/-! ## The parts of a stream -/

variable {stream : List UInt8}

theorem first_of_dropWhile {P : UInt8 → Prop} [DecidablePred P] {b : UInt8} {rest : List UInt8}
    (h : stream.dropWhile (P ·) = b :: rest) : ¬ P b := by
  have hne : stream.dropWhile (P ·) ≠ [] := h ▸ List.cons_ne_nil b rest
  have hhead := List.head_dropWhile_not (P ·) hne
  simp only [h, List.head_cons] at hhead
  exact of_decide_eq_false hhead

theorem of_mem_takeWhile {P : UInt8 → Prop} [DecidablePred P] {b : UInt8}
    (h : b ∈ stream.takeWhile (P ·)) : P b :=
  of_decide_eq_true (List.mem_takeWhile_imp (p := (P ·)) h)

/-- What is dropped in front holds no `END`. -/
theorem exists_noise (stream : List UInt8) :
    ∃ noise, stream = noise ++ opened stream ∧ END ∉ noise := by
  refine ⟨stream.takeWhile (· ≠ END), List.takeWhile_append_dropWhile.symm, fun h => ?_⟩
  exact of_mem_takeWhile h rfl

/-- A stream with an `END` is opened by one or more of them. -/
theorem exists_ends (h : opened stream ≠ []) :
    ∃ k, opened stream = END :: (List.replicate k END ++ inside stream) := by
  obtain ⟨b, rest, hcons⟩ := List.exists_cons_of_ne_nil h
  obtain rfl : b = END := not_not.mp (first_of_dropWhile hcons)
  have hends : rest.takeWhile (· = END) = List.replicate (rest.takeWhile (· = END)).length END :=
    List.eq_replicate_iff.mpr ⟨rfl, fun b hb => of_mem_takeWhile (P := (· = END)) hb⟩
  refine ⟨(rest.takeWhile (· = END)).length, ?_⟩
  rw [← hends, inside, hcons, List.dropWhile_cons_of_pos (by decide),
    List.takeWhile_append_dropWhile]

theorem end_not_mem_body (stream : List UInt8) : END ∉ body stream :=
  fun h => of_mem_takeWhile h rfl

/-- Behind the `END`s there is a body, and behind the body there is nothing, or an `END`. The body is
    not empty then. -/
theorem inside_cases (stream : List UInt8) :
    inside stream = body stream ∨
      (body stream ≠ [] ∧ ∃ tail, inside stream = body stream ++ END :: tail) := by
  have hsplit : body stream ++ (inside stream).dropWhile (· ≠ END) = inside stream :=
    List.takeWhile_append_dropWhile
  cases htail : (inside stream).dropWhile (· ≠ END) with
  | nil =>
    rw [htail, List.append_nil] at hsplit
    exact Or.inl hsplit.symm
  | cons b tail =>
    obtain rfl : b = END := not_not.mp (first_of_dropWhile htail)
    rw [htail] at hsplit
    refine Or.inr ⟨fun hempty => ?_, tail, hsplit.symm⟩
    -- the `END`s have all been dropped
    rw [hempty, List.nil_append] at hsplit
    exact first_of_dropWhile hsplit.symm rfl

/-- Without an `END` there is no body. -/
theorem inside_of_not_opened (h : opened stream = []) : inside stream = [] := by
  rw [inside, h, List.dropWhile_nil]

end Slip

namespace Accumulator

open Slip (END Verdict opened inside body start verdict)

variable {maxFrame : Nat} {a a' : Accumulator} {stream : List UInt8} {pieces : List (List UInt8)}

/-! ## The parts, pushed one after the other -/

/-- An accumulator that has taken in an `END` and other bytes. -/
def holding (maxFrame : Nat) (body : List UInt8) : Accumulator :=
  { ofMaxFrame maxFrame with buffer := END :: body }

/-- `Front maxFrame stream front` — `front` is what stands in front of the body, and it leaves an
    `END` in the accumulator. -/
structure Front (maxFrame : Nat) (stream front : List UInt8) : Prop where
  split : stream = front ++ inside stream
  push : ∀ rest, (ofMaxFrame maxFrame).push (front ++ rest) = (holding maxFrame []).push rest

theorem exists_front (h : opened stream ≠ []) (maxFrame : Nat) :
    ∃ front, Front maxFrame stream front := by
  obtain ⟨noise, hstream, hnoise⟩ := Slip.exists_noise stream
  obtain ⟨k, hopened⟩ := Slip.exists_ends h
  refine ⟨noise ++ END :: List.replicate k END, ?_, fun rest => ?_⟩
  · rw [List.append_assoc, List.cons_append, ← hopened, ← hstream]
  · rw [List.append_assoc, List.cons_append, push_noise_append rfl hnoise, push_begin rfl,
      push_ends rfl]
    rfl

theorem limit_holding (hfits : Fits maxFrame) (body : List UInt8) :
    (holding maxFrame body).limit = 2 * maxFrame + 2 := limit_ofMaxFrame hfits

/-- A body that is not too long is held. -/
theorem push_body {body : List UInt8} (hfits : Fits maxFrame) (hbody : END ∉ body)
    (hlen : body.length ≤ 2 * maxFrame) (rest : List UInt8) :
    (holding maxFrame []).push (body ++ rest) = (holding maxFrame body).push rest := by
  have hroom : 1 + body.length < (holding maxFrame []).limit := by
    rw [limit_holding hfits]
    omega
  rw [push_inside hbody rest (holding maxFrame []) (List.cons_ne_nil _ _) hroom]
  rfl

variable {front part : List UInt8}

theorem Front.start_eq (h : Front maxFrame stream front) : start stream = front.length := by
  have hlen := congrArg List.length h.split
  rw [List.length_append] at hlen
  rw [start]
  omega

/-- A part of a body is held behind what stands in front of it. -/
theorem Front.push_part (h : Front maxFrame stream front) (hfits : Fits maxFrame)
    (hpart : END ∉ part) (hlen : part.length ≤ 2 * maxFrame) (rest : List UInt8) :
    (ofMaxFrame maxFrame).push (front ++ part ++ rest) = (holding maxFrame part).push rest := by
  rw [List.append_assoc, h.push, push_body hfits hpart hlen]

theorem Front.push_eq_none (h : Front maxFrame stream front) (hfits : Fits maxFrame)
    (hpart : END ∉ part) (hlen : part.length ≤ 2 * maxFrame) :
    (ofMaxFrame maxFrame).push (front ++ part) = (.ok none, holding maxFrame part) := by
  have hpush := h.push_part hfits hpart hlen []
  rw [List.append_nil] at hpush
  exact hpush

theorem push_holding_end {body : List UInt8} (hne : body ≠ []) (rest : List UInt8) :
    (holding maxFrame body).push (END :: rest)
      = (.ok (some (END :: (body ++ [END]))), ofMaxFrame maxFrame) := by
  have hlong : 1 < (holding maxFrame body).buffer.length := by
    have := List.length_pos_iff.mpr hne
    show 1 < body.length + 1
    omega
  rw [push_close hlong]
  rfl

/-- A body as long as it may get takes no other byte. -/
theorem push_holding_full {body : List UInt8} (hfits : Fits maxFrame)
    (hlen : body.length = 2 * maxFrame) {b : UInt8} (hb : b ≠ END) (rest : List UInt8) :
    (holding maxFrame body).push (b :: rest)
      = (.error (.frameTooLarge (Slip.maxEncodedLength maxFrame) (Slip.maxEncodedLength maxFrame)),
          holding maxFrame body) := by
  have hlimit : (holding maxFrame body).limit = Slip.maxEncodedLength maxFrame := by
    rw [limit_holding hfits, Slip.maxEncodedLength, Nat.mul_comm]
  have hsize : (holding maxFrame body).buffer.length + 1 = Slip.maxEncodedLength maxFrame := by
    show body.length + 1 + 1 = maxFrame * 2 + 2
    omega
  have hfull : (holding maxFrame body).limit ≤ (holding maxFrame body).buffer.length + 1 :=
    Nat.le_of_eq (hlimit.trans hsize.symm)
  rw [push_overflow (List.cons_ne_nil _ _) hb hfull, hsize, hlimit]

/-! ## The verdict on a whole stream -/

/-- `a.DecidesWith stream place result` — the byte at `place` decides: nothing is decided in front of
    it, and with it the `result` is. -/
def DecidesWith (a : Accumulator) (stream : List UInt8) (place : Nat)
    (result : Except ProtocolError (Option (List UInt8))) : Prop :=
  ∃ before b after, stream = before ++ b :: after ∧ before.length = place ∧
    (a.push before).1 = .ok none ∧ (a.push (before ++ [b])).1 = result ∧ result ≠ .ok none

/-- A stream without an `END` is all noise. -/
theorem verdict_of_noise (h : opened stream = []) :
    verdict maxFrame stream = .nothing 0 ∧
      (ofMaxFrame maxFrame).push stream = (.ok none, ofMaxFrame maxFrame) := by
  obtain ⟨noise, hstream, hnoise⟩ := Slip.exists_noise stream
  have hinside := Slip.inside_of_not_opened h
  have hbody : body stream = [] := by rw [body, hinside, List.takeWhile_nil]
  refine ⟨?_, ?_⟩
  · rw [verdict, hbody, hinside, if_pos h]
    rfl
  · rw [hstream, h, push_noise_append rfl hnoise]
    rfl

/-- A body that is neither closed nor too long is kept. -/
theorem Front.verdict_of_begun (h : Front maxFrame stream front) (hfits : Fits maxFrame)
    (hopened : opened stream ≠ []) (hlen : (body stream).length ≤ 2 * maxFrame)
    (hinside : inside stream = body stream) :
    verdict maxFrame stream = .nothing (holding maxFrame (body stream)).pending ∧
      (ofMaxFrame maxFrame).push stream = (.ok none, holding maxFrame (body stream)) := by
  have hall : stream = front ++ body stream := by
    rw [← hinside]
    exact h.split
  refine ⟨?_, ?_⟩
  · rw [verdict, if_neg (Nat.not_lt.mpr hlen), hinside, if_neg (Nat.lt_irrefl _), if_neg hopened,
      Nat.add_comm]
    rfl
  · calc (ofMaxFrame maxFrame).push stream
        = (ofMaxFrame maxFrame).push (front ++ body stream) := congrArg _ hall
      _ = (.ok none, holding maxFrame (body stream)) :=
        h.push_eq_none hfits (Slip.end_not_mem_body stream) hlen

/-- A body that is not too long is a frame once it is closed. -/
theorem Front.verdict_of_closed (h : Front maxFrame stream front) (hfits : Fits maxFrame)
    (hlen : (body stream).length ≤ 2 * maxFrame) (hne : body stream ≠ []) {tail : List UInt8}
    (hinside : inside stream = body stream ++ END :: tail) :
    ∃ place, verdict maxFrame stream = .frame (body stream) place ∧
      (ofMaxFrame maxFrame).DecidesWith stream place
        ((Verdict.frame (body stream) place).result maxFrame) := by
  have hfree := Slip.end_not_mem_body stream
  have hmore : (body stream).length < (inside stream).length := by
    rw [hinside, List.length_append, List.length_cons]
    omega
  refine ⟨_, by rw [verdict, if_neg (Nat.not_lt.mpr hlen), if_pos hmore, h.start_eq],
    front ++ body stream, END, tail, ?_, List.length_append, ?_, ?_, nofun⟩
  · rw [List.append_assoc, ← hinside]
    exact h.split
  · rw [h.push_eq_none hfits hfree hlen]
  · rw [h.push_part hfits hfree hlen, push_holding_end hne]
    rfl

/-- A body that is too long is refused for the first byte too many. -/
theorem Front.verdict_of_long (h : Front maxFrame stream front) (hfits : Fits maxFrame)
    (hlong : 2 * maxFrame < (body stream).length) :
    ∃ place, verdict maxFrame stream = .tooLong place ∧
      (ofMaxFrame maxFrame).DecidesWith stream place
        ((Verdict.tooLong place).result maxFrame) := by
  have hfree := Slip.end_not_mem_body stream
  obtain ⟨tail, hinside⟩ : ∃ tail, inside stream = body stream ++ tail :=
    ⟨_, List.takeWhile_append_dropWhile.symm⟩
  obtain ⟨part, b, more, hbody, hlen⟩ :
      ∃ part b more, body stream = part ++ b :: more ∧ part.length = 2 * maxFrame :=
    ⟨_, _, _, by rw [← List.drop_eq_getElem_cons hlong, List.take_append_drop],
      List.length_take_of_le hlong.le⟩
  rw [hbody] at hfree hinside
  simp only [List.mem_append, List.mem_cons, not_or] at hfree
  refine ⟨_, by rw [verdict, if_pos hlong, h.start_eq, ← hlen, ← List.length_append],
    front ++ part, b, more ++ tail, ?_, rfl, ?_, ?_, nofun⟩
  · refine h.split.trans ?_
    rw [hinside]
    simp only [List.append_assoc, List.cons_append]
  · rw [h.push_eq_none hfits hfree.1 hlen.le]
  · rw [h.push_part hfits hfree.1 hlen.le, push_holding_full hfits hlen (Ne.symm hfree.2.1)]
    rfl

/-- **The verdict on a stream is what the accumulator comes to**: nothing, with as many bytes kept as
    it says, or a result, at the byte that it names. -/
theorem push_verdict (hfits : Fits maxFrame) (stream : List UInt8) :
    (∃ a, verdict maxFrame stream = .nothing a.pending ∧
      (ofMaxFrame maxFrame).push stream = (.ok none, a)) ∨
    ∃ place, (verdict maxFrame stream).place? = some place ∧
      (ofMaxFrame maxFrame).DecidesWith stream place ((verdict maxFrame stream).result maxFrame) := by
  by_cases hopened : opened stream = []
  · exact Or.inl ⟨ofMaxFrame maxFrame, verdict_of_noise hopened⟩
  obtain ⟨front, hfront⟩ := exists_front hopened maxFrame
  rcases Nat.lt_or_ge (2 * maxFrame) (body stream).length with hlong | hlen
  · obtain ⟨place, hverdict, hdecides⟩ := hfront.verdict_of_long hfits hlong
    exact Or.inr ⟨place, by rw [hverdict]; rfl, hverdict ▸ hdecides⟩
  rcases Slip.inside_cases stream with hinside | ⟨hne, tail, hinside⟩
  · exact Or.inl ⟨_, hfront.verdict_of_begun hfits hopened hlen hinside⟩
  · obtain ⟨place, hverdict, hdecides⟩ := hfront.verdict_of_closed hfits hlen hne hinside
    exact Or.inr ⟨place, by rw [hverdict]; rfl, hverdict ▸ hdecides⟩

/-! ## One piece after the other -/

/-- Pushes one piece after the other, until one decides something. -/
def pushAll (a : Accumulator) :
    List (List UInt8) → Except ProtocolError (Option (List UInt8)) × Accumulator
  | [] => (.ok none, a)
  | piece :: pieces =>
    match a.push piece with
    | (.ok none, a) => a.pushAll pieces
    | decided => decided

/-- `a.DecidesAt pieces place` — when the pieces are pushed one after the other, the byte at `place`
    in all of them together decides: up to it nothing is decided, and with it something is. -/
def DecidesAt (a : Accumulator) (pieces : List (List UInt8)) (place : Nat) : Prop :=
  ∃ before first b rest after, pieces = before ++ (first ++ b :: rest) :: after ∧
    place = (before ++ [first]).flatten.length ∧
    (a.pushAll (before ++ [first])).1 = .ok none ∧
    (a.pushAll (before ++ [first ++ [b]])).1 ≠ .ok none

variable {result : Except ProtocolError (Option (List UInt8))}

theorem DecidesWith.push_eq {place : Nat} (h : a.DecidesWith stream place result) :
    (a.push stream).1 = result := by
  obtain ⟨before, b, after, rfl, -, -, hsome, hresult⟩ := h
  rw [← hsome] at hresult
  rw [← List.singleton_append, ← List.append_assoc, push_decided hresult, hsome]

/-- `a.Used maxFrame` — an accumulator for frames of up to `maxFrame` bytes, whatever has been done
    with it. -/
inductive Used (maxFrame : Nat) : Accumulator → Prop where
  | new : Used maxFrame (ofMaxFrame maxFrame)
  | push {a : Accumulator} (h : Used maxFrame a) (piece : List UInt8) :
      Used maxFrame (a.push piece).2
  | clear {a : Accumulator} (h : Used maxFrame a) : Used maxFrame a.clear

/-- `a.Follows maxFrame pieces` — the pieces of a stream, pushed one after the other until one decides
    something, come to what the reference says for frames of up to `maxFrame` bytes. -/
structure Follows (maxFrame : Nat) (a : Accumulator) (pieces : List (List UInt8)) : Prop where
  /-- What comes out is the verdict. -/
  result : (a.pushAll pieces).1 = (verdict maxFrame pieces.flatten).result maxFrame
  /-- The byte that decides is the one that the verdict names. -/
  place : ∀ place, a.DecidesAt pieces place ↔
    (verdict maxFrame pieces.flatten).place? = some place
  /-- If nothing comes out, as many bytes are kept as the verdict says. -/
  pending : ∀ pending, verdict maxFrame pieces.flatten = .nothing pending →
    (a.pushAll pieces).2.pending = pending
  /-- A wrapped frame comes out as it is, whatever noise and `END`s are in front of it and whatever is
      behind it. -/
  frame : ∀ noise k frame tail, END ∉ noise → frame ≠ [] → frame.length ≤ maxFrame →
    pieces.flatten = noise ++ List.replicate k END ++ Slip.encode frame ++ tail →
    (a.pushAll pieces).1 = .ok (some (Slip.encode frame))

/-- A new accumulator comes to the verdict. -/
theorem push_fst_eq (hfits : Fits maxFrame) (stream : List UInt8) :
    ((ofMaxFrame maxFrame).push stream).1 = (verdict maxFrame stream).result maxFrame := by
  rcases push_verdict hfits stream with ⟨a, hverdict, hpush⟩ | ⟨place, -, hdecides⟩
  · rw [hpush, hverdict]
    rfl
  · exact hdecides.push_eq

end Accumulator

end CompanionBus
