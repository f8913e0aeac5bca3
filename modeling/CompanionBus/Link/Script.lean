import CompanionBus.Link
/-
  A link that plays a script: what comes in, when it comes in, and what fails is set beforehand.

  1. **Program** — `inbound` is what will come in, in order. The reply under `reply` joins it when
     something is sent, as the answer of a device would. A failure under `failures` makes one
     operation of its kind fail and is then used up. `clock` advances by the pauses waited out and
     by nothing else.

  2. **The crux** — `receive` waits at most its own time for each pause. A longer pause is left with
     the rest of its length, so that nothing is skipped, whatever steps the waiting is done in.
-/
namespace CompanionBus

/-- Something that happens at the far end. -/
inductive Event where
  /-- Bytes come in, possibly none. -/
  | bytes (bs : List UInt8)
  /-- Nothing happens for so many milliseconds. -/
  | pause (millis : Nat)
  /-- The far end closes the link. -/
  | hangUp
  /-- Receiving fails. -/
  | failure (error : LinkError)
  deriving DecidableEq, Repr

/-- The operations that can be made to fail. -/
inductive LinkStage where
  | connect
  | disconnect
  | send
  | discard
  deriving DecidableEq, Repr

/-- What is set, and how far it has been played. -/
structure Script where
  connected : Bool
  inbound : List Event := []
  reply : List Event := []
  failures : List (LinkStage × LinkError) := []
  clock : Nat := 0
  deriving DecidableEq

namespace Script

/-- An operation, or the first failure that is set for it. -/
def unlessFailing (stage : LinkStage) (act : Script → Except LinkError Unit × Script) (s : Script) :
    Except LinkError Unit × Script :=
  match s.failures.find? (·.1 = stage) with
  | some (_, e) => (.error e, { s with failures := s.failures.eraseP (·.1 = stage) })
  | none => act s

/-- Sending brings the reply under way. -/
def answer (s : Script) : Except LinkError Unit × Script :=
  if s.connected then (.ok (), { s with inbound := s.inbound ++ s.reply, reply := [] })
  else (.error .notConnected, s)

/-- Plays the given events until bytes come in, receiving fails, or a pause lasts longer than
    `wait`. -/
def play (wait : Nat) : List Event → Script → Except LinkError (List UInt8) × Script
  | [], s => (.error .readTimeout, { s with inbound := [], clock := s.clock + wait })
  | .bytes bs :: rest, s => (.ok bs, { s with inbound := rest })
  | .pause n :: rest, s =>
    if wait < n then
      (.error .readTimeout,
        { s with inbound := .pause (n - wait) :: rest, clock := s.clock + wait })
    else play wait rest { s with clock := s.clock + n }
  | .hangUp :: rest, s => (.error .connectionClosed, { s with inbound := rest, connected := false })
  | .failure e :: rest, s => (.error e, { s with inbound := rest })

/-- Playing with a wait that is not zero takes time or uses up events. -/
theorem play_progress {wait : Nat} (hw : 0 < wait) (events : List Event) (s : Script) :
    s.clock < (play wait events s).2.clock ∨
      ((play wait events s).2.clock = s.clock ∧
        (play wait events s).2.inbound.length < events.length) := by
  induction events generalizing s with
  | nil => left; simp only [play]; omega
  | cons event rest ih =>
    cases event with
    | bytes bs => right; simp [play]
    | pause n =>
      simp only [play]
      split
      · left; dsimp only; omega
      · rcases ih { s with clock := s.clock + n } with h | ⟨h, hlen⟩
        · left; dsimp only at h ⊢; omega
        · rcases Nat.eq_zero_or_pos n with rfl | hn
          · right; exact ⟨h, by simp only [List.length_cons]; omega⟩
          · left; dsimp only at h ⊢; omega
    | hangUp => right; simp [play]
    | failure e => right; simp [play]

/-- The link that plays a script. -/
def link : Link Script where
  connect := unlessFailing .connect fun s => (.ok (), { s with connected := true })
  disconnect := unlessFailing .disconnect fun s => (.ok (), { s with connected := false })
  isConnected := Script.connected
  send _ := unlessFailing .send answer
  receive wait s := play wait s.inbound s
  discard := unlessFailing .discard fun s => (.ok (), { s with inbound := [] })
  address _ := "script"
  now := Script.clock
  quota s := s.inbound.length
  progress _ s hw _ := play_progress hw s.inbound s

end Script

end CompanionBus
