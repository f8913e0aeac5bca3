import CompanionBus.Link
import CompanionBus.Slip
/-
  A link that carries replies.

  Every request that is sent causes one reply. The reply is under way for a while, as long as the
  far end likes, and then all of it stands in the receive buffer; a later one may overtake it. Bytes
  are received from the buffer. Throwing away what is there empties the buffer, but does nothing
  about a reply that is still under way.

  A reply is tagged with the number of its request. The tags are not on the wire: they are there for
  those who want to say which reply is which.
-/
namespace CompanionBus

/-- A reply: the number of the request that it is for, and the frame. -/
structure Reply where
  tag : Nat
  frame : List UInt8
  frame_ne : frame ≠ []
  deriving DecidableEq, Repr

/-- A reply on the wire. -/
def Reply.wire (r : Reply) : List UInt8 := Slip.encode r.frame

/-! ## Requests and replies -/

/-- How many requests have been sent, the replies under way, those that had reached the receive
    buffer when it was last emptied, those that have reached it since, and the bytes of the latter
    that have been received. -/
structure Traffic where
  sent : Nat := 0
  underway : List Reply := []
  earlier : List Reply := []
  current : List Reply := []
  received : List UInt8 := []
  deriving DecidableEq, Repr

namespace Traffic

/-- All replies that have reached the buffer. -/
def reached (t : Traffic) : List Reply := t.earlier ++ t.current

/-- All bytes that have come into the buffer since it was last emptied. -/
def stream (t : Traffic) : List UInt8 := t.current.flatMap Reply.wire

/-- The bytes in the buffer. -/
def unread (t : Traffic) : List UInt8 := t.stream.drop t.received.length

/-- A request is sent, and its reply is under way. -/
def ask (t : Traffic) (r : Reply) : Traffic :=
  { t with sent := t.sent + 1, underway := t.underway ++ [r] }

/-- The replies that are `due` reach the buffer. -/
def settle (t : Traffic) (due : Reply → Bool) : Traffic :=
  { t with
    underway := t.underway.filter fun r => !due r
    current := t.current ++ t.underway.filter due }

/-- Bytes are received. -/
def hand (t : Traffic) (bytes : List UInt8) : Traffic := { t with received := t.received ++ bytes }

/-- The buffer is emptied. -/
def forget (t : Traffic) : Traffic :=
  { t with earlier := t.reached, current := [], received := [] }

/-- How often bytes can be received before another request is sent. -/
def quota (t : Traffic) : Nat := t.underway.length + min 1 t.unread.length

/-- Receiving all there is takes from the quota, if there is something. -/
theorem quota_hand_settle {t : Traffic} {due : Reply → Bool} (h : (t.settle due).unread ≠ []) :
    ((t.settle due).hand (t.settle due).unread).quota < t.quota := by
  have hsplit := (List.filter_append_perm due t.underway).length_eq
  rw [List.length_append] at hsplit
  have hempty : ((t.settle due).hand (t.settle due).unread).unread = [] := by
    simp only [hand, unread, stream, List.drop_eq_nil_iff, List.length_append, List.length_drop]
    omega
  rw [quota, quota, hempty]
  show (t.underway.filter fun r => !due r).length + 0 < _
  cases hdue : t.underway.filter due with
  | nil =>
    -- nothing has come in, so there was something in the buffer
    have hunread : (t.settle due).unread = t.unread := by
      simp only [unread, stream, settle, hdue, List.append_nil]
    have hpos := List.length_pos_iff.mpr (hunread ▸ h)
    omega
  | cons r rest =>
    rw [hdue, List.length_cons] at hsplit
    omega

end Traffic

/-! ## The link -/

/-- The far end: the frame with which it replies to the bytes of a request, and the time when the
    reply reaches the receive buffer. -/
structure FarEnd where
  reply : Nat → List UInt8 → List UInt8
  reply_ne : ∀ n bytes, reply n bytes ≠ []
  due : Nat → Nat

/-- The time, and the requests and replies so far. -/
structure Channel where
  clock : Nat := 0
  traffic : Traffic := {}
  deriving DecidableEq, Repr

namespace Channel

variable (f : FarEnd)

/-- What is in the buffer by now. -/
def settled (c : Channel) : Traffic := c.traffic.settle fun r => f.due r.tag ≤ c.clock

/-- Sends a request. -/
def send (bytes : List UInt8) (c : Channel) : Channel :=
  { c with
    traffic := c.traffic.ask
      { tag := c.traffic.sent
        frame := f.reply c.traffic.sent bytes
        frame_ne := f.reply_ne _ _ } }

/-- The channel some milliseconds later. -/
def later (time : Nat) (c : Channel) : Channel := { c with clock := c.clock + time }

/-- The channel after all that is in the buffer has been received. -/
def drained (c : Channel) : Channel :=
  { c with traffic := (c.settled f).hand (c.settled f).unread }

/-- Receives what is in the buffer, looking at it once a millisecond. -/
def receive (wait : Nat) (c : Channel) : Except LinkError (List UInt8) × Channel :=
  if (c.settled f).unread ≠ [] then (.ok (c.settled f).unread, c.drained f)
  else
    match wait with
    | 0 => (.error .readTimeout, c)
    | wait + 1 => receive wait (c.later 1)

theorem later_later (t t' : Nat) (c : Channel) : (c.later t).later t' = c.later (t + t') := by
  rw [later, later, later, Nat.add_assoc]

/-- Waiting ends with bytes, or after as long as it may last. -/
theorem receive_cases (wait : Nat) (c : Channel) :
    receive f wait c = (.error .readTimeout, c.later wait) ∨
      ∃ time, ((c.later time).settled f).unread ≠ [] ∧
        receive f wait c = (.ok ((c.later time).settled f).unread, (c.later time).drained f) := by
  -- on the milliseconds left; either there is something now, or the rest of the wait decides
  induction wait generalizing c with
  | zero =>
    rw [receive]
    split
    · rename_i hunread
      exact Or.inr ⟨0, hunread, rfl⟩
    · exact Or.inl rfl
  | succ wait ih =>
    rw [receive]
    split
    · rename_i hunread
      exact Or.inr ⟨0, hunread, rfl⟩
    · rcases ih (c.later 1) with htimeout | ⟨time, hunread, hbytes⟩
      · left
        rw [htimeout, later_later, Nat.add_comm]
      · right
        rw [later_later] at hunread hbytes
        exact ⟨1 + time, hunread, hbytes⟩

/-- The link to the far end. -/
def link : Link Channel where
  connect c := (.ok (), c)
  disconnect c := (.ok (), c)
  isConnected _ := true
  send bytes c := (.ok (), send f bytes c)
  receive := receive f
  discard c := (.ok (), { c with traffic := (c.settled f).forget })
  address _ := "channel"
  now := Channel.clock
  quota c := c.traffic.quota
  progress wait c hwait _ := by
    rcases receive_cases f wait c with htimeout | ⟨time, hunread, hbytes⟩
    · rw [htimeout]
      exact Or.inl (Nat.lt_add_of_pos_right hwait)
    · rw [hbytes]
      cases time with
      | zero => exact Or.inr ⟨rfl, Traffic.quota_hand_settle hunread⟩
      | succ time => exact Or.inl (Nat.lt_add_of_pos_right (Nat.succ_pos time))

end Channel

end CompanionBus
