import CompanionBus.Error.Protocol
import CompanionBus.Session
/-
  The table of sessions: a fixed number of slots, as on the device.

  1. **Program** — `reserve` holds the lowest free slot for a session that is about to be opened;
     `bind` puts the session into the slot held, `release` gives the slot up. `update` and `remove`
     act on the session with a handle, `clear` on all of them.

  2. **Specification** — seen from outside, a table is a map from handles to sessions and a number
     of slots held. No two sessions have the same handle, and none has the handle 0: when the device
     issues a handle that is still in the table, it has dropped the older session itself, so `bind`
     drops it too.

  3. **The crux** — a slot that is held belongs to its reservation alone: no operation but `bind`
     and `release` of that very reservation ever touches it, `clear` included.
-/
namespace CompanionBus

/-! ## Slots -/

/-- A place in the table. -/
inductive Slot where
  | free
  /-- Held for a session that is being opened. -/
  | reserved
  | active (session : Session)
  deriving DecidableEq, Repr

namespace Slot

/-- The session in a slot. -/
def session? : Slot → Option Session
  | .active s => some s
  | .free | .reserved => none

/-- The session in a slot, if it has a given handle. -/
def find? (handle : UInt16) : Slot → Option Session
  | .active s => if s.handle = handle then some s else none
  | .free | .reserved => none

/-- A slot without the session of a given handle. -/
def drop (handle : UInt16) : Slot → Slot
  | .active s => if s.handle = handle then .free else .active s
  | slot => slot

/-- A slot without any session. -/
def vacate : Slot → Slot
  | .active _ => .free
  | slot => slot

/-- A slot with its session changed. -/
def modify (f : Session → Session) : Slot → Slot
  | .active s => .active (f s)
  | slot => slot

/-- A slot that is held no longer. -/
def release : Slot → Slot
  | .reserved => .free
  | slot => slot

end Slot

/-! ## The table -/

/-- A table of sessions. -/
structure SessionTable where
  slots : List Slot
  deriving DecidableEq, Repr

/-- The right to put a session into the slot at `index`. -/
structure Reservation where
  index : Nat
  deriving DecidableEq, Repr

namespace SessionTable

/-- A table of free slots. -/
def ofCapacity (capacity : Nat) : SessionTable := ⟨List.replicate capacity .free⟩

/-- The number of slots. -/
def capacity (t : SessionTable) : Nat := t.slots.length

/-! ## Looking -/

/-- The sessions in the table, in the order of their slots. -/
def toList (t : SessionTable) : List Session := t.slots.filterMap Slot.session?

/-- The number of sessions. -/
def size (t : SessionTable) : Nat := t.toList.length

/-- Whether there is no session. -/
def isEmpty (t : SessionTable) : Bool := t.size == 0

/-- The handles of the sessions, in the order of their slots. -/
def handles (t : SessionTable) : List UInt16 := t.toList.map Session.handle

/-- The session with a handle. -/
def get? (t : SessionTable) (handle : UInt16) : Option Session :=
  t.slots.findSome? (Slot.find? handle)

/-- Whether there is a session with a handle. -/
def contains (t : SessionTable) (handle : UInt16) : Bool := (t.get? handle).isSome

/-- The session with a handle, or the error that there is none. -/
def get (t : SessionTable) (handle : UInt16) : Except ProtocolError Session :=
  match t.get? handle with
  | some s => .ok s
  | none => .error (.handleNotFound handle)

/-- The place of the first slot that has the session with a handle. -/
def indexOf? (t : SessionTable) (handle : UInt16) : Option Nat :=
  t.slots.findIdx? (fun slot => (slot.find? handle).isSome)

/-! ## Opening -/

/-- Holds the lowest free slot. -/
def reserve (t : SessionTable) : Except ProtocolError (Reservation × SessionTable) :=
  match t.slots.findIdx? (· = .free) with
  | some i => .ok (⟨i⟩, ⟨t.slots.set i .reserved⟩)
  | none => .error .noHandles

/-- Gives up a slot that is held. -/
def release (t : SessionTable) (r : Reservation) : SessionTable :=
  ⟨t.slots.modify r.index Slot.release⟩

/-- Puts a session into the slot held for it, in place of any older session with its handle. A
    session without a proper handle is refused, and the slot given up. -/
def bind (t : SessionTable) (r : Reservation) (s : Session) :
    Except ProtocolError Unit × SessionTable :=
  if s.handle = noHandle then (.error (.invalidFrame .zeroHandleIssued), t.release r)
  else (.ok (), ⟨(t.slots.map (Slot.drop s.handle)).set r.index (.active s)⟩)

/-! ## Changing and closing -/

/-- Changes the session with a handle. -/
def update (t : SessionTable) (handle : UInt16) (f : Session → Session) :
    Except ProtocolError SessionTable :=
  match t.indexOf? handle with
  | some i => .ok ⟨t.slots.modify i (Slot.modify f)⟩
  | none => .error (.handleNotFound handle)

/-- Takes out the session with a handle. -/
def remove (t : SessionTable) (handle : UInt16) : Option Session × SessionTable :=
  match t.indexOf? handle with
  | some i => (t.get? handle, ⟨t.slots.set i .free⟩)
  | none => (none, t)

/-- Takes out all sessions; slots that are held stay so. -/
def clear (t : SessionTable) : SessionTable := ⟨t.slots.map Slot.vacate⟩

example : (ofCapacity 0).reserve = .error .noHandles := rfl
example : (ofCapacity 2).reserve = .ok (⟨0⟩, ⟨[.reserved, .free]⟩) := rfl

end SessionTable

end CompanionBus
