/-
  The method of a request that opens a session.

  A raw byte stream (`tcp://`) has the method `stream`, which is zero on the wire.
-/
namespace CompanionBus

/-- What is asked of the far end of a session. -/
inductive Method where
  | stream
  | get
  | post
  | put
  | delete
  | head
  deriving DecidableEq, Repr

namespace Method

/-- The byte on the wire. -/
def code : Method → UInt8
  | .stream => 0
  | .get => 1
  | .post => 2
  | .put => 3
  | .delete => 4
  | .head => 5

/-- The method that a byte stands for. -/
def ofCode? (code : UInt8) : Option Method :=
  match code with
  | 0 => some .stream
  | 1 => some .get
  | 2 => some .post
  | 3 => some .put
  | 4 => some .delete
  | 5 => some .head
  | _ => none

theorem ofCode?_eq_some_iff {b : UInt8} {m : Method} : ofCode? b = some m ↔ b = m.code := by
  constructor
  · unfold ofCode?
    split <;> intro h <;> cases h <;> rfl
  · rintro rfl
    cases m <;> rfl

/-- Whether a request with this method normally carries a body. -/
def hasBody : Method → Bool
  | .post | .put => true
  | .stream | .get | .delete | .head => false

/-- The name of a method. -/
def name : Method → String
  | .stream => "STREAM"
  | .get => "GET"
  | .post => "POST"
  | .put => "PUT"
  | .delete => "DELETE"
  | .head => "HEAD"

end Method

end CompanionBus
