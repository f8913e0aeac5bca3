import CompanionBus.Limits
/-
  Sessions, as this side of the bus keeps track of them.
-/
namespace CompanionBus

/-! ## Kinds of sessions -/

/-- What a session talks to. -/
inductive SessionKind where
  /-- Requests and responses. -/
  | http
  /-- A raw byte stream. -/
  | tcp
  deriving DecidableEq, Repr

/-- The part of an address in front of the first `://`. -/
def scheme? : List Char → Option (List Char)
  | [] => none
  | ':' :: '/' :: '/' :: _ => some []
  | c :: rest => (scheme? rest).map (c :: ·)

/-- The kind of a session on an address: a byte stream if the scheme is `tcp`, in any mixture of
    upper and lower case. -/
def SessionKind.ofUrl (url : String) : SessionKind :=
  match scheme? url.toList with
  | some s => if s.map Char.toLower = ['t', 'c', 'p'] then .tcp else .http
  | none => .http

/-! ## Sessions -/

/-- An open session. -/
structure Session where
  handle : UInt16
  kind : SessionKind
  /-- The device waits for a body. -/
  needsBody : Bool := false
  /-- Where the next write has to begin. -/
  writeCursor : UInt32 := 0
  /-- Where the last read ended. -/
  readCursor : UInt32 := 0
  deriving DecidableEq, Repr

end CompanionBus
