/-
  Sets of flags that travel as one byte.

  Four places on the wire hold such a byte, each with flags of its own. `FlagName` says which flags
  a kind has, which bit each one is, and what it is called; `Flags α` is a byte read with the flags
  `α`. The byte is kept whole: bits that no flag has are neither lost nor changed.
-/
namespace CompanionBus

/-! ## Flag sets in general -/

/-- The flags of one kind, each with its bit and its name. -/
class FlagName (α : Type) where
  /-- Every flag, lowest bit first. -/
  all : List α
  /-- The bit of a flag. -/
  bit : α → UInt8
  /-- The name of a flag. -/
  name : α → String

/-- A byte of flags. -/
structure Flags (α : Type) where
  bits : UInt8
  deriving DecidableEq, Repr

namespace Flags

variable {α : Type} [FlagName α]

/-- No flag at all. -/
def none : Flags α := ⟨0⟩

/-- The set with one more flag in it. -/
def insert (fs : Flags α) (f : α) : Flags α := ⟨fs.bits ||| FlagName.bit f⟩

/-- Whether a flag is set. -/
def has (fs : Flags α) (f : α) : Bool := fs.bits &&& FlagName.bit f == FlagName.bit f

/-- The bits that some flag of this kind has. -/
def mask (α : Type) [FlagName α] : UInt8 :=
  (FlagName.all : List α).foldl (fun acc f => acc ||| FlagName.bit f) 0

/-- The set without the bits that no flag has. -/
def truncate (fs : Flags α) : Flags α := ⟨fs.bits &&& mask α⟩

/-- Whether every bit that is set belongs to a flag. -/
def isKnown (fs : Flags α) : Bool := fs.truncate.bits == fs.bits

/-- Whether no bit is set. -/
def isEmpty (fs : Flags α) : Bool := fs.bits == 0

/-- Whether every flag of this kind is set. -/
def isAll (fs : Flags α) : Bool := fs.bits &&& mask α == mask α

/-- The flags that are set, lowest bit first. -/
def toList (fs : Flags α) : List α := FlagName.all.filter fs.has

/-- The names of the flags that are set, lowest bit first. -/
def names (fs : Flags α) : List String := fs.toList.map FlagName.name

end Flags

/-! ## The four kinds -/

/-- What is asked for when a session is opened. -/
inductive OpenFlag where
  /-- Encrypt the connection. -/
  | tls
  /-- Follow redirects. -/
  | followRedirects
  /-- The length of the body is not known beforehand. -/
  | bodyUnknown
  /-- The device may drop an older session when it has no room. -/
  | allowEvict
  deriving DecidableEq, Repr

instance : FlagName OpenFlag where
  all := [.tls, .followRedirects, .bodyUnknown, .allowEvict]
  bit
    | .tls => 0x01
    | .followRedirects => 0x02
    | .bodyUnknown => 0x04
    | .allowEvict => 0x08
  name
    | .tls => "TLS"
    | .followRedirects => "FOLLOW_REDIRECTS"
    | .bodyUnknown => "BODY_UNKNOWN"
    | .allowEvict => "ALLOW_EVICT"

/-- What the device says about a session it was asked to open. -/
inductive OpenedFlag where
  /-- The session is open. -/
  | accepted
  /-- A body has to be written before there is an answer to read. -/
  | needsBody
  deriving DecidableEq, Repr

instance : FlagName OpenedFlag where
  all := [.accepted, .needsBody]
  bit
    | .accepted => 0x01
    | .needsBody => 0x02
  name
    | .accepted => "ACCEPTED"
    | .needsBody => "NEEDS_BODY"

/-- What the device says about data it sends. -/
inductive ReadFlag where
  /-- No more data follows. -/
  | eof
  /-- There was more data than was asked for. -/
  | truncated
  deriving DecidableEq, Repr

instance : FlagName ReadFlag where
  all := [.eof, .truncated]
  bit
    | .eof => 0x01
    | .truncated => 0x02
  name
    | .eof => "EOF"
    | .truncated => "TRUNCATED"

/-- What the device says about a session in general. -/
inductive InfoFlag where
  /-- Headers of the answer are there. -/
  | headers
  /-- The length of the content is known. -/
  | hasLength
  /-- The status of the answer is known. -/
  | hasStatus
  /-- The stream is connected. -/
  | connected
  /-- The far end has closed its side of the stream. -/
  | peerClosed
  deriving DecidableEq, Repr

instance : FlagName InfoFlag where
  all := [.headers, .hasLength, .hasStatus, .connected, .peerClosed]
  bit
    | .headers => 0x01
    | .hasLength => 0x02
    | .hasStatus => 0x04
    | .connected => 0x10
    | .peerClosed => 0x20
  name
    | .headers => "HEADERS"
    | .hasLength => "HAS_LENGTH"
    | .hasStatus => "HAS_STATUS"
    | .connected => "CONNECTED"
    | .peerClosed => "PEER_CLOSED"

example : (⟨0x92⟩ : Flags InfoFlag).toList = [.hasLength, .connected] := by decide

end CompanionBus
