import CompanionBus.Clock.Format
import CompanionBus.Method
import CompanionBus.Text.Hex
/-
  Values that do not convert: a code that stands for nothing, or data of the wrong size.
-/
namespace CompanionBus

/-- Why a code could not be read. -/
inductive ParseFault where
  | method (code : UInt8)
  | timeFormat (code : UInt8)
  /-- Any other reason, in the words of whoever gives it. -/
  | other (text : String)
  deriving DecidableEq, Repr

/-- Why a value was refused. -/
inductive ValidationFault where
  /-- A rendered time has not the size of its layout. -/
  | timeLength (format : TimeFormat) (length : Nat)
  /-- Any other reason, in the words of whoever gives it. -/
  | other (text : String)
  deriving DecidableEq, Repr

/-- A value that does not convert. -/
inductive ValueError where
  | parse (fault : ParseFault)
  | validation (fault : ValidationFault)
  deriving DecidableEq, Repr

/-- The wording of a code that could not be read. -/
def ParseFault.message : ParseFault → String
  | .method code => "unknown method code " ++ Hex.byte code
  | .timeFormat code => "unknown time format " ++ Hex.byte code
  | .other text => text

/-- The wording of a value that was refused. -/
def ValidationFault.message : ValidationFault → String
  | .timeLength format length =>
    s!"{format.title} time must be {format.dataLength} bytes, got {length}"
  | .other text => text

/-- The wording of an error. -/
def ValueError.message : ValueError → String
  | .parse fault => "Parse error: " ++ fault.message
  | .validation fault => "Validation error: " ++ fault.message

/-! ## Codes, with the reason where they stand for nothing -/

/-- The method that a byte stands for. -/
def Method.ofCode (code : UInt8) : Except ValueError Method :=
  match Method.ofCode? code with
  | some m => .ok m
  | none => .error (.parse (.method code))

/-- The layout that a byte stands for. -/
def TimeFormat.ofCode (code : UInt8) : Except ValueError TimeFormat :=
  match TimeFormat.ofCode? code with
  | some f => .ok f
  | none => .error (.parse (.timeFormat code))

end CompanionBus
