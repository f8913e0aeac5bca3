import CompanionBus.Proofs.Exchange.Corruption
import CompanionBus.Proofs.Slip.Bijection
import CompanionBus.Proofs.Slip.Invariant
/-
  How long a frame can be that an exchange returns.

  1. **Specification (`length_le_of_transact`)** — the accumulator counts bytes as they are on the
     wire, between two `END`s. So what is bounded is the length of the escaped frame, by twice the
     limit for frames that are sent: a frame in which no byte has to be escaped may be twice as long
     as any that is sent.

  2. **The proof** — a frame that is made out has been given away by an accumulator, which has room for
     no more (`Accumulator.Begun.delimited_of_push`), and wrapping undoes unwrapping
     (`Slip.encode_of_decode`).
-/
namespace CompanionBus.Exchange

variable {σ : Type} {x : Exchange} {l : Link σ} {s : σ} {question frame : List UInt8}

/-- **A frame that comes back is bounded as it is on the wire**, with every `END` and every `ESC`
    in it counted twice. -/
theorem length_le_of_transact (h : (x.transact l question s).1 = .ok frame) :
    frame.length + frame.count Slip.END + frame.count Slip.ESC ≤ 2 * maxFrame := by
  obtain ⟨s₁, s₂, -, -, hawait⟩ := transact_eq_ok h
  obtain ⟨chunks, hhears⟩ := exists_hears x l (l.now s₂ + x.timeout) s₂
  obtain ⟨delimited, a, hpush, hunwrap⟩ := push_of_await_eq_ok hhears hawait
  obtain ⟨body, rfl, hbody, -, hlen⟩ :=
    (Accumulator.begun_ofMaxFrame maxFrame).delimited_of_push hpush
  have hwire := Slip.encode_of_decode hbody (decode_of_unwrap_eq_ok hunwrap)
  have hwrapped := Slip.length_wrapped frame
  rw [hwire, List.length_cons, List.length_append, List.length_singleton] at hwrapped
  omega

end CompanionBus.Exchange
