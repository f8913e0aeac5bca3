import CompanionBus.Proofs.Exchange.Course
/-
  What has been sent.

  `SendsOnly` compares two states of a link that writes its calls down: from the one to the other
  nothing has been sent but what has a given property. An exchange sends the frame of its request,
  if anything (`Exchange.sendsOnly_run`).
-/
namespace CompanionBus

variable {σ : Type} {P : List UInt8 → Prop}

namespace Recorded

variable {s s' : Recorded σ}

/-- `SendsOnly P s s'` — from `s` to `s'` there have been more calls, and all bytes that they sent
    have the property `P`. -/
def SendsOnly (P : List UInt8 → Prop) (s s' : Recorded σ) : Prop :=
  ∃ made, s'.calls = s.calls ++ made ∧ ∀ bytes, .send bytes ∈ made → P bytes

theorem SendsOnly.refl (P : List UInt8 → Prop) (s : Recorded σ) : SendsOnly P s s :=
  ⟨[], (List.append_nil _).symm, fun _ h => nomatch h⟩

theorem SendsOnly.note {α : Type} {call : LinkCall} {act : σ → Except LinkError α × σ}
    (h : SendsOnly P s s') (hcall : ∀ bytes, call = .send bytes → P bytes) :
    SendsOnly P s (note call act s').2 := by
  obtain ⟨made, hmade, hP⟩ := h
  refine ⟨made ++ [call], ?_, fun bytes hbytes => ?_⟩
  · show s'.calls ++ [call] = _
    rw [hmade, List.append_assoc]
  · rcases List.mem_append.mp hbytes with hbytes | hbytes
    · exact hP bytes hbytes
    · exact hcall bytes (List.mem_singleton.mp hbytes).symm

end Recorded

/-- An exchange sends nothing but its frame. -/
theorem Exchanged.eq_of_send {l : Link σ} {s : σ} {f bytes : List UInt8} {made : List LinkCall}
    (h : Exchanged l s f made) (hmem : .send bytes ∈ made) : bytes = Slip.encode f := by
  cases h with
  | undiscarded _ => cases List.mem_singleton.mp hmem
  | unsent _ _ =>
    rcases List.mem_cons.mp hmem with heq | hmem
    · cases heq
    · exact LinkCall.send.inj (List.mem_singleton.mp hmem)
  | sent _ _ waits =>
    rcases List.mem_cons.mp hmem with heq | hmem
    · cases heq
    rcases List.mem_cons.mp hmem with heq | hmem
    · exact LinkCall.send.inj heq
    · obtain ⟨wait, -, heq⟩ := List.mem_map.mp hmem
      cases heq

/-- An exchange sends the frame of its request, if it sends anything. -/
theorem Exchange.sendsOnly_run (x : Exchange) (l : Link σ) {request : Request} (s : Recorded σ)
    (h : ∀ f, request.encode = .ok f → P (Slip.encode f)) :
    Recorded.SendsOnly P s (x.run l.recorded request s).2 := by
  rw [run]
  cases hf : request.encode with
  | error e => exact .refl P s
  | ok f =>
    obtain ⟨made, hcalls, hmade⟩ := x.transact_exchanged l f s
    refine ⟨made, hcalls, fun bytes hmem => ?_⟩
    rw [hmade.eq_of_send hmem]
    exact h f hf

end CompanionBus
