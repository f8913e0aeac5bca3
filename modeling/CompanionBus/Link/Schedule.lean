import CompanionBus.Link
/-
  A link on which pieces arrive at set times.

  A look at the link takes the first piece as soon as it is there, and otherwise lasts as long as it
  may. Unlike a script, whose pauses begin only when they are waited for, a schedule goes by the
  clock, so no look ever lasts longer than it may.
-/
namespace CompanionBus

/-- The time, and the pieces that are still to be taken, each with the time when it arrives. -/
structure Schedule where
  clock : Nat
  arrivals : List (Nat × List UInt8)
  deriving DecidableEq, Repr

namespace Schedule

/-- Takes the first piece, if it arrives in time. -/
def take (wait : Nat) (s : Schedule) : Except LinkError (List UInt8) × Schedule :=
  match s.arrivals with
  | [] => (.error .readTimeout, { s with clock := s.clock + wait })
  | (time, bs) :: rest =>
    if time ≤ s.clock + wait then (.ok bs, { clock := max s.clock time, arrivals := rest })
    else (.error .readTimeout, { s with clock := s.clock + wait })

/-- A look that brings nothing lasts as long as it may; one that brings a piece uses it up. -/
theorem take_cases (wait : Nat) (s : Schedule) :
    take wait s = (.error .readTimeout, { s with clock := s.clock + wait }) ∨
      ∃ time bs rest, s.arrivals = (time, bs) :: rest ∧ time ≤ s.clock + wait ∧
        take wait s = (.ok bs, { clock := max s.clock time, arrivals := rest }) := by
  rw [take]
  split
  · exact Or.inl rfl
  · rename_i time bs rest harrivals
    split
    · rename_i htime
      exact Or.inr ⟨time, bs, rest, harrivals, htime, rfl⟩
    · exact Or.inl rfl

/-- The link on which the pieces arrive. What has arrived can be thrown away. -/
def link : Link Schedule where
  connect s := (.ok (), s)
  disconnect s := (.ok (), s)
  isConnected _ := true
  send _ s := (.ok (), s)
  receive := take
  discard s := (.ok (), { s with arrivals := s.arrivals.filter (s.clock < ·.1) })
  address _ := "schedule"
  now := Schedule.clock
  quota s := s.arrivals.length
  progress wait s hw _ := by
    rcases take_cases wait s with htake | ⟨time, bs, rest, harrivals, -, htake⟩
    · rw [htake]
      left
      dsimp only
      omega
    · rw [htake, harrivals, List.length_cons]
      dsimp only
      omega

end Schedule

end CompanionBus
