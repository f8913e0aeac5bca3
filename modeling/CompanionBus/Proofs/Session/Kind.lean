import CompanionBus.Session
/-
  The kind of a session, told from how its address begins.

  1. **Program** — `SessionKind.ofUrl` cuts the address at the first `://`, and compares what stands
     in front of it with `tcp`.

  2. **Specification (`ofUrl_eq`)** — a session is a byte stream exactly when its address begins
     with `tcp://` in any mixture of upper and lower case.

  3. **The crux** — three letters that are `tcp` but for their case have no colon among them, so the
     first `://` is the one right behind them.
-/
namespace CompanionBus

/-- The address begins with `tcp://`, in any mixture of upper and lower case. -/
def BeginsWithTcp (url : String) : Prop :=
  ['t', 'c', 'p', ':', '/', '/'] <+: url.toList.map Char.toLower

instance (url : String) : Decidable (BeginsWithTcp url) :=
  inferInstanceAs (Decidable (_ <+: _))

/-! ## Cutting an address -/

theorem eq_append_of_scheme? {cs scheme : List Char} (h : scheme? cs = some scheme) :
    ∃ rest, cs = scheme ++ ':' :: '/' :: '/' :: rest := by
  induction cs generalizing scheme with
  | nil => cases h
  | cons c cs ih =>
    rw [scheme?.eq_def] at h
    split at h
    · rename_i hnil
      cases hnil
    · rename_i rest hcs
      cases h
      exact ⟨rest, hcs⟩
    · rename_i c' cs' _ hcs
      cases hcs
      obtain ⟨scheme', hscheme', rfl⟩ := Option.map_eq_some_iff.mp h
      obtain ⟨rest, hrest⟩ := ih hscheme'
      exact ⟨rest, congrArg (c :: ·) hrest⟩

theorem scheme?_append {scheme : List Char} (h : ':' ∉ scheme) (rest : List Char) :
    scheme? (scheme ++ ':' :: '/' :: '/' :: rest) = some scheme := by
  induction scheme with
  | nil => rfl
  | cons c scheme ih =>
    have hc : c ≠ ':' := fun hc => h (by rw [hc]; exact List.mem_cons_self)
    have hscheme : ':' ∉ scheme := fun hmem => h (List.mem_cons_of_mem _ hmem)
    rw [List.cons_append, scheme?, ih hscheme]
    · rfl
    · rintro _ rfl
      exact absurd rfl hc

/-! ## Case -/

/-- A character below the small letters is not the small form of another one. -/
theorem eq_of_toLower_eq {c d : Char} (hd : d.toNat < 97) (h : c.toLower = d) : c = d := by
  by_cases hupper : c.val ≥ 'A'.val ∧ c.val ≤ 'Z'.val
  · -- the small form of a capital letter is a small letter
    have hval : c.toLower.val = c.val + ('a'.val - 'A'.val) := congrArg Char.val (dif_pos hupper)
    obtain ⟨hA, hZ⟩ := hupper
    have hA' : 65 ≤ c.val.toNat := hA
    have hZ' : c.val.toNat ≤ 90 := hZ
    have hsum : d.toNat = (c.val.toNat + 32) % 2 ^ 32 := by
      show d.val.toNat = _
      rw [← h, hval, UInt32.toNat_add]
      rfl
    omega
  · exact (dif_neg hupper).symm.trans h

/-- Letters that are `tcp` but for their case have no colon among them. -/
theorem colon_not_mem_of_tcp {scheme : List Char}
    (h : scheme.map Char.toLower = ['t', 'c', 'p']) : ':' ∉ scheme := by
  intro hmem
  have hlower := List.mem_map_of_mem hmem (f := Char.toLower)
  rw [h] at hlower
  revert hlower
  decide

/-! ## The kind -/

theorem beginsWithTcp_iff {url : String} :
    BeginsWithTcp url ↔
      ∃ scheme, scheme? url.toList = some scheme ∧ scheme.map Char.toLower = ['t', 'c', 'p'] := by
  constructor
  · -- three characters that are letters but for their case, and three that have no case
    rintro ⟨rest, hrest⟩
    have hparts : ['t', 'c', 'p'] ++ ([':', '/', '/'] ++ rest) = url.toList.map Char.toLower :=
      hrest
    obtain ⟨scheme, behind, hurl, hscheme, hbehind⟩ := List.map_eq_append_iff.mp hparts.symm
    obtain ⟨c₁, behind, rfl, h₁, hbehind⟩ := List.map_eq_cons_iff.mp hbehind
    obtain ⟨c₂, behind, rfl, h₂, hbehind⟩ := List.map_eq_cons_iff.mp hbehind
    obtain ⟨c₃, behind, rfl, h₃, -⟩ := List.map_eq_cons_iff.mp hbehind
    cases eq_of_toLower_eq (by decide) h₁
    cases eq_of_toLower_eq (by decide) h₂
    cases eq_of_toLower_eq (by decide) h₃
    rw [hurl]
    exact ⟨scheme, scheme?_append (colon_not_mem_of_tcp hscheme) behind, hscheme⟩
  · rintro ⟨scheme, hcut, hscheme⟩
    obtain ⟨rest, hrest⟩ := eq_append_of_scheme? hcut
    refine ⟨rest.map Char.toLower, ?_⟩
    rw [hrest, List.map_append, hscheme]
    rfl

/-- **An address means a byte stream exactly when it begins with `tcp://`.** -/
theorem SessionKind.ofUrl_eq (url : String) :
    SessionKind.ofUrl url = if BeginsWithTcp url then .tcp else .http := by
  rw [ofUrl]
  split
  · rename_i scheme hcut
    by_cases h : scheme.map Char.toLower = ['t', 'c', 'p']
    · rw [if_pos h, if_pos (beginsWithTcp_iff.mpr ⟨scheme, hcut, h⟩)]
    · rw [if_neg h, if_neg]
      intro htcp
      obtain ⟨scheme', hcut', h'⟩ := beginsWithTcp_iff.mp htcp
      cases hcut.symm.trans hcut'
      exact h h'
  · rename_i hcut
    rw [if_neg]
    intro htcp
    obtain ⟨scheme, hcut', -⟩ := beginsWithTcp_iff.mp htcp
    cases hcut.symm.trans hcut'

example : SessionKind.ofUrl "TcP://" = .tcp := by decide

end CompanionBus
