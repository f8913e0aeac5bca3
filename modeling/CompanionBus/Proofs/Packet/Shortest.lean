import CompanionBus.Proofs.Packet.Grammar
/-
  No chain of descriptors is shorter than the one that is written.

  1. **The cut (`lookups`)** — the writer takes the first field and as many of those behind it as have
     the same width and still go into one entry of the table (`along`), looks the entry up, and goes
     on behind them. It finds an entry every time (`lookups_eq`).

  2. **Specification (`length_chain_le`)** — any chain that describes the same fields is at least as
     long, whatever way it cuts them and however many empty entries it has.

  3. **The crux (`length_codes_drop`)** — who has fewer fields left never needs more entries for
     them. One entry of another chain takes no more fields than the writer would take from there
     (`length_codes_run`), so by induction on that chain the writer stays ahead of it.
-/
namespace CompanionBus.Descriptor

/-! ## The cut into runs -/

/-- The longest run of a width that the table has. -/
def longest : Width → Nat
  | .one => 4
  | .two => 2
  | .four => 1

/-- The entry of the table for a run of so many fields of one width, if it has one. -/
def lookup (w : Width) (count : Nat) : Option UInt8 :=
  [0, 1, 2, 3, 4, 5, 6, 7].find? (fun entry => run entry == List.replicate count w)

/-- How many of the fields behind one of the width `w` go into the same entry with it. -/
def along (w : Width) (rest : List Width) : Nat :=
  min (longest w - 1) (rest.takeWhile (· == w)).length

/-- What is looked up for a list of widths, from the front on. -/
def lookups : List Width → List (Option UInt8)
  | [] => []
  | w :: rest => lookup w (along w rest + 1) :: lookups (rest.drop (along w rest))
termination_by widths => widths.length
decreasing_by
  rw [List.length_drop, List.length_cons]
  omega

theorem along_replicate_append (w : Width) (k : Nat) (rest : List Width) :
    along w (List.replicate k w ++ rest) =
      min (longest w - 1) (k + (rest.takeWhile (· == w)).length) := by
  have hall : ∀ w' ∈ List.replicate k w, (w' == w) = true := by
    intro w' hw'
    rw [List.eq_of_mem_replicate hw', beq_self_eq_true]
  rw [along, List.takeWhile_append_of_pos hall, List.length_append, List.length_replicate]

/-- All fields go along that are of the width, as long as the table has a run for them. -/
theorem le_along {w : Width} {k : Nat} (h : k < longest w) (rest : List Width) :
    k ≤ along w (List.replicate k w ++ rest) := by
  rw [along_replicate_append]
  omega

/-- Only fields of the width go along. -/
theorem exists_run (w : Width) (rest : List Width) :
    rest = List.replicate (along w rest) w ++ rest.drop (along w rest) := by
  have hrun : rest.take (along w rest) = List.replicate (along w rest) w := by
    have hle : along w rest ≤ (rest.takeWhile (· == w)).length := Nat.min_le_right _ _
    have hfront : rest.take (along w rest) = (rest.takeWhile (· == w)).take (along w rest) := by
      rw [List.prefix_iff_eq_take.mp (List.takeWhile_prefix (· == w)), List.take_take,
        Nat.min_eq_left hle]
    rw [List.eq_replicate_iff]
    refine ⟨by rw [hfront, List.length_take]; omega, fun w' hw' => ?_⟩
    rw [hfront] at hw'
    exact eq_of_beq (List.all_eq_true.mp List.all_takeWhile w' (List.mem_of_mem_take hw'))
  rw [← hrun, List.take_append_drop]

/-! ## The writer -/

/-- A width that the table has no longer run for. -/
theorem along_of_full {w : Width} {k : Nat} (h : longest w = k + 1) (rest : List Width) :
    along w (List.replicate k w ++ rest) = k := by
  rw [along_replicate_append]
  omega

/-- A run that ends in front of another width. -/
theorem along_of_other {w : Width} {k : Nat} {rest : List Width} (hk : k < longest w)
    (h : ∀ rest', rest = w :: rest' → False) : along w (List.replicate k w ++ rest) = k := by
  have hnone : rest.takeWhile (· == w) = [] := by
    cases rest with
    | nil => rfl
    | cons w' rest' =>
      apply List.takeWhile_cons_of_neg
      intro heq
      exact h rest' (by rw [eq_of_beq heq])
  rw [along_replicate_append, hnone, List.length_nil]
  omega

/-- **One step of the writer.** It finds an entry and goes on behind the run. -/
theorem codes_cons (w : Width) (rest : List Width) :
    ∃ entry, lookup w (along w rest + 1) = some entry ∧
      codes (w :: rest) = entry :: codes (rest.drop (along w rest)) := by
  generalize hlist : w :: rest = widths
  fun_cases codes widths with
  | case1 tail =>
    obtain ⟨rfl, rfl⟩ := List.cons.inj hlist
    have halong : along .one (.one :: .one :: .one :: tail) = 3 := along_of_full (k := 3) rfl tail
    exact ⟨4, by rw [halong]; rfl, by rw [halong]; rfl⟩
  | case2 tail hother =>
    obtain ⟨rfl, rfl⟩ := List.cons.inj hlist
    have halong : along .one (.one :: .one :: tail) = 2 := along_of_other (k := 2) (by decide) hother
    exact ⟨3, by rw [halong]; rfl, by rw [halong]; rfl⟩
  | case3 tail _ hother =>
    obtain ⟨rfl, rfl⟩ := List.cons.inj hlist
    have halong : along .one (.one :: tail) = 1 := along_of_other (k := 1) (by decide) hother
    exact ⟨2, by rw [halong]; rfl, by rw [halong]; rfl⟩
  | case4 tail _ _ hother =>
    obtain ⟨rfl, rfl⟩ := List.cons.inj hlist
    have halong : along .one rest = 0 := along_of_other (k := 0) (by decide) hother
    exact ⟨1, by rw [halong]; rfl, by rw [halong]; rfl⟩
  | case5 tail =>
    obtain ⟨rfl, rfl⟩ := List.cons.inj hlist
    have halong : along .two (.two :: tail) = 1 := along_of_full (k := 1) rfl tail
    exact ⟨6, by rw [halong]; rfl, by rw [halong]; rfl⟩
  | case6 tail hother =>
    obtain ⟨rfl, rfl⟩ := List.cons.inj hlist
    have halong : along .two rest = 0 := along_of_other (k := 0) (by decide) hother
    exact ⟨5, by rw [halong]; rfl, by rw [halong]; rfl⟩
  | case7 tail =>
    obtain ⟨rfl, rfl⟩ := List.cons.inj hlist
    have halong : along .four rest = 0 := along_of_full (k := 0) rfl rest
    exact ⟨7, by rw [halong]; rfl, by rw [halong]; rfl⟩
  | case8 => cases hlist

/-- **Every entry is found**, and these are the ones that are written. -/
theorem lookups_eq (widths : List Width) : lookups widths = (codes widths).map some := by
  fun_induction lookups widths with
  | case1 => rfl
  | case2 w rest ih =>
    obtain ⟨entry, hentry, hcodes⟩ := codes_cons w rest
    rw [hentry, hcodes, ih, List.map_cons]

/-! ## The writer stays ahead -/

theorem length_codes_cons (w : Width) (rest : List Width) :
    (codes (w :: rest)).length = (codes (rest.drop (along w rest))).length + 1 := by
  obtain ⟨entry, -, hcodes⟩ := codes_cons w rest
  rw [hcodes, List.length_cons]

/-- A run that the table has costs one entry at most, if fewer fields behind it never need more. -/
theorem length_codes_run_of {w : Width} {k : Nat} {rest : List Width} (hk : k < longest w)
    (hdrop : ∀ m, (codes (rest.drop m)).length ≤ (codes rest).length) :
    (codes (w :: (List.replicate k w ++ rest))).length ≤ (codes rest).length + 1 := by
  have hle := le_along hk rest
  have hcut : (List.replicate k w ++ rest).drop (along w (List.replicate k w ++ rest))
      = rest.drop (along w (List.replicate k w ++ rest) - k) := by
    rw [List.drop_append, List.length_replicate, List.drop_replicate,
      Nat.sub_eq_zero_of_le hle, List.replicate_zero, List.nil_append]
  rw [length_codes_cons, hcut]
  exact Nat.succ_le_succ (hdrop _)

/-- **Fewer fields never need more entries.** By induction on the length: a run that has lost fields
    is a run still. -/
theorem length_codes_drop (widths : List Width) (m : Nat) :
    (codes (widths.drop m)).length ≤ (codes widths).length := by
  match widths, m with
  | [], _ => rw [List.drop_nil]
  | w :: rest, 0 => exact Nat.le_refl _
  | w :: rest, m + 1 =>
    have hrun := exists_run w rest
    have hlongest : along w rest < longest w := by
      have hpos : 0 < longest w := by cases w <;> decide
      have hle : along w rest ≤ longest w - 1 := Nat.min_le_left _ _
      omega
    rw [length_codes_cons, List.drop_succ_cons]
    generalize hk : along w rest = k at hrun hlongest
    generalize htail : rest.drop k = tail at hrun
    have hshorter : tail.length ≤ rest.length := by
      rw [← htail, List.length_drop]
      omega
    have ih : ∀ m, (codes (tail.drop m)).length ≤ (codes tail).length :=
      fun m => length_codes_drop tail m
    rw [hrun, List.drop_append, List.drop_replicate, List.length_replicate]
    rcases Nat.lt_or_ge m k with hm | hm
    · -- the next field is one of the run
      have hnext : k - m = (k - m - 1) + 1 := by omega
      rw [hnext, List.replicate_succ, List.cons_append, Nat.sub_eq_zero_of_le (Nat.le_of_lt hm),
        List.drop_zero]
      exact length_codes_run_of (by omega) ih
    · rw [Nat.sub_eq_zero_of_le hm, List.replicate_zero, List.nil_append]
      exact Nat.le_succ_of_le (ih _)
termination_by widths.length
decreasing_by
  rw [List.length_cons]
  omega

/-- An entry of the table describes fields of one width, not more than the longest run of it. -/
theorem run_eq_replicate {c : UInt8} (hc : c < 8) : ∀ w ∈ (run c).head?,
    run c = w :: List.replicate ((run c).length - 1) w ∧ (run c).length - 1 < longest w := by
  have key : ∀ n < 8, ∀ w ∈ (run (UInt8.ofNat n)).head?,
      run (UInt8.ofNat n) = w :: List.replicate ((run (UInt8.ofNat n)).length - 1) w ∧
        (run (UInt8.ofNat n)).length - 1 < longest w := by
    decide
  have hrun := key c.toNat (UInt8.lt_iff_toNat_lt.mp hc)
  rwa [UInt8.ofNat_toNat] at hrun

/-- **An entry of the table saves one entry at most**, whatever it describes. -/
theorem length_codes_run {c : UInt8} (hc : c < 8) (rest : List Width) :
    (codes (run c ++ rest)).length ≤ (codes rest).length + 1 := by
  cases hhead : (run c).head? with
  | none =>
    rw [List.head?_eq_none_iff.mp hhead, List.nil_append]
    exact Nat.le_succ _
  | some w =>
    obtain ⟨hrun, hlt⟩ := run_eq_replicate hc w hhead
    rw [hrun, List.cons_append]
    exact length_codes_run_of hlt (length_codes_drop rest)

/-- A chain has as many entries as the writer needs for its fields, or more. -/
theorem Chain.length_codes_le {bytes : List UInt8} {widths : List Width} (h : Chain bytes widths) :
    (codes widths).length ≤ bytes.length := by
  induction h with
  | @last c hc =>
    have hrun := length_codes_run hc []
    rw [List.append_nil] at hrun
    exact hrun
  | @more c bytes widths hc _ ih =>
    have hrun := length_codes_run hc widths
    rw [List.length_cons]
    omega

theorem length_link (cs : List UInt8) : (link cs).length = max 1 cs.length := by
  fun_induction link cs with
  | case1 => rfl
  | case2 => rfl
  | case3 c cs hne ih =>
    have hpos := List.length_pos_iff.mpr hne
    rw [List.length_cons, List.length_cons, ih]
    omega

/-- **No chain for the same fields is shorter.** -/
theorem length_chain_le {bytes : List UInt8} {widths : List Width} (h : Chain bytes widths) :
    (chain widths).length ≤ bytes.length := by
  have hcodes := h.length_codes_le
  have hpos := List.length_pos_iff.mpr h.ne_nil
  rw [chain, length_link]
  omega

end CompanionBus.Descriptor
