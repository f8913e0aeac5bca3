import CompanionBus.Proofs.Session.Slots
/-
  What the operations on a session table do: to its slots, to its order, and to the map.

  1. **Slots** — `reserve` takes the lowest free slot, `release` frees the slot of its reservation,
     `update` and `remove` set the slot of their session; each of these sets one slot and no other
     (`reserve_eq_ok`, `release_of_reserved`, `update_of_holds`, `remove_of_holds`). `bind` also
     drops an older session with the handle (`getElem?_bind`).

  2. **Order** — each operation keeps a table in order, `WellKept`, with the reservations that it
     leaves outstanding.

  3. **The map** — `reserve` and `release` leave every session as it was; the others change what is
     found under one handle, or under all.

  4. **Capacity** (`size_add_held`) — every slot is free, held for a reservation, or has a session;
     so a table in order is full exactly when sessions and reservations fill it.
-/
namespace CompanionBus.SessionTable

variable {t t' : SessionTable} {held : List Reservation} {handle : UInt16} {r : Reservation}
  {s : Session} {f : Session → Session} {i : Nat}

/-! ## Holding a slot -/

theorem reserve_eq_ok (h : t.reserve = .ok (r, t')) :
    t.slots[r.index]? = some .free ∧ (∀ i < r.index, t.slots[i]? ≠ some .free) ∧
      t' = ⟨t.slots.set r.index .reserved⟩ := by
  rw [reserve] at h
  split at h
  · rename_i i hi
    cases h
    obtain ⟨hlt, hfree, hfirst⟩ := List.findIdx?_eq_some_iff_getElem.mp hi
    refine ⟨?_, fun j hj hjfree => ?_, rfl⟩
    · rw [List.getElem?_eq_getElem hlt, of_decide_eq_true hfree]
    · obtain ⟨_, hjget⟩ := List.getElem?_eq_some_iff.mp hjfree
      exact hfirst j hj (decide_eq_true hjget)
  · cases h

theorem reserve_eq_error_iff {e : ProtocolError} :
    t.reserve = .error e ↔ e = .noHandles ∧ Slot.free ∉ t.slots := by
  rw [reserve]
  split
  · rename_i i hi
    obtain ⟨hlt, hfree, -⟩ := List.findIdx?_eq_some_iff_getElem.mp hi
    constructor
    · intro h
      cases h
    · rintro ⟨-, hnone⟩
      exact absurd (List.getElem_mem hlt) (of_decide_eq_true hfree ▸ hnone)
  · rename_i hnone
    have hfree : Slot.free ∉ t.slots := by
      intro hmem
      have := List.findIdx?_eq_none_iff.mp hnone _ hmem
      exact absurd rfl (of_decide_eq_false this)
    constructor
    · intro h
      cases h
      exact ⟨rfl, hfree⟩
    · rintro ⟨rfl, -⟩
      rfl

theorem WellKept.reserve (hw : t.WellKept held) (h : t.reserve = .ok (r, t')) :
    t'.WellKept (held ++ [r]) := by
  obtain ⟨hfree, -, rfl⟩ := reserve_eq_ok h
  have hnew : r ∉ held := by
    intro hr
    rw [(hw.reserved_iff r.index).mpr hr] at hfree
    cases hfree
  apply hw.set hfree
  · rw [List.nodup_append]
    refine ⟨hw.nodup, List.pairwise_singleton _ r, fun a ha b hb hab => ?_⟩
    rw [List.mem_singleton.mp hb] at hab
    exact hnew (hab ▸ ha)
  · simp
  · intro j hj
    rw [List.mem_append, List.mem_singleton]
    refine ⟨fun h => ?_, Or.inl⟩
    rcases h with h | h
    · exact h
    · exact absurd (congrArg Reservation.index h) hj
  · intro s hs
    cases hs

theorem get?_reserve (hw : t.WellKept held) (h : t.reserve = .ok (r, t')) :
    t'.get? handle = t.get? handle := by
  apply get?_congr hw (hw.reserve h)
  intro i s _
  obtain ⟨hfree, -, rfl⟩ := reserve_eq_ok h
  rw [Holds, Holds, getElem?_set hfree]
  by_cases hi : i = r.index
  · rw [if_pos hi, hi, hfree]
    simp
  · rw [if_neg hi]

/-! ## Giving a slot up -/

theorem release_of_reserved (h : t.slots[r.index]? = some .reserved) :
    t.release r = ⟨t.slots.set r.index .free⟩ := by
  rw [release, mk.injEq]
  apply List.ext_getElem?
  intro j
  rw [List.getElem?_modify, getElem?_set h]
  by_cases hj : j = r.index
  · rw [if_pos hj, hj, h]
    simp [Slot.release]
  · rw [if_neg hj]
    simp only [if_neg (fun he : r.index = j => hj he.symm)]
    exact id_map _

theorem WellKept.release (hw : t.WellKept held) (hr : r ∈ held) :
    (t.release r).WellKept (held.erase r) := by
  have hres := (hw.reserved_iff r.index).mpr hr
  rw [release_of_reserved hres]
  apply hw.set hres (hw.nodup.erase r)
  · simp [hw.nodup.mem_erase_iff]
  · intro j hj
    rw [hw.nodup.mem_erase_iff]
    exact ⟨And.right, fun h => ⟨fun he => hj (congrArg Reservation.index he), h⟩⟩
  · intro s hs
    cases hs

theorem get?_release (hw : t.WellKept held) (hr : r ∈ held) :
    (t.release r).get? handle = t.get? handle := by
  apply get?_congr hw (hw.release hr)
  intro i s _
  have hres := (hw.reserved_iff r.index).mpr hr
  rw [release_of_reserved hres, Holds, Holds, getElem?_set hres]
  by_cases hi : i = r.index
  · rw [if_pos hi, hi, hres]
    simp
  · rw [if_neg hi]

/-- A slot that is held and given up again leaves no trace. -/
theorem release_reserve (h : t.reserve = .ok (r, t')) : t'.release r = t := by
  obtain ⟨hfree, -, rfl⟩ := reserve_eq_ok h
  obtain ⟨hlt, hget⟩ := List.getElem?_eq_some_iff.mp hfree
  have hres : (t.slots.set r.index .reserved)[r.index]? = some .reserved :=
    List.getElem?_set_self hlt
  rw [release_of_reserved hres]
  dsimp only
  rw [List.set_set, ← hget, List.set_getElem_self]

/-! ## Putting a session into its slot -/

/-- The table without the session of a handle, wherever it is. -/
def evict (t : SessionTable) (handle : UInt16) : SessionTable := ⟨t.slots.map (Slot.drop handle)⟩

theorem holds_evict : (t.evict handle).Holds i s ↔ t.Holds i s ∧ s.handle ≠ handle := by
  rw [Holds, evict, List.getElem?_map, Option.map_eq_some_iff]
  constructor
  · rintro ⟨slot, hslot, hdrop⟩
    obtain ⟨rfl, hs⟩ := Slot.drop_eq_active_iff.mp hdrop
    exact ⟨hslot, hs⟩
  · rintro ⟨hi, hs⟩
    exact ⟨_, hi, Slot.drop_eq_active_iff.mpr ⟨rfl, hs⟩⟩

theorem WellKept.evict (hw : t.WellKept held) (handle : UInt16) :
    (t.evict handle).WellKept held :=
  hw.map (fun _ => Slot.drop_eq_reserved_iff) (fun _ _ h => (Slot.drop_eq_active_iff.mp h).1)

theorem bind_of_noHandle (h : s.handle = noHandle) :
    t.bind r s = (.error (.invalidFrame .zeroHandleIssued), t.release r) := by
  rw [bind, if_pos h]

theorem bind_of_ne (h : s.handle ≠ noHandle) :
    t.bind r s = (.ok (), ⟨(t.evict s.handle).slots.set r.index (.active s)⟩) := by
  rw [bind, if_neg h]
  rfl

/-- The slot of a reservation is still held when the older session has been dropped. -/
theorem getElem?_evict_of_reserved (handle : UInt16) (h : t.slots[i]? = some .reserved) :
    (t.evict handle).slots[i]? = some .reserved := by
  rw [evict, List.getElem?_map, h]
  rfl

/-- After `bind` the slot of the reservation has the session, and every other slot has what it had,
    unless that was a session with the same handle. -/
theorem holds_bind (hw : t.WellKept held) (hr : r ∈ held) (hs : s.handle ≠ noHandle)
    {s' : Session} :
    (t.bind r s).2.Holds i s' ↔
      if i = r.index then s' = s else t.Holds i s' ∧ s'.handle ≠ s.handle := by
  have hres := getElem?_evict_of_reserved s.handle ((hw.reserved_iff r.index).mpr hr)
  rw [bind_of_ne hs, Holds, getElem?_set hres]
  by_cases hi : i = r.index
  · rw [if_pos hi, if_pos hi, Option.some.injEq, Slot.active.injEq]
    exact ⟨Eq.symm, Eq.symm⟩
  · rw [if_neg hi, if_neg hi]
    exact holds_evict

theorem WellKept.bind (hw : t.WellKept held) (hr : r ∈ held) (s : Session) :
    (t.bind r s).2.WellKept (held.erase r) := by
  by_cases hs : s.handle = noHandle
  · rw [bind_of_noHandle hs]
    exact hw.release hr
  · have hres := getElem?_evict_of_reserved s.handle ((hw.reserved_iff r.index).mpr hr)
    rw [bind_of_ne hs]
    apply (hw.evict s.handle).set hres (hw.nodup.erase r)
    · simp [hw.nodup.mem_erase_iff]
    · intro j hj
      rw [hw.nodup.mem_erase_iff]
      exact ⟨And.right, fun h => ⟨fun he => hj (congrArg Reservation.index he), h⟩⟩
    · intro s' hs'
      cases hs'
      exact ⟨hs, fun j other _ hj => (holds_evict.mp hj).2⟩

/-- **Binding** makes the session the one with its handle, and changes no other. -/
theorem get?_bind (hw : t.WellKept held) (hr : r ∈ held) (hs : s.handle ≠ noHandle) :
    (t.bind r s).2.get? handle = if handle = s.handle then some s else t.get? handle := by
  have hw' := hw.bind hr s
  by_cases h : handle = s.handle
  · rw [if_pos h, get?_eq_some_iff hw']
    exact ⟨h.symm, r.index, (holds_bind hw hr hs).mpr (by rw [if_pos rfl])⟩
  · rw [if_neg h]
    apply get?_congr hw hw'
    intro i s' hs'
    rw [holds_bind hw hr hs]
    have hne : s'.handle ≠ s.handle := fun he => h (hs'.symm.trans he)
    by_cases hi : i = r.index
    · have hres := (hw.reserved_iff r.index).mpr hr
      rw [if_pos hi, hi, Holds, hres]
      constructor
      · rintro rfl
        exact absurd rfl hne
      · intro hc
        cases hc
    · rw [if_neg hi]
      exact ⟨And.left, fun hi => ⟨hi, hne⟩⟩

/-! ## Changing a session, and taking it out -/

/-- In a table in order, the slot that is looked for is the one that has the session. -/
theorem indexOf?_of_holds (hw : t.WellKept held) (hi : t.Holds i s) :
    t.indexOf? s.handle = some i := by
  cases hindex : t.indexOf? s.handle with
  | none =>
    have hnone := List.findIdx?_eq_none_iff.mp hindex _ (List.mem_of_getElem? hi)
    rw [Slot.find?_eq_some_iff.mpr ⟨rfl, rfl⟩] at hnone
    cases hnone
  | some j =>
    obtain ⟨hlt, hfound, -⟩ := List.findIdx?_eq_some_iff_getElem.mp hindex
    obtain ⟨s', hs'⟩ := Option.isSome_iff_exists.mp hfound
    obtain ⟨hactive, hhandle⟩ := Slot.find?_eq_some_iff.mp hs'
    have hj : t.Holds j s' := by rw [Holds, List.getElem?_eq_getElem hlt, hactive]
    rw [hw.distinct hi hj hhandle.symm]

/-- No slot is found for a handle without a session. -/
theorem indexOf?_of_get?_eq_none (h : t.get? handle = none) : t.indexOf? handle = none := by
  rw [indexOf?, List.findIdx?_eq_none_iff]
  intro slot hmem
  rw [List.findSome?_eq_none_iff.mp h slot hmem]
  rfl

theorem update_of_holds (hw : t.WellKept held) (hi : t.Holds i s) (f : Session → Session) :
    t.update s.handle f = .ok ⟨t.slots.set i (.active (f s))⟩ := by
  rw [update, indexOf?_of_holds hw hi]
  dsimp only
  rw [Except.ok.injEq, mk.injEq]
  apply List.ext_getElem?
  intro j
  rw [List.getElem?_modify, getElem?_set hi]
  by_cases hj : j = i
  · rw [if_pos hj, hj, hi]
    simp [Slot.modify]
  · rw [if_neg hj]
    simp only [if_neg (fun he : i = j => hj he.symm)]
    exact id_map _

theorem update_of_get?_eq_none (h : t.get? handle = none) :
    t.update handle f = .error (.handleNotFound handle) := by
  rw [update, indexOf?_of_get?_eq_none h]

/-- A slot with a session is not held. -/
theorem not_mem_of_holds (hw : t.WellKept held) (hi : t.Holds i s) : ⟨i⟩ ∉ held := by
  intro hmem
  have hres := (hw.reserved_iff i).mpr hmem
  rw [Holds, hres] at hi
  cases hi

/-- Setting the slot of a session changes what is found under its handle, and nothing else. -/
theorem holds_set (hi : t.Holds i s) {slot : Slot} {j : Nat} {s' : Session} :
    Holds ⟨t.slots.set i slot⟩ j s' ↔ if j = i then slot = .active s' else t.Holds j s' := by
  rw [Holds, getElem?_set hi]
  by_cases hj : j = i
  · rw [if_pos hj, if_pos hj, Option.some.injEq]
  · rw [if_neg hj, if_neg hj]
    rfl

theorem get?_set_of_ne {slot : Slot} {held' : List Reservation} (hw : t.WellKept held)
    (hi : t.Holds i s) (hw' : WellKept ⟨t.slots.set i slot⟩ held')
    (hslot : ∀ s', slot = .active s' → s'.handle = s.handle) (h : handle ≠ s.handle) :
    get? ⟨t.slots.set i slot⟩ handle = t.get? handle := by
  apply get?_congr hw hw'
  intro j s' hs'
  rw [holds_set hi]
  by_cases hj : j = i
  · rw [if_pos hj, hj]
    constructor
    · intro hactive
      exact absurd (hs'.symm.trans (hslot s' hactive)) h
    · intro hi'
      rw [Holds, hi] at hi'
      cases hi'
      exact absurd hs'.symm h
  · rw [if_neg hj]

theorem WellKept.change (hw : t.WellKept held) (hi : t.Holds i s) {s' : Session}
    (hs' : s'.handle = s.handle) : WellKept ⟨t.slots.set i (.active s')⟩ held := by
  apply hw.set hi hw.nodup
  · simpa using not_mem_of_holds hw hi
  · intro j _
    rfl
  · intro s'' hactive
    cases hactive
    refine ⟨hs' ▸ hw.proper hi, fun j other hj hother he => ?_⟩
    exact hj (hw.distinct hother hi (he.trans hs'))

/-- **Updating** changes the session with the handle, and no other. -/
theorem get?_change (hw : t.WellKept held) (hi : t.Holds i s) {s' : Session}
    (hs' : s'.handle = s.handle) :
    get? ⟨t.slots.set i (.active s')⟩ handle
      = if handle = s.handle then some s' else t.get? handle := by
  have hw' := hw.change hi hs'
  by_cases h : handle = s.handle
  · rw [if_pos h, get?_eq_some_iff hw']
    exact ⟨hs'.trans h.symm, i, (holds_set hi).mpr (by rw [if_pos rfl])⟩
  · rw [if_neg h]
    apply get?_set_of_ne hw hi hw' _ h
    intro s'' hactive
    cases hactive
    exact hs'

theorem remove_of_holds (hw : t.WellKept held) (hi : t.Holds i s) :
    t.remove s.handle = (some s, ⟨t.slots.set i .free⟩) := by
  have hget : t.get? s.handle = some s := (get?_eq_some_iff hw).mpr ⟨rfl, i, hi⟩
  rw [remove, indexOf?_of_holds hw hi, hget]

theorem remove_of_get?_eq_none (h : t.get? handle = none) : t.remove handle = (none, t) := by
  rw [remove, indexOf?_of_get?_eq_none h]

theorem WellKept.take (hw : t.WellKept held) (hi : t.Holds i s) :
    WellKept ⟨t.slots.set i .free⟩ held := by
  apply hw.set hi hw.nodup
  · simpa using not_mem_of_holds hw hi
  · intro j _
    rfl
  · intro s'' hactive
    cases hactive

/-- **Removing** takes the session with the handle, and no other. -/
theorem get?_take (hw : t.WellKept held) (hi : t.Holds i s) :
    get? ⟨t.slots.set i .free⟩ handle = if handle = s.handle then none else t.get? handle := by
  have hw' := hw.take hi
  by_cases h : handle = s.handle
  · rw [if_pos h]
    cases hget : get? ⟨t.slots.set i .free⟩ handle with
    | none => rfl
    | some s' =>
      obtain ⟨hs', j, hj⟩ := holds_of_get? hget
      rw [holds_set hi] at hj
      by_cases hji : j = i
      · rw [if_pos hji] at hj
        cases hj
      · rw [if_neg hji] at hj
        exact absurd (hw.distinct hj hi (hs'.trans h)) hji
  · rw [if_neg h]
    apply get?_set_of_ne hw hi hw' _ h
    intro s'' hactive
    cases hactive

/-- What `update` does, if there is a session to change. -/
theorem update_eq_ok (hw : t.WellKept held) (h : t.update handle f = .ok t') :
    ∃ i s, t.Holds i s ∧ s.handle = handle ∧ t' = ⟨t.slots.set i (.active (f s))⟩ := by
  cases hget : t.get? handle with
  | none =>
    rw [update_of_get?_eq_none hget] at h
    cases h
  | some s =>
    obtain ⟨rfl, i, hi⟩ := holds_of_get? hget
    rw [update_of_holds hw hi] at h
    cases h
    exact ⟨i, s, hi, rfl, rfl⟩

/-- There is something to change exactly under a handle that has a session. -/
theorem exists_update_of_get? (hw : t.WellKept held) (h : t.get? handle = some s)
    (f : Session → Session) : ∃ t', t.update handle f = .ok t' := by
  obtain ⟨rfl, i, hi⟩ := holds_of_get? h
  exact ⟨_, update_of_holds hw hi f⟩

theorem WellKept.update (hw : t.WellKept held) (hf : ∀ s, (f s).handle = s.handle)
    (h : t.update handle f = .ok t') : t'.WellKept held := by
  obtain ⟨i, s, hi, -, rfl⟩ := update_eq_ok hw h
  exact hw.change hi (hf s)

theorem get?_update (hw : t.WellKept held) (hf : ∀ s, (f s).handle = s.handle)
    (h : t.update handle f = .ok t') (k : UInt16) :
    t'.get? k = if k = handle then (t.get? handle).map f else t.get? k := by
  obtain ⟨i, s, hi, rfl, rfl⟩ := update_eq_ok hw h
  rw [get?_change hw hi (hf s), (get?_eq_some_iff hw).mpr ⟨rfl, i, hi⟩]
  rfl

theorem WellKept.remove (hw : t.WellKept held) (handle : UInt16) :
    (t.remove handle).2.WellKept held := by
  cases hget : t.get? handle with
  | none =>
    rw [remove_of_get?_eq_none hget]
    exact hw
  | some s =>
    obtain ⟨rfl, i, hi⟩ := holds_of_get? hget
    rw [remove_of_holds hw hi]
    exact hw.take hi

theorem get?_remove (hw : t.WellKept held) (handle k : UInt16) :
    (t.remove handle).2.get? k = if k = handle then none else t.get? k := by
  cases hget : t.get? handle with
  | none =>
    rw [remove_of_get?_eq_none hget]
    by_cases hk : k = handle
    · rw [if_pos hk, hk, hget]
    · rw [if_neg hk]
  | some s =>
    obtain ⟨rfl, i, hi⟩ := holds_of_get? hget
    rw [remove_of_holds hw hi]
    exact get?_take hw hi

/-- What is removed is what was found. -/
theorem remove_fst (hw : t.WellKept held) (handle : UInt16) :
    (t.remove handle).1 = t.get? handle := by
  cases hget : t.get? handle with
  | none => rw [remove_of_get?_eq_none hget]
  | some s =>
    obtain ⟨rfl, i, hi⟩ := holds_of_get? hget
    rw [remove_of_holds hw hi]

/-! ## Clearing -/

theorem WellKept.clear (hw : t.WellKept held) : t.clear.WellKept held :=
  hw.map (fun _ => Slot.vacate_eq_reserved_iff)
    (fun slot s h => absurd h (Slot.vacate_ne_active slot s))

theorem get?_clear : t.clear.get? handle = none := by
  cases hget : t.clear.get? handle with
  | none => rfl
  | some s =>
    obtain ⟨-, i, hi⟩ := holds_of_get? hget
    rw [Holds, clear, List.getElem?_map, Option.map_eq_some_iff] at hi
    obtain ⟨slot, -, hslot⟩ := hi
    exact absurd hslot (Slot.vacate_ne_active slot s)

/-! ## Capacity -/

theorem capacity_reserve {r : Reservation} {t' : SessionTable}
    (h : t.reserve = .ok (r, t')) : t'.capacity = t.capacity := by
  obtain ⟨-, -, rfl⟩ := reserve_eq_ok h
  exact List.length_set

@[simp] theorem capacity_release (r : Reservation) : (t.release r).capacity = t.capacity :=
  List.length_modify ..

@[simp] theorem capacity_bind (r : Reservation) (s : Session) :
    (t.bind r s).2.capacity = t.capacity := by
  rw [bind]
  split
  · exact capacity_release r
  · exact List.length_set.trans (List.length_map _)

theorem capacity_update {handle : UInt16} {f : Session → Session} {t' : SessionTable}
    (h : t.update handle f = .ok t') : t'.capacity = t.capacity := by
  rw [update] at h
  split at h
  · cases h
    exact List.length_modify ..
  · cases h

@[simp] theorem capacity_remove (handle : UInt16) :
    (t.remove handle).2.capacity = t.capacity := by
  rw [remove]
  split
  · exact List.length_set
  · rfl

@[simp] theorem capacity_clear : t.clear.capacity = t.capacity := List.length_map _

/-- Every slot is free, held, or has a session. -/
theorem size_add_count (t : SessionTable) :
    t.size + t.slots.count .reserved + t.slots.count .free = t.capacity := by
  obtain ⟨slots⟩ := t
  show (slots.filterMap Slot.session?).length + slots.count .reserved + slots.count .free
    = slots.length
  induction slots with
  | nil => rfl
  | cons slot slots ih =>
    cases slot <;> simp [List.filterMap_cons, Slot.session?] at ih ⊢ <;> omega

/-- In a table in order there are as many reservations as slots that are held. -/
theorem count_reserved (hw : t.WellKept held) : t.slots.count .reserved = held.length := by
  -- the places of the slots held are the places of the reservations, each once
  have hindices : ((List.range t.capacity).filter (fun i => t.slots[i]? == some .reserved)).Perm
      (held.map Reservation.index) := by
    rw [List.perm_ext_iff_of_nodup (List.nodup_range.filter _)
      (List.Pairwise.map _ (fun a b hne he => hne (by cases a; cases b; exact congrArg _ he))
        hw.nodup)]
    intro i
    rw [List.mem_filter, List.mem_range, beq_iff_eq, List.mem_map]
    constructor
    · rintro ⟨-, hi⟩
      exact ⟨⟨i⟩, (hw.reserved_iff i).mp hi, rfl⟩
    · rintro ⟨r, hr, rfl⟩
      have hres := (hw.reserved_iff r.index).mpr hr
      obtain ⟨hlt, -⟩ := List.getElem?_eq_some_iff.mp hres
      exact ⟨hlt, hres⟩
  have hslots : t.slots.map some = (List.range t.capacity).map (fun i => t.slots[i]?) := by
    apply List.ext_getElem
    · simp [capacity]
    · intro i hi _
      rw [List.length_map] at hi
      simp [List.getElem?_eq_getElem hi]
  calc t.slots.count .reserved
      = (t.slots.map some).countP (· == some .reserved) := by
        rw [List.countP_map, List.count]
        apply List.countP_congr
        intro slot _
        simp
    _ = (List.range t.capacity).countP (fun i => t.slots[i]? == some .reserved) := by
        rw [hslots, List.countP_map]
        rfl
    _ = (held.map Reservation.index).length := by
        rw [List.countP_eq_length_filter, hindices.length_eq]
    _ = held.length := List.length_map _

/-- **A table is full** exactly when sessions and reservations fill it. -/
theorem free_not_mem_iff (hw : t.WellKept held) :
    Slot.free ∉ t.slots ↔ t.size + held.length = t.capacity := by
  have hcount := size_add_count t
  rw [count_reserved hw] at hcount
  rw [← List.count_eq_zero]
  omega

end CompanionBus.SessionTable
