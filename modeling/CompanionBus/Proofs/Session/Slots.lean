import CompanionBus.Session.Table
/-
  The slots of a session table, one by one.

  1. **Views** — `t.Holds i s` says that the session `s` is in slot `i`. `get?_eq_some_iff` reads
     the map from handles to sessions off that.

  2. **The invariant** (`WellKept t held`) — the slots that are held are those of the reservations
     `held`, one for each; no two sessions have the same handle, and none has the handle 0.

  3. **One lemma for each operation** — what it does to the slots (`reserve_eq_ok`,
     `release_of_reserved`, `update_of_get?`, `remove_of_get?`). Apart from `bind` and `clear`, an
     operation sets a single slot.

  4. **The crux (`WellKept.set`, `WellKept.map`)** — what it takes to set one slot, or to empty
     several, without hurting the invariant. Every operation keeps the invariant by one of the two,
     `bind` by both: it first drops the older session, which makes the handle free for the slot.
-/
namespace CompanionBus

/-! ## Slots -/

namespace Slot

theorem find?_eq_some_iff {handle : UInt16} {slot : Slot} {s : Session} :
    slot.find? handle = some s ↔ slot = .active s ∧ s.handle = handle := by
  cases slot with
  | free => simp [find?]
  | reserved => simp [find?]
  | active s' =>
    rw [find?]
    by_cases h : s'.handle = handle
    · rw [if_pos h, Option.some.injEq, active.injEq]
      exact ⟨fun he => ⟨he, he ▸ h⟩, fun he => he.1⟩
    · rw [if_neg h, active.injEq]
      exact ⟨fun he => (nomatch he), fun he => absurd (he.1 ▸ he.2) h⟩

theorem session?_eq_some_iff {slot : Slot} {s : Session} :
    slot.session? = some s ↔ slot = .active s := by
  cases slot <;> simp [session?]

theorem drop_eq_reserved_iff {handle : UInt16} {slot : Slot} :
    slot.drop handle = .reserved ↔ slot = .reserved := by
  cases slot with
  | free => simp [drop]
  | reserved => simp [drop]
  | active s => rw [drop]; split <;> simp

theorem drop_eq_active_iff {handle : UInt16} {slot : Slot} {s : Session} :
    slot.drop handle = .active s ↔ slot = .active s ∧ s.handle ≠ handle := by
  cases slot with
  | free => simp [drop]
  | reserved => simp [drop]
  | active s' =>
    rw [drop]
    by_cases h : s'.handle = handle
    · rw [if_pos h, active.injEq]
      exact ⟨fun he => (nomatch he), fun he => absurd (he.1 ▸ h) he.2⟩
    · rw [if_neg h, active.injEq]
      exact ⟨fun he => ⟨he, he ▸ h⟩, fun he => he.1⟩

theorem vacate_eq_reserved_iff {slot : Slot} : slot.vacate = .reserved ↔ slot = .reserved := by
  cases slot <;> simp [vacate]

theorem vacate_ne_active (slot : Slot) (s : Session) : slot.vacate ≠ .active s := by
  cases slot <;> simp [vacate]

end Slot

namespace SessionTable

variable {t : SessionTable} {held : List Reservation} {handle : UInt16}

/-! ## What is in a slot -/

/-- `t.Holds i s` — the session `s` is in slot `i`. -/
def Holds (t : SessionTable) (i : Nat) (s : Session) : Prop := t.slots[i]? = some (.active s)

theorem mem_toList_iff {s : Session} : s ∈ t.toList ↔ ∃ i, t.Holds i s := by
  rw [toList, List.mem_filterMap]
  simp only [Slot.session?_eq_some_iff, Holds, ← List.mem_iff_getElem?]
  constructor
  · rintro ⟨slot, hmem, rfl⟩
    exact hmem
  · intro hmem
    exact ⟨_, hmem, rfl⟩

/-- A session that is found is in some slot, under its own handle. -/
theorem holds_of_get? {s : Session} (h : t.get? handle = some s) :
    s.handle = handle ∧ ∃ i, t.Holds i s := by
  obtain ⟨slot, hmem, hfind⟩ := List.exists_of_findSome?_eq_some h
  obtain ⟨rfl, hs⟩ := Slot.find?_eq_some_iff.mp hfind
  exact ⟨hs, List.mem_iff_getElem?.mp hmem⟩

/-- No session is found under a handle that none has. -/
theorem ne_of_get?_eq_none (h : t.get? handle = none) {i : Nat} {s : Session} (hs : t.Holds i s) :
    s.handle ≠ handle := by
  intro he
  have hfind := List.findSome?_eq_none_iff.mp h _ (List.mem_of_getElem? hs)
  rw [Slot.find?_eq_some_iff.mpr ⟨rfl, he⟩] at hfind
  cases hfind

/-- The slots of the table after one of them is set. -/
theorem getElem?_set {slots : List Slot} {i : Nat} {old : Slot} (hi : slots[i]? = some old)
    (slot : Slot) (j : Nat) : (slots.set i slot)[j]? = if j = i then some slot else slots[j]? := by
  obtain ⟨hlt, -⟩ := List.getElem?_eq_some_iff.mp hi
  by_cases h : j = i
  · subst h
    rw [if_pos rfl, List.getElem?_set_self hlt]
  · rw [if_neg h, List.getElem?_set_ne (fun he => h he.symm)]

/-! ## The invariant -/

/-- `t.WellKept held` — the table is in order while its slots are held for the reservations
    `held`. -/
structure WellKept (t : SessionTable) (held : List Reservation) : Prop where
  /-- No two reservations are for the same slot. -/
  nodup : held.Nodup
  /-- The slots that are held are those of the reservations. -/
  reserved_iff : ∀ i, t.slots[i]? = some .reserved ↔ ⟨i⟩ ∈ held
  /-- No two sessions have the same handle. -/
  distinct : ∀ {i j s s'}, t.Holds i s → t.Holds j s' → s.handle = s'.handle → i = j
  /-- Every session has a proper handle. -/
  proper : ∀ {i s}, t.Holds i s → s.handle ≠ noHandle

/-- In a table in order, the session with a handle is the one that is in some slot. -/
theorem get?_eq_some_iff (hw : t.WellKept held) {s : Session} :
    t.get? handle = some s ↔ s.handle = handle ∧ ∃ i, t.Holds i s := by
  constructor
  · exact holds_of_get?
  · rintro ⟨rfl, i, hi⟩
    cases hget : t.get? s.handle with
    | none => exact absurd rfl (ne_of_get?_eq_none hget hi)
    | some s' =>
      obtain ⟨hs', j, hj⟩ := holds_of_get? hget
      have hij := hw.distinct hi hj hs'.symm
      subst hij
      rw [Holds, hi] at hj
      cases hj
      rfl

/-- Two tables in order whose slots agree on a handle agree on its session. -/
theorem get?_congr {t' : SessionTable} {held' : List Reservation} (hw : t.WellKept held)
    (hw' : t'.WellKept held') (h : ∀ i s, s.handle = handle → (t'.Holds i s ↔ t.Holds i s)) :
    t'.get? handle = t.get? handle := by
  apply Option.ext
  intro s
  rw [get?_eq_some_iff hw, get?_eq_some_iff hw']
  constructor
  · rintro ⟨hs, i, hi⟩
    exact ⟨hs, i, (h i s hs).mp hi⟩
  · rintro ⟨hs, i, hi⟩
    exact ⟨hs, i, (h i s hs).mpr hi⟩

/-- A table has free slots only at first. -/
theorem eq_free_of_getElem?_ofCapacity {capacity i : Nat} {slot : Slot}
    (h : (ofCapacity capacity).slots[i]? = some slot) : slot = .free :=
  List.eq_of_mem_replicate (List.mem_of_getElem? h)

theorem wellKept_ofCapacity (capacity : Nat) : (ofCapacity capacity).WellKept [] := by
  refine ⟨List.nodup_nil, fun i => ?_, fun {i j s s'} hi => ?_, fun {i s} hi => ?_⟩
  · constructor
    · intro h
      cases eq_free_of_getElem?_ofCapacity h
    · intro h
      cases h
  · cases eq_free_of_getElem?_ofCapacity hi
  · cases eq_free_of_getElem?_ofCapacity hi

@[simp] theorem get?_ofCapacity (capacity : Nat) (handle : UInt16) :
    (ofCapacity capacity).get? handle = none := by
  cases hget : (ofCapacity capacity).get? handle with
  | none => rfl
  | some s =>
    obtain ⟨-, i, hi⟩ := holds_of_get? hget
    cases eq_free_of_getElem?_ofCapacity hi

/-- **Setting one slot** keeps a table in order if the reservations change along with it, and if a
    session that goes into the slot has a handle that no other slot has. -/
theorem WellKept.set {held' : List Reservation} {i : Nat} {old slot : Slot} (hw : t.WellKept held)
    (hi : t.slots[i]? = some old) (hnodup : held'.Nodup)
    (hself : slot = .reserved ↔ ⟨i⟩ ∈ held')
    (hothers : ∀ j, j ≠ i → (⟨j⟩ ∈ held' ↔ ⟨j⟩ ∈ held))
    (hactive : ∀ s, slot = .active s →
      s.handle ≠ noHandle ∧ ∀ j s', j ≠ i → t.Holds j s' → s'.handle ≠ s.handle) :
    WellKept ⟨t.slots.set i slot⟩ held' := by
  have hget := getElem?_set hi slot
  refine ⟨hnodup, fun j => ?_, fun {j k s s'} hj hk hs => ?_, fun {j s} hj => ?_⟩
  · dsimp only
    rw [hget]
    by_cases h : j = i
    · subst h
      rw [if_pos rfl, Option.some.injEq, hself]
    · rw [if_neg h, hothers j h, hw.reserved_iff]
  · -- only the slot that is set can bring a new handle into the table
    rw [Holds, hget] at hj hk
    by_cases hji : j = i <;> by_cases hki : k = i
    · rw [hji, hki]
    · rw [if_pos hji] at hj
      rw [if_neg hki] at hk
      exact absurd hs.symm ((hactive s (Option.some.inj hj)).2 k s' hki hk)
    · rw [if_neg hji] at hj
      rw [if_pos hki] at hk
      exact absurd hs ((hactive s' (Option.some.inj hk)).2 j s hji hj)
    · rw [if_neg hji] at hj
      rw [if_neg hki] at hk
      exact hw.distinct hj hk hs
  · rw [Holds, hget] at hj
    by_cases hji : j = i
    · rw [if_pos hji] at hj
      exact (hactive s (Option.some.inj hj)).1
    · rw [if_neg hji] at hj
      exact hw.proper hj

/-- **Emptying slots** keeps a table in order if those that are held stay held. -/
theorem WellKept.map {g : Slot → Slot} (hw : t.WellKept held)
    (hreserved : ∀ slot, g slot = .reserved ↔ slot = .reserved)
    (hactive : ∀ slot s, g slot = .active s → slot = .active s) :
    WellKept ⟨t.slots.map g⟩ held := by
  have hholds : ∀ {i s}, Holds ⟨t.slots.map g⟩ i s → t.Holds i s := by
    intro i s h
    rw [Holds, List.getElem?_map, Option.map_eq_some_iff] at h
    obtain ⟨slot, hslot, hg⟩ := h
    rw [Holds, hslot, hactive slot s hg]
  refine ⟨hw.nodup, fun i => ?_, fun hi hj hs => ?_, fun hi => hw.proper (hholds hi)⟩
  · rw [List.getElem?_map, Option.map_eq_some_iff, ← hw.reserved_iff]
    constructor
    · rintro ⟨slot, hslot, hg⟩
      rw [hslot, (hreserved slot).mp hg]
    · intro h
      exact ⟨.reserved, h, (hreserved _).mpr rfl⟩
  · exact hw.distinct (hholds hi) (hholds hj) hs

end SessionTable

end CompanionBus
