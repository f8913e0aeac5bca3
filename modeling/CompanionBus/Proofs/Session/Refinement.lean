import CompanionBus.Proofs.Session.Operations
import Mathlib.Data.Finmap
/-
  A shared session table is a finite map with a number of reservations.

  1. **Program** — `SharedTable` is a table with the reservations that are outstanding. `step` makes
     one step of anyone who shares the table: a reservation is made, bound or dropped, a session is
     changed or removed, or all are. All clones of a table have the same slots, so it makes no
     difference through which of them a step is made, and any interleaving is a list of steps.

  2. **Specification** — `Registry` knows no slots: it is a finite map from handles to sessions, and
     a count of reservations. It refuses a reservation when the two fill the capacity.

  3. **Refinement** (`table_refines_registry`) — from an empty table on, both give the same results
     for every list of steps, and the table reads as the registry at the end. What the registry
     cannot tell, namely which slots are used, is in `SlotLaws`.

  4. **The crux** — `WellKept` is kept by every step (`step_refines`). It says that the slots held
     are those of the reservations outstanding, so no step but binding or dropping a reservation can
     ever touch its slot.
-/
namespace CompanionBus

/-! ## Steps -/

/-- A step on a shared table. A reservation is named by its number among those outstanding. -/
inductive TableStep where
  | reserve
  | bind (which : Nat) (session : Session)
  | drop (which : Nat)
  /-- Changes the session with a handle, which keeps that handle. -/
  | update (handle : UInt16) (change : Session → Session)
      (keeps : ∀ s, (change s).handle = s.handle)
  | remove (handle : UInt16)
  | clear

/-- What a step gives back. -/
inductive StepResult where
  | reserved (result : Except ProtocolError Unit)
  | bound (result : Except ProtocolError Unit)
  | dropped
  | updated (result : Except ProtocolError Unit)
  | removed (session : Option Session)
  | cleared
  /-- No reservation has that number. -/
  | absent

/-- The results of a list of steps, and the state after them. -/
def replay {α : Type} (step : α → TableStep → StepResult × α) : α → List TableStep →
    List StepResult × α
  | a, [] => ([], a)
  | a, s :: steps =>
    ((step a s).1 :: (replay step (step a s).2 steps).1, (replay step (step a s).2 steps).2)

/-! ## The table -/

/-- A table with the reservations that are outstanding on it, oldest first. -/
structure SharedTable where
  table : SessionTable
  outstanding : List Reservation := []

namespace SharedTable

/-- Makes a step. Binding and dropping use a reservation up. -/
def step (st : SharedTable) : TableStep → StepResult × SharedTable
  | .reserve =>
    match st.table.reserve with
    | .ok (r, t) => (.reserved (.ok ()), ⟨t, st.outstanding ++ [r]⟩)
    | .error e => (.reserved (.error e), st)
  | .bind which s =>
    match st.outstanding[which]? with
    | some r => (.bound (st.table.bind r s).1, ⟨(st.table.bind r s).2, st.outstanding.erase r⟩)
    | none => (.absent, st)
  | .drop which =>
    match st.outstanding[which]? with
    | some r => (.dropped, ⟨st.table.release r, st.outstanding.erase r⟩)
    | none => (.absent, st)
  | .update handle change _ =>
    match st.table.update handle change with
    | .ok t => (.updated (.ok ()), { st with table := t })
    | .error e => (.updated (.error e), st)
  | .remove handle =>
    (.removed (st.table.remove handle).1, { st with table := (st.table.remove handle).2 })
  | .clear => (.cleared, { st with table := st.table.clear })

end SharedTable

/-! ## The registry -/

/-- A finite map from handles to sessions, and how many reservations there are. -/
structure Registry where
  sessions : Finmap fun _ : UInt16 => Session
  reservations : Nat

namespace Registry

/-- Makes a step. -/
def step (capacity : Nat) (g : Registry) : TableStep → StepResult × Registry
  | .reserve =>
    if g.sessions.keys.card + g.reservations = capacity then
      (.reserved (.error .noHandles), g)
    else (.reserved (.ok ()), { g with reservations := g.reservations + 1 })
  | .bind which s =>
    if which < g.reservations then
      if s.handle = noHandle then
        (.bound (.error (.invalidFrame .zeroHandleIssued)),
          { g with reservations := g.reservations - 1 })
      else (.bound (.ok ()), ⟨g.sessions.insert s.handle s, g.reservations - 1⟩)
    else (.absent, g)
  | .drop which =>
    if which < g.reservations then (.dropped, { g with reservations := g.reservations - 1 })
    else (.absent, g)
  | .update handle change _ =>
    match g.sessions.lookup handle with
    | some s => (.updated (.ok ()), { g with sessions := g.sessions.insert handle (change s) })
    | none => (.updated (.error (.handleNotFound handle)), g)
  | .remove handle =>
    (.removed (g.sessions.lookup handle), { g with sessions := g.sessions.erase handle })
  | .clear => (.cleared, { g with sessions := ∅ })

end Registry

/-! ## The table as a map -/

namespace SessionTable

variable {t : SessionTable} {held : List Reservation}

/-- A session as an entry of a map, under its handle. -/
def entry (s : Session) : Σ _ : UInt16, Session := ⟨s.handle, s⟩

/-- The sessions of a table under their handles. -/
def toFinmap (t : SessionTable) : Finmap fun _ : UInt16 => Session :=
  (t.toList.map entry).toFinmap

@[simp] theorem lookup_toFinmap (t : SessionTable) (handle : UInt16) :
    t.toFinmap.lookup handle = t.get? handle := by
  rw [toFinmap, Finmap.dlookup_list_toFinmap]
  obtain ⟨slots⟩ := t
  show ((slots.filterMap Slot.session?).map entry).dlookup handle
    = slots.findSome? (Slot.find? handle)
  induction slots with
  | nil => rfl
  | cons slot slots ih =>
    cases slot with
    | free => exact ih
    | reserved => exact ih
    | active s =>
      have hcons : (Slot.active s :: slots).filterMap Slot.session?
          = s :: slots.filterMap Slot.session? := rfl
      rw [hcons, List.map_cons, List.findSome?_cons, Slot.find?, entry]
      by_cases h : s.handle = handle
      · subst h
        rw [if_pos rfl, List.dlookup_cons_eq]
      · rw [if_neg h, List.dlookup_cons_ne _ _ (fun he => h he.symm), ih]

/-- Two tables with the same sessions under each handle are the same map. -/
theorem toFinmap_eq {m : Finmap fun _ : UInt16 => Session}
    (h : ∀ handle, t.get? handle = m.lookup handle) : t.toFinmap = m := by
  apply Finmap.ext_lookup
  intro handle
  rw [lookup_toFinmap, h]

theorem nodup_handles (hw : t.WellKept held) : t.handles.Nodup := by
  rw [handles, List.Nodup, List.pairwise_map, toList, List.pairwise_filterMap,
    List.pairwise_iff_getElem]
  intro i j hi hj hij s hs s' hs' he
  have hsi : t.Holds i s := by
    rw [Holds, List.getElem?_eq_getElem hi, Slot.session?_eq_some_iff.mp hs]
  have hsj : t.Holds j s' := by
    rw [Holds, List.getElem?_eq_getElem hj, Slot.session?_eq_some_iff.mp hs']
  have := hw.distinct hsi hsj he
  omega

theorem noHandle_not_mem_handles (hw : t.WellKept held) : noHandle ∉ t.handles := by
  intro hmem
  obtain ⟨s, hs, hzero⟩ := List.mem_map.mp hmem
  obtain ⟨i, hi⟩ := mem_toList_iff.mp hs
  exact hw.proper hi hzero

/-- The map has as many handles as the table has sessions. -/
theorem card_keys_toFinmap (hw : t.WellKept held) : t.toFinmap.keys.card = t.size := by
  have hkeys : t.toFinmap.keys = t.handles.toFinset := by
    ext handle
    rw [Finmap.mem_keys, toFinmap, Finmap.mem_list_toFinmap, List.mem_toFinset, handles,
      List.mem_map]
    constructor
    · rintro ⟨s, hs⟩
      obtain ⟨s', hs', he⟩ := List.mem_map.mp hs
      cases he
      exact ⟨s, hs', rfl⟩
    · rintro ⟨s, hs, rfl⟩
      exact ⟨s, List.mem_map.mpr ⟨s, hs, rfl⟩⟩
  rw [hkeys, List.toFinset_card_of_nodup (nodup_handles hw), handles, List.length_map]
  rfl

end SessionTable

/-! ## One step -/

namespace SharedTable

/-- What a shared table reads as. -/
def registry (st : SharedTable) : Registry := ⟨st.table.toFinmap, st.outstanding.length⟩

/-- `st.InOrder capacity` — the table has so many slots, and those held are those of the
    reservations outstanding. -/
structure InOrder (st : SharedTable) (capacity : Nat) : Prop where
  capacity_eq : st.table.capacity = capacity
  wellKept : st.table.WellKept st.outstanding

/-- `st.Follows capacity a` — the step `a` gives the same result on the table as on the registry,
    and leaves the table in order and reading as the registry does. -/
def Follows (st : SharedTable) (capacity : Nat) (a : TableStep) : Prop :=
  st.registry.step capacity a = ((st.step a).1, (st.step a).2.registry) ∧
    (st.step a).2.InOrder capacity

variable {st : SharedTable} {capacity : Nat}

theorem reserve_follows (h : st.InOrder capacity) : st.Follows capacity .reserve := by
  -- no slot is free exactly when sessions and reservations together fill the table
  have hfull := SessionTable.free_not_mem_iff h.wellKept
  rw [h.capacity_eq, ← SessionTable.card_keys_toFinmap h.wellKept] at hfull
  cases hres : st.table.reserve with
  | error e =>
    obtain ⟨rfl, hfree⟩ := SessionTable.reserve_eq_error_iff.mp hres
    rw [Follows, step, hres, Registry.step, registry, if_pos (hfull.mp hfree)]
    exact ⟨rfl, h⟩
  | ok p =>
    obtain ⟨r, t⟩ := p
    have hfree : Slot.free ∈ st.table.slots :=
      List.mem_of_getElem? (SessionTable.reserve_eq_ok hres).1
    rw [Follows, step, hres, Registry.step, registry, if_neg (fun hc => hfull.mpr hc hfree)]
    refine ⟨?_, SessionTable.capacity_reserve hres ▸ h.capacity_eq, h.wellKept.reserve hres⟩
    have hmap : t.toFinmap = st.table.toFinmap := by
      apply SessionTable.toFinmap_eq
      intro handle
      rw [SessionTable.lookup_toFinmap, SessionTable.get?_reserve h.wellKept hres]
    simp only [registry, hmap, List.length_append, List.length_singleton]

/-- Giving a reservation up leaves the sessions as they are. -/
theorem release_inOrder (h : st.InOrder capacity) {r : Reservation} (hr : r ∈ st.outstanding) :
    registry ⟨st.table.release r, st.outstanding.erase r⟩
        = ⟨st.table.toFinmap, st.outstanding.length - 1⟩ ∧
      InOrder ⟨st.table.release r, st.outstanding.erase r⟩ capacity := by
  refine ⟨?_, (SessionTable.capacity_release r).trans h.capacity_eq, h.wellKept.release hr⟩
  have hmap : (st.table.release r).toFinmap = st.table.toFinmap := by
    apply SessionTable.toFinmap_eq
    intro handle
    rw [SessionTable.lookup_toFinmap, SessionTable.get?_release h.wellKept hr]
  rw [registry, hmap, List.length_erase_of_mem hr]

/-- A number that no reservation has is beyond them all. -/
theorem getElem?_outstanding (st : SharedTable) (which : Nat) :
    (∃ r ∈ st.outstanding, st.outstanding[which]? = some r ∧ which < st.outstanding.length) ∨
      (st.outstanding[which]? = none ∧ ¬ which < st.outstanding.length) := by
  cases hget : st.outstanding[which]? with
  | none => exact Or.inr ⟨rfl, by simpa using hget⟩
  | some r =>
    obtain ⟨hlt, -⟩ := List.getElem?_eq_some_iff.mp hget
    exact Or.inl ⟨r, List.mem_of_getElem? hget, rfl, hlt⟩

theorem drop_follows (h : st.InOrder capacity) (which : Nat) :
    st.Follows capacity (.drop which) := by
  rcases getElem?_outstanding st which with ⟨r, hr, hget, hlt⟩ | ⟨hget, hlt⟩
  · obtain ⟨hregistry, horder⟩ := release_inOrder h hr
    rw [Follows, step, hget, Registry.step, registry, if_pos hlt]
    dsimp only
    rw [hregistry]
    exact ⟨rfl, horder⟩
  · rw [Follows, step, hget, Registry.step, registry, if_neg hlt]
    exact ⟨rfl, h⟩

theorem bind_follows (h : st.InOrder capacity) (which : Nat) (s : Session) :
    st.Follows capacity (.bind which s) := by
  rcases getElem?_outstanding st which with ⟨r, hr, hget, hlt⟩ | ⟨hget, hlt⟩
  · rw [Follows, step, hget, Registry.step, registry, if_pos hlt]
    dsimp only
    by_cases hs : s.handle = noHandle
    · -- without a proper handle the reservation is as good as dropped
      obtain ⟨hregistry, horder⟩ := release_inOrder h hr
      rw [if_pos hs, SessionTable.bind_of_noHandle hs]
      dsimp only
      rw [hregistry]
      exact ⟨rfl, horder⟩
    · have hmap : (st.table.bind r s).2.toFinmap = st.table.toFinmap.insert s.handle s := by
        apply SessionTable.toFinmap_eq
        intro handle
        rw [SessionTable.get?_bind h.wellKept hr hs]
        by_cases hk : handle = s.handle
        · rw [if_pos hk, hk, Finmap.lookup_insert]
        · rw [if_neg hk, Finmap.lookup_insert_of_ne _ hk, SessionTable.lookup_toFinmap]
      have hok : (st.table.bind r s).1 = .ok () := by rw [SessionTable.bind_of_ne hs]
      rw [if_neg hs, registry, hmap, hok, List.length_erase_of_mem hr]
      exact ⟨rfl, (SessionTable.capacity_bind r s).trans h.capacity_eq, h.wellKept.bind hr s⟩
  · rw [Follows, step, hget, Registry.step, registry, if_neg hlt]
    exact ⟨rfl, h⟩

theorem update_follows (h : st.InOrder capacity) (handle : UInt16) (change : Session → Session)
    (keeps : ∀ s, (change s).handle = s.handle) :
    st.Follows capacity (.update handle change keeps) := by
  rw [Follows, step, Registry.step, registry, SessionTable.lookup_toFinmap]
  cases hget : st.table.get? handle with
  | none =>
    rw [SessionTable.update_of_get?_eq_none hget]
    exact ⟨rfl, h⟩
  | some s =>
    obtain ⟨t, ht⟩ := SessionTable.exists_update_of_get? h.wellKept hget change
    have hmap : t.toFinmap = st.table.toFinmap.insert handle (change s) := by
      apply SessionTable.toFinmap_eq
      intro k
      rw [SessionTable.get?_update h.wellKept keeps ht, hget]
      by_cases hk : k = handle
      · rw [if_pos hk, hk, Finmap.lookup_insert]
        rfl
      · rw [if_neg hk, Finmap.lookup_insert_of_ne _ hk, SessionTable.lookup_toFinmap]
    rw [ht]
    refine ⟨?_, (SessionTable.capacity_update ht).trans h.capacity_eq, h.wellKept.update keeps ht⟩
    simp only [registry, hmap]

theorem remove_follows (h : st.InOrder capacity) (handle : UInt16) :
    st.Follows capacity (.remove handle) := by
  have hmap : (st.table.remove handle).2.toFinmap = st.table.toFinmap.erase handle := by
    apply SessionTable.toFinmap_eq
    intro k
    rw [SessionTable.get?_remove h.wellKept]
    by_cases hk : k = handle
    · rw [if_pos hk, hk, Finmap.lookup_erase]
    · rw [if_neg hk, Finmap.lookup_erase_ne hk, SessionTable.lookup_toFinmap]
  rw [Follows, step, Registry.step, registry, SessionTable.lookup_toFinmap, registry, hmap,
    SessionTable.remove_fst h.wellKept]
  exact ⟨rfl, (SessionTable.capacity_remove handle).trans h.capacity_eq, h.wellKept.remove handle⟩

theorem clear_follows (h : st.InOrder capacity) : st.Follows capacity .clear := by
  have hmap : st.table.clear.toFinmap = ∅ := by
    apply SessionTable.toFinmap_eq
    intro k
    rw [SessionTable.get?_clear, Finmap.lookup_empty]
  rw [Follows, step, Registry.step, registry, registry, hmap]
  exact ⟨rfl, SessionTable.capacity_clear.trans h.capacity_eq, h.wellKept.clear⟩

/-- **Every step on the table is the step on the registry.** -/
theorem step_refines (h : st.InOrder capacity) (a : TableStep) : st.Follows capacity a := by
  cases a with
  | reserve => exact reserve_follows h
  | bind which s => exact bind_follows h which s
  | drop which => exact drop_follows h which
  | update handle change keeps => exact update_follows h handle change keeps
  | remove handle => exact remove_follows h handle
  | clear => exact clear_follows h

/-! ## Every run -/

/-- From a table in order on, all runs agree with those of the registry. -/
theorem replay_refines (steps : List TableStep) : ∀ {st : SharedTable}, st.InOrder capacity →
    replay (Registry.step capacity) st.registry steps
        = ((replay step st steps).1, (replay step st steps).2.registry) ∧
      (replay step st steps).2.InOrder capacity := by
  induction steps with
  | nil =>
    intro st h
    exact ⟨rfl, h⟩
  | cons a steps ih =>
    intro st h
    obtain ⟨hstep, horder⟩ := step_refines h a
    obtain ⟨hrun, horder⟩ := ih horder
    refine ⟨?_, horder⟩
    rw [replay, hstep]
    dsimp only
    rw [hrun]
    rfl

/-! ## Which slots are used -/

/-- What the steps do that a registry cannot tell, with the reservations `held` outstanding. -/
structure SlotLaws (t : SessionTable) (held : List Reservation) : Prop where
  /-- A reservation takes the lowest free slot. -/
  reserve : ∀ r t', t.reserve = .ok (r, t') →
    t.slots[r.index]? = some Slot.free ∧ (∀ i < r.index, t.slots[i]? ≠ some Slot.free) ∧
      t'.slots = t.slots.set r.index Slot.reserved
  /-- A reservation that is dropped gives back its own slot and no other. -/
  drop : ∀ r ∈ held, (t.release r).slots = t.slots.set r.index .free
  /-- So does one that cannot be bound. -/
  bind_noHandle : ∀ r ∈ held, ∀ s : Session, s.handle = noHandle →
    (t.bind r s).2.slots = t.slots.set r.index .free
  /-- One that is bound has its session in its own slot. -/
  bind_self : ∀ r ∈ held, ∀ s : Session, s.handle ≠ noHandle → (t.bind r s).2.Holds r.index s
  /-- Every other slot stays as it is, except that of an older session with the handle. -/
  bind_others : ∀ r ∈ held, ∀ s : Session, s.handle ≠ noHandle → ∀ i ≠ r.index,
    (∀ older, t.Holds i older → older.handle ≠ s.handle) → (t.bind r s).2.slots[i]? = t.slots[i]?
  /-- That one gives way. -/
  bind_older : ∀ r ∈ held, ∀ s : Session, s.handle ≠ noHandle → ∀ i older, t.Holds i older →
    older.handle = s.handle → (t.bind r s).2.slots[i]? = some Slot.free
  /-- A session is changed in its slot, and no other slot with it. -/
  update : ∀ i s change, t.Holds i s →
    t.update s.handle change = .ok ⟨t.slots.set i (.active (change s))⟩
  /-- A session that is removed frees its slot and no other. -/
  remove : ∀ i s, t.Holds i s → (t.remove s.handle).2.slots = t.slots.set i .free
  /-- When all sessions are removed, the slots that are held stay held. -/
  clear : ∀ i : Nat, t.clear.slots[i]? = some Slot.reserved ↔ t.slots[i]? = some Slot.reserved

theorem slotLaws {t : SessionTable} {held : List Reservation} (hw : t.WellKept held) :
    SlotLaws t held where
  reserve := by
    intro r t' h
    obtain ⟨hfree, hlowest, rfl⟩ := SessionTable.reserve_eq_ok h
    exact ⟨hfree, hlowest, rfl⟩
  drop := by
    intro r hr
    rw [SessionTable.release_of_reserved ((hw.reserved_iff r.index).mpr hr)]
  bind_noHandle := by
    intro r hr s hs
    rw [SessionTable.bind_of_noHandle hs,
      SessionTable.release_of_reserved ((hw.reserved_iff r.index).mpr hr)]
  bind_self := by
    intro r hr s hs
    rw [SessionTable.holds_bind hw hr hs, if_pos rfl]
  bind_others := by
    intro r hr s hs i hi hother
    rw [SessionTable.bind_of_ne hs]
    dsimp only
    rw [List.getElem?_set_ne (fun he => hi he.symm), SessionTable.evict, List.getElem?_map]
    cases hslot : t.slots[i]? with
    | none => rfl
    | some slot =>
      cases slot with
      | free => rfl
      | reserved => rfl
      | active older =>
        rw [Option.map_some, Slot.drop, if_neg (hother older hslot)]
  bind_older := by
    intro r hr s hs i older hi hold
    have hres := (hw.reserved_iff r.index).mpr hr
    have hne : r.index ≠ i := by
      intro he
      rw [he, hi] at hres
      cases hres
    rw [SessionTable.bind_of_ne hs]
    dsimp only
    rw [List.getElem?_set_ne hne, SessionTable.evict, List.getElem?_map, hi, Option.map_some,
      Slot.drop, if_pos hold]
  update := fun i s change hi => SessionTable.update_of_holds hw hi change
  remove := by
    intro i s hi
    rw [SessionTable.remove_of_holds hw hi]
  clear := by
    intro i
    rw [hw.clear.reserved_iff, hw.reserved_iff]

/-- **A shared session table is a finite map with a number of reservations.** From an empty table
    on, every list of steps gives the same results on the table as on the registry, and the table
    reads as the registry in the end. It then has as many slots as at first, the slots held are
    those of the reservations outstanding, one for each, the handles are distinct and proper, and
    the next step uses the slots as the laws say. -/
theorem table_refines_registry (capacity : Nat) (steps : List TableStep) :
    ∃ results table outstanding,
      replay step ⟨.ofCapacity capacity, []⟩ steps = (results, ⟨table, outstanding⟩) ∧
      replay (Registry.step capacity) ⟨∅, 0⟩ steps
        = (results, ⟨table.toFinmap, outstanding.length⟩) ∧
      table.slots.length = capacity ∧
      outstanding.Nodup ∧
      (∀ i, table.slots[i]? = some .reserved ↔ ⟨i⟩ ∈ outstanding) ∧
      table.handles.Nodup ∧ noHandle ∉ table.handles ∧
      SlotLaws table outstanding := by
  have hempty : InOrder ⟨.ofCapacity capacity, []⟩ capacity :=
    ⟨List.length_replicate, SessionTable.wellKept_ofCapacity capacity⟩
  obtain ⟨hrun, horder⟩ := replay_refines steps hempty
  have hregistry : registry ⟨.ofCapacity capacity, []⟩ = ⟨∅, 0⟩ := by
    have hmap : (SessionTable.ofCapacity capacity).toFinmap = ∅ := by
      apply SessionTable.toFinmap_eq
      intro handle
      rw [SessionTable.get?_ofCapacity, Finmap.lookup_empty]
    rw [registry, hmap]
    rfl
  rw [hregistry] at hrun
  exact ⟨_, _, _, rfl, hrun, horder.capacity_eq, horder.wellKept.nodup,
    horder.wellKept.reserved_iff, SessionTable.nodup_handles horder.wellKept,
    SessionTable.noHandle_not_mem_handles horder.wellKept, slotLaws horder.wellKept⟩

end SharedTable

end CompanionBus
