import CompanionBus.Proofs.Clock.Civil
/-
  What a clock time shows is the exact time, and nothing of it is lost.

  1. **Specification (`render_exact`)** — let the date-times of the library in use be Gregorian
     (`DateTimes.Gregorian`). A clock time that they reach shows as the one civil time that so many
     seconds are in front of; it makes the way to a date-time and back. Any other shows as a bare
     number. Two clock times never show alike.

  2. **The crux (`Gregorian.civil_eq`)** — of the date and time of a date-time only this is known, that
     the first is the start of 1970 and that each goes on to the next. So by induction on the seconds
     each is the civil time that so many seconds are in front of.

  3. **A library that is Gregorian (`proleptic_gregorian`)** — one that finds the date by cutting a number
     of days, in place of going on from day to day.
-/
namespace CompanionBus

/-! ## Numbers with a sign and without -/

namespace ClockTime

theorem le_maxValue_iff {n : UInt64} : n ≤ Int64.maxValue.toUInt64 ↔ n.toNat < 2 ^ 63 := by
  have hmax : Int64.maxValue.toUInt64.toNat = 2 ^ 63 - 1 := by decide
  rw [UInt64.le_iff_toNat_le, hmax]
  omega

theorem signed?_of_lt {n : UInt64} (h : n.toNat < 2 ^ 63) :
    signed? n = some (Int64.ofNat n.toNat) := if_pos (le_maxValue_iff.mpr h)

theorem nonneg_ofNat {n : Nat} (h : n < 2 ^ 63) : 0 ≤ Int64.ofNat n := by
  rw [Int64.le_iff_toInt_le, Int64.toInt_ofNat_of_lt h]
  exact Int.natCast_nonneg n

/-- The way there and back. -/
theorem unsigned?_ofNat {n : UInt64} (h : n.toNat < 2 ^ 63) :
    unsigned? (Int64.ofNat n.toNat) = some n := by
  rw [unsigned?, if_pos (nonneg_ofNat h), Int64.toUInt64_ofNat', UInt64.ofNat_toNat]

end ClockTime

/-! ## Gregorian date-times -/

namespace DateTimes

variable {δ : Type} {lib : DateTimes δ} {civil : δ → CivilTime} {n : Nat} {d : δ}

theorem lt_of_le_lastInstant (h : n ≤ lastInstant) : n < 2 ^ 63 :=
  Nat.lt_of_le_of_lt h (by decide)

/-- Up to the last instant there is a date-time for each second. -/
theorem Gregorian.exists_of_le (hlib : lib.Gregorian civil) (h : n ≤ lastInstant) :
    ∃ d, lib.ofTimestamp? (Int64.ofNat n) 0 = some d := by
  have hlt := lt_of_le_lastInstant h
  have hreach := hlib.reach (Int64.ofNat n) (ClockTime.nonneg_ofNat hlt)
  rw [Int64.toInt_ofNat_of_lt hlt] at hreach
  exact Option.isSome_iff_exists.mp (hreach.mpr (Int.ofNat_le.mpr h))

/-- Behind it there is none. -/
theorem Gregorian.eq_none_of_lt (hlib : lib.Gregorian civil) (h : lastInstant < n)
    (hlt : n < 2 ^ 63) : lib.ofTimestamp? (Int64.ofNat n) 0 = none := by
  have hreach := hlib.reach (Int64.ofNat n) (ClockTime.nonneg_ofNat hlt)
  rw [Int64.toInt_ofNat_of_lt hlt] at hreach
  rw [← Option.not_isSome_iff_eq_none, hreach, Int.ofNat_le]
  exact Nat.not_le.mpr h

/-- **A date-time has the date and time of day that its seconds tell.** -/
theorem Gregorian.civil_eq (hlib : lib.Gregorian civil) :
    ∀ {n : Nat} {d : δ}, n ≤ lastInstant → lib.ofTimestamp? (Int64.ofNat n) 0 = some d →
      civil d = CivilTime.ofSeconds n := by
  intro n
  -- on the seconds, from the start of 1970 on
  induction n with
  | zero =>
    intro d _ hd
    rw [hlib.epoch hd]
    decide
  | succ n ih =>
    intro d hle hd
    have hbefore : n ≤ lastInstant := Nat.le_of_succ_le hle
    obtain ⟨d₀, hd₀⟩ := hlib.exists_of_le hbefore
    have hsucc : Int64.ofNat (n + 1) = Int64.ofNat n + 1 := Int64.ofNat_add n 1
    rw [hsucc] at hd
    rw [hlib.tick (ClockTime.nonneg_ofNat (lt_of_le_lastInstant hbefore)) hd₀ hd, ih hbefore hd₀,
      CivilTime.next_ofSeconds]

/-- The pattern of clock times, piece by piece. -/
theorem written_pattern (c : CivilTime) : ∃ pieces, ClockTime.pattern = Piece.pattern pieces ∧
    Piece.written pieces c = c.text := by
  refine ⟨[.year, .mark '-' (by decide), .month, .mark '-' (by decide), .day,
    .mark 'T' (by decide), .hour, .mark ':' (by decide), .minute, .mark ':' (by decide), .second,
    .mark 'Z' (by decide)], by decide, ?_⟩
  rw [← String.toList_inj, CivilTime.toList_text, Piece.written, String.toList_ofList]
  simp [Piece.text, Piece.digits, CivilTime.yearText]

end DateTimes

/-! ## A Gregorian library -/

theorem CivilTime.fill_mark {ch : Char} (h : ch ≠ '%') (c : CivilTime) (rest : List Char) :
    c.fill (ch :: rest) = ch :: c.fill rest := by
  rw [CivilTime.fill]
  exact fun letter rest' hch _ => h hch

/-- The pieces of a pattern are filled in one after the other. -/
theorem CivilTime.fill_pattern (c : CivilTime) (pieces : List Piece) :
    c.fill (pieces.flatMap Piece.code) = pieces.flatMap (Piece.text c) := by
  induction pieces with
  | nil => rfl
  | cons piece pieces ih =>
    rw [List.flatMap_cons, List.flatMap_cons, ← ih]
    cases piece with
    | mark ch plain => exact fill_mark plain c _
    | _ => rfl

namespace DateTimes

variable {s : Int64} {t : Timestamp}

/-- From the start of 1970 on, it has all whole seconds up to the last instant. -/
theorem proleptic_ofTimestamp? (hs : 0 ≤ s) :
    proleptic.ofTimestamp? s 0 = some t ↔ s.toInt ≤ lastInstant ∧ t = ⟨s, 0⟩ := by
  have hfirst : Timestamp.firstInstant ≤ s.toInt := by
    rw [Int64.le_iff_toInt_le] at hs
    exact Int.le_trans (by decide) hs
  have hinstant : Timestamp.isInstant ⟨s, 0⟩ = true ↔ s.toInt ≤ lastInstant := by
    rw [Timestamp.isInstant, decide_eq_true_iff]
    exact ⟨fun h => h.2.1, fun h => ⟨hfirst, h, Or.inl (show (0 : UInt32) < 1000000000 by decide)⟩⟩
  show (if Timestamp.isInstant ⟨s, 0⟩ then some ⟨s, 0⟩ else none) = some t ↔ _
  rw [Option.ite_none_right_eq_some, hinstant, Option.some_inj, eq_comm (a := t)]

/-- **The library is Gregorian.** -/
theorem proleptic_gregorian : proleptic.Gregorian Timestamp.civil where
  reach s hs := by
    rw [Option.isSome_iff_exists]
    exact ⟨fun ⟨t, ht⟩ => ((proleptic_ofTimestamp? hs).mp ht).1,
      fun hle => ⟨⟨s, 0⟩, (proleptic_ofTimestamp? hs).mpr ⟨hle, rfl⟩⟩⟩
  timestamp hs ht := by
    obtain ⟨-, rfl⟩ := (proleptic_ofTimestamp? hs).mp ht
    rfl
  epoch ht := by
    obtain ⟨-, rfl⟩ := (proleptic_ofTimestamp? (by decide)).mp ht
    show CivilTime.ofSeconds 0 = _
    decide
  tick {s t t'} hs ht ht' := by
    obtain ⟨hle, rfl⟩ := (proleptic_ofTimestamp? hs).mp ht
    obtain ⟨n, hn, rfl⟩ : ∃ n < 2 ^ 63, s = Int64.ofNat n :=
      ⟨_, s.toNatClampNeg_lt, (Int64.ofNat_toNatClampNeg s hs).symm⟩
    rw [Int64.toInt_ofNat_of_lt hn, Int.ofNat_le] at hle
    have hlt : n + 1 < 2 ^ 63 := Nat.lt_of_le_of_lt (Nat.succ_le_succ hle) (by decide)
    have hsucc : Int64.ofNat n + 1 = Int64.ofNat (n + 1) := (Int64.ofNat_add n 1).symm
    rw [hsucc] at ht'
    obtain ⟨-, rfl⟩ := (proleptic_ofTimestamp? (ClockTime.nonneg_ofNat hlt)).mp ht'
    show CivilTime.ofSeconds (Int64.ofNat (n + 1)).toNatClampNeg
      = (CivilTime.ofSeconds (Int64.ofNat n).toNatClampNeg).next
    rw [Int64.toNatClampNeg_ofNat_of_lt hlt, Int64.toNatClampNeg_ofNat_of_lt hn,
      CivilTime.next_ofSeconds]
  format {s t} hs ht pieces := by
    rw [Piece.written, ← CivilTime.fill_pattern]
    show String.ofList (t.civil.fill (String.ofList _).toList) = _
    rw [String.toList_ofList]

end DateTimes

/-! ## Clock times -/

namespace ClockTime

open DateTimes (lastInstant)

variable {δ : Type} {lib : DateTimes δ} {civil : δ → CivilTime} {t t' : ClockTime}

/-- A time that date-times reach goes there and back, and is written as its civil time. -/
theorem reached_of_le (hlib : lib.Gregorian civil) (h : t.seconds.toNat ≤ lastInstant) :
    (∃ d, t.toInstant? lib = some d ∧ ofInstant? lib d = some t) ∧
      t.render lib = (CivilTime.ofSeconds t.seconds.toNat).text := by
  have hlt := DateTimes.lt_of_le_lastInstant h
  have hpos := nonneg_ofNat hlt
  obtain ⟨d, hd⟩ := hlib.exists_of_le h
  have hinstant : t.toInstant? lib = some d := by
    rw [toInstant?, signed?_of_lt hlt]
    exact hd
  obtain ⟨pieces, hpattern, hwritten⟩ :=
    DateTimes.written_pattern (CivilTime.ofSeconds t.seconds.toNat)
  refine ⟨⟨d, hinstant, ?_⟩, ?_⟩
  · rw [ofInstant?, hlib.timestamp hpos hd, unsigned?_ofNat hlt]
  · rw [render, hinstant]
    dsimp only
    rw [hpattern, hlib.format hpos hd, hlib.civil_eq h hd, hwritten]

/-- Any other time is too large for a sign, or lies behind the last date-time. -/
theorem toInstant?_of_lt (hlib : lib.Gregorian civil) (h : lastInstant < t.seconds.toNat) :
    t.toInstant? lib = none := by
  rw [toInstant?]
  rcases Nat.lt_or_ge t.seconds.toNat (2 ^ 63) with hlt | hge
  · rw [signed?_of_lt hlt]
    exact hlib.eq_none_of_lt h hlt
  · rw [signed?, if_neg (fun hle => Nat.not_lt.mpr hge (le_maxValue_iff.mp hle))]

theorem render_of_lt (hlib : lib.Gregorian civil) (h : lastInstant < t.seconds.toNat) :
    t.render lib = "@" ++ toString t.seconds.toNat := by
  rw [render, toInstant?_of_lt hlib h]

/-- **No two clock times show alike.** -/
theorem render_injective (hlib : lib.Gregorian civil) (h : t'.render lib = t.render lib) :
    t' = t := by
  have hseconds : t'.seconds.toNat = t.seconds.toNat := by
    rcases Nat.lt_or_ge lastInstant t'.seconds.toNat with hlt' | hle' <;>
      rcases Nat.lt_or_ge lastInstant t.seconds.toNat with hlt | hle
    · rw [render_of_lt hlib hlt', render_of_lt hlib hlt] at h
      exact Decimal.toString_injective (String.append_right_inj _ |>.mp h)
    · rw [render_of_lt hlib hlt', (reached_of_le hlib hle).2] at h
      exact absurd h.symm (CivilTime.text_ne_bare _ _)
    · rw [(reached_of_le hlib hle').2, render_of_lt hlib hlt] at h
      exact absurd h (CivilTime.text_ne_bare _ _)
    · rw [(reached_of_le hlib hle').2, (reached_of_le hlib hle).2] at h
      have hcivil := CivilTime.text_injective (CivilTime.valid_ofSeconds _)
        (CivilTime.valid_ofSeconds _) h
      rw [← CivilTime.seconds_ofSeconds t'.seconds.toNat, hcivil, CivilTime.seconds_ofSeconds]
  cases t
  cases t'
  rw [ClockTime.mk.injEq]
  exact UInt64.toNat_inj.mp hseconds

/-- **A clock time shows as exactly the time that it is**, if the date-times of the library are
    Gregorian.

    Up to the last second that date-times reach, it is written as the one civil time that so many
    seconds are in front of, and it comes back from its date-time as it was. Behind that it has no
    date-time and is written as a bare number. No two clock times are written alike. -/
theorem render_exact (hlib : lib.Gregorian civil) (t : ClockTime) :
    (t.seconds.toNat ≤ lastInstant →
      (∃ c : CivilTime, c.Valid ∧ c.seconds = t.seconds.toNat ∧ t.render lib = c.text ∧
        ∀ c' : CivilTime, c'.Valid → c'.seconds = t.seconds.toNat → c' = c) ∧
      ∃ d, t.toInstant? lib = some d ∧ ofInstant? lib d = some t) ∧
    (lastInstant < t.seconds.toNat →
      t.toInstant? lib = none ∧ t.render lib = "@" ++ toString t.seconds.toNat) ∧
    ∀ t' : ClockTime, t'.render lib = t.render lib → t' = t := by
  refine ⟨fun hle => ?_, fun hlt => ⟨toInstant?_of_lt hlib hlt, render_of_lt hlib hlt⟩,
    fun t' => render_injective hlib⟩
  obtain ⟨hback, hrender⟩ := reached_of_le hlib hle
  refine ⟨⟨CivilTime.ofSeconds t.seconds.toNat, CivilTime.valid_ofSeconds _,
    CivilTime.seconds_ofSeconds _, hrender, fun c' hvalid hseconds => ?_⟩, hback⟩
  rw [← hseconds, CivilTime.ofSeconds_seconds hvalid]

/-- The last clock time with a date-time, and the first one without. -/
theorem last_instant_shown :
    render .proleptic ⟨8210266876799⟩ = "+262142-12-31T23:59:59Z" ∧
      (∃ d, toInstant? .proleptic ⟨8210266876799⟩ = some d ∧
        ofInstant? .proleptic d = some ⟨8210266876799⟩) ∧
      render .proleptic ⟨8210266876800⟩ = "@8210266876800" := by
  obtain ⟨hreached, -, -⟩ := render_exact DateTimes.proleptic_gregorian ⟨8210266876799⟩
  obtain ⟨-, hbehind, -⟩ := render_exact DateTimes.proleptic_gregorian ⟨8210266876800⟩
  obtain ⟨⟨c, -, -, hrender, hunique⟩, hback⟩ := hreached (by decide)
  obtain rfl : ⟨⟨262142, 12, 31⟩, 23, 59, 59⟩ = c :=
    hunique _ ⟨⟨by decide, by decide⟩, by decide, by decide, by decide, by decide⟩ (by decide)
  refine ⟨?_, hback, ?_⟩
  · rw [hrender]
    decide
  · rw [(hbehind (by decide)).2]
    decide

end ClockTime

end CompanionBus
