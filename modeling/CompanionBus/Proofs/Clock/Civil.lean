import CompanionBus.Clock.Proleptic
import CompanionBus.Proofs.Clock.Calendar
/-
  Civil times, counted and written.

  1. **Counting** — `CivilTime.seconds` counts the seconds in front of a civil time. From the start of
     1970 on, the count tells the civil time (`ofSeconds_seconds`), and a clock that goes on by a
     second goes on by one in the count (`Valid.next`).

  2. **Writing (`text_injective`)** — no two civil times are written alike. Only the year has no fixed
     width. All that is behind it has, so a text can be cut at a place counted from its end; then each
     number is read back from its digits, since zeros in front do not change what they say.
-/
namespace CompanionBus

/-! ## Decimal digits -/

namespace Decimal

theorem toList_padded (width n : Nat) :
    (padded width n).toList
      = List.replicate (width - (Nat.toDigits 10 n).length) '0' ++ Nat.toDigits 10 n :=
  String.toList_ofList

/-- The digits say the number, whatever zeros are in front. -/
theorem ofDigitChars_padded (width n : Nat) :
    Nat.ofDigitChars 10 (padded width n).toList 0 = n := by
  rw [toList_padded, Nat.ofDigitChars_append, Nat.ofDigitChars_replicate_zero, Nat.mul_zero,
    Nat.ofDigitChars_ten_toDigits]

theorem padded_injective {width n n' : Nat}
    (h : (padded width n).toList = (padded width n').toList) : n = n' := by
  have hread := congrArg (fun digits => Nat.ofDigitChars 10 digits 0) h
  simpa only [ofDigitChars_padded] using hread

theorem isDigit_of_mem_padded {width n : Nat} {c : Char} (h : c ∈ (padded width n).toList) :
    c.isDigit = true := by
  rw [toList_padded, List.mem_append] at h
  rcases h with hzero | hdigit
  · rw [List.eq_of_mem_replicate hzero]
    rfl
  · exact Nat.isDigit_of_mem_toDigits (by decide) (by decide) hdigit

theorem toString_injective {n n' : Nat} (h : toString n = toString n') : n = n' := by
  have hread := congrArg (fun digits => Nat.ofDigitChars 10 digits.toList 0) h
  simpa only [Nat.toString_eq_ofList_toDigits, String.toList_ofList, Nat.ofDigitChars_ten_toDigits]
    using hread

/-- A number that fits the width is written in just that width. -/
theorem length_padded {width n : Nat} (hwidth : 0 < width) (h : n < 10 ^ width) :
    (padded width n).toList.length = width := by
  have hle : (Nat.toDigits 10 n).length ≤ width :=
    (Nat.length_toDigits_le_iff (by decide) hwidth).mpr h
  rw [toList_padded, List.length_append, List.length_replicate]
  omega

/-- A field of two digits behind a mark can be split off from the end. -/
theorem append_field_inj {front front' : List Char} {mark : Char} {n n' : Nat} (hn : n < 100)
    (hn' : n' < 100)
    (h : front ++ mark :: (padded 2 n).toList = front' ++ mark :: (padded 2 n').toList) :
    front = front' ∧ n = n' := by
  have hlength : (mark :: (padded 2 n).toList).length = (mark :: (padded 2 n').toList).length := by
    rw [List.length_cons, List.length_cons, length_padded (by decide) hn,
      length_padded (by decide) hn']
  obtain ⟨hfront, hfield⟩ := List.append_inj' h hlength
  exact ⟨hfront, padded_injective (List.cons.inj hfield).2⟩

end Decimal

/-! ## Civil times -/

namespace CivilTime

/-- The date is one of the calendar and not before 1970, and the day has such a time. -/
def Valid (c : CivilTime) : Prop :=
  c.date.Valid ∧ 1970 ≤ c.date.year ∧ c.hour < 24 ∧ c.minute < 60 ∧ c.second < 60

/-- The seconds from the start of 1970 on. Every day has 86400 of them. -/
def seconds (c : CivilTime) : Nat :=
  86400 * c.date.dayNumber + 3600 * c.hour + 60 * c.minute + c.second

/-- The written form: `YYYY-MM-DDThh:mm:ssZ`, with a plus sign in front of a year of more than four
    digits. -/
def text (c : CivilTime) : String :=
  (if c.date.year ≤ 9999 then "" else "+") ++ Decimal.padded 4 c.date.year
    ++ "-" ++ Decimal.padded 2 c.date.month ++ "-" ++ Decimal.padded 2 c.date.day
    ++ "T" ++ Decimal.padded 2 c.hour ++ ":" ++ Decimal.padded 2 c.minute
    ++ ":" ++ Decimal.padded 2 c.second ++ "Z"

theorem valid_ofSeconds (n : Nat) : (ofSeconds n).Valid := by
  refine ⟨(Date.valid_ofDayNumber _).1, Date.year_ofDayNumber _, ?_, ?_, ?_⟩
  · show n % 86400 / 3600 < 24
    omega
  · exact Nat.mod_lt _ (by decide)
  · exact Nat.mod_lt _ (by decide)

theorem seconds_ofSeconds (n : Nat) : (ofSeconds n).seconds = n := by
  show 86400 * (Date.ofDayNumber (n / 86400)).dayNumber + 3600 * (n % 86400 / 3600)
    + 60 * (n % 86400 / 60 % 60) + n % 86400 % 60 = n
  rw [Date.dayNumber_ofDayNumber]
  omega

/-- **Seconds tell the civil time.** -/
theorem ofSeconds_seconds {c : CivilTime} (h : c.Valid) : ofSeconds c.seconds = c := by
  obtain ⟨hdate, hyear, hhour, hminute, hsecond⟩ := h
  have hday : c.seconds / 86400 = c.date.dayNumber := by
    rw [seconds]
    omega
  have htime : c.seconds % 86400 = 3600 * c.hour + 60 * c.minute + c.second := by
    rw [seconds]
    omega
  rw [ofSeconds, hday, htime, Date.ofDayNumber_dayNumber hdate hyear]
  obtain ⟨date, hour, minute, second⟩ := c
  dsimp only at hhour hminute hsecond ⊢
  rw [CivilTime.mk.injEq]
  exact ⟨rfl, by omega, by omega, by omega⟩

/-! ## One second later -/

variable {c c' : CivilTime}

/-- **A clock goes on from a civil time to a civil time**, and one second has passed. -/
theorem Valid.next (h : c.Valid) : c.next.Valid ∧ c.next.seconds = c.seconds + 1 := by
  obtain ⟨hdate, hyear, hhour, hminute, hsecond⟩ := h
  rw [CivilTime.next]
  by_cases hs : c.second < 59
  · rw [if_pos hs]
    refine ⟨⟨hdate, hyear, hhour, hminute, ?_⟩, ?_⟩ <;> simp only [seconds] <;> omega
  rw [if_neg hs]
  by_cases hm : c.minute < 59
  · rw [if_pos hm]
    refine ⟨⟨hdate, hyear, hhour, ?_, ?_⟩, ?_⟩ <;> simp only [seconds] <;> omega
  rw [if_neg hm]
  by_cases hh : c.hour < 23
  · rw [if_pos hh]
    refine ⟨⟨hdate, hyear, ?_, ?_, ?_⟩, ?_⟩ <;> simp only [seconds] <;> omega
  · -- midnight
    obtain ⟨hnext, hday, hlater⟩ := hdate.next
    have hepoch := Date.daysBeforeYear_mono hyear
    have hge := hdate.daysBefore_bounds.1
    rw [if_neg hh]
    refine ⟨⟨hnext, Nat.le_trans hyear hlater, ?_, ?_, ?_⟩, ?_⟩
    all_goals simp only [seconds, Date.dayNumber_eq, hday]; omega

theorem next_ofSeconds (n : Nat) : (ofSeconds n).next = ofSeconds (n + 1) := by
  obtain ⟨hvalid, hseconds⟩ := (valid_ofSeconds n).next
  rw [seconds_ofSeconds] at hseconds
  rw [← hseconds, ofSeconds_seconds hvalid]

/-! ## The written form tells the civil time -/

/-- The year in the written form. It is the only field without a fixed width. -/
def yearText (c : CivilTime) : List Char :=
  (if c.date.year ≤ 9999 then [] else ['+']) ++ (Decimal.padded 4 c.date.year).toList

theorem toList_text (c : CivilTime) :
    c.text.toList = c.yearText ++ '-' :: (Decimal.padded 2 c.date.month).toList
      ++ '-' :: (Decimal.padded 2 c.date.day).toList ++ 'T' :: (Decimal.padded 2 c.hour).toList
      ++ ':' :: (Decimal.padded 2 c.minute).toList ++ ':' :: (Decimal.padded 2 c.second).toList
      ++ ['Z'] := by
  rw [text, yearText]
  split <;> simp

/-- All numbers of a civil time but the year have at most two digits. -/
theorem Valid.small (h : c.Valid) :
    c.date.month < 100 ∧ c.date.day < 100 ∧ c.hour < 100 ∧ c.minute < 100 ∧ c.second < 100 := by
  obtain ⟨hdate, -, hhour, hminute, hsecond⟩ := h
  have hmonth := hdate.month_le
  have hday := hdate.day_le
  omega

theorem year_eq_of_yearText (h : c.yearText = c'.yearText) : c.date.year = c'.date.year := by
  -- a plus sign is no digit
  have hplus : ∀ (n : Nat) (digits : List Char), (Decimal.padded 4 n).toList ≠ '+' :: digits := by
    intro n digits hdigits
    have hdigit : '+'.isDigit = true :=
      Decimal.isDigit_of_mem_padded (hdigits ▸ List.mem_cons_self)
    exact absurd hdigit (by decide)
  unfold yearText at h
  split at h <;> split at h <;> simp only [List.nil_append, List.cons_append] at h
  · exact Decimal.padded_injective h
  · exact absurd h (hplus _ _)
  · exact absurd h.symm (hplus _ _)
  · exact Decimal.padded_injective (List.cons.inj h).2

/-- **No two civil times are written alike.** The last field is split off again and again. -/
theorem text_injective (h : c.Valid) (h' : c'.Valid) (heq : c.text = c'.text) : c = c' := by
  obtain ⟨hmonth, hday, hhour, hminute, hsecond⟩ := h.small
  obtain ⟨hmonth', hday', hhour', hminute', hsecond'⟩ := h'.small
  have hlist := congrArg String.toList heq
  rw [toList_text, toList_text] at hlist
  have hfields := List.append_cancel_right hlist
  obtain ⟨hfields, second_eq⟩ := Decimal.append_field_inj hsecond hsecond' hfields
  obtain ⟨hfields, minute_eq⟩ := Decimal.append_field_inj hminute hminute' hfields
  obtain ⟨hfields, hour_eq⟩ := Decimal.append_field_inj hhour hhour' hfields
  obtain ⟨hfields, day_eq⟩ := Decimal.append_field_inj hday hday' hfields
  obtain ⟨hfields, month_eq⟩ := Decimal.append_field_inj hmonth hmonth' hfields
  have year_eq := year_eq_of_yearText hfields
  obtain ⟨⟨year, month, day⟩, hour, minute, second⟩ := c
  obtain ⟨⟨year', month', day'⟩, hour', minute', second'⟩ := c'
  dsimp only at year_eq month_eq day_eq hour_eq minute_eq second_eq
  subst year_eq month_eq day_eq hour_eq minute_eq second_eq
  rfl

/-- A civil time is not written like a bare number. -/
theorem text_ne_bare (c : CivilTime) (number : String) : c.text ≠ "@" ++ number := by
  intro heq
  have hlist := congrArg String.toList heq
  rw [toList_text, yearText, String.toList_append] at hlist
  split at hlist
  · -- the written form begins with a digit of the year
    cases hyear : (Decimal.padded 4 c.date.year).toList with
    | nil =>
      rw [hyear] at hlist
      exact absurd (List.cons.inj hlist).1 (by decide)
    | cons digit digits =>
      rw [hyear] at hlist
      have hdigit : digit.isDigit = true :=
        Decimal.isDigit_of_mem_padded (hyear ▸ List.mem_cons_self)
      rw [(List.cons.inj hlist).1] at hdigit
      exact absurd hdigit (by decide)
  · exact absurd (List.cons.inj hlist).1 (by decide)

end CivilTime

end CompanionBus
