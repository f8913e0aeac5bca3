import CompanionBus.Clock.Civil
import Mathlib.Order.Monotone.Basic
import Mathlib.Tactic.IntervalCases
/-
  Every day from 1 January 1970 on has exactly one date.

  1. **Specification (`valid_ofDayNumber`, `eq_of_daysBefore_eq`)** — the date that the program gives
     for a day number is one of the calendar, and counting the plain way from the start of year 0
     (`daysBefore`) leads back to that day. No two dates of the calendar have the same count. So the
     program cannot give another date than it does.

  2. **The plain count** — `daysBeforeYear` is a closed form; it is right because each year is as long
     as its months (`daysBeforeYear_succ`), whatever rule for leap years applies to it. Going on by a day
     is one more in the count (`Valid.next`).

  3. **From a date in a year that begins with March** — from there the months have a pattern of five
     that repeats (`monthLength_march`), and the leap day comes last (`ofMarchDay_spec`).

  4. **The crux (`Cut`)** — a cycle of 400 years is cut into centuries, fours and years, and the last
     piece of each cut is a day longer than the others where a leap day falls. The caps of two of the
     quotients let a 366th day through exactly in front of a leap year.
-/
namespace CompanionBus.Date

/-! ## Leap days -/

/-- How many leap days a year has. -/
def leapDays (year : Nat) : Nat := if isLeap year then 1 else 0

theorem leapDays_of_isLeap {year : Nat} (h : isLeap year = true) : leapDays year = 1 := if_pos h

theorem monthLength_two (year : Nat) : monthLength year 2 = 28 + leapDays year := by
  show (if isLeap year then 29 else 28) = _
  rw [leapDays]
  split <;> rfl

/-- The three rules for leap years as a sum: every fourth year has a day more, of these every full
    century has it less, and of those every fourth has it again. -/
theorem leapDays_add (year : Nat) :
    leapDays year + (if year % 100 = 0 then 1 else 0) =
      (if year % 4 = 0 then 1 else 0) + (if year % 400 = 0 then 1 else 0) := by
  rw [leapDays, isLeap]
  by_cases hcycle : year % 400 = 0
  · have hcentury : year % 100 = 0 := by omega
    have hfour : year % 4 = 0 := by omega
    simp [hcycle, hcentury, hfour]
  · by_cases hcentury : year % 100 = 0
    · have hfour : year % 4 = 0 := by omega
      simp [hcycle, hcentury, hfour]
    · simp [hcycle, hcentury]

/-! ## Years -/

/-- The days in front of a year and its own leap day. -/
theorem daysBeforeYear_add (year : Nat) :
    daysBeforeYear year + leapDays year + year / 100 = 365 * year + year / 4 + year / 400 + 1 := by
  have hleap := leapDays_add year
  have hfour : (year + 3) / 4 + (if year % 4 = 0 then 1 else 0) = year / 4 + 1 := by
    split <;> omega
  have hcentury : (year + 99) / 100 + (if year % 100 = 0 then 1 else 0) = year / 100 + 1 := by
    split <;> omega
  have hcycle : (year + 399) / 400 + (if year % 400 = 0 then 1 else 0) = year / 400 + 1 := by
    split <;> omega
  -- the subtraction is one of numbers that allow it
  have hle : (year + 99) / 100 ≤ 365 * year + (year + 3) / 4 + (year + 399) / 400 := by omega
  generalize (if year % 4 = 0 then 1 else 0) = four at hleap hfour
  generalize (if year % 100 = 0 then 1 else 0) = century at hleap hcentury
  generalize (if year % 400 = 0 then 1 else 0) = cycle at hleap hcycle
  rw [daysBeforeYear]
  omega

theorem daysBeforeYear_add_one (year : Nat) :
    daysBeforeYear (year + 1) = daysBeforeYear year + 365 + leapDays year := by
  have hyear := daysBeforeYear_add year
  have hfour : (year + 1 + 3) / 4 = year / 4 + 1 := by omega
  have hcentury : (year + 1 + 99) / 100 = year / 100 + 1 := by omega
  have hcycle : (year + 1 + 399) / 400 = year / 400 + 1 := by omega
  have hle : year / 100 ≤ year := Nat.div_le_self year 100
  rw [daysBeforeYear, hfour, hcentury, hcycle]
  omega

theorem daysBeforeYear_mono : Monotone daysBeforeYear := by
  apply monotone_nat_of_le_succ
  intro year
  have hnext := daysBeforeYear_add_one year
  omega

/-! ## Months -/

/-- From March on, the months of a year are as long as the steps of one sequence. -/
theorem monthLength_march (year : Nat) {m : Nat} (hm : m ≤ 9) :
    (153 * m + 2) / 5 + monthLength year (m + 3) = (153 * (m + 1) + 2) / 5 := by
  interval_cases m <;> rfl

theorem daysBeforeMonth_march (year : Nat) :
    ∀ m ≤ 10, daysBeforeMonth year (m + 3) = 59 + leapDays year + (153 * m + 2) / 5
  | 0, _ => by
    show 0 + 0 + 31 + monthLength year 2 = _
    rw [monthLength_two]
    omega
  | m + 1, hm => by
    have ih := daysBeforeMonth_march year m (by omega)
    have hmonth := monthLength_march year (show m ≤ 9 by omega)
    show daysBeforeMonth year (m + 3) + monthLength year (m + 3) = _
    omega

theorem daysBeforeMonth_three (year : Nat) : daysBeforeMonth year 3 = 59 + leapDays year :=
  daysBeforeMonth_march year 0 (Nat.zero_le 10)

/-- **A year is as long as its months.** -/
theorem daysBeforeYear_succ (year : Nat) :
    daysBeforeYear (year + 1) = daysBeforeYear year + daysBeforeMonth year 13 := by
  have hmonths : daysBeforeMonth year 13 = 59 + leapDays year + 306 :=
    daysBeforeMonth_march year 10 (Nat.le_refl 10)
  rw [daysBeforeYear_add_one, hmonths]
  omega

theorem daysBeforeMonth_mono (year : Nat) : Monotone (daysBeforeMonth year) := by
  apply monotone_nat_of_le_succ
  intro month
  exact Nat.le_add_right _ _

/-! ## The plain count of a date -/

/-- The days in front of a date, from the start of year 0 on. -/
def daysBefore (d : Date) : Nat := daysBeforeYear d.year + daysBeforeMonth d.year d.month + d.day - 1

theorem dayNumber_eq (d : Date) : d.dayNumber = d.daysBefore - daysBeforeYear 1970 := rfl

variable {d d' : Date}

/-- There are twelve months. -/
theorem Valid.month_le (h : d.Valid) : d.month ≤ 12 := by
  obtain ⟨hday, hlength⟩ := h
  by_contra hmonth
  obtain ⟨m, hm⟩ : ∃ m, d.month = m + 13 := ⟨d.month - 13, by omega⟩
  have hnone : monthLength d.year (m + 13) = 0 := rfl
  rw [hm] at hlength
  omega

/-- No month has more than 31 days. -/
theorem Valid.day_le (h : d.Valid) : d.day ≤ 31 := by
  obtain ⟨-, hlength⟩ := h
  have hmonth : monthLength d.year d.month ≤ 31 := by
    unfold monthLength
    repeat' split
    all_goals omega
  omega

/-- A date stands in its month. -/
theorem Valid.daysBefore_bounds (h : d.Valid) :
    daysBeforeYear d.year + daysBeforeMonth d.year d.month ≤ d.daysBefore ∧
      d.daysBefore < daysBeforeYear d.year + daysBeforeMonth d.year (d.month + 1) := by
  obtain ⟨hday, hlength⟩ := h
  have hnext : daysBeforeMonth d.year (d.month + 1)
      = daysBeforeMonth d.year d.month + monthLength d.year d.month := rfl
  rw [daysBefore, hnext]
  omega

/-- A date stands in its year. -/
theorem Valid.daysBefore_lt (h : d.Valid) : d.daysBefore < daysBeforeYear (d.year + 1) := by
  obtain ⟨-, hlt⟩ := h.daysBefore_bounds
  have hmonth := h.month_le
  have hyear : daysBeforeMonth d.year (d.month + 1) ≤ daysBeforeMonth d.year 13 :=
    daysBeforeMonth_mono d.year (by omega)
  rw [daysBeforeYear_succ]
  omega

/-- A date of an earlier year stands in front. -/
theorem Valid.daysBefore_lt_of_year_lt (h : d.Valid) (h' : d'.Valid) (hyear : d.year < d'.year) :
    d.daysBefore < d'.daysBefore := by
  have hlt := h.daysBefore_lt
  have hle : daysBeforeYear (d.year + 1) ≤ daysBeforeYear d'.year := daysBeforeYear_mono hyear
  obtain ⟨hge, -⟩ := h'.daysBefore_bounds
  omega

/-- In one year, a date of an earlier month stands in front. -/
theorem Valid.daysBefore_lt_of_month_lt (h : d.Valid) (h' : d'.Valid) (hyear : d.year = d'.year)
    (hmonth : d.month < d'.month) : d.daysBefore < d'.daysBefore := by
  obtain ⟨-, hlt⟩ := h.daysBefore_bounds
  obtain ⟨hge, -⟩ := h'.daysBefore_bounds
  have hle : daysBeforeMonth d'.year (d.month + 1) ≤ daysBeforeMonth d'.year d'.month :=
    daysBeforeMonth_mono d'.year hmonth
  rw [hyear] at hlt
  omega

/-- **No two dates have the same count.** -/
theorem eq_of_daysBefore_eq (h : d.Valid) (h' : d'.Valid) (heq : d.daysBefore = d'.daysBefore) :
    d = d' := by
  have hyear : d.year = d'.year := by
    rcases Nat.lt_trichotomy d.year d'.year with hlt | hyear | hgt
    · have := h.daysBefore_lt_of_year_lt h' hlt
      omega
    · exact hyear
    · have := h'.daysBefore_lt_of_year_lt h hgt
      omega
  have hmonth : d.month = d'.month := by
    rcases Nat.lt_trichotomy d.month d'.month with hlt | hmonth | hgt
    · have := h.daysBefore_lt_of_month_lt h' hyear hlt
      omega
    · exact hmonth
    · have := h'.daysBefore_lt_of_month_lt h hyear.symm hgt
      omega
  obtain ⟨hday, -⟩ := h
  obtain ⟨hday', -⟩ := h'
  rw [daysBefore, daysBefore, hyear, hmonth] at heq
  have : d.day = d'.day := by omega
  rw [Date.mk.injEq]
  exact ⟨hyear, hmonth, this⟩

/-! ## The day after -/

/-- Every month has a first day. -/
theorem monthLength_pos {year month : Nat} (hpos : 0 < month) (hle : month ≤ 12) :
    0 < monthLength year month := by
  interval_cases month
  case «2» =>
    rw [monthLength_two]
    omega
  all_goals exact Nat.zero_lt_succ _

theorem Valid.month_pos (h : d.Valid) : 0 < d.month := by
  obtain ⟨hday, hlength⟩ := h
  refine Nat.pos_of_ne_zero fun hzero => ?_
  rw [hzero] at hlength
  exact absurd (Nat.le_trans hday hlength) (Nat.not_succ_le_zero 0)

/-- **The day after a date is one of the calendar**, and the next in the count. -/
theorem Valid.next (h : d.Valid) :
    d.next.Valid ∧ d.next.daysBefore = d.daysBefore + 1 ∧ d.year ≤ d.next.year := by
  have hpos := h.month_pos
  have hle := h.month_le
  obtain ⟨hday, hlength⟩ := h
  rw [Date.next]
  by_cases hmonth : d.day < monthLength d.year d.month
  · rw [if_pos hmonth]
    simp only [Valid, daysBefore]
    omega
  rw [if_neg hmonth]
  have hlast : d.day = monthLength d.year d.month := by omega
  by_cases hyear : d.month < 12
  · -- the first of the next month
    have hfirst : 0 < monthLength d.year (d.month + 1) := monthLength_pos (Nat.succ_pos _) hyear
    have hnext : daysBeforeMonth d.year (d.month + 1)
        = daysBeforeMonth d.year d.month + monthLength d.year d.month := rfl
    rw [if_pos hyear]
    simp only [Valid, daysBefore, hnext]
    omega
  · -- New Year's Day
    have hdecember : d.month = 12 := by omega
    have hmonths : daysBeforeMonth d.year 13
        = daysBeforeMonth d.year 12 + monthLength d.year 12 := rfl
    have hnone : daysBeforeMonth (d.year + 1) 1 = 0 := rfl
    have hjanuary : monthLength (d.year + 1) 1 = 31 := rfl
    rw [hdecember] at hlast
    rw [if_neg hyear]
    simp only [Valid, daysBefore, hjanuary, hnone, daysBeforeYear_succ, hdecember, hmonths]
    omega

/-! ## Years that begin with March -/

/-- The days in front of 1 March of a year. -/
def daysBeforeMarch (year : Nat) : Nat := daysBeforeYear year + daysBeforeMonth year 3

theorem daysBeforeMarch_add (year : Nat) :
    daysBeforeMarch year + year / 100 = 365 * year + year / 4 + year / 400 + 60 := by
  have hyear := daysBeforeYear_add year
  rw [daysBeforeMarch, daysBeforeMonth_three]
  omega

/-- A day of a year that begins with March has a date. Only such a year that ends in a leap year has
    a 366th day. -/
theorem ofMarchDay_spec {year day : Nat} (hday : day ≤ 365)
    (hleap : day = 365 → isLeap (year + 1) = true) :
    (ofMarchDay year day).Valid ∧
      (ofMarchDay year day).daysBefore = daysBeforeMarch year + day := by
  have hnext := daysBeforeYear_add_one year
  have hmarch := daysBeforeMonth_three year
  rw [ofMarchDay]
  rcases Nat.lt_or_ge ((5 * day + 2) / 153) 10 with hm | hm
  · -- March to December, in the year itself
    have hlength := monthLength_march year (show (5 * day + 2) / 153 ≤ 9 by omega)
    have hbefore := daysBeforeMonth_march year ((5 * day + 2) / 153) (by omega)
    simp only [Valid, daysBefore, daysBeforeMarch, if_pos hm]
    omega
  · simp only [Valid, daysBefore, daysBeforeMarch, if_neg (Nat.not_lt.mpr hm)]
    rcases Nat.lt_or_ge day 337 with hjanuary | hfebruary
    · have hm : (5 * day + 2) / 153 = 10 := by omega
      rw [hm]
      show (1 ≤ _ ∧ _ ≤ 31) ∧ _ + 0 + _ - 1 = _
      omega
    · have hm : (5 * day + 2) / 153 = 11 := by omega
      have hlength := monthLength_two (year + 1)
      rw [hm, hlength]
      show (1 ≤ _ ∧ _ ≤ _) ∧ _ + (0 + 31) + _ - 1 = _
      rcases Nat.lt_or_ge day 365 with hlt | hge
      · omega
      · have hone := leapDays_of_isLeap (hleap (by omega))
        omega

/-! ## The cut -/

/-- `Cut days q c f y d` — the days, counted from 1 March of year 0, are `q` cycles of 400 years, `c`
    centuries, `f` times four years, `y` years and `d` days. -/
structure Cut (days q c f y d : Nat) : Prop where
  sum : days = 146097 * q + 36524 * c + 1461 * f + 365 * y + d
  century : c ≤ 3
  four : f ≤ 24
  year : y ≤ 3
  day : d ≤ 365
  /-- A 366th day is the last of four years, and of a century only if that is the last of a cycle. -/
  last : d = 365 → y = 3 ∧ (f = 24 → c = 3)

/-- The program cuts so. -/
theorem cut_of_days (days : Nat) :
    let r := days % 146097
    let c := min (r / 36524) 3
    let g := (r - 36524 * c) % 1461
    let y := min (g / 365) 3
    Cut days (days / 146097) c ((r - 36524 * c) / 1461) y (g - 365 * y) := by
  intro r c g y
  have hr : r < 146097 := Nat.mod_lt days (by decide)
  have hdays : 146097 * (days / 146097) + r = days := Nat.div_add_mod days 146097
  have hc : c ≤ 3 ∧ 36524 * c ≤ r ∧ (r - 36524 * c < 36524 ∨ r - 36524 * c = 36524 ∧ c = 3) := by
    omega
  have hg : g < 1461 := Nat.mod_lt _ (by decide)
  have hcut : 1461 * ((r - 36524 * c) / 1461) + g = r - 36524 * c := Nat.div_add_mod _ 1461
  have hy : y ≤ 3 ∧ 365 * y ≤ g ∧ (g - 365 * y < 365 ∨ g - 365 * y = 365 ∧ y = 3) := by omega
  -- how the quotients come about does not matter any more
  clear_value y
  clear_value g
  clear_value c
  clear_value r
  refine ⟨?_, ?_, ?_, ?_, ?_, fun hlast => ⟨?_, fun hfour => ?_⟩⟩ <;> omega

theorem exists_cut (n : Nat) : ∃ q c f y d, Cut (n + marchOffset) q c f y d ∧
    ofDayNumber n = ofMarchDay (400 * q + 100 * c + 4 * f + y) d :=
  ⟨_, _, _, _, _, cut_of_days (n + marchOffset), rfl⟩

/-- The days of a cut are those in front of its year, and its day. -/
theorem Cut.daysBeforeMarch_eq {days q c f y d : Nat} (h : Cut days q c f y d) :
    daysBeforeMarch (400 * q + 100 * c + 4 * f + y) + d = days + 60 := by
  obtain ⟨hsum, hc, hf, hy, -, -⟩ := h
  have hmarch := daysBeforeMarch_add (400 * q + 100 * c + 4 * f + y)
  have hfour : (400 * q + 100 * c + 4 * f + y) / 4 = 100 * q + 25 * c + f := by omega
  have hcentury : (400 * q + 100 * c + 4 * f + y) / 100 = 4 * q + c := by omega
  have hcycle : (400 * q + 100 * c + 4 * f + y) / 400 = q := by omega
  rw [hfour, hcentury, hcycle] at hmarch
  omega

/-- A 366th day stands in front of March of a leap year. -/
theorem Cut.isLeap {days q c f y d : Nat} (h : Cut days q c f y d) (hday : d = 365) :
    isLeap (400 * q + 100 * c + 4 * f + y + 1) = true := by
  obtain ⟨hyear, hcentury⟩ := h.last hday
  have hc := h.century
  have hf := h.four
  rw [Date.isLeap, decide_eq_true_iff]
  omega

/-! ## From a day number to a date -/

/-- **The date of a day number is one of the calendar**, and stands so many days behind 1 January
    1970. -/
theorem valid_ofDayNumber (n : Nat) :
    (ofDayNumber n).Valid ∧ (ofDayNumber n).daysBefore = daysBeforeYear 1970 + n := by
  obtain ⟨q, c, f, y, d, hcut, hdate⟩ := exists_cut n
  obtain ⟨hvalid, hbefore⟩ := ofMarchDay_spec hcut.day hcut.isLeap
  have hdays := hcut.daysBeforeMarch_eq
  have hepoch : daysBeforeYear 1970 = marchOffset + 60 := by decide
  rw [hdate]
  refine ⟨hvalid, ?_⟩
  rw [hbefore, hdays, hepoch]
  omega

/-- It is not before 1970. -/
theorem year_ofDayNumber (n : Nat) : 1970 ≤ (ofDayNumber n).year := by
  obtain ⟨hvalid, hbefore⟩ := valid_ofDayNumber n
  by_contra hyear
  have hlt := hvalid.daysBefore_lt
  have hle : daysBeforeYear ((ofDayNumber n).year + 1) ≤ daysBeforeYear 1970 :=
    daysBeforeYear_mono (by omega)
  omega

theorem dayNumber_ofDayNumber (n : Nat) : (ofDayNumber n).dayNumber = n := by
  rw [dayNumber_eq, (valid_ofDayNumber n).2]
  omega

/-- **A date of the calendar is that of its day number**, from 1970 on. -/
theorem ofDayNumber_dayNumber (h : d.Valid) (hyear : 1970 ≤ d.year) :
    ofDayNumber d.dayNumber = d := by
  obtain ⟨hvalid, hbefore⟩ := valid_ofDayNumber d.dayNumber
  obtain ⟨hge, -⟩ := h.daysBefore_bounds
  have hle : daysBeforeYear 1970 ≤ daysBeforeYear d.year := daysBeforeYear_mono hyear
  apply eq_of_daysBefore_eq hvalid h
  rw [hbefore, dayNumber_eq]
  omega

end CompanionBus.Date
