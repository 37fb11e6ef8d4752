import ScalpBot.Time.Calendar

/-!
# Dates and their day numbers

`Date.dayNumber_ofDayNumber`: the date of a day has this day for its number, and it stands in the calendar
where the day does (`Date.isValid_ofDayNumber`).

In an era of 400 years, which has 146097 days, a year is found by a division that is off by the leap days.
It grows with the day (`Date.yearOfEra_mono`), so it is right for every day once it is right for the first
and the last day of each year (`Date.yearOfEra_start`, `Date.yearOfEra_end`).
-/

namespace ScalpBot

namespace Date

/-! ## Years of an era -/

/-- The year of a day of an era. -/
def yearOfEra (day : Int) : Int := (day - day / 1460 + day / 36524 - day / 146096) / 365

/-- The first day of a year of an era. -/
def startOfYear (year : Int) : Int := 365 * year + year / 4 - year / 100

theorem yearOfEra_mono {a b : Int} (h : a ≤ b) : yearOfEra a ≤ yearOfEra b := by
  -- a day more is at most one leap day more, and a fourth century comes with an era
  have hday : a - a / 1460 ≤ b - b / 1460 := by omega
  have hcentury : a / 36524 - a / 146096 ≤ b / 36524 - b / 146096 := by omega
  exact Int.ediv_le_ediv (by omega) (by omega)

theorem yearOfEra_start : ∀ year : Nat, year < 400 → yearOfEra (startOfYear year) = year := by
  decide +kernel

theorem yearOfEra_end : ∀ year : Nat, year < 399 →
    yearOfEra (startOfYear (year + 1) - 1) = year := by
  decide +kernel

/-- **The year of a day** is the one in which the day stands. -/
theorem yearOfEra_spec {day : Int} (hfirst : 0 ≤ day) (hlast : day < 146097) :
    0 ≤ yearOfEra day ∧ yearOfEra day < 400 ∧ startOfYear (yearOfEra day) ≤ day ∧
      (yearOfEra day < 399 → day < startOfYear (yearOfEra day + 1)) := by
  have hlow : 0 ≤ yearOfEra day := by
    unfold yearOfEra
    omega
  have hhigh : yearOfEra day < 400 := by
    unfold yearOfEra
    omega
  refine ⟨hlow, hhigh, Int.not_lt.mp fun hbefore => ?_, fun hnext => Int.not_le.mp fun hafter => ?_⟩
  · -- a day before the first one of its year has an earlier year
    have hpos : 0 < yearOfEra day := by
      unfold startOfYear at hbefore
      omega
    obtain ⟨year, hyear⟩ : ∃ year : Nat, yearOfEra day = year + 1 :=
      ⟨(yearOfEra day - 1).toNat, by omega⟩
    rw [hyear] at hbefore
    have hmono := yearOfEra_mono (Int.le_sub_one_of_lt hbefore)
    have hend := yearOfEra_end year (by omega)
    omega
  · -- and a day from the first one of the next year on has that year or a later one
    obtain ⟨next, hyear⟩ : ∃ next : Nat, yearOfEra day + 1 = next :=
      ⟨(yearOfEra day + 1).toNat, by omega⟩
    rw [hyear] at hafter
    have hmono := yearOfEra_mono hafter
    have hstart := yearOfEra_start next (by omega)
    omega

/-! ## Months of a year -/

/-- The month of a day of a year, counted from March. -/
def monthOfYear (day : Int) : Int := (5 * day + 2) / 153

/-- The first day of a month of a year. -/
def startOfMonth (month : Int) : Int := (153 * month + 2) / 5

/-- The month of a day is the one in which the day stands. -/
theorem monthOfYear_spec {day : Int} (hfirst : 0 ≤ day) (hlast : day < 366) :
    0 ≤ monthOfYear day ∧ monthOfYear day < 12 ∧ startOfMonth (monthOfYear day) ≤ day ∧
      day < startOfMonth (monthOfYear day + 1) := by
  unfold startOfMonth monthOfYear
  omega

/-! ## Days in parts -/

/-- A day by its era, its year of the era, its month of the year and its place in the month, all counted
from zero. A year begins with March. -/
structure EraDay where
  era : Int
  year : Int
  month : Int
  place : Int

namespace EraDay

/-- The parts of a day of the calendar. -/
def ofDay (day : Int) : EraDay :=
  let dayOfEra := (day + 719468) % 146097
  let year := yearOfEra dayOfEra
  let dayOfYear := dayOfEra - startOfYear year
  let month := monthOfYear dayOfYear
  ⟨(day + 719468) / 146097, year, month, dayOfYear - startOfMonth month⟩

/-- The day of these parts. -/
def toDay (d : EraDay) : Int :=
  d.era * 146097 + startOfYear d.year + startOfMonth d.month + d.place - 719468

/-- The date of these parts. -/
def date (d : EraDay) : Date :=
  let month := if d.month < 10 then d.month + 3 else d.month - 9
  ⟨d.year + d.era * 400 + (if month ≤ 2 then 1 else 0), month.toNat, (d.place + 1).toNat⟩

/-- Each part stands within the one before. -/
structure Fits (d : EraDay) : Prop where
  year : 0 ≤ d.year ∧ d.year < 400
  month : 0 ≤ d.month ∧ d.month < 12
  place : 0 ≤ d.place
  inMonth : startOfMonth d.month + d.place < startOfMonth (d.month + 1)
  inYear : startOfMonth d.month + d.place < 366
  inShortYear : d.year < 399 →
    startOfYear d.year + startOfMonth d.month + d.place < startOfYear (d.year + 1)

theorem toDay_ofDay (day : Int) : (ofDay day).toDay = day := by
  simp only [toDay, ofDay]
  omega

theorem fits_ofDay (day : Int) : (ofDay day).Fits := by
  have hday : 0 ≤ (day + 719468) % 146097 ∧ (day + 719468) % 146097 < 146097 := by omega
  obtain ⟨hlow, hhigh, hstart, hend⟩ := yearOfEra_spec hday.1 hday.2
  have hyear : (day + 719468) % 146097 - startOfYear (yearOfEra ((day + 719468) % 146097)) < 366 := by
    unfold startOfYear at hstart hend ⊢
    omega
  obtain ⟨hmonth, hmonth', hfirst, hlast⟩ := monthOfYear_spec (Int.sub_nonneg_of_le hstart) hyear
  constructor <;> simp only [ofDay]
  · exact ⟨hlow, hhigh⟩
  · exact ⟨hmonth, hmonth'⟩
  · omega
  · omega
  · omega
  · intro hnext
    have hbefore := hend hnext
    omega

variable {d : EraDay}

/-- The month of a date from March is the one of its parts. -/
theorem dayNumber_date (h : d.Fits) : d.date.dayNumber = d.toDay := by
  obtain ⟨hyear, hmonth, hplace, -, -, -⟩ := h
  simp only [dayNumber, date, toDay, startOfYear, startOfMonth]
  by_cases hspring : d.month < 10
  · have hlate : ¬ (d.month + 3).toNat ≤ 2 := by omega
    have hlate' : ¬ d.month + 3 ≤ 2 := by omega
    simp only [if_pos hspring, if_neg hlate, if_neg hlate', if_pos (Nat.not_le.mp hlate)]
    omega
  · have hearly : (d.month - 9).toNat ≤ 2 := by omega
    have hearly' : d.month - 9 ≤ 2 := by omega
    simp only [if_neg hspring, if_pos hearly, if_pos hearly', if_neg (Nat.not_lt.mpr hearly)]
    omega

/-- A February of 29 days belongs to a leap year. -/
theorem isLeapYear_of_long (hyear : 0 ≤ d.year ∧ d.year < 400)
    (hlong : d.year < 399 → startOfYear d.year + 365 < startOfYear (d.year + 1)) :
    isLeapYear (d.year + d.era * 400 + 1) = true := by
  simp only [startOfYear] at hlong
  simp only [isLeapYear, Bool.and_eq_true, Bool.or_eq_true, decide_eq_true_eq]
  omega

/-- The month of a date. -/
theorem month_date (h : d.Fits) :
    (d.month < 10 ∧ (d.date.month : Int) = d.month + 3) ∨
      (10 ≤ d.month ∧ (d.date.month : Int) = d.month - 9) := by
  obtain ⟨hmonth, hmonth'⟩ := h.month
  by_cases hspring : d.month < 10
  · refine .inl ⟨hspring, ?_⟩
    simp only [date, if_pos hspring]
    omega
  · refine .inr ⟨by omega, ?_⟩
    simp only [date, if_neg hspring]
    omega

theorem day_date (h : d.Fits) : (d.date.day : Int) = d.place + 1 := by
  have hplace := h.place
  simp only [date]
  omega

/-- The date stands in its month. -/
theorem day_le_daysInMonth (h : d.Fits) : d.date.day ≤ daysInMonth d.date.year d.date.month := by
  have hmonth := month_date h
  have hday := day_date h
  obtain ⟨hyear, ⟨hlow, hhigh⟩, hplace, hinMonth, hinYear, hshort⟩ := h
  simp only [startOfMonth] at hinMonth hinYear hshort
  rw [daysInMonth]
  split
  · -- the last day of a year of 366 days is a 29 February
    rename_i hfebruary
    have heleven : d.month = 11 := by omega
    split
    · omega
    · rename_i hcommon
      have hyear' : d.date.year = d.year + d.era * 400 + 1 := by
        simp only [date, heleven]
        rfl
      rw [hyear'] at hcommon
      refine Nat.not_lt.mp fun hlong => hcommon (isLeapYear_of_long hyear fun hnext => ?_)
      have hbefore := hshort hnext
      omega
  · split
    · rename_i hthirty
      simp only [Bool.or_eq_true, decide_eq_true_eq] at hthirty
      omega
    · omega

end EraDay

theorem ofDayNumber_eq (day : Int) : ofDayNumber day = (EraDay.ofDay day).date := rfl

/-- **The date of a day has this day for its number.** -/
theorem dayNumber_ofDayNumber (day : Int) : (ofDayNumber day).dayNumber = day := by
  rw [ofDayNumber_eq, EraDay.dayNumber_date (EraDay.fits_ofDay day), EraDay.toDay_ofDay]

/-- **A day of the calendar has a date of the calendar.** -/
theorem isValid_ofDayNumber {day : Int} (hfirst : (Date.mk minYear 1 1).dayNumber ≤ day)
    (hlast : day ≤ (Date.mk maxYear 12 31).dayNumber) : (ofDayNumber day).isValid = true := by
  have hfits := EraDay.fits_ofDay day
  have hmonth := EraDay.month_date hfits
  have hday := EraDay.day_date hfits
  have hlength := EraDay.day_le_daysInMonth hfits
  have htoDay := EraDay.toDay_ofDay day
  have hmin : (Date.mk minYear 1 1).dayNumber = -96465292 := by decide
  have hmax : (Date.mk maxYear 12 31).dayNumber = 95026236 := by decide
  rw [ofDayNumber_eq, isValid]
  generalize EraDay.ofDay day = d at *
  obtain ⟨hyear, ⟨hlow, hhigh⟩, hplace, hinMonth, hinYear, hshort⟩ := hfits
  simp only [EraDay.toDay] at htoDay
  simp only [startOfMonth, startOfYear] at htoDay hinMonth hinYear hshort
  have hyears : minYear ≤ d.date.year ∧ d.date.year ≤ maxYear := by
    -- the calendar begins and ends within an era
    have hfirstEra : d.era < -656 ∨ d.era = -656 ∨ -656 < d.era := by omega
    have hlastEra : d.era < 655 ∨ d.era = 655 ∨ 655 < d.era := by omega
    simp only [EraDay.date, minYear, maxYear]
    by_cases hspring : d.month < 10
    · have hlate : ¬ d.month + 3 ≤ 2 := by omega
      rw [if_pos hspring, if_neg hlate]
      omega
    · have hearly : d.month - 9 ≤ 2 := by omega
      rw [if_neg hspring, if_pos hearly]
      omega
  simp only [Bool.and_eq_true, decide_eq_true_eq]
  refine ⟨⟨⟨⟨⟨hyears.1, hyears.2⟩, ?_⟩, ?_⟩, ?_⟩, hlength⟩ <;> omega

end Date

end ScalpBot
