import FeatureFlags.Timestamp
import Mathlib.Tactic.IntervalCases

/-!
# The calendar

Counting the days up to a date undoes finding the date of a day, and what is found is a date
of the calendar (`isDate_dateOfDay`).

The calendar repeats itself after an era of four hundred years.  Years begin in March here,
so that a leap day is the last day of its year, and the year of a day is found without
looking at months.  An era has four centuries, a century twenty-five cycles of four years,
and a cycle four years; only the last of each may have a day more or less than the others
(`Place`).
-/

namespace FeatureFlags.Timestamp

/-! ## Days of an era -/

/-- Where a day stands in its era: the whole centuries before it, the cycles of four years after
these, the years after these, and the days after these. -/
structure Place where
  century : Int
  cycle : Int
  year : Int
  day : Int

namespace Place

/-- Only a leap year has a day of number 365.  It is the last of its cycle, but the last cycle of a
century has none, except in the last century. -/
structure Valid (place : Place) : Prop where
  century : 0 ≤ place.century ∧ place.century ≤ 3
  cycle : 0 ≤ place.cycle ∧ place.cycle ≤ 24
  year : 0 ≤ place.year ∧ place.year ≤ 3
  day : 0 ≤ place.day ∧ place.day ≤ 365
  leap : place.day = 365 → place.year = 3 ∧ (place.cycle = 24 → place.century = 3)

def dayOfEra (place : Place) : Int :=
  36524 * place.century + 1461 * place.cycle + 365 * place.year + place.day

def yearOfEra (place : Place) : Int := 100 * place.century + 4 * place.cycle + place.year

theorem exists_of_dayOfEra {n : Int} (hleast : 0 ≤ n) (hmost : n < 146097) :
    ∃ place : Place, place.Valid ∧ place.dayOfEra = n := by
  obtain ⟨century, hcentury⟩ : ∃ c, c = min (n / 36524) 3 := ⟨_, rfl⟩
  obtain ⟨ofCentury, hofCentury⟩ : ∃ d, d = n - 36524 * century := ⟨_, rfl⟩
  have hrange : 0 ≤ ofCentury ∧ ofCentury ≤ 36524 ∧ (ofCentury = 36524 → century = 3) ∧
      0 ≤ century ∧ century ≤ 3 := by omega
  obtain ⟨cycle, hcycle⟩ : ∃ c, c = ofCentury / 1461 := ⟨_, rfl⟩
  obtain ⟨ofCycle, hofCycle⟩ : ∃ d, d = ofCentury - 1461 * cycle := ⟨_, rfl⟩
  have hrange' : 0 ≤ ofCycle ∧ ofCycle ≤ 1460 ∧ 0 ≤ cycle ∧ cycle ≤ 24 ∧
      (cycle = 24 → ofCycle = 1460 → century = 3) := by omega
  obtain ⟨year, hyear⟩ : ∃ y, y = min (ofCycle / 365) 3 := ⟨_, rfl⟩
  refine ⟨⟨century, cycle, year, ofCycle - 365 * year⟩, ⟨?_, ?_, ?_, ?_, ?_⟩, ?_⟩
  all_goals dsimp only [dayOfEra]
  all_goals omega

variable {place : Place} (h : place.Valid)
include h

theorem dayOfEra_range : 0 ≤ place.dayOfEra ∧ place.dayOfEra < 146097 := by
  obtain ⟨hcentury, hcycle, hyear, hday, hleap⟩ := h
  unfold dayOfEra
  omega

/-- **The year of a day.**  The three quotients take away the leap days before it. -/
theorem yearOfEra_eq :
    (place.dayOfEra - place.dayOfEra / 1460 + place.dayOfEra / 36524 - place.dayOfEra / 146096) /
      365 = place.yearOfEra := by
  obtain ⟨hcentury, hcycle, hyear, hday, hleap⟩ := h
  unfold yearOfEra dayOfEra
  generalize place.century = c at *
  generalize place.cycle = q at *
  generalize place.year = k at *
  generalize place.day = d at *
  obtain ⟨n, hn⟩ : ∃ n, n = 36524 * c + 1461 * q + 365 * k + d := ⟨_, rfl⟩
  rw [← hn]
  have hofCentury : 1461 * q + 365 * k + d ≤ 36523 ∨ n = 146096 := by
    by_cases hlast : d = 365 ∧ q = 24
    · right
      omega
    · left
      omega
  have hcenturies : n / 36524 - n / 146096 = c := by
    rcases hofCentury with hless | rfl
    · have hquotient : n / 36524 = c := by omega
      have hnone : n / 146096 = 0 := by omega
      omega
    · omega
  -- the last day of a cycle is taken away by the quotient already
  have hcycles : n / 1460 = 25 * c + q ∧ 24 * c + q + 365 * k + d < 1460 ∨
      n / 1460 = 25 * c + q + 1 ∧ 1460 ≤ 24 * c + q + 365 * k + d := by
    omega
  omega

/-- The day of the year. -/
theorem day_eq :
    place.dayOfEra - (365 * place.yearOfEra + place.yearOfEra / 4 - place.yearOfEra / 100) =
      place.day := by
  obtain ⟨hcentury, hcycle, hyear, hday, hleap⟩ := h
  unfold yearOfEra dayOfEra
  omega

end Place

/-! ## Dates -/

/-- A date of the calendar. -/
structure IsDate (year : Int) (month day : Nat) : Prop where
  month_range : 1 ≤ month ∧ month ≤ 12
  day_range : 1 ≤ day ∧ day ≤ daysInMonth year month

/-- The months from March on that are over when a month begins. -/
def monthFromMarch (month : Nat) : Int := ((month + 9) % 12 : Nat)

/-- The date of a place in an era. -/
theorem dateOfDay_eq {place : Place} (h : place.Valid) (era : Int) {month : Nat}
    (hrange : 1 ≤ month ∧ month ≤ 12) (hmonth : monthFromMarch month = (5 * place.day + 2) / 153) :
    dateOfDay (146097 * era + place.dayOfEra - 719468) =
      (place.yearOfEra + era * 400 + (if month ≤ 2 then 1 else 0), month,
        (place.day - (153 * monthFromMarch month + 2) / 5 + 1).toNat) := by
  have hofEra := Place.dayOfEra_range h
  have hera : Int.fdiv (146097 * era + place.dayOfEra - 719468 + 719468) 146097 = era := by
    rw [Int.fdiv_eq_ediv_of_nonneg _ (by decide)]
    omega
  have hday : 146097 * era + place.dayOfEra - 719468 + 719468 - era * 146097 = place.dayOfEra := by
    omega
  have hname : (if monthFromMarch month < 10 then monthFromMarch month + 3
      else monthFromMarch month - 9) = month := by
    unfold monthFromMarch
    split <;> omega
  have hearly : ((month : Int) ≤ 2) = (month ≤ 2) := propext Nat.cast_le_ofNat
  simp only [dateOfDay, hera, hday, Place.yearOfEra_eq h, Place.day_eq h, ← hmonth, hname, hearly,
    Int.toNat_natCast]

/-- The day of a date whose place in its era is known. -/
theorem dayOfDate_eq {place : Place} (h : place.Valid) {year era : Int} {month day : Nat}
    (hyear : (if month ≤ 2 then year - 1 else year) = place.yearOfEra + era * 400)
    (hday : (153 * monthFromMarch month + 2) / 5 + day - 1 = place.day) :
    dayOfDate year month day = 146097 * era + place.dayOfEra - 719468 := by
  obtain ⟨hcentury, hcycle, hyears, hdays, hleap⟩ := h
  have hfdiv (n : Int) : Int.fdiv n 4 = n / 4 ∧ Int.fdiv n 100 = n / 100 ∧
      Int.fdiv n 400 = n / 400 :=
    ⟨Int.fdiv_eq_ediv_of_nonneg n (by decide), Int.fdiv_eq_ediv_of_nonneg n (by decide),
      Int.fdiv_eq_ediv_of_nonneg n (by decide)⟩
  unfold monthFromMarch at hday
  unfold dayOfDate
  simp only [hyear, hfdiv, Place.yearOfEra, Place.dayOfEra]
  omega

theorem isLeapYear_eq_true {year : Int} (hfour : year % 4 = 0)
    (hhundred : year % 100 ≠ 0 ∨ year % 400 = 0) : isLeapYear year = true := by
  have hmod (n : Int) : Int.emod year n = year % n := rfl
  rcases hhundred with hhundred | hhundred <;> simp [isLeapYear, hmod, hfour, hhundred]

theorem le_daysInMonth_two (year : Int) : 28 ≤ daysInMonth year 2 := by
  change 28 ≤ if isLeapYear year then 29 else 28
  split <;> decide

/-- A month has the days that the months before it leave, and only in a leap year there is one
more at the end of February. -/
theorem le_daysInMonth {day year : Int} {month : Nat} (hrange : 1 ≤ month ∧ month ≤ 12)
    (hmonth : monthFromMarch month = (5 * day + 2) / 153) (hday : 0 ≤ day ∧ day ≤ 365)
    (hleap : day = 365 → isLeapYear year = true) :
    day - (153 * monthFromMarch month + 2) / 5 + 1 ≤ daysInMonth year month := by
  obtain ⟨hleast, hmost⟩ := hrange
  have htwo := le_daysInMonth_two year
  have htwentynine (hlast : day = 365) : daysInMonth year 2 = 29 := by
    change (if isLeapYear year then 29 else 28) = 29
    rw [if_pos (hleap hlast)]
  by_cases hfebruary : month = 2
  · subst hfebruary
    unfold monthFromMarch at *
    omega
  · unfold monthFromMarch at *
    interval_cases month
    all_goals simp only [daysInMonth]
    all_goals omega

/-- **What is found for a day is a date of the calendar, and it is the date of this day.** -/
theorem isDate_of_place {place : Place} (h : place.Valid) (era : Int) :
    ∃ year month day, dateOfDay (146097 * era + place.dayOfEra - 719468) = (year, month, day) ∧
      IsDate year month day ∧
      dayOfDate year month day = 146097 * era + place.dayOfEra - 719468 ∧
      year = place.yearOfEra + era * 400 + (if 306 ≤ place.day then 1 else 0) := by
  have hdays := h.day
  obtain ⟨month, hrange, hmonth⟩ : ∃ month : Nat, (1 ≤ month ∧ month ≤ 12) ∧
      monthFromMarch month = (5 * place.day + 2) / 153 := by
    unfold monthFromMarch
    by_cases hlate : 10 ≤ (5 * place.day + 2) / 153
    · exact ⟨((5 * place.day + 2) / 153 - 9).toNat, by omega, by omega⟩
    · exact ⟨((5 * place.day + 2) / 153 + 3).toNat, by omega, by omega⟩
  -- January and February belong to the year that began in March before
  have hearly : month ≤ 2 ↔ 306 ≤ place.day := by
    have hjanuary : 10 ≤ (5 * place.day + 2) / 153 ↔ 306 ≤ place.day := by omega
    have hlate : month ≤ 2 ↔ 10 ≤ monthFromMarch month := by
      unfold monthFromMarch
      omega
    rw [hlate, hmonth, hjanuary]
  -- a year of 366 days ends with the 29th of a February
  have hleap : place.day = 365 →
      isLeapYear (place.yearOfEra + era * 400 + (if month ≤ 2 then 1 else 0)) = true := by
    intro hlast
    obtain ⟨hyear, hcycle⟩ := h.leap hlast
    have hcycles := h.cycle
    rw [if_pos (hearly.mpr (by omega))]
    unfold Place.yearOfEra
    refine isLeapYear_eq_true (by omega) ?_
    by_cases hcentury : place.cycle = 24
    · right
      have hlastCentury := hcycle hcentury
      omega
    · left
      omega
  have hlength := le_daysInMonth hrange hmonth hdays hleap
  have hpositive : 0 < place.day - (153 * monthFromMarch month + 2) / 5 + 1 := by
    unfold monthFromMarch at *
    omega
  refine ⟨_, _, _, dateOfDay_eq h era hrange hmonth, ⟨hrange, by omega, by omega⟩,
    dayOfDate_eq h ?_ (by omega), ?_⟩
  · split <;> omega
  · simp only [hearly]

/-- A day that can be read has a date that can be read. -/
theorem isDate_dateOfDay {day : Int} (hleast : dayRange.1 ≤ day) (hmost : day ≤ dayRange.2) :
    ∃ year month dayOfMonth, dateOfDay day = (year, month, dayOfMonth) ∧
      IsDate year month dayOfMonth ∧ dayOfDate year month dayOfMonth = day ∧
      leastYear ≤ year ∧ year ≤ greatestYear := by
  obtain ⟨place, hplace, hofEra⟩ := @Place.exists_of_dayOfEra ((day + 719468) % 146097)
    (by omega) (by omega)
  have hday : 146097 * ((day + 719468) / 146097) + place.dayOfEra - 719468 = day := by omega
  obtain ⟨year, month, dayOfMonth, hdate, hisDate, hback, hyear⟩ :=
    isDate_of_place hplace ((day + 719468) / 146097)
  rw [hday] at hdate hback
  refine ⟨year, month, dayOfMonth, hdate, hisDate, hback, ?_⟩
  generalize (day + 719468) / 146097 = era at *
  have hfirst : dayRange.1 = -96465292 := by decide
  have hlast : dayRange.2 = 95026236 := by decide
  obtain ⟨hcentury, hcycle, hyears, hdays, -⟩ := hplace
  unfold leastYear greatestYear
  unfold Place.dayOfEra at *
  unfold Place.yearOfEra at *
  split at hyear
  · omega
  · omega

end FeatureFlags.Timestamp
