import AgentCohort.Instant

/-!
# Days and dates

Each day has a date of the calendar, and the date leads back to the day.  Years begin in March
here, so that the leap day is the last day of a year; 400 years make an era of 146097 days.
-/

namespace AgentCohort
namespace CalendarDate

/-! ## Years of an era -/

/-- The year of an era that a day of the era lies in. -/
def yearOfEra (dayOfEra : Int) : Int :=
  (dayOfEra - dayOfEra / 1460 + dayOfEra / 36524 - dayOfEra / 146096) / 365

/-- The days of an era before one of its years. -/
def daysBefore (yearOfEra : Int) : Int :=
  365 * yearOfEra + yearOfEra / 4 - yearOfEra / 100

section Era

variable {dayOfEra : Int}

theorem yearOfEra_bounds (lower : 0 ≤ dayOfEra) (upper : dayOfEra < 146097) :
    0 ≤ yearOfEra dayOfEra ∧ yearOfEra dayOfEra < 400 := by
  unfold yearOfEra
  omega

/-- The last day of an era lies in its last century, not in a fifth one. -/
theorem century_yearOfEra (lower : 0 ≤ dayOfEra) (upper : dayOfEra < 146097) :
    yearOfEra dayOfEra / 100 = dayOfEra / 36524 - dayOfEra / 146096 := by
  have centuries : dayOfEra / 36524 = 0 ∨ dayOfEra / 36524 = 1 ∨ dayOfEra / 36524 = 2 ∨
      dayOfEra / 36524 = 3 ∨ dayOfEra / 36524 = 4 := by
    omega
  unfold yearOfEra
  rcases centuries with century | century | century | century | century
  all_goals omega

/-- Without the leap days of four years the years have 365 days each. -/
theorem yearOfEra_quotient (lower : 0 ≤ dayOfEra) (upper : dayOfEra < 146097) :
    365 * yearOfEra dayOfEra ≤ dayOfEra - dayOfEra / 1460 + yearOfEra dayOfEra / 100 ∧
      dayOfEra - dayOfEra / 1460 + yearOfEra dayOfEra / 100 < 365 * yearOfEra dayOfEra + 365 := by
  rw [century_yearOfEra lower upper]
  unfold yearOfEra
  omega

theorem daysBefore_yearOfEra_le (lower : 0 ≤ dayOfEra) (upper : dayOfEra < 146097) :
    daysBefore (yearOfEra dayOfEra) ≤ dayOfEra := by
  have century := century_yearOfEra lower upper
  have bounds := yearOfEra_bounds lower upper
  have quotient := yearOfEra_quotient lower upper
  unfold daysBefore
  omega

theorem le_daysBefore_yearOfEra (lower : 0 ≤ dayOfEra) (upper : dayOfEra < 146097) :
    dayOfEra ≤ daysBefore (yearOfEra dayOfEra) + 365 := by
  have century := century_yearOfEra lower upper
  have bounds := yearOfEra_bounds lower upper
  have quotient := yearOfEra_quotient lower upper
  unfold daysBefore
  omega

/-- Only a year before a leap year has a 366th day. -/
theorem leap_of_dayOfEra_eq
    (lower : 0 ≤ dayOfEra)
    (upper : dayOfEra < 146097)
    (last : dayOfEra = daysBefore (yearOfEra dayOfEra) + 365) :
    yearOfEra dayOfEra % 4 = 3 ∧
      (yearOfEra dayOfEra % 100 ≠ 99 ∨ yearOfEra dayOfEra = 399) := by
  have century := century_yearOfEra lower upper
  have bounds := yearOfEra_bounds lower upper
  have quotient := yearOfEra_quotient lower upper
  unfold daysBefore at last
  omega

end Era

/-! ## Days of a year -/

/-- The date of a day of a year that begins in March. -/
def ofDayOfYear (year dayOfYear : Int) : CalendarDate :=
  let monthFromMarch := (5 * dayOfYear + 2) / 153
  let day := dayOfYear - (153 * monthFromMarch + 2) / 5 + 1
  let month := if monthFromMarch < 10 then monthFromMarch + 3 else monthFromMarch - 9
  ⟨if month ≤ 2 then year + 1 else year, month.toNat, day.toNat⟩

section Year

variable {year dayOfYear : Int}

/-- The month and the day of the month, of which both are written as natural numbers. -/
theorem ofDayOfYear_eq (year : Int) (lower : 0 ≤ dayOfYear) (upper : dayOfYear ≤ 365) :
    ∃ month day : Nat,
      ofDayOfYear year dayOfYear = ⟨if month ≤ 2 then year + 1 else year, month, day⟩ ∧
      (1 ≤ month ∧ month ≤ 12) ∧ 1 ≤ day ∧
      dayOfYear = (153 * ((month + 9) % 12 : Nat) + 2) / 5 + day - 1 ∧
      (5 * dayOfYear + 2) / 153 = ((month + 9) % 12 : Nat) := by
  have bounds : 0 ≤ (5 * dayOfYear + 2) / 153 ∧ (5 * dayOfYear + 2) / 153 < 12 := by omega
  have first : (153 * ((5 * dayOfYear + 2) / 153) + 2) / 5 ≤ dayOfYear := by omega
  unfold ofDayOfYear
  dsimp only
  generalize (5 * dayOfYear + 2) / 153 = monthFromMarch at *
  by_cases early : monthFromMarch < 10
  · have month : (((monthFromMarch + 3).toNat + 9) % 12 : Nat) = monthFromMarch := by omega
    rw [if_pos early, if_neg (by omega)]
    refine ⟨(monthFromMarch + 3).toNat,
      (dayOfYear - (153 * monthFromMarch + 2) / 5 + 1).toNat, ?_, by omega, by omega, ?_, ?_⟩
    · rw [if_neg (by omega)]
    · rw [month]
      omega
    · exact month.symm
  · have month : (((monthFromMarch - 9).toNat + 9) % 12 : Nat) = monthFromMarch := by omega
    rw [if_neg early, if_pos (by omega)]
    refine ⟨(monthFromMarch - 9).toNat,
      (dayOfYear - (153 * monthFromMarch + 2) / 5 + 1).toNat, ?_, by omega, by omega, ?_, ?_⟩
    · rw [if_pos (by omega)]
    · rw [month]
      omega
    · exact month.symm

theorem toDays_ofDayOfYear (lower : 0 ≤ dayOfYear) (upper : dayOfYear ≤ 365) :
    (ofDayOfYear year dayOfYear).toDays =
      year / 400 * 146097 + (daysBefore (year % 400) + dayOfYear) - 719468 := by
  obtain ⟨month, day, date, _, _, position, _⟩ := ofDayOfYear_eq year lower upper
  rw [date, position]
  unfold toDays daysBefore
  dsimp only
  have same : (if month ≤ 2 then (if month ≤ 2 then year + 1 else year) - 1
      else if month ≤ 2 then year + 1 else year) = year := by
    split <;> omega
  rw [same, Int.mul_comm 365]

/-- The date is in the calendar if the year has the day. -/
theorem day_ofDayOfYear_le
    (lower : 0 ≤ dayOfYear)
    (upper : dayOfYear ≤ 365)
    (leap : dayOfYear = 365 → isLeapYear (year + 1) = true) :
    (ofDayOfYear year dayOfYear).day ≤
      daysInMonth (ofDayOfYear year dayOfYear).year (ofDayOfYear year dayOfYear).month := by
  obtain ⟨month, day, date, inYear, _, position, begins⟩ :=
    ofDayOfYear_eq year lower upper
  rw [date]
  dsimp only
  unfold daysInMonth
  by_cases february : month = 2
  · subst february
    rw [if_pos rfl, if_pos (Nat.le_refl 2)]
    split
    · omega
    · rename_i short
      have notLast : dayOfYear ≠ 365 := fun last => short (leap last)
      omega
  · rw [if_neg february]
    split
    · rename_i thirty
      rcases thirty with rfl | rfl | rfl | rfl
      all_goals omega
    · omega

end Year

/-! ## Dates of days -/

theorem ofDays_eq (days : Int) :
    ofDays days =
      ofDayOfYear
        (yearOfEra ((days + 719468) % 146097) + (days + 719468) / 146097 * 400)
        ((days + 719468) % 146097 - daysBefore (yearOfEra ((days + 719468) % 146097))) :=
  rfl

section Days

variable (days : Int)

/-- The era of a day and its place there. -/
theorem dayOfEra_bounds : 0 ≤ (days + 719468) % 146097 ∧ (days + 719468) % 146097 < 146097 := by
  omega

theorem dayOfYear_bounds {dayOfEra : Int} (lower : 0 ≤ dayOfEra) (upper : dayOfEra < 146097) :
    0 ≤ dayOfEra - daysBefore (yearOfEra dayOfEra) ∧
      dayOfEra - daysBefore (yearOfEra dayOfEra) ≤ 365 := by
  have first := daysBefore_yearOfEra_le lower upper
  have last := le_daysBefore_yearOfEra lower upper
  omega

/-- The date of a day leads back to the day. -/
theorem toDays_ofDays : (ofDays days).toDays = days := by
  obtain ⟨lower, upper⟩ := dayOfEra_bounds days
  obtain ⟨first, last⟩ := dayOfYear_bounds lower upper
  have year := yearOfEra_bounds lower upper
  rw [ofDays_eq, toDays_ofDayOfYear first last]
  have inEra : (yearOfEra ((days + 719468) % 146097) + (days + 719468) / 146097 * 400) % 400 =
      yearOfEra ((days + 719468) % 146097) := by
    omega
  have era : (yearOfEra ((days + 719468) % 146097) + (days + 719468) / 146097 * 400) / 400 =
      (days + 719468) / 146097 := by
    omega
  rw [inEra, era]
  omega

end Days

/-! ## The range of dates -/

/-- The first day that has a date. -/
def firstDay : Int :=
  toDays ⟨firstYear, 1, 1⟩

/-- The last day that has a date. -/
def lastDay : Int :=
  toDays ⟨lastYear, 12, 31⟩

section Range

variable {days : Int}

/-- A year ends with January and February, so the range of years is that of days. -/
theorem year_ofDays_bounds (lower : firstDay ≤ days) (upper : days ≤ lastDay) :
    firstYear ≤ (ofDays days).year ∧ (ofDays days).year ≤ lastYear := by
  rw [show firstDay = -96465292 by decide] at lower
  rw [show lastDay = 95026236 by decide] at upper
  obtain ⟨eraLower, eraUpper⟩ := dayOfEra_bounds days
  obtain ⟨yearLower, yearUpper⟩ := dayOfYear_bounds eraLower eraUpper
  have year := yearOfEra_bounds eraLower eraUpper
  obtain ⟨month, day, date, inYear, _, position, begins⟩ :=
    ofDayOfYear_eq (yearOfEra ((days + 719468) % 146097) + (days + 719468) / 146097 * 400)
      yearLower yearUpper
  rw [ofDays_eq, date]
  dsimp only
  unfold firstYear lastYear
  unfold daysBefore at position begins yearLower yearUpper
  generalize yearOfEra ((days + 719468) % 146097) = yearOfEra at *
  -- Only the first and the last era are not in the range as a whole.
  have eras : (days + 719468) / 146097 = -656 ∧ (yearOfEra = 256 ∨ yearOfEra ≠ 256) ∨
      -656 < (days + 719468) / 146097 ∧ (days + 719468) / 146097 < 655 ∨
      (days + 719468) / 146097 = 655 ∧ (yearOfEra = 142 ∨ yearOfEra ≠ 142) := by
    omega
  by_cases winter : month ≤ 2
  · have turn : (month + 9) % 12 = month + 9 := by omega
    rw [if_pos winter]
    rcases eras with ⟨era, year | year⟩ | ⟨after, before⟩ | ⟨era, year | year⟩
    all_goals omega
  · have turn : (month + 9) % 12 = month - 3 := by omega
    rw [if_neg winter]
    rcases eras with ⟨era, year | year⟩ | ⟨after, before⟩ | ⟨era, year | year⟩
    all_goals omega

theorem isValid_ofDays (lower : firstDay ≤ days) (upper : days ≤ lastDay) :
    (ofDays days).isValid = true := by
  obtain ⟨eraLower, eraUpper⟩ := dayOfEra_bounds days
  obtain ⟨yearLower, yearUpper⟩ := dayOfYear_bounds eraLower eraUpper
  have years := year_ofDays_bounds lower upper
  have leap : (days + 719468) % 146097 - daysBefore (yearOfEra ((days + 719468) % 146097)) = 365 →
      isLeapYear (yearOfEra ((days + 719468) % 146097) + (days + 719468) / 146097 * 400 + 1) =
        true := by
    intro last
    have year := leap_of_dayOfEra_eq eraLower eraUpper (by omega)
    unfold isLeapYear
    generalize yearOfEra ((days + 719468) % 146097) = yearOfEra at *
    simp only [Bool.and_eq_true, Bool.or_eq_true, decide_eq_true_iff]
    omega
  have inMonth := day_ofDayOfYear_le yearLower yearUpper leap
  rw [← ofDays_eq] at inMonth
  obtain ⟨month, day, date, inYear, positive, _, _⟩ := ofDayOfYear_eq
    (yearOfEra ((days + 719468) % 146097) + (days + 719468) / 146097 * 400)
    yearLower yearUpper
  rw [← ofDays_eq] at date
  unfold isValid
  simp only [Bool.and_eq_true, decide_eq_true_iff]
  rw [date] at inMonth years ⊢
  exact ⟨⟨⟨⟨years, inYear.1⟩, inYear.2⟩, positive⟩, inMonth⟩

end Range

/-- The bounds of the parts of a date, whatever its month. -/
theorem bounds_of_isValid {date : CalendarDate} (valid : date.isValid = true) :
    (firstYear ≤ date.year ∧ date.year ≤ lastYear) ∧ (1 ≤ date.month ∧ date.month ≤ 12) ∧
      1 ≤ date.day ∧ date.day ≤ 31 := by
  have longest : daysInMonth date.year date.month ≤ 31 := by
    unfold daysInMonth
    split
    · split <;> omega
    · split <;> omega
  unfold isValid at valid
  simp only [Bool.and_eq_true, decide_eq_true_iff] at valid
  omega

/-! ## The date after a date -/

/-- The date after a date. -/
def next (date : CalendarDate) : CalendarDate :=
  if date.day < daysInMonth date.year date.month then ⟨date.year, date.month, date.day + 1⟩
  else if date.month < 12 then ⟨date.year, date.month + 1, 1⟩
  else ⟨date.year + 1, 1, 1⟩

/-- February is followed by March, whether it has a leap day or not. -/
theorem toDays_march (year : Int) :
    toDays ⟨year, 3, 1⟩ = toDays ⟨year, 2, daysInMonth year 2⟩ + 1 := by
  have leap : isLeapYear year = true ↔ year % 4 = 0 ∧ (year % 100 ≠ 0 ∨ year % 400 = 0) := by
    simp [isLeapYear]
  unfold toDays daysInMonth
  dsimp only
  rw [if_neg (by decide), if_pos (by decide), if_pos rfl]
  split
  · rename_i long
    rw [leap] at long
    omega
  · rename_i short
    rw [leap] at short
    omega

/-- Days are counted one by one: each date is a day later than the date before it. -/
theorem toDays_next {date : CalendarDate} (valid : date.isValid = true) :
    date.next.toDays = date.toDays + 1 := by
  obtain ⟨year, month, day⟩ := date
  unfold isValid at valid
  simp only [Bool.and_eq_true, decide_eq_true_iff] at valid
  obtain ⟨⟨⟨⟨_, lower⟩, upper⟩, _⟩, inMonth⟩ := valid
  unfold next
  dsimp only
  split
  · unfold toDays
    dsimp only
    omega
  · rename_i last
    obtain rfl : day = daysInMonth year month := by omega
    split
    · rename_i inYear
      by_cases february : month = 2
      · rw [february, toDays_march]
      · have others : month = 1 ∨ month = 3 ∨ month = 4 ∨ month = 5 ∨ month = 6 ∨ month = 7 ∨
            month = 8 ∨ month = 9 ∨ month = 10 ∨ month = 11 := by
          omega
        unfold toDays daysInMonth
        rcases others with rfl | rfl | rfl | rfl | rfl | rfl | rfl | rfl | rfl | rfl
        all_goals
          simp only [Nat.reduceLeDiff, Nat.reduceAdd, Nat.reduceMod, Nat.reduceEqDiff, if_true,
            if_false, or_true, true_or, or_self]
          omega
    · rename_i december
      obtain rfl : month = 12 := by omega
      unfold toDays daysInMonth
      simp only [Nat.reduceLeDiff, Nat.reduceAdd, Nat.reduceMod, Nat.reduceEqDiff, if_true,
        if_false, or_self]
      omega

example : (next ⟨1969, 12, 31⟩).toDays = 0 := by decide

end CalendarDate
end AgentCohort
