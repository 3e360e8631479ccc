import Dialogue.Calendar
import Mathlib.Data.Nat.Init

/-!
# Days in a row

Dates are ordered by year, month and day, and their numbers count the days in this order:
the number of a date is one less than that of the day behind it.  The numbers of months and
years fit together because a month ends where the next one starts, and a year ends behind
its twelfth month, with the leap day that the year has.
-/

namespace Dialogue

open Calendar

namespace Date

/-! ## Days in front of months and years -/

/-- The number of days in front of a year, from the first day of the year 1. -/
def daysBeforeYear (year : Int) : Int :=
  365 * (year - 1) + (year - 1) / 4 - (year - 1) / 100 + (year - 1) / 400

theorem number_eq (date : Date) :
    date.number = daysBeforeYear date.year + daysBefore date.year date.month + date.day :=
  rfl

theorem daysIn_mem (year : Int) (month : Nat) :
    1 ≤ daysIn year month ∧ daysIn year month ≤ 31 := by
  rw [daysIn.eq_def]
  split
  · split <;> decide
  all_goals decide

theorem daysBefore_succ (year : Int) {month : Nat} (positive : 1 ≤ month) :
    daysBefore year (month + 1) = daysBefore year month + daysIn year month := by
  cases month with
  | zero => cases positive
  | succ month => rfl

/-- A month ends where a later one starts, or before. -/
theorem daysBefore_add_daysIn_le (year : Int) {first second : Nat} (positive : 1 ≤ first)
    (before : first < second) :
    daysBefore year first + daysIn year first ≤ daysBefore year second := by
  induction second, before using Nat.le_induction with
  | base => exact Nat.le_of_eq (daysBefore_succ year positive).symm
  | succ second later ih =>
      rw [daysBefore_succ year (by omega)]
      omega

/-- The days of all months make up a year. -/
theorem daysBeforeYear_succ (year : Int) :
    daysBeforeYear (year + 1) = daysBeforeYear year + daysBefore year 13 := by
  have leap : isLeap year = true ↔ year % 4 = 0 ∧ (year % 100 ≠ 0 ∨ year % 400 = 0) := by
    simp [isLeap]
  rw [daysBeforeYear, daysBeforeYear]
  by_cases leapYear : isLeap year = true
  · have months : daysBefore year 13 = 366 := by simp [daysBefore, daysIn, leapYear]
    rw [leap] at leapYear
    omega
  · have months : daysBefore year 13 = 365 := by simp [daysBefore, daysIn, leapYear]
    rw [leap] at leapYear
    omega

/-- A year ends where a later one starts, or before. -/
theorem daysBeforeYear_add_le {first second : Int} (before : first < second) :
    daysBeforeYear first + daysBefore first 13 ≤ daysBeforeYear second := by
  rw [← daysBeforeYear_succ]
  rcases Int.lt_or_eq_of_le (Int.add_one_le_of_lt before) with later | rfl
  · rw [daysBeforeYear, daysBeforeYear]
    omega
  · exact Int.le_refl _

/-! ## The order of dates -/

/-- A date stands before another one in the calendar. -/
def Before (first second : Date) : Prop :=
  first.year < second.year ∨
    first.year = second.year ∧
      (first.month < second.month ∨ first.month = second.month ∧ first.day < second.day)

theorem before_trichotomy (first second : Date) :
    Before first second ∨ first = second ∨ Before second first := by
  obtain ⟨year, month, day, _, _, _⟩ := first
  obtain ⟨otherYear, otherMonth, otherDay, _, _, _⟩ := second
  simp only [Before, mk.injEq]
  omega

theorem number_lt_of_before {first second : Date} (before : Before first second) :
    first.number < second.number := by
  have month := first.month_mem
  have day := first.day_mem
  have otherMonth := second.month_mem
  have otherDay := second.day_mem
  rw [number_eq, number_eq]
  rcases before with years | ⟨sameYear, months | ⟨sameMonth, days⟩⟩
  · have year := daysBeforeYear_add_le years
    have monthEnd := daysBefore_add_daysIn_le first.year month.1 (show first.month < 13 by omega)
    omega
  · have monthEnd := daysBefore_add_daysIn_le first.year month.1 months
    rw [← sameYear]
    omega
  · rw [← sameYear, ← sameMonth]
    omega

/-- Dates are numbered in their order. -/
theorem number_lt_iff {first second : Date} :
    first.number < second.number ↔ Before first second := by
  constructor
  · intro less
    rcases before_trichotomy first second with before | rfl | after
    · exact before
    · omega
    · have greater := number_lt_of_before after
      omega
  · exact number_lt_of_before

theorem number_inj {first second : Date} : first.number = second.number ↔ first = second := by
  constructor
  · intro same
    rcases before_trichotomy first second with before | equal | after
    · have less := number_lt_of_before before
      omega
    · exact equal
    · have greater := number_lt_of_before after
      omega
  · exact congrArg number

/-! ## The next day -/

theorem of?_eq_some {year : Int} {month day : Nat} {date : Date}
    (found : of? year month day = some date) :
    date.year = year ∧ date.month = month ∧ date.day = day := by
  rw [of?] at found
  split at found
  · cases found
    exact ⟨rfl, rfl, rfl⟩
  · cases found

/-- The day behind a date has the next number. -/
theorem number_next {date next : Date} (found : date.next? = some next) :
    next.number = date.number + 1 := by
  have month := date.month_mem
  have day := date.day_mem
  rw [number_eq, number_eq]
  rw [next?] at found
  split at found
  · obtain ⟨sameYear, sameMonth, nextDay⟩ := of?_eq_some found
    rw [sameYear, sameMonth, nextDay]
    omega
  · split at found
    · obtain ⟨sameYear, nextMonth, firstDay⟩ := of?_eq_some found
      rw [sameYear, nextMonth, firstDay, daysBefore_succ _ month.1]
      omega
    · obtain ⟨nextYear, firstMonth, firstDay⟩ := of?_eq_some found
      have last : date.month = 12 := by omega
      have start : daysBefore (date.year + 1) 1 = 0 := rfl
      have year := daysBeforeYear_succ date.year
      rw [daysBefore_succ date.year (show 1 ≤ 12 by decide), ← last] at year
      rw [nextYear, firstMonth, firstDay, start, year]
      omega

theorem exists_of? {year : Int} {month day : Nat} (yearMem : firstYear ≤ year ∧ year ≤ lastYear)
    (monthMem : 1 ≤ month ∧ month ≤ 12) (dayMem : 1 ≤ day ∧ day ≤ daysIn year month) :
    ∃ date, of? year month day = some date :=
  ⟨_, dif_pos ⟨yearMem, monthMem, dayMem⟩⟩

/-- There is a day behind a date in front of another one. -/
theorem exists_next {date later : Date} (before : date.number < later.number) :
    ∃ next, date.next? = some next := by
  have month := date.month_mem
  have day := date.day_mem
  rw [next?]
  split
  · rename_i more
    exact exists_of? date.year_mem month ⟨by omega, more⟩
  · split
    · rename_i more
      exact exists_of? date.year_mem ⟨by omega, more⟩ ⟨Nat.le_refl 1, (daysIn_mem _ _).1⟩
    · -- The date is the last one of its year, so the other one lies in a later year.
      have laterMonth := later.month_mem
      have laterDay := later.day_mem
      have laterYear : date.year < later.year := by
        rcases number_lt_iff.mp before with years | ⟨sameYear, months | ⟨sameMonth, days⟩⟩
        · exact years
        · omega
        · rw [← sameYear, ← sameMonth] at laterDay
          omega
      have first := date.year_mem
      have last := later.year_mem
      exact exists_of? ⟨by omega, by omega⟩ ⟨Nat.le_refl 1, by decide⟩
        ⟨Nat.le_refl 1, (daysIn_mem _ _).1⟩

/-- Every number between those of two dates is the number of a date. -/
theorem exists_of_number {first last : Date} {n : Int} (lower : first.number ≤ n)
    (upper : n ≤ last.number) : ∃ date : Date, date.number = n := by
  obtain ⟨count, rfl⟩ := Int.le.dest lower
  induction count with
  | zero => exact ⟨first, by omega⟩
  | succ count ih =>
      obtain ⟨date, number⟩ := ih (by omega) (by omega)
      obtain ⟨next, found⟩ := exists_next (show date.number < last.number by omega)
      refine ⟨next, ?_⟩
      rw [number_next found]
      omega

/-! ## Weekdays -/

/-- Weekdays follow each other in a circle. -/
theorem weekday_next {date next : Date} (found : date.next? = some next) :
    next.weekday = date.weekday % 7 + 1 := by
  rw [weekday, weekday, number_next found]
  omega

end Date

end Dialogue
