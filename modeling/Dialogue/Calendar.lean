/-!
# Dates

A date of the Gregorian calendar, carried on before its introduction, with the
year zero and negative years in front of it.  Dates reach from the first day
of the year -262143 to the last day of the year 262142.
-/

namespace Dialogue

namespace Calendar

/-- Whether a year has a leap day. -/
def isLeap (year : Int) : Bool :=
  year % 4 = 0 && (year % 100 ≠ 0 || year % 400 = 0)

/-- The number of days in a month. -/
def daysIn (year : Int) (month : Nat) : Nat :=
  match month with
  | 2 => if isLeap year then 29 else 28
  | 4 | 6 | 9 | 11 => 30
  | _ => 31

/-- The years that dates reach. -/
def firstYear : Int := -262143

/-- The last year that dates reach. -/
def lastYear : Int := 262142

end Calendar

open Calendar

/-- A day of the calendar. -/
structure Date where
  year : Int
  month : Nat
  day : Nat
  year_mem : firstYear ≤ year ∧ year ≤ lastYear
  month_mem : 1 ≤ month ∧ month ≤ 12
  day_mem : 1 ≤ day ∧ day ≤ daysIn year month
deriving DecidableEq

namespace Date

/-- The date with these numbers, if there is one. -/
def of? (year : Int) (month day : Nat) : Option Date :=
  if h : (firstYear ≤ year ∧ year ≤ lastYear) ∧ (1 ≤ month ∧ month ≤ 12) ∧
      1 ≤ day ∧ day ≤ daysIn year month then
    some { year, month, day, year_mem := h.1, month_mem := h.2.1, day_mem := h.2.2 }
  else
    none

/-- The day after a date, unless it is the last one. -/
def next? (date : Date) : Option Date :=
  if date.day + 1 ≤ daysIn date.year date.month then
    of? date.year date.month (date.day + 1)
  else if date.month + 1 ≤ 12 then
    of? date.year (date.month + 1) 1
  else
    of? (date.year + 1) 1 1

/-- The number of days in front of a month. -/
def daysBefore (year : Int) : Nat → Nat
  | 0 | 1 => 0
  | month + 1 => daysBefore year month + daysIn year month

/-- The number of a day; the first day of the year 1 has number 1. -/
def number (date : Date) : Int :=
  let years := date.year - 1
  365 * years + years / 4 - years / 100 + years / 400 +
    daysBefore date.year date.month + date.day

/-- The day of the week, from 1 for Monday to 7 for Sunday. -/
def weekday (date : Date) : Nat :=
  ((date.number - 1) % 7).toNat + 1

/-- A number with zeros in front up to a width. -/
def padded (width n : Nat) : String :=
  let digits := Nat.toDigits 10 n
  String.ofList (List.replicate (width - digits.length) '0' ++ digits)

/-- A year with at least four digits, and with a sign outside of the years 0
to 9999. -/
def yearText (year : Int) : String :=
  if year < 0 then "-" ++ padded 4 year.natAbs
  else if year > 9999 then "+" ++ padded 4 year.natAbs
  else padded 4 year.natAbs

/-- The text of a date: year, month and day. -/
def text (date : Date) : String :=
  yearText date.year ++ "-" ++ padded 2 date.month ++ "-" ++ padded 2 date.day

end Date

end Dialogue
