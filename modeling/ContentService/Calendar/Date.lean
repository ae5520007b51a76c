/-!
# Dates

Days of the Gregorian calendar, extended to all years from -262143 to 262142.
-/

namespace ContentService

/-- Whether a year has a 29th of February. -/
def isLeapYear (year : Int) : Bool :=
  year % 4 == 0 && (year % 100 != 0 || year % 400 == 0)

/-- The number of days of a month; none for a month that does not exist. -/
def daysInMonth (year : Int) (month : Nat) : Nat :=
  match month with
  | 1 | 3 | 5 | 7 | 8 | 10 | 12 => 31
  | 4 | 6 | 9 | 11 => 30
  | 2 => if isLeapYear year then 29 else 28
  | _ => 0

/-- The first year of the calendar. -/
def firstYear : Int := -262143

/-- The last year of the calendar. -/
def lastYear : Int := 262142

/-- A day that exists in the calendar. -/
structure Date where
  year : Int
  month : Nat
  day : Nat
  year_ge : firstYear ≤ year
  year_le : year ≤ lastYear
  day_pos : 1 ≤ day
  day_le : day ≤ daysInMonth year month
  deriving DecidableEq, Repr

namespace Date

/-- The day with the given numbers, if it exists. -/
def ofNumbers? (year : Int) (month day : Nat) : Option Date :=
  if h : firstYear ≤ year ∧ year ≤ lastYear ∧ 1 ≤ day ∧ day ≤ daysInMonth year month then
    some ⟨year, month, day, h.1, h.2.1, h.2.2.1, h.2.2.2⟩
  else none

/-- Chronological order. -/
def order (a b : Date) : Ordering :=
  (compare a.year b.year).then ((compare a.month b.month).then (compare a.day b.day))

/-- The first day of the month after a given one. -/
def startOfNextMonth? (year : Int) (month : Nat) : Option Date :=
  if month < 12 then ofNumbers? year (month + 1) 1 else ofNumbers? (year + 1) 1 1

/-- The day after, unless the calendar ends. -/
def next? (d : Date) : Option Date :=
  (ofNumbers? d.year d.month (d.day + 1)).or (startOfNextMonth? d.year d.month)

/-- The day before, unless the calendar begins. -/
def previous? (d : Date) : Option Date :=
  if 1 < d.day then ofNumbers? d.year d.month (d.day - 1)
  else if 1 < d.month then ofNumbers? d.year (d.month - 1) (daysInMonth d.year (d.month - 1))
  else ofNumbers? (d.year - 1) 12 31

end Date

end ContentService
