import ContentService.Calendar.Instant

/-!
# Stored instants

The database keeps times as whole microseconds before or after the beginning of the year 2000. Finer
fractions are cut off towards that moment, and a leap second becomes the second that follows it.
-/

namespace ContentService.Instant

/-- The beginning of the year from which the database counts. -/
def databaseEpochYear : Int := 2000

/-- The time with its leap second counted as the second after it. -/
def withoutLeap (t : Instant) : Instant :=
  if h : t.nano < 1000000000 then t
  else
    match t.nextSecond? with
    | some later =>
      { later with
        nano := t.nano - 1000000000
        nano_lt := by have := t.nano_lt; omega
        leap_ends_minute := fun leap => by have := t.nano_lt; omega }
    | none => t

/-- The time as the database keeps it. -/
def stored (t : Instant) : Instant :=
  let t := t.withoutLeap
  let excess := t.nano % 1000
  if excess = 0 then t
  else if databaseEpochYear ≤ t.date.year then
    { t with
      nano := t.nano - excess
      nano_lt := by have := t.nano_lt; omega
      leap_ends_minute := fun leap => t.leap_ends_minute (by omega) }
  else if h : t.nano - excess + 1000 < 1000000000 then
    { t with
      nano := t.nano - excess + 1000
      nano_lt := by omega
      leap_ends_minute := fun leap => by omega }
  else t.nextSecond?.getD t

end ContentService.Instant
