import ContentService.Calendar.Instant
import ContentService.Text.Digits

/-!
# Writing instants

Instants are written as RFC 3339 date and time in universal time, with as few fraction digits out of
0, 3, 6 and 9 as are exact. Years beyond four digits, and years before 0, carry a sign.
-/

namespace ContentService

open Text

/-- A year: four digits, or a sign and at least four digits outside 0 to 9999. -/
def writeYear (year : Int) : List Char :=
  if year < 0 then '-' :: writePadded 4 year.natAbs
  else if 9999 < year then '+' :: writePadded 4 year.natAbs
  else writePadded 4 year.natAbs

/-- A date as year, month and day joined by hyphens. -/
def Date.write (d : Date) : List Char :=
  writeYear d.year ++ '-' :: writePadded 2 d.month ++ '-' :: writePadded 2 d.day

/-- The fraction of a second, with its point; nothing for no fraction. -/
def writeFraction (nano : Nat) : List Char :=
  if nano = 0 then []
  else if nano % 1000000 = 0 then '.' :: writePadded 3 (nano / 1000000)
  else if nano % 1000 = 0 then '.' :: writePadded 6 (nano / 1000)
  else '.' :: writePadded 9 nano

namespace Instant

/-- The clock reading as hours, minutes, seconds and fraction. -/
def writeClock (t : Instant) : List Char :=
  writePadded 2 t.hour ++ ':' :: writePadded 2 t.minute ++ ':' :: writePadded 2 t.clockSecond ++
    writeFraction t.fraction

/-- Date and clock reading without the mark of the zone. -/
def writeLocal (t : Instant) : List Char :=
  t.date.write ++ 'T' :: t.writeClock

/-- The characters of an instant's text. -/
def writeChars (t : Instant) : List Char :=
  t.writeLocal ++ ['Z']

/-- The text of an instant. -/
def write (t : Instant) : String :=
  String.ofList t.writeChars

end Instant

end ContentService
