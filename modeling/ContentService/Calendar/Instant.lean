import ContentService.Calendar.Date

/-!
# Instants

Points in time of universal time, to the nanosecond. A leap second may follow the last second of any
minute: it is kept as a continuation of that second, with a nanosecond count of a thousand million
or more, so it lies between the second before it and the minute after it.
-/

namespace ContentService

/-- A point in time. -/
structure Instant where
  date : Date
  /-- Seconds since midnight, a leap second not counted. -/
  second : Nat
  /-- Nanoseconds since the beginning of the second. -/
  nano : Nat
  second_lt : second < 86400
  nano_lt : nano < 2000000000
  leap_ends_minute : 1000000000 ≤ nano → second % 60 = 59
  deriving DecidableEq, Repr

namespace Instant

/-- Chronological order. -/
def order (a b : Instant) : Ordering :=
  (a.date.order b.date).then ((compare a.second b.second).then (compare a.nano b.nano))

/-- Whether one instant is strictly before another. -/
def before (a b : Instant) : Bool :=
  a.order b == .lt

/-- The beginning of a day. -/
def startOfDay (d : Date) : Instant :=
  ⟨d, 0, 0, by decide, by decide, by decide⟩

/-- The instant with the given date and clock reading; a second of 60 is a leap second. -/
def ofClock? (date : Date) (hour minute second nano : Nat) : Option Instant :=
  if h : hour < 24 ∧ minute < 60 ∧ second < 60 ∧ nano < 1000000000 then
    some
      { date := date
        second := hour * 3600 + minute * 60 + second
        nano := nano
        second_lt := by omega
        nano_lt := by omega
        leap_ends_minute := by omega }
  else if h : hour < 24 ∧ minute < 60 ∧ second = 60 ∧ nano < 1000000000 then
    some
      { date := date
        second := hour * 3600 + minute * 60 + 59
        nano := 1000000000 + nano
        second_lt := by omega
        nano_lt := by omega
        leap_ends_minute := by omega }
  else none

/-- The hour of the clock reading. -/
def hour (t : Instant) : Nat :=
  t.second / 3600

/-- The minute of the clock reading. -/
def minute (t : Instant) : Nat :=
  t.second / 60 % 60

/-- The second of the clock reading, 60 in a leap second. -/
def clockSecond (t : Instant) : Nat :=
  t.second % 60 + t.nano / 1000000000

/-- The fraction of the clock reading's second, in nanoseconds. -/
def fraction (t : Instant) : Nat :=
  t.nano % 1000000000

/-- The clock put forward by whole minutes, fewer than a day's; nothing if the calendar ends. -/
def plusMinutes? (t : Instant) (minutes : Nat) : Option Instant :=
  let shifted := t.second + 60 * (minutes % 1440)
  if h : shifted < 86400 then
    some { t with
      second := shifted
      second_lt := h
      leap_ends_minute := fun leap => by have := t.leap_ends_minute leap; omega }
  else
    t.date.next?.map fun tomorrow =>
      { date := tomorrow
        second := shifted - 86400
        nano := t.nano
        second_lt := by have := t.second_lt; omega
        nano_lt := t.nano_lt
        leap_ends_minute := fun leap => by have := t.leap_ends_minute leap; omega }

/-- The clock put back by whole minutes, fewer than a day's; nothing if the calendar begins. -/
def minusMinutes? (t : Instant) (minutes : Nat) : Option Instant :=
  let back := 60 * (minutes % 1440)
  if h : back ≤ t.second then
    some { t with
      second := t.second - back
      second_lt := by have := t.second_lt; omega
      leap_ends_minute := fun leap => by have := t.leap_ends_minute leap; omega }
  else
    t.date.previous?.map fun yesterday =>
      { date := yesterday
        second := t.second + 86400 - back
        nano := t.nano
        second_lt := by omega
        nano_lt := t.nano_lt
        leap_ends_minute := fun leap => by have := t.leap_ends_minute leap; omega }

/-- The clock put forward by an offset in minutes east, which may be negative. -/
def shift? (t : Instant) (minutes : Int) : Option Instant :=
  if 0 ≤ minutes then t.plusMinutes? minutes.natAbs else t.minusMinutes? minutes.natAbs

/-- The beginning of the next second that is not a leap second. -/
def nextSecond? (t : Instant) : Option Instant :=
  if h : t.second + 1 < 86400 then
    some ⟨t.date, t.second + 1, 0, h, by decide, fun leap => absurd leap (by decide)⟩
  else t.date.next?.map startOfDay

/-- The beginning of the second that lies `count` full seconds later. -/
def plusSeconds? (t : Instant) : Nat → Option Instant
  | 0 => some t
  | count + 1 => t.nextSecond?.bind fun later => later.plusSeconds? count

end Instant

end ContentService
