import ContentService.Calendar.Instant
import ContentService.Text.Blank
import ContentService.Text.Digits

/-!
# Reading dates and instants

Three notations are read. `Instant.readStrict?` takes RFC 3339 as it stands: fixed widths, and a
zone. `Instant.readLoose?` takes the same parts with free widths, white space between them, and more
spellings of the zone. `Instant.readZoneless?` takes a date and a time without a zone, which is then
universal time, and `Date.read?` a date alone.

A scanner takes characters off the front and gives what it read with the characters left.
-/

namespace ContentService

open Text

/-- Scans between `least` and `most` digits, as many as there are. -/
def scanNumber (least most : Nat) (cs : List Char) : Option (Nat × List Char) :=
  let digits := (cs.take most).takeWhile isDigit
  if digits.length < least then none else some (digitsValue digits, cs.drop digits.length)

/-- Scans one given character. -/
def scanChar (expected : Char) : List Char → Option (List Char)
  | [] => none
  | c :: rest => if c = expected then some rest else none

/-- Skips white space. -/
def skipBlanks (cs : List Char) : List Char :=
  cs.dropWhile isBlank

/-- Scans a field of one or two digits, with white space allowed in front. -/
def scanShort (cs : List Char) : Option (Nat × List Char) :=
  scanNumber 1 2 (skipBlanks cs)

/-- Scans a year, with white space allowed in front: up to four digits, or a sign and any number of
digits. -/
def scanYear (cs : List Char) : Option (Int × List Char) :=
  match skipBlanks cs with
  | '-' :: rest => (scanNumber 1 rest.length rest).map fun (n, left) => (-(n : Int), left)
  | '+' :: rest => (scanNumber 1 rest.length rest).map fun (n, left) => ((n : Int), left)
  | rest => (scanNumber 1 4 rest).map fun (n, left) => ((n : Int), left)

/-- Scans the fraction of a second, if a point follows: at least one digit, of which nine count. -/
def scanFraction (cs : List Char) : Option (Nat × List Char) :=
  match cs with
  | '.' :: rest =>
    (scanNumber 1 9 rest).map fun (n, left) =>
      (n * 10 ^ (9 - (rest.length - left.length)), left.dropWhile isDigit)
  | _ => some (0, cs)

/-- Scans the letter or space between date and time. -/
def scanSeparator : List Char → Option (List Char)
  | [] => none
  | c :: rest => if c = 'T' ∨ c = 't' ∨ c = ' ' then some rest else none

/-- Scans a zone as an offset in minutes east: the letter Z, or a sign, two digits of hours, what
`between` skips, and two digits of minutes. The sign may be a typographic minus. -/
def scanOffset (between : List Char → Option (List Char)) (cs : List Char) :
    Option (Int × List Char) :=
  match cs with
  | [] => none
  | sign :: rest =>
    if sign = 'Z' ∨ sign = 'z' then some (0, rest)
    else if sign ≠ '+' ∧ sign ≠ '-' ∧ sign ≠ Char.ofNat 0x2212 then none
    else do
      let (hours, rest) ← scanNumber 2 2 rest
      let rest ← between rest
      let (minutes, rest) ← scanNumber 2 2 rest
      if minutes < 60 then
        let offset : Int := hours * 60 + minutes
        some (if sign = '+' then offset else -offset, rest)
      else none

/-- The date and clock reading of a zone, as an instant; offsets reach less than a day. -/
def instantAt? (year : Int) (month day hour minute second nano : Nat) (offset : Int) :
    Option Instant := do
  let date ← Date.ofNumbers? year month day
  let reading ← Instant.ofClock? date hour minute second nano
  if offset.natAbs < 1440 then reading.shift? (-offset) else none

/-- Scans a date whose parts have free widths. -/
def scanDate (cs : List Char) : Option ((Int × Nat × Nat) × List Char) := do
  let (year, cs) ← scanYear cs
  let cs ← scanChar '-' cs
  let (month, cs) ← scanShort cs
  let cs ← scanChar '-' cs
  let (day, cs) ← scanShort cs
  some ((year, month, day), cs)

/-- Scans a clock reading whose parts have free widths. -/
def scanClock (cs : List Char) : Option ((Nat × Nat × Nat × Nat) × List Char) := do
  let (hour, cs) ← scanShort cs
  let cs ← scanChar ':' cs
  let (minute, cs) ← scanShort cs
  let cs ← scanChar ':' cs
  let (second, cs) ← scanShort cs
  let (nano, cs) ← scanFraction cs
  some ((hour, minute, second, nano), cs)

/-- Reads a date that fills the list. -/
def Date.read? (cs : List Char) : Option Date := do
  let ((year, month, day), rest) ← scanDate cs
  if rest.isEmpty then Date.ofNumbers? year month day else none

namespace Instant

/-- Reads RFC 3339 notation that fills the list. -/
def readStrict? (cs : List Char) : Option Instant := do
  let (year, cs) ← scanNumber 4 4 cs
  let cs ← scanChar '-' cs
  let (month, cs) ← scanNumber 2 2 cs
  let cs ← scanChar '-' cs
  let (day, cs) ← scanNumber 2 2 cs
  let cs ← scanSeparator cs
  let (hour, cs) ← scanNumber 2 2 cs
  let cs ← scanChar ':' cs
  let (minute, cs) ← scanNumber 2 2 cs
  let cs ← scanChar ':' cs
  let (second, cs) ← scanNumber 2 2 cs
  let (nano, cs) ← scanFraction cs
  let (offset, cs) ← scanOffset (scanChar ':') cs
  if cs.isEmpty then instantAt? year month day hour minute second nano offset else none

/-- Reads a date and a time without a zone that fill the list; `gap` scans what is between them. -/
def readZoneless? (gap : List Char → Option (List Char)) (cs : List Char) : Option Instant := do
  let ((year, month, day), cs) ← scanDate cs
  let cs ← gap cs
  let ((hour, minute, second, nano), cs) ← scanClock cs
  if cs.isEmpty then instantAt? year month day hour minute second nano 0 else none

/-- Scans a date whose parts have free widths and white space around its hyphens. -/
def scanLooseDate (cs : List Char) : Option ((Int × Nat × Nat) × List Char) := do
  let (year, cs) ← scanYear cs
  let cs ← scanChar '-' (skipBlanks cs)
  let (month, cs) ← scanShort cs
  let cs ← scanChar '-' (skipBlanks cs)
  let (day, cs) ← scanShort cs
  some ((year, month, day), cs)

/-- Scans a clock reading whose parts have free widths and white space around its colons. -/
def scanLooseClock (cs : List Char) : Option ((Nat × Nat × Nat × Nat) × List Char) := do
  let (hour, cs) ← scanShort cs
  let cs ← scanChar ':' (skipBlanks cs)
  let (minute, cs) ← scanShort cs
  let cs ← scanChar ':' (skipBlanks cs)
  let (second, cs) ← scanShort cs
  let (nano, cs) ← scanFraction cs
  some ((hour, minute, second, nano), cs)

/-- Scans a zone: the letters UTC in any case, or an offset whose parts may be run together or set
apart by colons and white space. -/
def scanLooseZone (cs : List Char) : Option (Int × List Char) :=
  if (cs.take 3).map Char.toLower = ['u', 't', 'c'] then some (0, cs.drop 3)
  else scanOffset (fun rest => some (rest.dropWhile fun c => c = ':' || isBlank c)) cs

/-- Reads the loose notation of an instant, with white space allowed behind it. -/
def readLoose? (cs : List Char) : Option Instant := do
  let ((year, month, day), cs) ← scanLooseDate cs
  let cs ← scanSeparator cs
  let ((hour, minute, second, nano), cs) ← scanLooseClock cs
  let (offset, cs) ← scanLooseZone (skipBlanks cs)
  if (skipBlanks cs).isEmpty then instantAt? year month day hour minute second nano offset
  else none

end Instant

end ContentService
