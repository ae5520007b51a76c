import ContentService.Calendar.Reader
import ContentService.Query.Request

/-!
# Spans of time

The instant or calendar period that a filter's value names. A period contains its beginning and not
its end.
-/

namespace ContentService.Query

/-- An instant, or a period from `start` up to but not including `stop`. -/
inductive Span
  | instant (t : Instant)
  | period (start stop : Instant)
  deriving DecidableEq, Repr

namespace Span

open Text

/-- The period from the beginning of one day to the beginning of another. -/
def days (first afterLast : Date) : Span :=
  .period (.startOfDay first) (.startOfDay afterLast)

/-- The year that a text of four characters names. -/
def readYear? (cs : List Char) : Option Int :=
  if (String.ofList cs).utf8ByteSize = 4 then (readSigned (-2 ^ 31) (2 ^ 31 - 1) cs).toOption
  else none

/-- The month that a text of two characters names. -/
def readMonth? (cs : List Char) : Option Nat :=
  if (String.ofList cs).utf8ByteSize = 2 then (readUnsigned (2 ^ 32 - 1) cs).toOption else none

/-- The year, or the year and month joined by a hyphen, that fill a text. -/
def readCalendar? (cs : List Char) : Option Span := do
  let year ← readYear? (cs.takeWhile (· ≠ '-'))
  match cs.dropWhile (· ≠ '-') with
  | [] => some (days (← Date.ofNumbers? year 1 1) (← Date.ofNumbers? (year + 1) 1 1))
  | _ :: rest =>
    if rest.contains '-' then none
    else
      let month ← readMonth? rest
      some (days (← Date.ofNumbers? year month 1) (← Date.startOfNextMonth? year month))

/-- Reads RFC 3339, or a date and a time without a zone, or a day. -/
def readMoment? (cs : List Char) : Option Span :=
  ((Instant.readStrict? cs).map .instant).or
    (((Instant.readZoneless? (scanChar 'T') cs).map .instant).or
      ((Instant.readZoneless? (fun rest => some (skipBlanks rest)) cs).map .instant))

/-- Reads the instant, day, month or year that a text names, with white space around it. -/
def read? (s : String) : Option Span :=
  let cs := trimChars s.toList
  match readMoment? cs with
  | some span => some span
  | none =>
    match Date.read? cs with
    | some day => day.next?.map (days day)
    | none => readCalendar? cs

/-- Whether an instant lies in the span. -/
def contains (span : Span) (t : Instant) : Bool :=
  match span with
  | .instant i => t.order i == .eq
  | .period start stop => (start.order t).isLE && t.before stop

/-- Whether an instant lies before the whole span. -/
def isAfter (span : Span) (t : Instant) : Bool :=
  match span with
  | .instant i => t.before i
  | .period start _ => t.before start

/-- Whether an instant lies behind the whole span. -/
def isBefore (span : Span) (t : Instant) : Bool :=
  match span with
  | .instant i => i.before t
  | .period _ stop => (stop.order t).isLE

/-- Whether an instant stands to the span as the operator says. -/
def test (span : Span) (operator : Operator) (t : Instant) : Bool :=
  match operator with
  | .eq | .contains | .startsWith => span.contains t
  | .neq => !span.contains t
  | .gt => span.isBefore t
  | .gte => !span.isAfter t
  | .lt => span.isAfter t
  | .lte => !span.isBefore t
  | .endsWith | .unsupported => false

end Span

end ContentService.Query
