import ContentService.Binary64.Reader
import ContentService.Binary64.Shortest
import ContentService.Calendar.Reader
import ContentService.Calendar.Writer
import ContentService.Text.Lowercase
import ContentService.Text.Order
import ContentService.Uuid

/-!
# Field values

What a record holds in one of its fields, how such values read as text, number or time, and the
order in which a sorted query lists them.
-/

namespace ContentService.Query

/-- A value of a record's field. -/
inductive Value
  /-- A field without a value. -/
  | null
  | text (s : String)
  | number (x : Binary64)
  | date (t : Instant)
  | uuid (id : Uuid)
  | list (items : List String)
  deriving DecidableEq, Repr

namespace Value

/-- The value as one text; a list has a text for each element instead. -/
def toText? : Value → Option String
  | .null | .list _ => none
  | .text s => some s
  | .number x => some x.write
  | .date t => some t.write
  | .uuid id => some id.write

/-- The value as a number, reading texts as decimal numbers. -/
def toNumber? : Value → Option Binary64
  | .number x => some x
  | .text s => Binary64.readTrimmed? s
  | _ => none

/-- The value as a time, reading texts as RFC 3339. -/
def toInstant? : Value → Option Instant
  | .date t => some t
  | .text s => Instant.readStrict? (Text.trimChars s.toList)
  | _ => none

/-- The place of a value's kind among the kinds, absent values first. -/
def kindRank : Value → Nat
  | .null => 0
  | .number _ => 1
  | .date _ => 2
  | .uuid _ => 3
  | .text _ => 4
  | .list _ => 5

end Value

/-- Texts in the order of their lower-case forms; of equal ones, in the order of code points. -/
def textOrder (a b : String) : Ordering :=
  (Text.order (Text.lowercase a) (Text.lowercase b)).then (Text.order a b)

/-- Lists of texts element by element; a proper beginning of a list comes before it. -/
def listOrder : List String → List String → Ordering
  | [], [] => .eq
  | [], _ :: _ => .lt
  | _ :: _, [] => .gt
  | a :: as, b :: bs => (textOrder a b).then (listOrder as bs)

/-- The order of values. Values of different kinds are ordered by their kinds. -/
def Value.order : Value → Value → Ordering
  | .number x, .number y => x.totalOrder y
  | .date s, .date t => s.order t
  | .uuid a, .uuid b => a.order b
  | .text a, .text b => textOrder a b
  | .list as, .list bs => listOrder as bs
  | a, b => compare a.kindRank b.kindRank

end ContentService.Query
