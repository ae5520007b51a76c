import ContentService.Query.Searchable
import ContentService.Query.Span

/-!
# Conditions

A filter is compiled once into what it keeps: everything, nothing, or the records whose value in one
field meets a condition. A filter that cannot be understood keeps nothing.
-/

namespace ContentService.Query

/-- A test of one value. -/
inductive Condition
  /-- Compares texts; the needle is in lower case unless case matters. -/
  | text (operator : Operator) (needle : String) (caseSensitive : Bool)
  | number (operator : Operator) (wanted : Binary64)
  | date (operator : Operator) (span : Span)
  deriving DecidableEq, Repr

/-- Whether a text stands to the needle as the operator says. -/
def testText (operator : Operator) (needle : String) (caseSensitive : Bool) (s : String) : Bool :=
  let haystack := if caseSensitive then s else Text.lowercase s
  match operator with
  | .contains => Text.contains haystack needle
  | .eq => haystack == needle
  | .neq => haystack != needle
  | .startsWith => Text.startsWith haystack needle
  | .endsWith => Text.endsWith haystack needle
  | .gt => Text.order haystack needle == .gt
  | .gte => Text.order haystack needle != .lt
  | .lt => Text.order haystack needle == .lt
  | .lte => Text.order haystack needle != .gt
  | .unsupported => false

/-- Whether a number stands to the wanted one as the operator says. Numbers contain what they equal.
-/
def testNumber (operator : Operator) (wanted actual : Binary64) : Bool :=
  match operator with
  | .contains | .eq => actual.equal wanted
  | .neq => !actual.equal wanted
  | .gt => wanted.lt actual
  | .gte => wanted.lt actual || actual.equal wanted
  | .lt => actual.lt wanted
  | .lte => actual.lt wanted || actual.equal wanted
  | .startsWith | .endsWith | .unsupported => false

namespace Condition

/-- The condition that a filter sets, if its value can be read. -/
def ofFilter? (filter : Filter) : Option Condition :=
  match filter.logic with
  | .string =>
    let needle := if filter.caseSensitive then filter.value else Text.lowercase filter.value
    some (.text filter.operator needle filter.caseSensitive)
  | .number =>
    match Binary64.readTrimmed? filter.value with
    | some wanted => if wanted.isFinite then some (.number filter.operator wanted) else none
    | none => none
  | .date => (Span.read? filter.value).map (.date filter.operator)
  | .unsupported => none

/-- Whether a value meets the condition. An absent value meets none; a list meets a text condition
if one of its elements does, and differs from a text if none equals it. -/
def test : Condition → Value → Bool
  | _, .null => false
  | .text operator needle caseSensitive, .list items =>
    if operator = .neq then !items.any (testText .eq needle caseSensitive)
    else items.any (testText operator needle caseSensitive)
  | .text operator needle caseSensitive, value =>
    value.toText?.any (testText operator needle caseSensitive)
  | .number operator wanted, value => value.toNumber?.any (testNumber operator wanted)
  | .date operator span, value => value.toInstant?.any (span.test operator)

end Condition

/-- What a query keeps of a collection. -/
inductive Selection (Record : Type) [Searchable Record]
  | everything
  | nothing
  | meeting (field : Searchable.Field Record) (condition : Condition)

namespace Selection

variable {Record : Type} [Searchable Record]

/-- What a filter keeps. -/
def ofFilter (filter : Option Filter) : Selection Record :=
  match filter with
  | none => .everything
  | some filter =>
    match Searchable.resolve? Record filter.field with
    | none => .nothing
    | some field =>
      if filter.operator = .unsupported then .nothing
      else
        match Condition.ofFilter? filter with
        | some condition => .meeting field condition
        | none => .nothing

/-- Whether a record is kept. -/
def keeps (selection : Selection Record) (record : Record) : Bool :=
  match selection with
  | .everything => true
  | .nothing => false
  | .meeting field condition => condition.test (Searchable.value record field)

end Selection

end ContentService.Query
