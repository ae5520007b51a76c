import ContentService.Failure
import ContentService.Query.Condition
import ContentService.Query.Sorting

/-!
# Pages

The answer to a query is one page of the records that it keeps, in its order. The whole collection
is filtered and sorted before the page is cut out. Indices and sizes are 64-bit numbers, and a page
beyond the last one is empty.
-/

namespace ContentService.Query

/-- The greatest 64-bit number. -/
def maxWord : Nat := 2 ^ 64 - 1

/-- Which page is wanted, counted from 0, and how long pages are. -/
structure PageRequest where
  index : Nat
  size : Nat
  deriving DecidableEq, Repr

/-- The length of pages unless a request says otherwise. -/
def defaultPageSize : Nat := 10

/-- What is wrong with a page request if pages may have at most `most` records. -/
def PageRequest.fault? (page : PageRequest) (most : Nat) : Option Failure :=
  if page.size = 0 then
    some (.validation (.single "pageSize" "Page size must be at least 1"))
  else if most < page.size then
    some (.validation (.single "pageSize"
      ("Page size must not exceed " ++ String.ofList (Text.writeNat most))))
  else none

/-- One page of an answer, and how the answer goes on around it. -/
structure Page (Record : Type) where
  items : List Record
  index : Nat
  size : Nat
  totalCount : Nat
  totalPages : Nat
  hasPrevious : Bool
  hasNext : Bool
  deriving Repr

variable {Record : Type} [Searchable Record]

/-- All records that a request keeps, in its order. -/
def answer (records : List Record) (request : Request) : List Record :=
  (Comparison.ofKeys request.sort).sort (records.filter (Selection.ofFilter request.filter).keeps)

/-- A page of a list of records, for pages of at least one record. -/
def pageOf (found : List Record) (page : PageRequest) : Page Record :=
  let totalPages := (found.length + page.size - 1) / page.size
  let start := min (page.index * page.size) maxWord
  { items := (found.drop start).take page.size
    index := page.index
    size := page.size
    totalCount := found.length
    totalPages := totalPages
    hasPrevious := 0 < page.index
    hasNext := min (page.index + 1) maxWord < totalPages }

/-- The page of a request's answer. -/
def execute (records : List Record) (request : Request) (page : PageRequest) :
    Except Failure (Page Record) :=
  match page.fault? maxWord with
  | some failure => .error failure
  | none => .ok (pageOf (answer records request) page)

end ContentService.Query
