import ContentService.Json.Decode
import ContentService.Query.Page

/-!
# Queries as Json

How requests, page requests and pages are written as Json, and how requests are read.
-/

namespace ContentService.Query

open Json

/-- A filter's members. -/
def Filter.schema : Schema Filter :=
  Schema.pure Filter.mk
    |>.and (.required "field" Decode.text)
    |>.and (.required "operator" (Decode.name fun name => some (Operator.ofName name)))
    |>.and (.required "value" Decode.text)
    |>.and (.required "logic" (Decode.name fun name => some (Logic.ofName name)))
    |>.and (.defaulted "isCaseSensitive" false Decode.bool)

/-- A sort key's members. -/
def SortKey.schema : Schema SortKey :=
  Schema.pure SortKey.mk
    |>.and (.required "field" Decode.text)
    |>.and (.defaulted "dir" .ascending (Decode.name Direction.ofName?))

/-- A request's members. -/
def Request.schema : Schema Request :=
  Schema.pure Request.mk
    |>.and (.omissible "filter" (Decode.record Filter.schema))
    |>.and (.defaulted "sort" [] (Decode.listOf (Decode.record SortKey.schema)))

/-- A page request's members. -/
def PageRequest.schema : Schema PageRequest :=
  Schema.pure PageRequest.mk
    |>.and (.defaulted "pageIndex" 0 Decode.natural)
    |>.and (.defaulted "pageSize" defaultPageSize Decode.natural)

/-- Decodes a request. -/
def Request.decode : Decoder Request :=
  Decode.record Request.schema

/-- Decodes a page request. -/
def PageRequest.decode : Decoder PageRequest :=
  Decode.record PageRequest.schema

/-- A filter as Json. -/
def Filter.encode (filter : Filter) : Json :=
  .record
    [("field", .string filter.field),
      ("operator", .string filter.operator.name),
      ("value", .string filter.value),
      ("logic", .string filter.logic.name),
      ("isCaseSensitive", .bool filter.caseSensitive)]

/-- A sort key as Json. -/
def SortKey.encode (key : SortKey) : Json :=
  .record [("field", .string key.field), ("dir", .string key.direction.name)]

/-- A request as Json. -/
def Request.encode (request : Request) : Json :=
  .record
    [("filter", match request.filter with
        | some filter => filter.encode
        | none => .null),
      ("sort", .list (request.sort.map SortKey.encode))]

/-- A page request as Json. -/
def PageRequest.encode (page : PageRequest) : Json :=
  .record [("pageIndex", .ofNat page.index), ("pageSize", .ofNat page.size)]

/-- A page as Json, given how its records are written. -/
def Page.encode (encodeRecord : Record → Json) (page : Page Record) : Json :=
  .record
    [("items", .list (page.items.map encodeRecord)),
      ("pageIndex", .ofNat page.index),
      ("pageSize", .ofNat page.size),
      ("totalCount", .ofNat page.totalCount),
      ("totalPages", .ofNat page.totalPages),
      ("hasPreviousPage", .bool page.hasPrevious),
      ("hasNextPage", .bool page.hasNext)]

end ContentService.Query
