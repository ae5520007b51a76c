/-!
# Query requests

What a query asks for: at most one filter, and sort keys in order of weight.
-/

namespace ContentService.Query

/-- How a filter compares a record's value with its own. -/
inductive Operator
  | contains
  | eq
  | neq
  | startsWith
  | endsWith
  | gt
  | gte
  | lt
  | lte
  /-- Any other operator; it matches nothing. -/
  | unsupported
  deriving DecidableEq, Repr

/-- The name of an operator. -/
def Operator.name : Operator → String
  | .contains => "contains"
  | .eq => "eq"
  | .neq => "neq"
  | .startsWith => "startsWith"
  | .endsWith => "endsWith"
  | .gt => "gt"
  | .gte => "gte"
  | .lt => "lt"
  | .lte => "lte"
  | .unsupported => "unsupported"

/-- The operator of a name. -/
def Operator.ofName (name : String) : Operator :=
  ([.contains, .eq, .neq, .startsWith, .endsWith, .gt, .gte, .lt, .lte] : List Operator).find?
    (·.name == name) |>.getD .unsupported

/-- What a filter reads its value and the records' values as. -/
inductive Logic
  | string
  | number
  | date
  /-- Any other logic; it matches nothing. -/
  | unsupported
  deriving DecidableEq, Repr

/-- The name of a logic. -/
def Logic.name : Logic → String
  | .string => "string"
  | .number => "number"
  | .date => "date"
  | .unsupported => "unsupported"

/-- The logic of a name. -/
def Logic.ofName (name : String) : Logic :=
  ([.string, .number, .date] : List Logic).find? (·.name == name) |>.getD .unsupported

/-- A condition on one field. -/
structure Filter where
  field : String
  operator : Operator
  value : String
  logic : Logic
  caseSensitive : Bool
  deriving DecidableEq, Repr

/-- The direction of a sort key. -/
inductive Direction
  | ascending
  | descending
  deriving DecidableEq, Repr

/-- The name of a direction. -/
def Direction.name : Direction → String
  | .ascending => "asc"
  | .descending => "desc"

/-- The direction of a name. -/
def Direction.ofName? (name : String) : Option Direction :=
  ([.ascending, .descending] : List Direction).find? (·.name == name)

/-- A field to sort by. -/
structure SortKey where
  field : String
  direction : Direction
  deriving DecidableEq, Repr

/-- A query: what to keep and how to order it. -/
structure Request where
  filter : Option Filter
  sort : List SortKey
  deriving DecidableEq, Repr

/-- The request that keeps everything in the default order. -/
def Request.everything : Request :=
  ⟨none, []⟩

end ContentService.Query
