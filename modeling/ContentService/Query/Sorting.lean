import ContentService.Query.Searchable

/-!
# Sorting

The order that a list of sort keys describes. Each key breaks the ties of those before it, and
records that tie on all keys are ordered by id, so two records with different ids never tie.
-/

namespace ContentService.Query

variable {Record : Type} [Searchable Record]

/-- The fields to compare and their directions, in order of weight. -/
abbrev Comparison (Record : Type) [Searchable Record] :=
  List (Searchable.Field Record × Direction)

namespace Comparison

/-- The comparison that sort keys describe: those of unknown fields are dropped, and no keys at all
mean the default order. -/
def ofKeys (keys : List SortKey) : Comparison Record :=
  let keys := if keys.isEmpty then Searchable.defaultSort Record else keys
  keys.filterMap fun key =>
    (Searchable.resolve? Record key.field).map fun field => (field, key.direction)

/-- An order as seen in a direction. -/
def directed (direction : Direction) (order : Ordering) : Ordering :=
  match direction with
  | .ascending => order
  | .descending => order.swap

/-- The order of two records. -/
def order : Comparison Record → Record → Record → Ordering
  | [], a, b => (Searchable.id a).order (Searchable.id b)
  | (field, direction) :: rest, a, b =>
    (directed direction ((Searchable.value a field).order (Searchable.value b field))).then
      (order rest a b)

/-- The records in order. -/
def sort (comparison : Comparison Record) (records : List Record) : List Record :=
  records.mergeSort fun a b => (comparison.order a b).isLE

end Comparison

end ContentService.Query
