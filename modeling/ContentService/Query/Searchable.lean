import ContentService.Query.Request
import ContentService.Query.Value
import ContentService.Text.Ascii

/-!
# Searchable records

What the query engine needs to know of a kind of record: its id, its named fields and their values,
and the order in which a query without sort keys lists it.
-/

namespace ContentService.Query

/-- A kind of record that can be filtered and sorted by its fields. -/
class Searchable (Record : Type) where
  Field : Type
  /-- The fields by name, no two names alike. -/
  fields : List (String × Field)
  id : Record → Uuid
  value : Record → Field → Value
  defaultSort : List SortKey

/-- The field of a name, which may be in any ASCII case and have white space around it. -/
def Searchable.resolve? (Record : Type) [Searchable Record] (name : String) :
    Option (Searchable.Field Record) :=
  ((@Searchable.fields Record _).find? fun field =>
    Text.equalIgnoringAsciiCase field.1 (Text.trim name)).map (·.2)

end ContentService.Query
