import ContentService.Text.Order

/-!
# Field errors

What is wrong with the fields of a request: messages per field, the fields in the order of their
names and the messages of one field in the order in which they were found.
-/

namespace ContentService

/-- Messages per field, ascending by field. -/
structure FieldErrors where
  entries : List (String × List String)
  deriving DecidableEq, Repr

namespace FieldErrors

/-- No messages. -/
def empty : FieldErrors := ⟨[]⟩

/-- Adds a message to those of a field. -/
def insert (field message : String) : List (String × List String) → List (String × List String)
  | [] => [(field, [message])]
  | (other, messages) :: rest =>
    match Text.order field other with
    | .lt => (field, [message]) :: (other, messages) :: rest
    | .eq => (other, messages ++ [message]) :: rest
    | .gt => (other, messages) :: insert field message rest

/-- Adds a message behind those of its field. -/
def add (errors : FieldErrors) (field message : String) : FieldErrors :=
  ⟨insert field message errors.entries⟩

/-- One message for one field. -/
def single (field message : String) : FieldErrors :=
  empty.add field message

/-- The messages of a list, each behind those of its field. -/
def ofList (found : List (String × String)) : FieldErrors :=
  found.foldl (fun errors (field, message) => errors.add field message) empty

/-- The fields with messages, in order. -/
def fields (errors : FieldErrors) : List String :=
  errors.entries.map (·.1)

/-- The messages of a field. -/
def messages (errors : FieldErrors) (field : String) : List String :=
  (errors.entries.lookup field).getD []

/-- Whether there are no messages. -/
def isEmpty (errors : FieldErrors) : Bool :=
  errors.entries.isEmpty

end FieldErrors

end ContentService
