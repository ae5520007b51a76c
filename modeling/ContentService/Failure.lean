import ContentService.FieldErrors
import ContentService.Json.Basic
import ContentService.Uuid

/-!
# Failures

Why a call does not succeed, as the caller and the log see it. Faults of the database, of the blob
store and of the service itself are reported to the outside without their details. An overflow is
not reported at all: the work on the call stops where it occurs, as if by a fault of the service.
-/

namespace ContentService

/-- Why the database does not answer. -/
inductive DatabaseFault
  /-- The statement was refused, with an error code and perhaps the name of the constraint that it
  violates. -/
  | refused (code constraint : Option String)
  /-- No connection was free in time. -/
  | poolTimeout
  deriving DecidableEq, Repr

/-- The constraint that keeps slugs apart. -/
def slugConstraint : String := "uq_contents_slug"

/-- The error code of a violated uniqueness constraint. -/
def uniqueViolation : String := "23505"

/-- Why a call does not succeed. -/
inductive Failure
  | validation (errors : FieldErrors)
  | notFound (message : String)
  | conflict (message : String)
  | invalidFileType (message : String)
  | payloadTooLarge (message : String)
  | badRequest (message : String)
  | database (fault : DatabaseFault)
  | storage (message : String)
  | internal (message : String)
  /-- A sum does not fit the type of its numbers. Whoever computes it panics: what is under way is
  undone, and the caller gets no reply. -/
  | overflow
  deriving DecidableEq, Repr

namespace Failure

/-- There is no content record with this id. -/
def contentNotFound (id : Uuid) : Failure :=
  .notFound ("Content " ++ id.write ++ " not found")

/-- A content record has no version with this number. -/
def versionNotFound (id : Uuid) (number : Int) : Failure :=
  .notFound
    ("Version " ++ String.ofList (Text.writeInt number) ++ " of content " ++ id.write ++
      " not found")

/-- There is no media record with this id. -/
def mediaNotFound (id : Uuid) : Failure :=
  .notFound ("Media " ++ id.write ++ " not found")

/-- Another record holds the slug. -/
def slugTaken (slug : String) : Failure :=
  .conflict ("Slug '" ++ slug ++ "' is already in use")

/-- A refused write of a content record: if it was refused for its slug, the slug is taken. -/
def ofWrite (fault : DatabaseFault) (slug : String) : Failure :=
  match fault with
  | .refused (some code) (some constraint) =>
    if code = uniqueViolation ∧ constraint = slugConstraint then slugTaken slug
    else .database fault
  | _ => .database fault

/-- The failure that field errors amount to, unless there are none. -/
def ofFieldErrors? (errors : FieldErrors) : Option Failure :=
  if errors.isEmpty then none else some (.validation errors)

/-- The name of a kind of failure. -/
def kind : Failure → String
  | .validation _ => "Validation"
  | .notFound _ => "NotFound"
  | .conflict _ => "Conflict"
  | .invalidFileType _ => "InvalidFileType"
  | .payloadTooLarge _ => "PayloadTooLarge"
  | .badRequest _ => "BadRequest"
  | .database _ => "Database"
  | .storage _ => "Storage"
  | .internal _ => "Internal"
  | .overflow => "panic"

/-- What the log says of a failure; the database words its refusals itself, and nothing is said of a
panic. -/
def logLine? : Failure → Option String
  | .validation errors =>
    some ("Validation error: invalid fields: " ++ String.intercalate ", " errors.fields)
  | .notFound message => some ("Not found: " ++ message)
  | .conflict message => some ("Conflict: " ++ message)
  | .invalidFileType message => some ("Invalid file type: " ++ message)
  | .payloadTooLarge message => some ("Payload too large: " ++ message)
  | .badRequest message => some ("Bad request: " ++ message)
  | .database .poolTimeout =>
    some "Database error: pool timed out while waiting for an open connection"
  | .database (.refused ..) => none
  | .storage message => some ("Storage error: " ++ message)
  | .internal message => some ("Internal server error: " ++ message)
  | .overflow => none

/-- The status, the code and the message of the response, if there is one. -/
def report? : Failure → Option (Nat × String × String)
  | .validation _ => some (400, "VALIDATION_ERROR", "One or more fields are invalid")
  | .notFound message => some (404, "NOT_FOUND", message)
  | .conflict message => some (409, "CONFLICT", message)
  | .invalidFileType message => some (415, "INVALID_FILE_TYPE", message)
  | .payloadTooLarge message => some (413, "PAYLOAD_TOO_LARGE", message)
  | .badRequest message => some (400, "BAD_REQUEST", message)
  | .database _ => some (500, "DATABASE_ERROR", "A database error occurred")
  | .storage _ => some (500, "STORAGE_ERROR", "A storage error occurred")
  | .internal _ => some (500, "INTERNAL_ERROR", "An internal server error occurred")
  | .overflow => none

/-- Field errors as an object of lists. -/
def fieldsJson (errors : FieldErrors) : Json :=
  .record (errors.entries.map fun (field, messages) => (field, .texts messages))

/-- The body of the response, given its code and message. -/
def body (failure : Failure) (code message : String) : Json :=
  let fields :=
    match failure with
    | .validation errors => [("fields", fieldsJson errors)]
    | _ => []
  .record [("error", .record ([("code", .string code), ("message", .string message)] ++ fields))]

end Failure

end ContentService
