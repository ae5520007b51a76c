import ContentService.Calendar.Instant
import ContentService.Query.Searchable

/-!
# Media records

What is kept of an uploaded file besides its bytes. A media record never changes; without sort keys
the latest upload comes first.
-/

namespace ContentService

/-- A media record. -/
structure Media where
  id : Uuid
  fileName : String
  blobUri : String
  contentType : String
  size : Int
  uploadedAt : Instant
  uploadedBy : String
  deriving DecidableEq, Repr

/-- The key under which the bytes of a file are stored. -/
def blobKey (id : Uuid) (fileName : String) : String :=
  "media/" ++ id.write ++ "/" ++ fileName

/-- The key under which the bytes of a record's file are stored. -/
def Media.blobKey (m : Media) : String :=
  ContentService.blobKey m.id m.fileName

/-- The searchable fields of a media record. -/
inductive MediaField
  | id
  | fileName
  | blobUri
  | contentType
  | size
  | uploadedAt
  | uploadedBy
  deriving DecidableEq, Repr

/-- The value of a field; sizes are compared as floating-point numbers. -/
def Media.value (m : Media) : MediaField → Query.Value
  | .id => .uuid m.id
  | .fileName => .text m.fileName
  | .blobUri => .text m.blobUri
  | .contentType => .text m.contentType
  | .size => .number (.ofInt m.size)
  | .uploadedAt => .date m.uploadedAt
  | .uploadedBy => .text m.uploadedBy

/-- The names of the fields. -/
def mediaFields : List (String × MediaField) :=
  [("id", .id), ("fileName", .fileName), ("blobUri", .blobUri), ("contentType", .contentType),
    ("size", .size), ("uploadedAt", .uploadedAt), ("uploadedBy", .uploadedBy)]

instance : Query.Searchable Media where
  Field := MediaField
  fields := mediaFields
  id := Media.id
  value := Media.value
  defaultSort := [⟨"uploadedAt", .descending⟩]

end ContentService
