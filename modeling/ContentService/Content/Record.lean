import ContentService.Calendar.Instant
import ContentService.Text.Ascii
import ContentService.Text.Blank
import ContentService.Uuid

/-!
# Content records

A content record is a piece of text with its address, tags and status. Title, body and cover image
are versioned: the record keeps a log of all it has had.
-/

namespace ContentService

/-- Where a record stands on its way to the readers. -/
inductive Status
  | draft
  | published
  | archived
  deriving DecidableEq, Repr

namespace Status

/-- The name of a status. -/
def name : Status → String
  | .draft => "Draft"
  | .published => "Published"
  | .archived => "Archived"

/-- The status of a name as it is written. -/
def ofName? (s : String) : Option Status :=
  ([.draft, .published, .archived] : List Status).find? (·.name == s)

/-- A text as a status name is compared: in lower case and without white space around it. -/
def fold (s : String) : String :=
  Text.asciiLower (Text.trim s)

/-- The status that a text names, in any ASCII case and with white space around it. -/
def read? (s : String) : Option Status :=
  ([.draft, .published, .archived] : List Status).find? fun status =>
    Text.asciiLower status.name == fold s

/-- What is said of a text that names no status. -/
def unknownMessage (s : String) : String :=
  "Unknown content status '" ++ fold s ++ "'"

end Status

/-- What an editor can change of a record. -/
structure Edition where
  contentType : String
  title : String
  slug : String
  body : String
  tags : List String
  status : Status
  language : String
  coverImageUrl : Option String
  metaTitle : String
  metaDescription : String
  metaKeywords : List String
  deriving DecidableEq, Repr

/-- An entry of a record's log: the versioned fields as they were written. -/
structure Version where
  number : Int
  title : String
  body : String
  coverImageUrl : Option String
  modifiedAt : Instant
  modifiedBy : String
  deriving DecidableEq, Repr

/-- Whether two versions have the same title, body and cover image. -/
def Version.sameContent (a b : Version) : Bool :=
  a.title == b.title && a.body == b.body && a.coverImageUrl == b.coverImageUrl

/-- A content record. -/
structure Content where
  id : Uuid
  live : Edition
  createdAt : Instant
  updatedAt : Instant
  createdBy : String
  updatedBy : String
  /-- The log, in the order of writing. -/
  versions : List Version
  deriving DecidableEq, Repr

namespace Content

/-- The version with the highest number; of several, the last. -/
def latestVersion? (c : Content) : Option Version :=
  c.versions.foldl
    (fun best v =>
      match best with
      | none => some v
      | some b => if b.number ≤ v.number then some v else some b)
    none

/-- The first version with a number. -/
def version? (c : Content) (number : Int) : Option Version :=
  c.versions.find? (·.number == number)

end Content

end ContentService
