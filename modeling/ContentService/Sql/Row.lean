import ContentService.Calendar.Stored
import ContentService.Content.History
import ContentService.Media.Record

/-!
# Rows

The rows of the three tables. A content record is one row of `contents` and one row of
`content_versions` for each entry of its log; the status is kept as text, which need not name one.
-/

namespace ContentService.Sql

/-- A row of `contents`. -/
structure ContentRow where
  id : Uuid
  contentType : String
  title : String
  slug : String
  body : String
  tags : List String
  status : String
  language : String
  coverImageUrl : Option String
  metaTitle : String
  metaDescription : String
  metaKeywords : List String
  createdAt : Instant
  updatedAt : Instant
  createdBy : String
  updatedBy : String
  deriving DecidableEq, Repr

/-- A row of `content_versions`. -/
structure VersionRow where
  contentId : Uuid
  number : Int
  title : String
  body : String
  coverImageUrl : Option String
  modifiedAt : Instant
  modifiedBy : String
  deriving DecidableEq, Repr

/-- A row of `media`. -/
structure MediaRow where
  id : Uuid
  fileName : String
  blobUri : String
  contentType : String
  size : Int
  uploadedAt : Instant
  uploadedBy : String
  deriving DecidableEq, Repr

/-- The row of a record, without its log. -/
def ContentRow.ofContent (c : Content) : ContentRow :=
  { id := c.id
    contentType := c.live.contentType
    title := c.live.title
    slug := c.live.slug
    body := c.live.body
    tags := c.live.tags
    status := c.live.status.name
    language := c.live.language
    coverImageUrl := c.live.coverImageUrl
    metaTitle := c.live.metaTitle
    metaDescription := c.live.metaDescription
    metaKeywords := c.live.metaKeywords
    createdAt := c.createdAt
    updatedAt := c.updatedAt
    createdBy := c.createdBy
    updatedBy := c.updatedBy }

/-- The row of a version. -/
def VersionRow.ofVersion (contentId : Uuid) (v : Version) : VersionRow :=
  { contentId := contentId
    number := v.number
    title := v.title
    body := v.body
    coverImageUrl := v.coverImageUrl
    modifiedAt := v.modifiedAt
    modifiedBy := v.modifiedBy }

/-- The version of a row. -/
def VersionRow.version (row : VersionRow) : Version :=
  { number := row.number
    title := row.title
    body := row.body
    coverImageUrl := row.coverImageUrl
    modifiedAt := row.modifiedAt
    modifiedBy := row.modifiedBy }

/-- The record of a row and a log, if the row's status names one. -/
def ContentRow.content (row : ContentRow) (versions : List Version) : Except Failure Content :=
  match Status.read? row.status with
  | none =>
    .error (.internal
      ("content " ++ row.id.write ++ " has bad status: " ++ Status.unknownMessage row.status))
  | some status =>
    .ok
      { id := row.id
        live :=
          { contentType := row.contentType
            title := row.title
            slug := row.slug
            body := row.body
            tags := row.tags
            status := status
            language := row.language
            coverImageUrl := row.coverImageUrl
            metaTitle := row.metaTitle
            metaDescription := row.metaDescription
            metaKeywords := row.metaKeywords }
        createdAt := row.createdAt
        updatedAt := row.updatedAt
        createdBy := row.createdBy
        updatedBy := row.updatedBy
        versions := versions }

/-- The row of a media record. -/
def MediaRow.ofMedia (m : Media) : MediaRow :=
  ⟨m.id, m.fileName, m.blobUri, m.contentType, m.size, m.uploadedAt, m.uploadedBy⟩

/-- The media record of a row. -/
def MediaRow.media (row : MediaRow) : Media :=
  ⟨row.id, row.fileName, row.blobUri, row.contentType, row.size, row.uploadedAt, row.uploadedBy⟩

/-- A row as the database keeps its times. -/
def ContentRow.stored (row : ContentRow) : ContentRow :=
  { row with createdAt := row.createdAt.stored, updatedAt := row.updatedAt.stored }

/-- A row as the database keeps its time. -/
def VersionRow.stored (row : VersionRow) : VersionRow :=
  { row with modifiedAt := row.modifiedAt.stored }

/-- A row as the database keeps its time. -/
def MediaRow.stored (row : MediaRow) : MediaRow :=
  { row with uploadedAt := row.uploadedAt.stored }

end ContentService.Sql
