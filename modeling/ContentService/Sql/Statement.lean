import ContentService.Calendar.Writer
import ContentService.Json.Basic
import ContentService.Sql.Row

/-!
# Statements

The statements that the stores send to the database: what each means is told by its constructor, its
text and parameters by `sql` and `params`. A statement is of the type of its answers.
-/

namespace ContentService.Sql

/-- A statement. -/
inductive Statement : Type → Type
  | begin : Statement Unit
  | commit : Statement Unit
  | rollback : Statement Unit
  /-- Makes the transaction read-only and all its statements see the same committed rows. -/
  | snapshot : Statement Unit
  | selectContent (id : Uuid) : Statement (Option ContentRow)
  /-- Also locks the row until the transaction ends. -/
  | lockContent (id : Uuid) : Statement (Option ContentRow)
  | selectContents : Statement (List ContentRow)
  /-- The versions of a record, ascending by number. -/
  | selectVersionsOf (id : Uuid) : Statement (List VersionRow)
  /-- All versions, ascending by record and number. -/
  | selectVersions : Statement (List VersionRow)
  | selectSlugOwner (slug : String) : Statement (Option Uuid)
  | insertContent (row : ContentRow) : Statement Unit
  | insertVersion (row : VersionRow) : Statement Unit
  /-- Replaces the columns of a record's row that a write can change. -/
  | updateContent (row : ContentRow) : Statement Unit
  /-- Removes a record's row and its versions; gives the number of records removed. -/
  | deleteContent (id : Uuid) : Statement Nat
  | selectMedia : Statement (List MediaRow)
  | insertMedia (row : MediaRow) : Statement Unit
  /-- Removes a media record's row and gives it. -/
  | deleteMedia (id : Uuid) : Statement (Option MediaRow)

/-- The columns of `contents`. -/
def contentColumns : String :=
  "id, content_type, title, slug, body, tags, status, language, cover_image_url, meta_title, " ++
    "meta_description, meta_keywords, created_at, updated_at, created_by, updated_by"

/-- The columns of `content_versions`. -/
def versionColumns : String :=
  "content_id, version_number, title, body, cover_image_url, modified_at, modified_by"

/-- The columns of `media`. -/
def mediaColumns : String :=
  "id, file_name, blob_uri, content_type, size, uploaded_at, uploaded_by"

namespace Statement

/-- The text of a statement. -/
def sql {β : Type} : Statement β → String
  | .begin => "BEGIN"
  | .commit => "COMMIT"
  | .rollback => "ROLLBACK"
  | .snapshot => "SET TRANSACTION ISOLATION LEVEL REPEATABLE READ READ ONLY"
  | .selectContent _ => "SELECT " ++ contentColumns ++ " FROM contents WHERE id = $1"
  | .lockContent _ => "SELECT " ++ contentColumns ++ " FROM contents WHERE id = $1 FOR UPDATE"
  | .selectContents => "SELECT " ++ contentColumns ++ " FROM contents"
  | .selectVersionsOf _ =>
    "SELECT " ++ versionColumns ++
      " FROM content_versions WHERE content_id = $1 ORDER BY version_number ASC"
  | .selectVersions =>
    "SELECT " ++ versionColumns ++ " FROM content_versions ORDER BY content_id, version_number ASC"
  | .selectSlugOwner _ => "SELECT id FROM contents WHERE slug = $1"
  | .insertContent _ =>
    "INSERT INTO contents (" ++ contentColumns ++ ") VALUES ($1, $2, $3, $4, $5, $6, $7, $8, " ++
      "$9, $10, $11, $12, $13, $14, $15, $16)"
  | .insertVersion _ =>
    "INSERT INTO content_versions (" ++ versionColumns ++ ") VALUES ($1, $2, $3, $4, $5, $6, $7)"
  | .updateContent _ =>
    "UPDATE contents SET content_type = $2, title = $3, slug = $4, body = $5, tags = $6, " ++
      "status = $7, language = $8, cover_image_url = $9, meta_title = $10, " ++
      "meta_description = $11, meta_keywords = $12, updated_at = $13, updated_by = $14 " ++
      "WHERE id = $1"
  | .deleteContent _ => "DELETE FROM contents WHERE id = $1"
  | .selectMedia => "SELECT " ++ mediaColumns ++ " FROM media"
  | .insertMedia _ =>
    "INSERT INTO media (" ++ mediaColumns ++ ") VALUES ($1, $2, $3, $4, $5, $6, $7)"
  | .deleteMedia _ => "DELETE FROM media WHERE id = $1 RETURNING " ++ mediaColumns

/-- A time as a parameter. -/
def time (t : Instant) : Json :=
  .string t.stored.write

/-- An id as a parameter. -/
def uuid (id : Uuid) : Json :=
  .string id.write

/-- The parameters of a statement. -/
def params {β : Type} : Statement β → List Json
  | .begin | .commit | .rollback | .snapshot => []
  | .selectContents | .selectVersions | .selectMedia => []
  | .selectContent id | .lockContent id | .selectVersionsOf id | .deleteContent id
  | .deleteMedia id => [uuid id]
  | .selectSlugOwner slug => [.string slug]
  | .insertContent row =>
    [uuid row.id, .string row.contentType, .string row.title, .string row.slug, .string row.body,
      .texts row.tags, .string row.status, .string row.language, .ofOption row.coverImageUrl,
      .string row.metaTitle, .string row.metaDescription, .texts row.metaKeywords,
      time row.createdAt, time row.updatedAt, .string row.createdBy, .string row.updatedBy]
  | .insertVersion row =>
    [uuid row.contentId, .ofInt row.number, .string row.title, .string row.body,
      .ofOption row.coverImageUrl, time row.modifiedAt, .string row.modifiedBy]
  | .updateContent row =>
    [uuid row.id, .string row.contentType, .string row.title, .string row.slug, .string row.body,
      .texts row.tags, .string row.status, .string row.language, .ofOption row.coverImageUrl,
      .string row.metaTitle, .string row.metaDescription, .texts row.metaKeywords,
      time row.updatedAt, .string row.updatedBy]
  | .insertMedia row =>
    [uuid row.id, .string row.fileName, .string row.blobUri, .string row.contentType,
      .ofInt row.size, time row.uploadedAt, .string row.uploadedBy]

end Statement

end ContentService.Sql
