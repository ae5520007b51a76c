import ContentService.Calendar.Reader
import ContentService.Calendar.Writer
import ContentService.Content.Validation
import ContentService.Json.Decode

/-!
# Content as Json

How records, versions and submissions are written as Json and read.
-/

namespace ContentService

open Json

/-- Decodes an id. -/
def Uuid.decode : Decoder Uuid :=
  Decode.textual Uuid.read?

/-- Decodes a time. -/
def Instant.decode : Decoder Instant :=
  Decode.textual fun s => Instant.readLoose? s.toList

/-- Decodes the number of a version. -/
def Version.decodeNumber : Decoder Int :=
  Decode.integer (-2 ^ 31) (2 ^ 31 - 1)

/-- A version's members. -/
def Version.schema : Schema Version :=
  Schema.pure Version.mk
    |>.and (.required "versionNumber" Version.decodeNumber)
    |>.and (.required "title" Decode.text)
    |>.and (.required "body" Decode.text)
    |>.and (.optional "coverImageUrl" Decode.text)
    |>.and (.required "modifiedAt" Instant.decode)
    |>.and (.required "modifiedBy" Decode.text)

/-- Decodes a version. -/
def Version.decode : Decoder Version :=
  Decode.record Version.schema

/-- A version as Json. -/
def Version.encode (v : Version) : Json :=
  .record
    [("versionNumber", .ofInt v.number),
      ("title", .string v.title),
      ("body", .string v.body),
      ("coverImageUrl", .ofOption v.coverImageUrl),
      ("modifiedAt", .string v.modifiedAt.write),
      ("modifiedBy", .string v.modifiedBy)]

/-- A record's members, given how its status is read. -/
def Content.schemaWith (status : Decoder σ) (make : Uuid → (Status → Edition) → σ → Instant →
    Instant → String → String → List Version → α) : Schema α :=
  Schema.pure
      (fun id contentType title slug body tags status language coverImageUrl metaTitle
          metaDescription metaKeywords createdAt updatedAt createdBy updatedBy versions =>
        make id
          (fun status => ⟨contentType, title, slug, body, tags, status, language, coverImageUrl,
            metaTitle, metaDescription, metaKeywords⟩)
          status createdAt updatedAt createdBy updatedBy versions)
    |>.and (.required "id" Uuid.decode)
    |>.and (.required "contentType" Decode.text)
    |>.and (.required "title" Decode.text)
    |>.and (.required "slug" Decode.text)
    |>.and (.required "body" Decode.text)
    |>.and (.required "tags" (Decode.listOf Decode.text))
    |>.and (.required "status" status)
    |>.and (.required "language" Decode.text)
    |>.and (.optional "coverImageUrl" Decode.text)
    |>.and (.required "metaTitle" Decode.text)
    |>.and (.required "metaDescription" Decode.text)
    |>.and (.required "metaKeywords" (Decode.listOf Decode.text))
    |>.and (.required "createdAt" Instant.decode)
    |>.and (.required "updatedAt" Instant.decode)
    |>.and (.required "createdBy" Decode.text)
    |>.and (.required "updatedBy" Decode.text)
    |>.and (.required "versions" (Decode.listOf Version.decode))

/-- A record's members. -/
def Content.schema : Schema Content :=
  Content.schemaWith (Decode.name Status.ofName?)
    fun id edition status createdAt updatedAt createdBy updatedBy versions =>
      ⟨id, edition status, createdAt, updatedAt, createdBy, updatedBy, versions⟩

/-- Decodes a record. -/
def Content.decode : Decoder Content :=
  Decode.record Content.schema

/-- The members of an edition, with a text for its status. -/
def Edition.membersWith (e : Edition) (status : String) : List (String × Json) :=
  [("contentType", .string e.contentType),
    ("title", .string e.title),
    ("slug", .string e.slug),
    ("body", .string e.body),
    ("tags", .texts e.tags),
    ("status", .string status),
    ("language", .string e.language),
    ("coverImageUrl", .ofOption e.coverImageUrl),
    ("metaTitle", .string e.metaTitle),
    ("metaDescription", .string e.metaDescription),
    ("metaKeywords", .texts e.metaKeywords)]

/-- An edition as Json. -/
def Edition.encode (e : Edition) : Json :=
  .record (e.membersWith e.status.name)

/-- A record as Json. -/
def Content.encode (c : Content) : Json :=
  .record
    ([("id", .string c.id.write)] ++ c.live.membersWith c.live.status.name ++
      [("createdAt", .string c.createdAt.write),
        ("updatedAt", .string c.updatedAt.write),
        ("createdBy", .string c.createdBy),
        ("updatedBy", .string c.updatedBy),
        ("versions", .list (c.versions.map Version.encode))])

/-- A submission's members. -/
def Submission.schema : Schema Submission :=
  Schema.pure Submission.mk
    |>.and (.omissible "contentType" Decode.text)
    |>.and (.omissible "title" Decode.text)
    |>.and (.omissible "slug" Decode.text)
    |>.and (.omissible "body" Decode.text)
    |>.and (.omissible "tags" (Decode.listOf Decode.text))
    |>.and (.omissible "status" Decode.text)
    |>.and (.omissible "language" Decode.text)
    |>.and (.omissible "coverImageUrl" Decode.text)
    |>.and (.omissible "metaTitle" Decode.text)
    |>.and (.omissible "metaDescription" Decode.text)
    |>.and (.omissible "metaKeywords" (Decode.listOf Decode.text))

/-- Decodes a submission. -/
def Submission.decode : Decoder Submission :=
  Decode.record Submission.schema

/-- A submission as Json, with null for what is missing. -/
def Submission.encode (s : Submission) : Json :=
  let list (values : Option (List String)) : Json :=
    match values with
    | some values => .texts values
    | none => .null
  .record
    [("contentType", .ofOption s.contentType),
      ("title", .ofOption s.title),
      ("slug", .ofOption s.slug),
      ("body", .ofOption s.body),
      ("tags", list s.tags),
      ("status", .ofOption s.status),
      ("language", .ofOption s.language),
      ("coverImageUrl", .ofOption s.coverImageUrl),
      ("metaTitle", .ofOption s.metaTitle),
      ("metaDescription", .ofOption s.metaDescription),
      ("metaKeywords", list s.metaKeywords)]

end ContentService
