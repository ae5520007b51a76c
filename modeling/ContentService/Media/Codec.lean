import ContentService.Content.Codec
import ContentService.Media.Record

/-!
# Media as Json

How media records are written as Json and read.
-/

namespace ContentService

open Json

/-- A media record's members. -/
def Media.schema : Schema Media :=
  Schema.pure Media.mk
    |>.and (.required "id" Uuid.decode)
    |>.and (.required "fileName" Decode.text)
    |>.and (.required "blobUri" Decode.text)
    |>.and (.required "contentType" Decode.text)
    |>.and (.required "size" (Decode.integer (-2 ^ 63) (2 ^ 63 - 1)))
    |>.and (.required "uploadedAt" Instant.decode)
    |>.and (.required "uploadedBy" Decode.text)

/-- Decodes a media record. -/
def Media.decode : Decoder Media :=
  Decode.record Media.schema

/-- A media record as Json. -/
def Media.encode (m : Media) : Json :=
  .record
    [("id", .string m.id.write),
      ("fileName", .string m.fileName),
      ("blobUri", .string m.blobUri),
      ("contentType", .string m.contentType),
      ("size", .ofInt m.size),
      ("uploadedAt", .string m.uploadedAt.write),
      ("uploadedBy", .string m.uploadedBy)]

end ContentService
