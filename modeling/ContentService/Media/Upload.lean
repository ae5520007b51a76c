import ContentService.Bytes
import ContentService.Failure
import ContentService.Media.FileName
import ContentService.Media.Record

/-!
# Uploads

Which files are taken in: those with a name, with bytes but not too many, and of an image or video
type. A type that comes with the file counts; else the extension of its name tells the type.
-/

namespace ContentService

/-- A file as it comes in. -/
structure Upload where
  fileName : String
  contentType : Option String
  data : Bytes

/-- What is taken in: how many bytes at most, and which type each extension stands for. -/
structure UploadPolicy where
  maxBytes : Nat
  types : List (String × String)

/-- The types of common extensions. -/
def commonTypes : List (String × String) :=
  [("png", "image/png"), ("jpg", "image/jpeg"), ("jpeg", "image/jpeg"), ("gif", "image/gif"),
    ("webp", "image/webp"), ("bmp", "image/bmp"), ("avif", "image/avif"), ("tiff", "image/tiff"),
    ("tif", "image/tiff"), ("svg", "image/svg+xml"), ("ico", "image/x-icon"), ("mp4", "video/mp4"),
    ("webm", "video/webm"), ("mpeg", "video/mpeg"), ("mpg", "video/mpeg"),
    ("mov", "video/quicktime"), ("avi", "video/x-msvideo"), ("mkv", "video/x-matroska"),
    ("txt", "text/plain"), ("html", "text/html"), ("htm", "text/html"), ("css", "text/css"),
    ("js", "text/javascript"), ("csv", "text/csv"), ("xml", "text/xml"), ("pdf", "application/pdf"),
    ("zip", "application/zip"), ("json", "application/json"), ("mp3", "audio/mpeg"),
    ("wav", "audio/wav"), ("exe", "application/octet-stream")]

/-- The type of files of which nothing is known. -/
def unknownType : String := "application/octet-stream"

/-- The types that are taken in are the proper extensions of these. -/
def allowedTypes : List String := ["image/", "video/"]

/-- Whether files of a type are taken in. -/
def isAllowedType (contentType : String) : Bool :=
  allowedTypes.any fun start =>
    start.toList.isPrefixOf contentType.toList && start.toList.length < contentType.toList.length

namespace UploadPolicy

/-- The type that a file name tells. -/
def guess (policy : UploadPolicy) (fileName : String) : String :=
  ((FileName.extension? fileName).bind fun e => policy.types.lookup e).getD unknownType

/-- The type of a file with the given cleaned name. -/
def typeOf (policy : UploadPolicy) (upload : Upload) (fileName : String) : String :=
  let declared := Text.trim (upload.contentType.getD "")
  if declared = "" then policy.guess fileName else Text.asciiLower declared

/-- The first reason for which a file is not taken in. -/
def refusal? (policy : UploadPolicy) (upload : Upload) : Option Failure :=
  let fileName := FileName.clean upload.fileName
  let size := upload.data.length
  let contentType := policy.typeOf upload fileName
  if fileName = "" then some (.validation (.single "file" "File name is required"))
  else if size = 0 then some (.validation (.single "file" "File is empty"))
  else if policy.maxBytes < size then
    some (.payloadTooLarge ("File too large: " ++ String.ofList (Text.writeNat size) ++
      " bytes (max " ++ String.ofList (Text.writeNat policy.maxBytes) ++ " bytes)"))
  else if !isAllowedType contentType then
    some (.invalidFileType ("File type not allowed: " ++ contentType))
  else none

end UploadPolicy

/-- The record of a file whose bytes are stored. -/
def Upload.record (upload : Upload) (policy : UploadPolicy) (id : Uuid) (uri actor : String)
    (now : Instant) : Media :=
  let fileName := FileName.clean upload.fileName
  { id := id
    fileName := fileName
    blobUri := uri
    contentType := policy.typeOf upload fileName
    size := upload.data.length
    uploadedAt := now
    uploadedBy := actor }

end ContentService
