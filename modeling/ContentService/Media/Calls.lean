import ContentService.Action
import ContentService.Query.Page

/-!
# Media calls

What the service does with media. The bytes of a file are stored before its record and removed after
it, so a record always has its bytes; bytes whose record could not be stored are removed again.
-/

namespace ContentService.MediaLibrary

/-- Takes in a file under a fresh id. -/
def upload (policy : UploadPolicy) (id : Uuid) (now : Instant) (file : Upload) (actor : String) :
    Call Media := do
  if let some failure := policy.refusal? file then throw failure
  let fileName := FileName.clean file.fileName
  let key := blobKey id fileName
  let uri ← Call.perform (.blob (.put key file.data (policy.typeOf file fileName)))
  let media := file.record policy id uri actor now
  match ← Call.attempt (.media (.insert media)) with
  | .ok () =>
    Call.announce .media
    return media
  | .error failure =>
    let _ ← Call.attempt (.blob (.delete key))
    throw failure

/-- Removes a media record, and its bytes if they can be removed. -/
def delete (id : Uuid) : Call Unit := do
  match ← Call.perform (.media (.delete id)) with
  | none => throw (.mediaNotFound id)
  | some media =>
    let _ ← Call.attempt (.blob (.delete media.blobKey))
    Call.announce .media

/-- A page of the records that a request asks for, for pages of at most `maxPageSize` records. -/
def query (maxPageSize : Nat) (page : Query.PageRequest) (request : Query.Request) :
    Call (Query.Page Media) := do
  match page.fault? maxPageSize with
  | some failure => throw failure
  | none =>
    let records ← Call.perform (.media .list)
    ofExcept (Query.execute records request page)

end ContentService.MediaLibrary
