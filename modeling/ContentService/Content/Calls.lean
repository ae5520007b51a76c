import ContentService.Action
import ContentService.Content.Search
import ContentService.Content.Validation
import ContentService.Query.Page

/-!
# Content calls

What the service does with content records. Submissions are checked, and slugs compared with those
in use, before anything is written; every change that succeeds is announced.
-/

namespace ContentService.Contents

/-- The record with an id. -/
def get (id : Uuid) : Call Content := do
  match ← Call.perform (.content (.get id)) with
  | some content => return content
  | none => throw (.contentNotFound id)

/-- Whether a record holds a slug. -/
def slugExists (slug : String) : Call Bool := do
  let owner ← Call.perform (.content (.slugOwner (Text.trim slug)))
  return owner.isSome

/-- The edition that a submission describes. -/
def validate (submission : Submission) : Call Edition :=
  ofExcept (submission.validate.mapError .validation)

/-- Adds a record under a fresh id. -/
def create (id : Uuid) (now : Instant) (submission : Submission) (actor : String) :
    Call Content := do
  let edition ← validate submission
  if (← Call.perform (.content (.slugOwner edition.slug))).isSome then
    throw (.slugTaken edition.slug)
  let content := Content.initial id edition actor now
  Call.perform (.content (.insert content))
  Call.announce .contents
  return content

/-- Writes a new version of a record. -/
def update (id : Uuid) (now : Instant) (submission : Submission) (actor : String) :
    Call Content := do
  let edition ← validate submission
  let _ ← get id
  match ← Call.perform (.content (.slugOwner edition.slug)) with
  | some owner => if owner ≠ id then throw (.slugTaken edition.slug)
  | none => pure ()
  let content ← Call.perform (.content (.apply id (.write edition actor) now))
  Call.announce .contents
  return content

/-- Makes an old version of a record the newest. -/
def restore (id : Uuid) (now : Instant) (number : Int) (actor : String) : Call Content := do
  let content ← Call.perform (.content (.apply id (.restore number actor) now))
  Call.announce .contents
  return content

/-- Removes a record with its log. -/
def delete (id : Uuid) : Call Unit := do
  if ← Call.perform (.content (.delete id)) then Call.announce .contents
  else throw (.contentNotFound id)

/-- The log of a record. -/
def versions (id : Uuid) : Call (List Version) := do
  let content ← get id
  return content.versions

/-- A version of a record. -/
def version (id : Uuid) (number : Int) : Call Version := do
  let content ← get id
  match content.version? number with
  | some v => return v
  | none => throw (.versionNotFound id number)

/-- A page of the records that a request asks for, for pages of at most `maxPageSize` records. -/
def query (maxPageSize : Nat) (page : Query.PageRequest) (request : Query.Request) :
    Call (Query.Page Content) := do
  match page.fault? maxPageSize with
  | some failure => throw failure
  | none =>
    let records ← Call.perform (.content .list)
    ofExcept (Query.execute records request page)

end ContentService.Contents
