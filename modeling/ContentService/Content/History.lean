import ContentService.Content.Record
import ContentService.Failure

/-!
# History

How a record's log grows. Every write appends one version whose number is one above the highest so
far, and makes the live fields agree with it. Restoring an old version is a write of its title, body
and cover image: the log is never shortened and no entry of it ever changes. A log that has the
greatest number there is does not grow any more.
-/

namespace ContentService

/-- A change of an existing record. -/
inductive Change
  | write (edition : Edition) (actor : String)
  | restore (number : Int) (actor : String)
  deriving DecidableEq, Repr

/-- The version that an edition becomes. -/
def Edition.version (e : Edition) (number : Int) (actor : String) (now : Instant) : Version :=
  { number := number
    title := e.title
    body := e.body
    coverImageUrl := e.coverImageUrl
    modifiedAt := now
    modifiedBy := actor }

/-- One above the highest number of a log, or 1 if the log is empty. -/
def nextNumber (versions : List Version) : Int :=
  (versions.map (·.number)).max?.getD 0 + 1

/-- The number of the next version. Numbers have 32 bits and a sign, so there is none above the
greatest of them. -/
def nextNumber? (versions : List Version) : Option Int :=
  if nextNumber versions < 2 ^ 31 then some (nextNumber versions) else none

namespace Content

/-- A new record, whose log holds version 1. -/
def initial (id : Uuid) (edition : Edition) (actor : String) (now : Instant) : Content :=
  { id := id
    live := edition
    createdAt := now
    updatedAt := now
    createdBy := actor
    updatedBy := actor
    versions := [edition.version 1 actor now] }

/-- The version that a write appends, if there is a number for it. -/
def written (c : Content) (edition : Edition) (actor : String) (now : Instant) : Version :=
  edition.version (nextNumber c.versions) actor now

/-- A record after a write. -/
def write (c : Content) (edition : Edition) (actor : String) (now : Instant) : Content :=
  { c with
    live := edition
    updatedAt := now
    updatedBy := actor
    versions := c.versions ++ [c.written edition actor now] }

/-- The live fields with title, body and cover image of a version. -/
def restored (c : Content) (v : Version) : Edition :=
  { c.live with title := v.title, body := v.body, coverImageUrl := v.coverImageUrl }

/-- The edition that a change asks for; an unknown version cannot be restored. -/
def wanted (c : Content) (change : Change) : Except Failure Edition :=
  match change with
  | .write edition _ => .ok edition
  | .restore number _ =>
    match c.version? number with
    | some v => .ok (c.restored v)
    | none => .error (.versionNotFound c.id number)

/-- The edition that a change writes. Nothing is written if there is no number for its version. -/
def editionOf (c : Content) (change : Change) : Except Failure Edition :=
  match c.wanted change, nextNumber? c.versions with
  | .error failure, _ => .error failure
  | .ok _, none => .error .overflow
  | .ok edition, some _ => .ok edition

/-- A record after a change, and the version that the change appended. -/
def apply (c : Content) (change : Change) (now : Instant) : Except Failure (Content × Version) :=
  let actor :=
    match change with
    | .write _ actor => actor
    | .restore _ actor => actor
  (c.editionOf change).map fun edition =>
    (c.write edition actor now, c.written edition actor now)

end Content

end ContentService
