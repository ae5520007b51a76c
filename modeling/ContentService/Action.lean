import ContentService.Content.History
import ContentService.Media.Upload
import ContentService.Program

/-!
# Actions

What a call of the service asks of its surroundings: the store of content records, the store of
media records, the store of the files' bytes, and the announcement of what has changed. Each action
is one step: it is done as a whole or not at all.
-/

namespace ContentService

/-- The queries that a change makes stale. -/
inductive Collection
  | contents
  | media
  deriving DecidableEq, Repr

/-- The name of a collection. -/
def Collection.name : Collection → String
  | .contents => "Contents"
  | .media => "Media"

/-- A request to the store of content records. -/
inductive ContentRequest : Type → Type
  | get (id : Uuid) : ContentRequest (Option Content)
  /-- All records, in no particular order. -/
  | list : ContentRequest (List Content)
  /-- The record that holds a slug. -/
  | slugOwner (slug : String) : ContentRequest (Option Uuid)
  /-- Adds a record; fails if its slug is taken. -/
  | insert (content : Content) : ContentRequest Unit
  /-- Changes a record and gives what it has become; fails if its new slug is taken. -/
  | apply (id : Uuid) (change : Change) (now : Instant) : ContentRequest Content
  /-- Removes a record; tells whether it was there. -/
  | delete (id : Uuid) : ContentRequest Bool

/-- A request to the store of media records. -/
inductive MediaRequest : Type → Type
  | list : MediaRequest (List Media)
  | insert (media : Media) : MediaRequest Unit
  /-- Removes a record and gives it, if it was there. -/
  | delete (id : Uuid) : MediaRequest (Option Media)

/-- A request to the store of the files' bytes. -/
inductive BlobRequest : Type → Type
  /-- Stores bytes and gives their address. -/
  | put (key : String) (data : Bytes) (contentType : String) : BlobRequest String
  | delete (key : String) : BlobRequest Unit

/-- What a call may ask of its surroundings. -/
inductive Action : Type → Type 1
  | content {β : Type} (request : ContentRequest β) : Action β
  | media {β : Type} (request : MediaRequest β) : Action β
  | blob {β : Type} (request : BlobRequest β) : Action β
  | announce (stale : Collection) : Action Unit

/-- A call that may fail. -/
abbrev Call (α : Type) := ExceptT Failure (Program Action Failure) α

namespace Call

/-- One action, whose failure is the call's. -/
def perform {α : Type} (action : Action α) : Call α :=
  Program.attempt action

/-- One action, whose failure does not end the call. -/
def attempt {α : Type} (action : Action α) : Call (Except Failure α) :=
  ExceptT.lift (Program.attempt action)

/-- Announces what has changed. The change is made, so a failure of this is nobody's. -/
def announce (stale : Collection) : Call Unit := do
  let _ ← attempt (.announce stale)
  return ()

end Call

end ContentService
