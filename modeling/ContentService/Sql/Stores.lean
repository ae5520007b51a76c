import ContentService.Action
import ContentService.Sql.Statement

/-!
# Stores in the database

The stores of content and media records as programs of statements. What takes several statements is
done in a transaction, which either commits or is rolled back. A change of a record locks its row
first, so that the number of the new version is computed from the log that it is added to.
-/

namespace ContentService.Sql

/-- A course of statements that may fail. -/
abbrev Work (α : Type) := ExceptT Failure (Program Statement DatabaseFault) α

namespace Work

/-- One statement, whose fault `explain` turns into the failure of the work. -/
def executeOr {β : Type} (explain : DatabaseFault → Failure) (statement : Statement β) :
    Work β := do
  match ← ExceptT.lift (Program.attempt statement) with
  | .ok answer => return answer
  | .error fault => throw (explain fault)

/-- One statement. -/
def execute {β : Type} (statement : Statement β) : Work β :=
  executeOr .database statement

/-- The rest of a transaction whose body ends with a result: a commit if the result is worth one,
and a rollback if there is none or it fails. -/
def finish {α : Type} (commits : α → Bool) (result : Except Failure α) :
    Program Statement DatabaseFault (Except Failure α) := do
  let result ←
    match result with
    | .ok a =>
      if commits a then
        match ← Program.attempt .commit with
        | .ok () => return .ok a
        | .error fault => pure (.error (.database fault))
      else pure (.ok a)
    | .error failure => pure (.error failure)
  let _ ← Program.attempt .rollback
  return result

/-- A transaction. It commits if the body gives a result that `commits` accepts; else, and after any
fault, it is rolled back. -/
def transaction {α : Type} (commits : α → Bool) (body : Work α) : Work α :=
  show Program _ _ _ from do
    let result ← (do execute .begin; body : Work α)
    finish commits result

end Work

open Work

/-- The versions of a record. -/
def versionsOf (id : Uuid) : Work (List Version) := do
  let rows ← execute (.selectVersionsOf id)
  return rows.map VersionRow.version

/-- Adds the rows of versions, one by one. -/
def insertVersions (id : Uuid) : List Version → Work Unit
  | [] => return ()
  | v :: rest => do
    execute (.insertVersion (.ofVersion id v))
    insertVersions id rest

/-- The record with an id. -/
def getContent (id : Uuid) : Work (Option Content) := do
  let found ← transaction Option.isSome do
    execute .snapshot
    match ← execute (.selectContent id) with
    | none => return none
    | some row => return some (row, ← versionsOf id)
  match found with
  | none => return none
  | some (row, versions) => return some (← ofExcept (row.content versions))

/-- The records of rows. A record's log is what the version rows hold for its id; each version row
goes to one record. -/
def joinRows : List ContentRow → List VersionRow → Except Failure (List Content)
  | [], _ => .ok []
  | row :: rest, versions => do
    let content ← row.content ((versions.filter (·.contentId == row.id)).map VersionRow.version)
    let others ← joinRows rest (versions.filter (·.contentId != row.id))
    return content :: others

/-- All records. -/
def listContents : Work (List Content) := do
  let (rows, versions) ← transaction (fun _ => true) do
    execute .snapshot
    let rows ← execute .selectContents
    let versions ← execute .selectVersions
    return (rows, versions)
  ofExcept (joinRows rows versions)

/-- Adds a record and its log. -/
def insertContent (content : Content) : Work Unit :=
  transaction (fun _ => true) do
    executeOr (Failure.ofWrite · content.live.slug) (.insertContent (.ofContent content))
    insertVersions content.id content.versions

/-- Changes a record. -/
def applyChange (id : Uuid) (change : Change) (now : Instant) : Work Content :=
  transaction (fun _ => true) do
    match ← execute (.lockContent id) with
    | none => throw (.contentNotFound id)
    | some row =>
      let versions ← versionsOf id
      let content ← ofExcept (row.content versions)
      let (changed, appended) ← ofExcept (content.apply change now)
      execute (.insertVersion (.ofVersion id appended))
      executeOr (Failure.ofWrite · changed.live.slug)
        (.updateContent { ContentRow.ofContent changed with id := id })
      return changed

/-- The statements of a request to the store of content records. -/
def content {β : Type} : ContentRequest β → Work β
  | .get id => getContent id
  | .list => listContents
  | .slugOwner slug => execute (.selectSlugOwner slug)
  | .insert record => insertContent record
  | .apply id change now => applyChange id change now
  | .delete id => do return (← execute (.deleteContent id)) > 0

/-- The statements of a request to the store of media records. -/
def media {β : Type} : MediaRequest β → Work β
  | .list => do return (← execute .selectMedia).map MediaRow.media
  | .insert record => execute (.insertMedia (.ofMedia record))
  | .delete id => do return (← execute (.deleteMedia id)).map MediaRow.media

end ContentService.Sql
