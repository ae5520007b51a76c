import ContentService.Program
import ContentService.Sql.Statement

/-!
# The database

The three tables with their constraints, and one connection to them. Rows are kept in the order in
which they were added. Inside a transaction statements work on a copy of the tables, which replaces
them when the transaction commits; a statement that is refused undoes its transaction.
-/

namespace ContentService.Sql

/-- The rows of the tables. -/
structure Tables where
  contents : List ContentRow
  versions : List VersionRow
  media : List MediaRow
  deriving DecidableEq, Repr

namespace Tables

/-- Tables without rows. -/
def empty : Tables := ⟨[], [], []⟩

/-- A violated constraint. -/
def violation (code constraint : String) : DatabaseFault :=
  .refused (some code) (some constraint)

/-- The constraint that a new row of `contents` violates. -/
def contentViolation? (tables : Tables) (row : ContentRow) : Option DatabaseFault :=
  if tables.contents.any (·.id == row.id) then some (violation uniqueViolation "contents_pkey")
  else if tables.contents.any (·.slug == row.slug) then
    some (violation uniqueViolation slugConstraint)
  else none

/-- The constraint that a new row of `content_versions` violates. -/
def versionViolation? (tables : Tables) (row : VersionRow) : Option DatabaseFault :=
  if row.number < 1 then some (violation "23514" "content_versions_version_number_check")
  else if tables.versions.any fun v => v.contentId == row.contentId && v.number == row.number then
    some (violation uniqueViolation "content_versions_pkey")
  else if !tables.contents.any (·.id == row.contentId) then
    some (violation "23503" "content_versions_content_id_fkey")
  else none

/-- The constraint that a new row of `media` violates. -/
def mediaViolation? (tables : Tables) (row : MediaRow) : Option DatabaseFault :=
  if row.size < 0 then some (violation "23514" "media_size_check")
  else if tables.media.any (·.id == row.id) then some (violation uniqueViolation "media_pkey")
  else none

/-- The constraint that a changed row of `contents` violates. -/
def updateViolation? (tables : Tables) (row : ContentRow) : Option DatabaseFault :=
  if tables.contents.any fun r => r.id == row.id then
    if tables.contents.any fun r => r.id != row.id && r.slug == row.slug then
      some (violation uniqueViolation slugConstraint)
    else none
  else none

/-- The order of version rows. -/
def versionOrder (a b : VersionRow) : Ordering :=
  (a.contentId.order b.contentId).then (compare a.number b.number)

/-- Version rows in order. -/
def sortVersions (rows : List VersionRow) : List VersionRow :=
  rows.mergeSort fun a b => (versionOrder a b).isLE

/-- A row after an update: what a write cannot change stays. -/
def updated (new old : ContentRow) : ContentRow :=
  { new with createdAt := old.createdAt, createdBy := old.createdBy }

/-- What a statement answers outside the bookkeeping of transactions, and the tables afterwards. -/
def execute {β : Type} (tables : Tables) : Statement β → Except DatabaseFault (β × Tables)
  | .begin | .commit | .rollback | .snapshot => .ok ((), tables)
  | .selectContent id | .lockContent id => .ok (tables.contents.find? (·.id == id), tables)
  | .selectContents => .ok (tables.contents, tables)
  | .selectVersionsOf id => .ok (sortVersions (tables.versions.filter (·.contentId == id)), tables)
  | .selectVersions => .ok (sortVersions tables.versions, tables)
  | .selectSlugOwner slug => .ok ((tables.contents.find? (·.slug == slug)).map (·.id), tables)
  | .insertContent row =>
    match tables.contentViolation? row with
    | some fault => .error fault
    | none => .ok ((), { tables with contents := tables.contents ++ [row.stored] })
  | .insertVersion row =>
    match tables.versionViolation? row with
    | some fault => .error fault
    | none => .ok ((), { tables with versions := tables.versions ++ [row.stored] })
  | .updateContent row =>
    match tables.updateViolation? row with
    | some fault => .error fault
    | none =>
      .ok ((), { tables with
        contents := tables.contents.map fun r =>
          if r.id == row.id then updated row.stored r else r })
  | .deleteContent id =>
    .ok ((tables.contents.filter (·.id == id)).length,
      { tables with
        contents := tables.contents.filter (·.id != id)
        versions := tables.versions.filter (·.contentId != id) })
  | .selectMedia => .ok (tables.media, tables)
  | .insertMedia row =>
    match tables.mediaViolation? row with
    | some fault => .error fault
    | none => .ok ((), { tables with media := tables.media ++ [row.stored] })
  | .deleteMedia id =>
    .ok (tables.media.find? (·.id == id), { tables with media := tables.media.filter (·.id != id) })

end Tables

/-- A connection: the committed tables, and those of the transaction that is open, if one is. -/
structure Connection where
  committed : Tables
  working : Option Tables
  deriving DecidableEq, Repr

namespace Connection

/-- A connection outside any transaction. -/
def idle (tables : Tables) : Connection := ⟨tables, none⟩

/-- The connection after a refused statement. -/
def undone (connection : Connection) : Connection :=
  idle connection.committed

/-- What a statement answers, and the connection afterwards. -/
def execute {β : Type} (statement : Statement β) (connection : Connection) :
    Except DatabaseFault β × Connection :=
  let visible := connection.working.getD connection.committed
  match visible.execute statement with
  | .error fault => (.error fault, connection.undone)
  | .ok (answer, tables) =>
    let after : Connection :=
      match statement with
      | .begin => ⟨connection.committed, some connection.committed⟩
      | .commit => idle visible
      | .rollback => connection.undone
      | _ => if connection.working.isSome then ⟨connection.committed, some tables⟩ else idle tables
    (.ok answer, after)

end Connection

/-- A statement as the log shows it. -/
structure LogEntry where
  sql : String
  params : List Json

/-- A connection whose statements are logged and can be made to fail by their place in the log. -/
structure Session where
  connection : Connection
  /-- The statements so far, the latest last. -/
  log : List LogEntry
  /-- The faults of statements by their place, counted from 0. -/
  faults : List (Nat × DatabaseFault)

namespace Session

/-- A session that has executed nothing yet. -/
def start (tables : Tables) (faults : List (Nat × DatabaseFault)) : Session :=
  ⟨.idle tables, [], faults⟩

/-- What a statement answers, and the session afterwards. -/
def execute {β : Type} (statement : Statement β) (session : Session) :
    Except DatabaseFault β × Session :=
  let log := session.log ++ [⟨statement.sql, statement.params⟩]
  match session.faults.lookup session.log.length with
  | some fault => (.error fault, { session with log, connection := session.connection.undone })
  | none =>
    let (answer, connection) := session.connection.execute statement
    (answer, { session with log, connection })

/-- Work on a session: its result, and the session afterwards. -/
def perform {α : Type} (work : ExceptT Failure (Program Statement DatabaseFault) α)
    (session : Session) : Except Failure α × Session :=
  Program.run execute work session

end Session

end ContentService.Sql
