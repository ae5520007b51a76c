import ContentService.Failure
import ContentService.Program

/-!
# Migrations

At start-up the database is brought up to date: each script that it has not seen is run once, in a
transaction that also records it. A database whose records do not fit the scripts is left alone.
-/

namespace ContentService.Sql

/-- A script that changes the schema. -/
structure Migration where
  version : Nat
  description : String
  script : String
  deriving DecidableEq, Repr

/-- A migration as the database has recorded it. -/
structure Applied where
  version : Nat
  description : Option String
  successful : Bool
  /-- The script that was run. -/
  script : String
  deriving DecidableEq, Repr

/-- The script that creates the tables. -/
def createTables : String :=
  "CREATE TABLE IF NOT EXISTS contents (
    id               UUID PRIMARY KEY,
    content_type     TEXT        NOT NULL,
    title            TEXT        NOT NULL,
    slug             TEXT        NOT NULL,
    body             TEXT        NOT NULL DEFAULT '',
    tags             TEXT[]      NOT NULL DEFAULT '\x7b\x7d',
    status           TEXT        NOT NULL CHECK (status IN ('Draft', 'Published', 'Archived')),
    language         TEXT        NOT NULL,
    cover_image_url  TEXT,
    meta_title       TEXT        NOT NULL DEFAULT '',
    meta_description TEXT        NOT NULL DEFAULT '',
    meta_keywords    TEXT[]      NOT NULL DEFAULT '\x7b\x7d',
    created_at       TIMESTAMPTZ NOT NULL,
    updated_at       TIMESTAMPTZ NOT NULL,
    created_by       TEXT        NOT NULL,
    updated_by       TEXT        NOT NULL,
    CONSTRAINT uq_contents_slug UNIQUE (slug)
);

-- Append-only: rows are inserted, never updated. Removed only with their content.
CREATE TABLE IF NOT EXISTS content_versions (
    content_id      UUID        NOT NULL REFERENCES contents (id) ON DELETE CASCADE,
    version_number  INTEGER     NOT NULL CHECK (version_number >= 1),
    title           TEXT        NOT NULL,
    body            TEXT        NOT NULL,
    cover_image_url TEXT,
    modified_at     TIMESTAMPTZ NOT NULL,
    modified_by     TEXT        NOT NULL,
    PRIMARY KEY (content_id, version_number)
);

CREATE TABLE IF NOT EXISTS media (
    id           UUID PRIMARY KEY,
    file_name    TEXT        NOT NULL,
    blob_uri     TEXT        NOT NULL,
    content_type TEXT        NOT NULL,
    size         BIGINT      NOT NULL CHECK (size >= 0),
    uploaded_at  TIMESTAMPTZ NOT NULL,
    uploaded_by  TEXT        NOT NULL
);

CREATE INDEX IF NOT EXISTS idx_contents_updated_at ON contents (updated_at DESC);
CREATE INDEX IF NOT EXISTS idx_media_uploaded_at ON media (uploaded_at DESC);"

/-- The migrations of the service, ascending. -/
def migrations : List Migration :=
  [⟨20240101000000, "cms", createTables⟩]

/-- A statement of the start-up. -/
inductive StartupStatement : Type → Type
  | currentDatabase : StartupStatement Unit
  | lock : StartupStatement Unit
  | unlock : StartupStatement Unit
  | createRecords : StartupStatement Unit
  /-- A recorded migration that was not successful, if there is one. -/
  | selectUnsuccessful : StartupStatement (Option Nat)
  | selectApplied : StartupStatement (List Applied)
  | begin : StartupStatement Unit
  | run (migration : Migration) : StartupStatement Unit
  | record (migration : Migration) : StartupStatement Unit
  | commit : StartupStatement Unit
  | recordDuration (migration : Migration) : StartupStatement Unit

/-- Why the service does not start. -/
inductive StartupFault
  /-- The database cannot be reached. -/
  | connect
  | migration
  deriving DecidableEq, Repr

/-- The wording of a fault; that of an unreachable database is the database's own. -/
def StartupFault.message? : StartupFault → Option String
  | .connect => none
  | .migration => some "Failed to run database migrations"

/-- A course of start-up statements that may fail. -/
abbrev Startup (α : Type) := ExceptT StartupFault (Program StartupStatement DatabaseFault) α

namespace Startup

/-- One statement. -/
def execute {β : Type} (statement : StartupStatement β) : Startup β := do
  match ← ExceptT.lift (Program.attempt statement) with
  | .ok answer => return answer
  | .error _ => throw .migration

/-- Runs a migration and records it. -/
def apply (migration : Migration) : Startup Unit := do
  execute .begin
  execute (.run migration)
  execute (.record migration)
  execute .commit
  execute (.recordDuration migration)

/-- Runs those of the migrations that are not recorded; a recorded one must have had the same
script. -/
def applyAll (applied : List Applied) : List Migration → Startup Unit
  | [] => return ()
  | migration :: rest => do
    match applied.find? (·.version == migration.version) with
    | some record => if record.script ≠ migration.script then throw .migration
    | none => apply migration
    applyAll applied rest

/-- Brings the database up to date. -/
def migrate (known : List Migration) : Startup Unit := do
  execute .currentDatabase
  execute .lock
  execute .createRecords
  if (← execute .selectUnsuccessful).isSome then throw .migration
  let applied ← execute .selectApplied
  if applied.any fun record => !known.any (·.version == record.version) then throw .migration
  applyAll applied known
  execute .currentDatabase
  execute .unlock

end Startup

/-- A database at start-up: the records of migrations, committed and as the open transaction sees
them, and the scripts that were sent. -/
structure StartupSession where
  applied : List Applied
  working : Option (List Applied)
  scripts : List String
  /-- How many statements were sent. -/
  count : Nat
  /-- The places of the statements that fail, counted from 0. -/
  faults : List (Nat × DatabaseFault)

namespace StartupSession

/-- A session that has executed nothing yet. -/
def start (applied : List Applied) (faults : List (Nat × DatabaseFault)) : StartupSession :=
  ⟨applied, none, [], 0, faults⟩

/-- What a statement answers, and the session afterwards, if nothing goes wrong. -/
def succeed {β : Type} (statement : StartupStatement β) (session : StartupSession) :
    β × StartupSession :=
  match statement with
  | .currentDatabase | .lock | .unlock | .createRecords | .run _ | .recordDuration _ =>
    ((), session)
  | .selectUnsuccessful => ((session.applied.find? (!·.successful)).map (·.version), session)
  | .selectApplied => (session.applied, session)
  | .begin => ((), { session with working := some session.applied })
  | .record m =>
    let recorded : Applied := ⟨m.version, some m.description, true, m.script⟩
    ((), { session with working := some (session.working.getD session.applied ++ [recorded]) })
  | .commit =>
    ((), { session with applied := session.working.getD session.applied, working := none })

/-- What a statement answers, and the session afterwards. -/
def execute {β : Type} (statement : StartupStatement β) (session : StartupSession) :
    Except DatabaseFault β × StartupSession :=
  let fault? := session.faults.lookup session.count
  let session := { session with count := session.count + 1 }
  let session :=
    match statement with
    | .run m => { session with scripts := session.scripts ++ [m.script] }
    | _ => session
  match fault? with
  | some fault => (.error fault, { session with working := none })
  | none =>
    let (answer, session) := session.succeed statement
    (.ok answer, session)

end StartupSession

/-- Starts the service on a database, if it can be reached: whether it starts, the recorded
migrations afterwards, and the scripts that were sent. -/
def start (reachable : Bool) (applied : List Applied) (faults : List (Nat × DatabaseFault)) :
    Except StartupFault Unit × List Applied × List String :=
  if reachable then
    let (result, session) :=
      Program.run StartupSession.execute (Startup.migrate migrations)
        (StartupSession.start applied faults)
    (result, session.applied, session.scripts)
  else (.error .connect, applied, [])

end ContentService.Sql
