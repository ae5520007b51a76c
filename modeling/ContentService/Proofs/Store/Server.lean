import ContentService.Proofs.Store.Keeping
import Mathlib.Logic.Function.Basic

/-! # Concurrent clients of the database

Any number of clients send the statements of their requests to one database, interleaved statement
by statement. What one transaction writes is seen by others once it is committed. A transaction sees
what is committed when its statement runs, or else one committed state throughout, and always its
own writes. A row that it locks stays locked until it ends, and others that want it wait. A
statement may fail at any time, for a constraint that it violates or for any other reason; at the
commit constraints are checked in any case.
-/

namespace ContentService.Sql

/-! ## Transactions -/

/-- A statement, whatever its answers. -/
structure Sent where
  {Result : Type}
  statement : Statement Result

/-- The row of a version that a statement adds. -/
def Sent.added? : Sent → Option VersionRow
  | ⟨.insertVersion row⟩ => some row
  | _ => none

/-- The record that a statement removes if it is there. -/
def Sent.removed? : Sent → Option Uuid
  | ⟨.deleteContent id⟩ => some id
  | _ => none

/-- The rows of versions that statements add. -/
def addedVersions (statements : List Sent) : List VersionRow :=
  statements.filterMap Sent.added?

/-- The records that statements remove. -/
def removedRecords (statements : List Sent) : List Uuid :=
  statements.filterMap Sent.removed?

/-- The tables as statements leave them one after another. -/
def Tables.changedByAll (tables : Tables) (statements : List Sent) : Tables :=
  statements.foldl (fun tables sent => tables.changedBy sent.statement) tables

/-- What a transaction sees of the others. -/
inductive Sight
  /-- All that is committed when the statement runs. -/
  | latest
  /-- One committed state, which the next statement decides on. -/
  | undecided
  | fixed (tables : Tables)

structure Transaction where
  sight : Sight
  /-- The statements so far, the latest last. -/
  statements : List Sent

def Transaction.fresh : Transaction := ⟨.latest, []⟩

/-- A transaction that has committed, and the tables that it has left. -/
structure Commit where
  statements : List Sent
  tables : Tables

/-- The tables after all commits, the latest of which comes first. -/
def committed : List Commit → Tables
  | [] => .empty
  | commit :: _ => commit.tables

/-- The commit of a transaction adds what it has written to all that is committed by then. The rows
that it has changed have been locked since, so its statements do at the commit what they did when
they were executed. -/
def Transaction.commit (transaction : Transaction) (history : List Commit) : Commit :=
  ⟨transaction.statements, (committed history).changedByAll transaction.statements⟩

namespace Sight

/-- A transaction that is to see one committed state decides on one. -/
def decided (place : Nat) (history : List Commit) : Sight → Sight
  | .undecided => .fixed (committed (history.drop place))
  | sight => sight

/-- The committed tables that are seen. -/
def tables (history : List Commit) : Sight → Tables
  | .fixed tables => tables
  | .latest | .undecided => committed history

end Sight

/-- The record whose row a statement locks if it is there. -/
def Statement.locks? {β : Type} : Statement β → Option Uuid
  | .lockContent id | .deleteContent id => some id
  | .updateContent row => some row.id
  | _ => none

/-- How a statement fares. -/
structure Fate where
  /-- What the client is told instead of an answer. -/
  fault : Option DatabaseFault
  /-- The fault comes after the statement has been executed, and only its answer is lost. -/
  late : Bool
  /-- Which committed state is decided on, counted back from the latest. -/
  place : Nat
  /-- How the rows stand. -/
  arrangement : Arrangement

/-- The statement is executed, though its answer may be lost. -/
def Fate.executes (fate : Fate) : Bool :=
  fate.fault.isNone || fate.late

instance (tables : Tables) : Decidable tables.Lawful :=
  decidable_of_iff
    ((tables.contents.map (·.id)).Nodup ∧ (tables.contents.map (·.slug)).Nodup ∧
      (tables.versions.map VersionRow.key).Nodup ∧ (∀ row ∈ tables.versions, 1 ≤ row.number) ∧
      (∀ row ∈ tables.versions, ∃ r ∈ tables.contents, r.id = row.contentId) ∧
      (tables.media.map (·.id)).Nodup)
    ⟨fun ⟨ids, slugs, keys, numbers, owned, mediaIds⟩ =>
        ⟨ids, slugs, keys, numbers, owned, mediaIds⟩,
      fun ⟨ids, slugs, keys, numbers, owned, mediaIds⟩ =>
        ⟨ids, slugs, keys, numbers, owned, mediaIds⟩⟩

/-! ## One client -/

/-- The database as one client has it before it: all commits, its open transaction, and the rows
that it has locked. -/
structure Scene where
  history : List Commit
  transaction : Option Transaction
  held : List Uuid

namespace Scene

variable {β : Type}

/-- Without a transaction and locks. -/
def idle (history : List Commit) : Scene := ⟨history, none, []⟩

/-- The scene after the transaction has been undone. -/
def ended (scene : Scene) : Scene := idle scene.history

/-- What a statement sees within a transaction. -/
def view (fate : Fate) (transaction : Transaction) (scene : Scene) : Tables :=
  ((transaction.sight.decided fate.place scene.history).tables scene.history).changedByAll
    transaction.statements

/-- A statement within a transaction: its answer, and the scene afterwards. -/
def work (fate : Fate) (transaction : Transaction) (statement : Statement β) (scene : Scene) :
    β × Scene :=
  let tables := fate.arrangement.arrange (scene.view fate transaction)
  let sight := transaction.sight.decided fate.place scene.history
  let locked := statement.locks?.toList.filter fun id => tables.contents.any (·.id == id)
  (tables.answer statement,
    { scene with
      transaction := some ⟨sight, transaction.statements ++ [⟨statement⟩]⟩
      held := locked ++ scene.held })

/-- The open transaction is committed, unless that violates a constraint. -/
def commit (scene : Scene) : Except DatabaseFault Unit × Scene :=
  match scene.transaction with
  | none => (.ok (), scene)
  | some transaction =>
    let commit := transaction.commit scene.history
    if commit.tables.Lawful then (.ok (), idle (commit :: scene.history))
    else (.error (.refused none none), scene.ended)

/-- What a statement is answered if nothing else goes wrong, and the scene afterwards. A statement
outside transactions is one by itself. -/
def perform (fate : Fate) (statement : Statement β) (scene : Scene) :
    Except DatabaseFault β × Scene :=
  match statement with
  | .begin => (.ok (), { scene with transaction := some (scene.transaction.getD .fresh) })
  | .commit => scene.commit
  | .rollback => (.ok (), scene.ended)
  | .snapshot =>
    (.ok (), { scene with
      transaction := scene.transaction.map fun transaction =>
        { transaction with sight := .undecided } })
  | statement =>
    match scene.transaction with
    | some transaction =>
      let (answer, scene) := scene.work fate transaction statement
      (.ok answer, scene)
    | none =>
      let (answer, scene) := scene.work fate .fresh statement
      (scene.commit.1.map fun _ => answer, scene.commit.2)

/-- What a statement is answered, and the scene afterwards. A fault ends the transaction. -/
def execute (fate : Fate) (statement : Statement β) (scene : Scene) :
    Except DatabaseFault β × Scene :=
  match fate.fault with
  | none => scene.perform fate statement
  | some fault =>
    (.error fault, if fate.late then (scene.perform fate statement).2.ended else scene.ended)

end Scene

end Sql

/-- A request that adds no record but a versioned one, for whose versions there are numbers. -/
def ContentRequest.InsertsVersioned {β : Type} : ContentRequest β → Prop
  | .insert content => content.Versioned ∧ content.versions.length < 2 ^ 31
  | _ => True

namespace Sql

/-! ## All clients -/

/-- A request under way, and what is left of its statements. -/
structure Errand where
  {Result : Type}
  request : ContentRequest Result
  rest : Program Statement DatabaseFault (Except Failure Result)

/-- The database with its clients. -/
structure Server (Client : Type) where
  history : List Commit
  locks : List (Client × Uuid)
  transactions : Client → Option Transaction
  errands : Client → Option Errand

/-- What can happen next. -/
inductive Event (Client : Type) : Type 1
  | start {β : Type} (client : Client) (request : ContentRequest β)
    (proper : request.InsertsVersioned)
  /-- A client's next statement, unless that has to wait for a lock. -/
  | proceed (client : Client) (fate : Fate)
  /-- A client goes, and its transaction is undone if it is still open. -/
  | leave (client : Client)

namespace Server

variable {Client : Type} [DecidableEq Client]

/-- The database before anything has happened. -/
def initial : Server Client := ⟨[], [], fun _ => none, fun _ => none⟩

/-- The rows that a client has locked. -/
def held (server : Server Client) (client : Client) : List Uuid :=
  (server.locks.filter (·.1 = client)).map (·.2)

/-- The database as a client has it before it. -/
def scene (server : Server Client) (client : Client) : Scene :=
  ⟨server.history, server.transactions client, server.held client⟩

/-- The database after a client's scene has changed. -/
def put (server : Server Client) (client : Client) (scene : Scene) : Server Client :=
  { server with
    history := scene.history
    locks := scene.held.map (client, ·) ++ server.locks.filter (·.1 ≠ client)
    transactions := Function.update server.transactions client scene.transaction }

/-- The database after a client has taken up a request, has got further with it, or is done. -/
def setErrand (server : Server Client) (client : Client) (errand : Option Errand) :
    Server Client :=
  { server with errands := Function.update server.errands client errand }

/-- Another client has locked the row that a statement is about to lock. -/
def waits {β : Type} (server : Server Client) (client : Client) (statement : Statement β) : Bool :=
  server.locks.any fun (holder, id) => holder ≠ client && statement.locks? == some id

/-- The database after a client's next statement. -/
def proceed (server : Server Client) (client : Client) (fate : Fate) (errand : Errand) :
    Server Client :=
  match errand.rest with
  | .done _ => server
  | .ask statement next =>
    if fate.executes && server.waits client statement then server
    else
      let (reply, scene) := (server.scene client).execute fate statement
      (server.put client scene).setErrand client (some ⟨errand.request, next reply⟩)

/-- The database after an event. A client takes up one request at a time, on a connection without a
transaction. -/
def after (server : Server Client) : Event Client → Server Client
  | .start client request _ =>
    match server.errands client with
    | some _ => server
    | none =>
      (server.put client (.idle server.history)).setErrand client
        (some ⟨request, content request⟩)
  | .proceed client fate =>
    match server.errands client with
    | some errand => server.proceed client fate errand
    | none => server
  | .leave client => (server.put client (server.scene client).ended).setErrand client none

/-- The database that events lead to. -/
def run (events : List (Event Client)) : Server Client :=
  events.foldl after initial

end Server

end Sql

end ContentService
