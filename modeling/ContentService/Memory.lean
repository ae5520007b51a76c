import ContentService.Action

/-!
# Stores in memory

The surroundings of the service as plain data: records ordered by id, bytes by key, and the
announcements made so far. Every request is answered in one step, so nothing is ever half done.
Requests can be made to fail, in which case they do nothing.
-/

namespace ContentService.Memory

/-- Adds a record in the order of ids, in place of one with the same id. -/
def insertById {ρ : Type} (idOf : ρ → Uuid) (record : ρ) : List ρ → List ρ
  | [] => [record]
  | other :: rest =>
    match (idOf record).order (idOf other) with
    | .lt => record :: other :: rest
    | .eq => record :: rest
    | .gt => other :: insertById idOf record rest

/-- Whether another record than the one with the given id holds a slug. -/
def slugHeldByOther (records : List Content) (slug : String) (id : Uuid) : Bool :=
  records.any fun c => c.id ≠ id && c.live.slug == slug

/-- The slug that a change asks for, if it asks for one. -/
def slugWanted? : Change → Option String
  | .write edition _ => some edition.slug
  | .restore .. => none

/-- What the store of content records answers, and the records afterwards. -/
def answerContent {β : Type} :
    ContentRequest β → List Content → Except Failure β × List Content
  | .get id, records => (.ok (records.find? (·.id == id)), records)
  | .list, records => (.ok records, records)
  | .slugOwner slug, records => (.ok ((records.find? (·.live.slug == slug)).map (·.id)), records)
  | .insert content, records =>
    if records.any (·.live.slug == content.live.slug) then
      (.error (.slugTaken content.live.slug), records)
    else (.ok (), insertById Content.id content records)
  | .apply id change now, records =>
    match (slugWanted? change).filter (slugHeldByOther records · id) with
    | some slug => (.error (.slugTaken slug), records)
    | none =>
      match records.find? (·.id == id) with
      | none => (.error (.contentNotFound id), records)
      | some content =>
        match content.apply change now with
        | .error failure => (.error failure, records)
        | .ok (changed, _) => (.ok changed, insertById Content.id changed records)
  | .delete id, records =>
    (.ok (records.any (·.id == id)), records.filter (·.id ≠ id))

/-- What the store of media records answers, and the records afterwards. -/
def answerMedia {β : Type} : MediaRequest β → List Media → Except Failure β × List Media
  | .list, records => (.ok records, records)
  | .insert media, records => (.ok (), insertById Media.id media records)
  | .delete id, records => (.ok (records.find? (·.id == id)), records.filter (·.id ≠ id))

/-- What the store of bytes answers, and its bytes by key afterwards. -/
def answerBlob {β : Type} :
    BlobRequest β → List (String × Bytes) → Except Failure β × List (String × Bytes)
  | .put key data _, blobs =>
    (.ok ("memory://" ++ key), (key, data) :: blobs.filter (·.1 ≠ key))
  | .delete key, blobs => (.ok (), blobs.filter (·.1 ≠ key))

/-- What the requests of one call are answered with instead of being done. -/
inductive Fault
  | get
  | list
  | insert
  | apply
  /-- The owner of a slug is not found. -/
  | race
  | put
  | blobDelete
  deriving DecidableEq, Repr

/-- The surroundings of the service. -/
structure World where
  contents : List Content
  media : List Media
  blobs : List (String × Bytes)
  /-- The announcements, the latest last. -/
  announced : List Collection

/-- The surroundings before anything has happened. -/
def World.empty : World := ⟨[], [], [], []⟩

/-- The failure of a store that cannot be reached. -/
def unreachable : Failure := .database .poolTimeout

/-- How a faulty store of content records answers, if the faults concern the request. -/
def faultyContent? {β : Type} (faults : List Fault) : ContentRequest β → Option (Except Failure β)
  | .get _ => if faults.contains .get then some (.error unreachable) else none
  | .list => if faults.contains .list then some (.error unreachable) else none
  | .slugOwner _ => if faults.contains .race then some (.ok none) else none
  | .insert _ => if faults.contains .insert then some (.error unreachable) else none
  | .apply .. => if faults.contains .apply then some (.error unreachable) else none
  | .delete _ => none

/-- How a faulty store of media records answers, if the faults concern the request. -/
def faultyMedia? {β : Type} (faults : List Fault) : MediaRequest β → Option (Except Failure β)
  | .list => if faults.contains .list then some (.error unreachable) else none
  | .insert _ => if faults.contains .insert then some (.error unreachable) else none
  | .delete _ => none

/-- How a faulty store of bytes answers, if the faults concern the request. -/
def faultyBlob? {β : Type} (faults : List Fault) : BlobRequest β → Option (Except Failure β)
  | .put .. => if faults.contains .put then some (.error (.storage "put refused")) else none
  | .delete _ =>
    if faults.contains .blobDelete then some (.error (.storage "delete refused")) else none

/-- What an action is answered, and the surroundings afterwards. -/
def World.answer {β : Type} (faults : List Fault) (action : Action β) (world : World) :
    Except Failure β × World :=
  match action with
  | .content request =>
    match faultyContent? faults request with
    | some reply => (reply, world)
    | none =>
      let (reply, contents) := answerContent request world.contents
      (reply, { world with contents })
  | .media request =>
    match faultyMedia? faults request with
    | some reply => (reply, world)
    | none =>
      let (reply, media) := answerMedia request world.media
      (reply, { world with media })
  | .blob request =>
    match faultyBlob? faults request with
    | some reply => (reply, world)
    | none =>
      let (reply, blobs) := answerBlob request world.blobs
      (reply, { world with blobs })
  | .announce stale => (.ok (), { world with announced := world.announced ++ [stale] })

/-- A call on the surroundings: its result, and the surroundings afterwards. -/
def World.perform {α : Type} (faults : List Fault) (call : Call α) (world : World) :
    Except Failure α × World :=
  Program.run (World.answer faults) call world

end ContentService.Memory
