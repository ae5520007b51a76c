import ContentService.Proofs.Store.Quiet

/-! # Media records of both stores

What a request for media records does to them, whichever store keeps them and whatever goes wrong. A
request that fails has done nothing. Requests for content records leave the media records alone.
-/

namespace ContentService

variable {β : Type}

/-- The media records that a request may leave if it is answered so. A record that is added is kept
as it is, except that the store may keep its time less exactly. -/
def MediaRequest.Turns : MediaRequest β → Except Failure β → List Media → List Media → Prop
  | .insert media, .ok _, records, after =>
    ∃ time, after.Perm ({ media with uploadedAt := time } :: records.filter (·.id ≠ media.id))
  | .delete id, .ok removed, records, after =>
    removed = records.find? (·.id == id) ∧ after = records.filter (·.id ≠ id)
  | _, _, records, after => after = records

/-! ## In memory -/

namespace Memory.World

variable {faults : List Fault} {world : World}

theorem media_answer_content (faults : List Fault) (request : ContentRequest β) (world : World) :
    (world.answer faults (.content request)).2.media = world.media := by
  simp only [answer]
  cases faultyContent? faults request <;> rfl

/-- A request that is made to fail is answered by a failure. -/
theorem eq_error_of_faultyMedia? {request : MediaRequest β} {reply : Except Failure β}
    (faulty : faultyMedia? faults request = some reply) : reply = .error unreachable := by
  cases request with
  | delete id => cases faulty
  | list | insert =>
      obtain ⟨-, same⟩ := Option.ite_none_right_eq_some.mp faulty
      exact (Option.some.inj same).symm

theorem answerMedia_turns (faults : List Fault) (request : MediaRequest β)
    (ascending : Ascending Media.id world.media) :
    Ascending Media.id (world.answer faults (.media request)).2.media ∧
      request.Turns (world.answer faults (.media request)).1 world.media
        (world.answer faults (.media request)).2.media := by
  simp only [answer]
  cases faulty : faultyMedia? faults request with
  | some reply =>
      obtain rfl := eq_error_of_faultyMedia? faulty
      refine ⟨ascending, ?_⟩
      cases request <;> rfl
  | none =>
      cases request with
      | list => exact ⟨ascending, rfl⟩
      | insert media =>
          exact ⟨ascending.insertById media, media.uploadedAt, insertById_perm media ascending⟩
      | delete id => exact ⟨ascending.filter _, rfl, rfl⟩

end Memory.World

/-! ## In the database -/

namespace Sql

/-- A statement that leaves the rows of media records. -/
def Statement.SparesMedia : Statement β → Prop
  | .insertMedia _ | .deleteMedia _ => False
  | _ => True

/-- A session whose tables have the given rows of media records, in a transaction and outside. -/
def Session.HasMedia (rows : List MediaRow) (session : Session) : Prop :=
  session.connection.committed.media = rows ∧
    ∀ tables ∈ session.connection.working, tables.media = rows

theorem Tables.media_changedBy {statement : Statement β} (spares : statement.SparesMedia)
    (tables : Tables) : (tables.changedBy statement).media = tables.media := by
  cases statement with
  | insertMedia | deleteMedia => exact spares.elim
  | _ => rfl

namespace Session.HasMedia

variable {rows : List MediaRow} {session : Session}

theorem idle {tables : Tables} (outside : session.connection = .idle tables)
    (media : tables.media = rows) : session.HasMedia rows := by
  unfold HasMedia
  rw [outside]
  exact ⟨media, nofun⟩

theorem opened {committed working : Tables}
    (inside : session.connection = ⟨committed, some working⟩) (media : committed.media = rows)
    (worked : working.media = rows) : session.HasMedia rows := by
  unfold HasMedia
  rw [inside]
  refine ⟨media, fun tables single => ?_⟩
  cases single
  exact worked

theorem undone (has : session.HasMedia rows) (log : List LogEntry) :
    HasMedia rows { session with log, connection := session.connection.undone } :=
  .idle rfl has.1

/-- The tables that a statement sees have the rows as well. -/
theorem visible (has : session.HasMedia rows) :
    (session.connection.working.getD session.connection.committed).media = rows := by
  cases opened : session.connection.working with
  | none => exact has.1
  | some tables => exact has.2 tables opened

theorem execute (has : session.HasMedia rows) {statement : Statement β}
    (spares : statement.SparesMedia) : (session.execute statement).2.HasMedia rows := by
  have visible := has.visible
  unfold Session.execute
  cases session.faults.lookup session.log.length with
  | some fault => exact has.undone _
  | none =>
      simp only [Connection.execute]
      cases executed : (session.connection.working.getD session.connection.committed).execute
          statement with
      | error fault => exact has.undone _
      | ok reached =>
          obtain ⟨answer, after⟩ := reached
          obtain ⟨-, -, rfl⟩ := Tables.of_execute executed
          have kept := (Tables.media_changedBy spares _).trans visible
          cases statement with
          | begin => exact .opened rfl has.1 has.1
          | commit => exact .idle rfl visible
          | rollback => exact has.undone _
          | _ =>
              dsimp only
              by_cases within : session.connection.working.isSome = true
              · rw [if_pos within]
                exact .opened rfl has.1 kept
              · rw [if_neg within]
                exact .idle rfl kept

end Session.HasMedia

/-- Work that leaves the rows of media records. -/
abbrev Work.SparesMedia (work : Work β) : Prop :=
  work.Asks Statement.SparesMedia

open Work (SparesMedia)

theorem sparesMedia_transaction (commits : β → Bool) {body : Work β}
    (spares : body.SparesMedia) : SparesMedia (Work.transaction commits body) :=
  .transaction commits spares trivial trivial trivial

theorem sparesMedia_versionsOf (id : Uuid) : SparesMedia (versionsOf id) :=
  .bind (.execute trivial) fun _ => .pure _

theorem sparesMedia_insertVersions (id : Uuid) (versions : List Version) :
    SparesMedia (insertVersions id versions) := by
  induction versions with
  | nil => exact .pure ()
  | cons v rest ih => exact .bind (.execute trivial) fun _ => ih

theorem sparesMedia_getContent (id : Uuid) : SparesMedia (getContent id) := by
  refine .bind (sparesMedia_transaction _ (.bind (.execute trivial) fun _ => ?_)) fun found => ?_
  · refine .bind (.execute trivial) fun row => ?_
    cases row with
    | none => exact .pure none
    | some row => exact .bind (sparesMedia_versionsOf id) fun _ => .pure _
  · cases found with
    | none => exact .pure none
    | some pair => exact .bind (.ofExcept _) fun _ => .pure _

theorem sparesMedia_applyChange (id : Uuid) (change : Change) (now : Instant) :
    SparesMedia (applyChange id change now) := by
  refine sparesMedia_transaction _ (.bind (.execute trivial) fun row => ?_)
  cases row with
  | none => exact .throw _
  | some row =>
      refine .bind (sparesMedia_versionsOf id) fun versions => ?_
      refine .bind (.ofExcept _) fun content => .bind (.ofExcept _) fun result => ?_
      exact .bind (.execute trivial) fun _ => .bind (.executeOr trivial) fun _ => .pure _

theorem sparesMedia_content (request : ContentRequest β) : SparesMedia (content request) := by
  cases request with
  | get id => exact sparesMedia_getContent id
  | slugOwner slug => exact .execute trivial
  | apply id change now => exact sparesMedia_applyChange id change now
  | delete id => exact .bind (.execute trivial) fun _ => .pure _
  | list =>
      refine .bind (sparesMedia_transaction _ (.bind (.execute trivial) fun _ => ?_)) fun _ =>
        .ofExcept _
      exact .bind (.execute trivial) fun _ => .bind (.execute trivial) fun _ => .pure _
  | insert record =>
      refine sparesMedia_transaction _ (.bind (.executeOr trivial) fun _ => ?_)
      exact sparesMedia_insertVersions record.id record.versions

/-- A request for content records leaves the media records, whatever goes wrong. -/
theorem media_perform_content (request : ContentRequest β) (tables : Tables)
    (faults : List (Nat × DatabaseFault)) :
    ((Session.start tables faults).perform (content request)).2.connection.committed.media =
      tables.media := by
  have begins : (Session.start tables faults).HasMedia tables.media :=
    ⟨rfl, fun _ absent => nomatch absent⟩
  have kept : ((Session.start tables faults).perform (content request)).2.HasMedia tables.media :=
    (sparesMedia_content request).statements.run_keeps (fun _ spares _ has => has.execute spares)
      begins
  exact kept.1

/-- A statement for media records does to them what its answer says. -/
theorem settles_media_turns {tables : Tables} (distinct : (tables.media.map (·.id)).Nodup)
    (request : MediaRequest β) :
    (media request).Settles tables fun reply after =>
      (after.media.map (·.id)).Nodup ∧
        request.Turns reply (tables.media.map MediaRow.media) (after.media.map MediaRow.media) := by
  have refused (request : MediaRequest β) (failure : Failure) :
      request.Turns (.error failure) (tables.media.map MediaRow.media)
        (tables.media.map MediaRow.media) := by
    cases request <;> rfl
  cases request with
  | list =>
      refine Work.Settles.bind (Work.Settles.statement trivial) (fun rows after executed => ?_)
        fun failure after same => ?_
      · cases executed
        exact Work.Settles.pure ⟨distinct, rfl⟩
      · subst same
        exact ⟨distinct, refused .list failure⟩
  | insert record =>
      have works : (Statement.insertMedia (.ofMedia record)).Works := trivial
      refine (Work.Settles.statement works).imp fun reply after settled => ?_
      cases reply with
      | error failure =>
          subst settled
          exact ⟨distinct, refused (.insert record) failure⟩
      | ok =>
          obtain ⟨fits, -, rfl⟩ := Tables.of_execute settled
          have fresh : record.id ∉ tables.media.map (·.id) := Tables.mediaViolation?_eq_none fits
          constructor
          · have ids : (tables.media ++ [(MediaRow.ofMedia record).stored]).map (·.id) =
                (tables.media.map (·.id)).concat record.id := by
              rw [List.map_append, List.concat_eq_append]
              rfl
            exact ids ▸ distinct.concat fresh
          · have others : (tables.media.map MediaRow.media).filter (·.id ≠ record.id) =
                tables.media.map MediaRow.media := by
              refine List.filter_eq_self.mpr fun m member => decide_eq_true fun same => fresh ?_
              obtain ⟨row, inside, rfl⟩ := List.mem_map.mp member
              exact List.mem_map.mpr ⟨row, inside, same⟩
            refine ⟨record.uploadedAt.stored, ?_⟩
            change ((tables.media ++ [(MediaRow.ofMedia record).stored]).map MediaRow.media).Perm _
            rw [others, List.map_append]
            exact List.perm_append_singleton _ _
  | delete id =>
      refine Work.Settles.bind (Work.Settles.statement trivial) (fun row after executed => ?_)
        fun failure after same => ?_
      · cases executed
        have kept : (tables.media.filter (·.id != id)).map MediaRow.media =
            (tables.media.map MediaRow.media).filter (·.id ≠ id) := by
          rw [List.filter_map]
          refine congrArg (List.map MediaRow.media) (List.filter_congr fun row _ => ?_)
          exact Bool.eq_iff_iff.mpr (bne_iff_ne.trans decide_eq_true_iff.symm)
        refine Work.Settles.pure ⟨distinct.sublist (List.filter_sublist.map _), ?_, kept⟩
        rw [List.find?_map]
        rfl
      · subst same
        exact ⟨distinct, refused (.delete id) failure⟩

end Sql

/-! ## Both stores -/

open Sql (MediaRow)

namespace Store

/-- The media records of a store, as they are listed if nothing goes wrong. -/
def mediaListing (store : Store) : Except Failure (List Media) :=
  (store.answerMedia .none .list).1

/-- A store keeps media records, in its own way. -/
def HoldsMedia (store : Store) (records : List Media) : Prop :=
  match store with
  | .memory world => Memory.Ascending Media.id world.media ∧ world.media = records
  | .database tables =>
    (tables.media.map (·.id)).Nodup ∧ tables.media.map MediaRow.media = records

theorem holdsMedia_empty (backend : Backend) : (empty backend).HoldsMedia [] := by
  cases backend with
  | memory => exact ⟨.nil, rfl⟩
  | database => exact ⟨List.nodup_nil, rfl⟩

variable {store : Store} {records : List Media}

theorem mediaListing_eq_ok (holds : store.HoldsMedia records) :
    store.mediaListing = .ok records := by
  cases store with
  | memory world => exact congrArg Except.ok holds.2
  | database tables => exact congrArg Except.ok holds.2

/-- A request for content records leaves the media records. -/
theorem HoldsMedia.answer (holds : store.HoldsMedia records) (faults : Faults)
    (request : ContentRequest β) : (store.answer faults request).2.HoldsMedia records := by
  cases store with
  | memory world =>
      have kept := Memory.World.media_answer_content faults.memory request world
      exact ⟨kept.symm ▸ holds.1, kept.trans holds.2⟩
  | database tables =>
      have kept := Sql.media_perform_content request tables faults.database
      exact ⟨kept.symm ▸ holds.1, (congrArg (List.map MediaRow.media) kept).trans holds.2⟩

/-- **Requests for media records.** Whatever goes wrong, a request leaves a store that keeps media
records, and does to these what its answer says. -/
theorem answerMedia_turns (holds : store.HoldsMedia records) (faults : Faults)
    (request : MediaRequest β) :
    ∃ kept, (store.answerMedia faults request).2.HoldsMedia kept ∧
      request.Turns (store.answerMedia faults request).1 records kept := by
  cases store with
  | memory world =>
      obtain ⟨ascending, rfl⟩ := holds
      obtain ⟨ascends, turns⟩ := Memory.World.answerMedia_turns faults.memory request ascending
      exact ⟨_, ⟨ascends, rfl⟩, turns⟩
  | database tables =>
      obtain ⟨distinct, rfl⟩ := holds
      obtain ⟨after, ended, apart, turns⟩ := Sql.settles_media_turns distinct request
        (Sql.Session.start tables faults.database) rfl
      refine ⟨after.media.map MediaRow.media, ?_, turns⟩
      change HoldsMedia (.database (Sql.Session.perform _ _).2.connection.committed) _
      rw [ended]
      exact ⟨apart, rfl⟩

end Store

end ContentService
