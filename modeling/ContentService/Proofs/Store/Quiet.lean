import ContentService.Proofs.Store.Backend

/-! # Requests that change nothing

A request leaves a store exactly as it was if it only reads, if it is refused, whatever the reason,
and if it finds nothing to remove. A request for media records leaves the content records alone.
-/

namespace ContentService

/-- The answer tells that nothing was changed. -/
def ContentRequest.Quiet {β : Type} : ContentRequest β → Except Failure β → Prop
  | .insert _, .ok _ | .apply .., .ok _ => False
  | .delete _, .ok removed => removed = false
  | _, _ => True

/-- The answer tells that nothing was changed. -/
def MediaRequest.Quiet {β : Type} : MediaRequest β → Except Failure β → Prop
  | .insert _, .ok _ => False
  | .delete _, .ok removed => removed = none
  | _, _ => True

variable {β : Type}

/-! ## In memory -/

namespace Memory

theorem filter_eq_self_of_any_eq_false {ρ : Type} {idOf : ρ → Uuid} {id : Uuid} {records : List ρ}
    (absent : records.any (fun r => idOf r == id) = false) :
    records.filter (fun r => idOf r ≠ id) = records := by
  refine List.filter_eq_self.mpr fun r member => decide_eq_true fun same => ?_
  exact List.any_eq_false.mp absent r member (beq_iff_eq.mpr same)

theorem answerContent_of_quiet {request : ContentRequest β} {records : List Content}
    (quiet : request.Quiet (answerContent request records).1) :
    (answerContent request records).2 = records := by
  cases request with
  | get | list | slugOwner => rfl
  | insert content =>
      by_cases taken : (records.any (·.live.slug == content.live.slug)) = true
      · simp only [answerContent, taken, if_true]
      · simp only [answerContent, taken] at quiet
        exact quiet.elim
  | apply id change now =>
      obtain ⟨failure, refused⟩ | ⟨-, old, -, -, edition, -, done⟩ :=
        answerContent_apply id change now records
      · rw [refused]
      · rw [done] at quiet
        exact quiet.elim
  | delete id => exact filter_eq_self_of_any_eq_false quiet

theorem answerMedia_of_quiet {request : MediaRequest β} {records : List Media}
    (quiet : request.Quiet (answerMedia request records).1) :
    (answerMedia request records).2 = records := by
  cases request with
  | list => rfl
  | insert media => exact quiet.elim
  | delete id =>
      refine filter_eq_self_of_any_eq_false ?_
      exact List.any_eq_false.mpr (List.find?_eq_none.mp quiet)

variable {faults : List Fault} {world : World}

theorem World.answer_content_of_quiet {request : ContentRequest β}
    (quiet : request.Quiet (world.answer faults (.content request)).1) :
    (world.answer faults (.content request)).2 = world := by
  simp only [World.answer] at quiet ⊢
  cases faulty : faultyContent? faults request with
  | some reply => rfl
  | none =>
      rw [faulty] at quiet
      exact congrArg (fun contents => { world with contents }) (answerContent_of_quiet quiet)

theorem World.answer_media_of_quiet {request : MediaRequest β}
    (quiet : request.Quiet (world.answer faults (.media request)).1) :
    (world.answer faults (.media request)).2 = world := by
  simp only [World.answer] at quiet ⊢
  cases faulty : faultyMedia? faults request with
  | some reply => rfl
  | none =>
      rw [faulty] at quiet
      exact congrArg (fun media => { world with media }) (answerMedia_of_quiet quiet)

theorem World.contents_answer_media (faults : List Fault) (request : MediaRequest β)
    (world : World) : (world.answer faults (.media request)).2.contents = world.contents := by
  simp only [World.answer]
  cases faultyMedia? faults request <;> rfl

end Memory

/-! ## In the database -/

namespace Sql

open Work

/-- The statements that add rows of versions lead on, whatever they lead to. -/
theorem leads_insertVersions (id : Uuid) (versions : List Version) (working : Tables) :
    (insertVersions id versions).Leads working fun _ _ => True := by
  induction versions generalizing working with
  | nil => exact Leads.pure trivial
  | cons v rest ih =>
      refine Leads.bind (Leads.statement trivial) fun _ after _ => ?_
      exact ih after

theorem settles_insertContent_error (content : Content) (tables : Tables) :
    (insertContent content).Settles tables fun reply after =>
      ∀ failure, reply = .error failure → after = tables := by
  refine (Settles.transaction (fun _ _ => True) ?_).imp fun reply after settled failure same => ?_
  · refine Leads.bind (Leads.statement trivial) fun _ after _ => ?_
    exact leads_insertVersions _ _ after
  · subst same
    exact settled

theorem settles_applyChange_error (id : Uuid) (change : Change) (now : Instant) (tables : Tables) :
    (applyChange id change now).Settles tables fun reply after =>
      ∀ failure, reply = .error failure → after = tables := by
  refine (Settles.transaction (fun _ _ => True) ?_).imp fun reply after settled failure same => ?_
  · refine Leads.bind (Leads.statement trivial) fun found after _ => ?_
    cases found with
    | none => exact Leads.throw _
    | some row =>
        refine Leads.bind (leads_versionsOf id after) fun versions after _ => ?_
        refine Leads.bind (Leads.ofExcept _) fun content after _ => ?_
        refine Leads.bind (Leads.ofExcept _) fun result after _ => ?_
        refine Leads.bind (Leads.statement trivial) fun _ after _ => ?_
        refine Leads.bind (Leads.statement trivial) fun _ after _ => ?_
        exact Leads.pure trivial
  · subst same
    exact settled

variable {tables : Tables} {records : List Content}

/-- Removing a record that is not there leaves the tables. -/
theorem eq_self_of_delete_none (holds : tables.Holds records) {id : Uuid}
    (none : (tables.contents.filter (·.id == id)).length = 0) :
    ({ tables with
        contents := tables.contents.filter (·.id != id)
        versions := tables.versions.filter (·.contentId != id) } : Tables) = tables := by
  have absent : ∀ row ∈ tables.contents, row.id ≠ id := fun row member same =>
    List.filter_eq_nil_iff.mp (List.length_eq_zero_iff.mp none) row member (beq_iff_eq.mpr same)
  have rows : tables.contents.filter (·.id != id) = tables.contents :=
    List.filter_eq_self.mpr fun row member => bne_iff_ne.mpr (absent row member)
  have logs : tables.versions.filter (·.contentId != id) = tables.versions := by
    refine List.filter_eq_self.mpr fun row member => bne_iff_ne.mpr fun same => ?_
    obtain ⟨c, present, owner⟩ := holds.owned row member
    exact absent _ (holds.row_mem present) (owner.trans same)
  rw [rows, logs]

/-- A request that is answered so has left the tables. -/
theorem settles_content_of_quiet (holds : tables.Holds records) (request : ContentRequest β) :
    (content request).Settles tables fun reply after => request.Quiet reply → after = tables := by
  cases request with
  | get id => exact (settles_getContent id tables).imp fun _ _ same _ => same
  | list => exact (settles_listContents tables).imp fun _ _ same _ => same
  | slugOwner slug =>
      have works : (Statement.selectSlugOwner slug).Works := trivial
      refine (Settles.statement works).imp fun reply after settled _ => ?_
      cases reply with
      | error failure => exact settled
      | ok owner =>
          cases settled
          rfl
  | insert content =>
      refine (settles_insertContent_error content tables).imp fun reply after settled quiet => ?_
      cases reply with
      | error failure => exact settled failure rfl
      | ok => exact quiet.elim
  | apply id change now =>
      have settles := settles_applyChange_error id change now tables
      refine settles.imp fun reply after settled quiet => ?_
      cases reply with
      | error failure => exact settled failure rfl
      | ok => exact quiet.elim
  | delete id =>
      refine Settles.bind (Settles.statement trivial) (fun removed after executed => ?_)
        fun failure after same _ => same
      cases executed
      refine Settles.pure fun quiet => ?_
      have none := Nat.eq_zero_of_not_pos (of_decide_eq_false quiet)
      exact eq_self_of_delete_none holds none

/-- A request for media records leaves the content records, and if it is answered so the media
records as well. -/
theorem settles_media (request : MediaRequest β) (tables : Tables) :
    (media request).Settles tables fun reply after =>
      after.contents = tables.contents ∧ after.versions = tables.versions ∧
        (request.Quiet reply → after = tables) := by
  cases request with
  | list =>
      refine Settles.bind (Settles.statement trivial) (fun rows after executed => ?_)
        fun failure after same => by rw [same]; exact ⟨rfl, rfl, fun _ => rfl⟩
      cases executed
      exact Settles.pure ⟨rfl, rfl, fun _ => rfl⟩
  | insert record =>
      have works : (Statement.insertMedia (.ofMedia record)).Works := trivial
      refine (Settles.statement works).imp fun reply after settled => ?_
      cases reply with
      | error failure => rw [settled]; exact ⟨rfl, rfl, fun _ => rfl⟩
      | ok =>
          simp only [Tables.execute] at settled
          split at settled
          · cases settled
          · cases settled
            exact ⟨rfl, rfl, fun quiet => quiet.elim⟩
  | delete id =>
      refine Settles.bind (Settles.statement trivial) (fun removed after executed => ?_)
        fun failure after same => by rw [same]; exact ⟨rfl, rfl, fun _ => rfl⟩
      cases executed
      refine Settles.pure ⟨rfl, rfl, fun quiet => ?_⟩
      have absent := List.find?_eq_none.mp (Option.map_eq_none_iff.mp quiet)
      have rows : tables.media.filter (·.id != id) = tables.media :=
        List.filter_eq_self.mpr fun row member => by
          simpa only [bne_iff_ne, beq_iff_eq] using absent row member
      rw [rows]

end Sql

/-! ## Both stores -/

namespace Store

/-- What a request to the store of media records is answered, and the store afterwards. -/
def answerMedia (faults : Faults) (request : MediaRequest β) : Store → Except Failure β × Store
  | .memory world =>
    let (reply, world) := world.answer faults.memory (.media request)
    (reply, .memory world)
  | .database tables =>
    let (reply, session) :=
      (Sql.Session.start tables faults.database).perform (Sql.media request)
    (reply, .database session.connection.committed)

variable {store : Store} {records : List Content}

theorem answer_of_quiet (holds : store.Holds records) {faults : Faults}
    {request : ContentRequest β} (quiet : request.Quiet (store.answer faults request).1) :
    (store.answer faults request).2 = store := by
  cases store with
  | memory world => exact congrArg Store.memory (Memory.World.answer_content_of_quiet quiet)
  | database tables =>
      obtain ⟨after, ended, same⟩ := Sql.settles_content_of_quiet holds request
        (Sql.Session.start tables faults.database) rfl
      have kept := same quiet
      change Store.database (Sql.Session.perform _ _).2.connection.committed = _
      rw [ended, kept]
      rfl

theorem answerMedia_of_quiet {faults : Faults} {request : MediaRequest β}
    (quiet : request.Quiet (store.answerMedia faults request).1) :
    (store.answerMedia faults request).2 = store := by
  cases store with
  | memory world => exact congrArg Store.memory (Memory.World.answer_media_of_quiet quiet)
  | database tables =>
      obtain ⟨after, ended, -, -, same⟩ := Sql.settles_media request tables
        (Sql.Session.start tables faults.database) rfl
      have kept := same quiet
      change Store.database (Sql.Session.perform _ _).2.connection.committed = _
      rw [ended, kept]
      rfl

theorem Holds.answerMedia (holds : store.Holds records) (faults : Faults)
    (request : MediaRequest β) : (store.answerMedia faults request).2.Holds records := by
  cases store with
  | memory world =>
      have contents := Memory.World.contents_answer_media faults.memory request world
      exact ⟨contents.symm ▸ holds.1, contents.trans holds.2⟩
  | database tables =>
      obtain ⟨after, ended, contents, versions, -⟩ := Sql.settles_media request tables
        (Sql.Session.start tables faults.database) rfl
      change Sql.Tables.Holds (Sql.Session.perform _ _).2.connection.committed records
      rw [ended]
      obtain ⟨rows, logs, owned, distinct, numbered⟩ := holds
      exact ⟨contents.trans rows, versions ▸ logs, versions ▸ owned, distinct, numbered⟩

end Store

end ContentService
