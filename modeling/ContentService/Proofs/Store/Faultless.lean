import ContentService.Proofs.Store.Backend
import ContentService.Proofs.Store.Reply

/-! # Stores to which nothing goes wrong

What either store answers to the requests of which a change consists, given the records that it
keeps. Both refuse a slug that another record holds, and are then as they were; the database finds
out only when it has a number for the version. The database also refuses the id of a record that it
has, and keeps times in whole microseconds. Otherwise both do what they are asked.
-/

namespace ContentService

variable {α : Type}

namespace Sql

/-- A session without faults does what its connection does. -/
theorem Session.perform_start (work : Work α) (tables : Tables) :
    ((Session.start tables []).perform work).1 = ((Connection.idle tables).perform work).1 ∧
      ((Session.start tables []).perform work).2.connection =
        ((Connection.idle tables).perform work).2 := by
  let same (session : Session) (connection : Connection) : Prop :=
    session.faults = [] ∧ session.connection = connection
  have follows {γ : Type} (statement : Statement γ) (_ : True) {session : Session}
      {connection : Connection} (before : same session connection) :
      (session.execute statement).1 = (connection.execute statement).1 ∧
        same (session.execute statement).2 (connection.execute statement).2 := by
    obtain ⟨_, log, faults⟩ := session
    obtain ⟨rfl, rfl⟩ := before
    exact ⟨rfl, rfl, rfl⟩
  have begins : same (.start tables []) (.idle tables) := ⟨rfl, rfl⟩
  have ends := Program.run_of_related same follows (.of_all (fun _ => trivial) work) begins
  exact ⟨ends.1, ends.2.2⟩

end Sql

namespace Backend

/-- The time that is kept for a time; in the database times are whole microseconds. -/
def time (backend : Backend) (now : Instant) : Instant :=
  match backend with
  | .memory => now
  | .database => now.stored

/-- Why a new record is refused, given the record with its id: the database has each id once. -/
def insertFault? (backend : Backend) (own : Option Content) : Option DatabaseFault :=
  match backend, own with
  | .database, some _ => some (Sql.Tables.violation uniqueViolation "contents_pkey")
  | _, _ => none

end Backend

namespace Store

theorem answer_memory {β : Type} {world : Memory.World} {request : ContentRequest β}
    {reply : Except Failure β} {after : List Content}
    (replied : Memory.answerContent request world.contents = (reply, after)) :
    (Store.memory world).answer .none request =
      (reply, .memory { world with contents := after }) := by
  have answered := Memory.World.answer_content request world
  rw [replied] at answered
  change ((world.answer [] (.content request)).1,
    Store.memory (world.answer [] (.content request)).2) = _
  rw [answered]

theorem answer_database {β : Type} {tables after : Sql.Tables} {request : ContentRequest β}
    {reply : Except Failure β}
    (replied : (Sql.Connection.idle tables).perform (Sql.content request) = (reply, .idle after)) :
    (Store.database tables).answer .none request = (reply, .database after) := by
  obtain ⟨same, ended⟩ := Sql.Session.perform_start (Sql.content request) tables
  rw [replied] at same ended
  change (((Sql.Session.start tables []).perform (Sql.content request)).1,
    Store.database ((Sql.Session.start tables []).perform
      (Sql.content request)).2.connection.committed) = _
  rw [same, ended]
  rfl

/-- The store in memory does as it likes; the database has a condition. -/
def Demands (store : Store) (condition : Prop) : Prop :=
  match store with
  | .memory _ => True
  | .database _ => condition

theorem Demands.of_database {store : Store} {condition : Prop}
    (demanded : store.backend = .database → condition) : store.Demands condition := by
  cases store with
  | memory => trivial
  | database => exact demanded rfl

theorem Demands.imp {store : Store} {condition other : Prop} (demands : store.Demands condition)
    (follows : condition → other) : store.Demands other := by
  cases store with
  | memory => trivial
  | database => exact follows demands

variable {store : Store} {records : List Content}

theorem answer_get (holds : store.Holds records) (id : Uuid) :
    store.answer .none (.get id) = (.ok (records.find? (·.id == id)), store) := by
  cases store with
  | memory world =>
      obtain ⟨-, rfl⟩ := holds
      rfl
  | database tables => exact answer_database (holds.perform_get id)

theorem answer_slugOwner (holds : store.Holds records) (slug : String) :
    store.answer .none (.slugOwner slug) =
      (.ok ((records.find? (·.live.slug == slug)).map (·.id)), store) := by
  cases store with
  | memory world =>
      obtain ⟨-, rfl⟩ := holds
      rfl
  | database tables => exact answer_database (holds.perform_slugOwner slug)

/-- A new record with a slug that is taken is refused. -/
theorem answer_insert_taken (holds : store.Holds records) {id : Uuid} {edition : Edition}
    {actor : String} {now : Instant} (fresh : store.Demands (∀ c ∈ records, c.id ≠ id))
    (taken : ∃ c ∈ records, c.live.slug = edition.slug) :
    store.answer .none (.insert (.initial id edition actor now)) =
      (.error (.slugTaken edition.slug), store) := by
  have held : records.any (·.live.slug == edition.slug) = true := by
    obtain ⟨c, member, same⟩ := taken
    exact List.any_eq_true.mpr ⟨c, member, beq_iff_eq.mpr same⟩
  cases store with
  | memory world =>
      obtain ⟨-, rfl⟩ := holds
      exact answer_memory (if_pos held)
  | database tables =>
      have free : records.any (·.id == id) = false :=
        List.any_eq_false.mpr fun c member same => fresh c member (beq_iff_eq.mp same)
      exact answer_database (holds.perform_insert_taken free held)

/-- A change that asks for the slug of another record is refused; before it gets there, the database
needs a number for the version. -/
theorem answer_write_taken (holds : store.Holds records) {id : Uuid} {edition : Edition}
    {actor : String} {now : Instant} {old : Content}
    (found : records.find? (·.id == id) = some old)
    (taken : ∃ c ∈ records, c.id ≠ id ∧ c.live.slug = edition.slug)
    (room : store.Demands (nextNumber old.versions < 2 ^ 31)) :
    store.answer .none (.apply id (.write edition actor) now) =
      (.error (.slugTaken edition.slug), store) := by
  cases store with
  | memory world =>
      obtain ⟨-, rfl⟩ := holds
      have held := Memory.slugHeldByOther_iff.mpr taken
      refine answer_memory ?_
      simp only [Memory.answerContent, Memory.slugWanted?, Option.filter_some, held, if_true]
  | database tables =>
      have asked : old.editionOf (.write edition actor) = .ok edition :=
        Content.editionOf_eq_ok_iff.mpr ⟨rfl, room⟩
      exact answer_database (holds.perform_apply_taken found asked taken)

theorem answer_insert_refused (holds : store.Holds records) {id : Uuid} {edition : Edition}
    {actor : String} {now : Instant} {fault : DatabaseFault}
    (refused : store.backend.insertFault? (records.find? (·.id == id)) = some fault) :
    store.answer .none (.insert (.initial id edition actor now)) =
      (.error (.database fault), store) := by
  cases store with
  | memory world => cases refused
  | database tables =>
      cases found : records.find? (·.id == id) with
      | none =>
          rw [found] at refused
          cases refused
      | some own =>
          rw [found] at refused
          cases refused
          have same := List.find?_some found
          have present : records.any (·.id == id) = true :=
            List.any_eq_true.mpr ⟨own, List.mem_of_find?_eq_some found, same⟩
          exact answer_database (holds.perform_insert_present present)

/-- An id is free to a new record that is not refused. -/
theorem demands_fresh {id : Uuid}
    (fits : store.backend.insertFault? (records.find? (·.id == id)) = none) :
    store.Demands (∀ c ∈ records, c.id ≠ id) := by
  cases store with
  | memory world => trivial
  | database tables =>
      cases found : records.find? (·.id == id) with
      | none =>
          exact fun c member same => List.find?_eq_none.mp found c member (beq_iff_eq.mpr same)
      | some own =>
          rw [found] at fits
          cases fits

/-! ## Writes that are done -/

theorem answer_insert (holds : store.Holds records) {id : Uuid} {edition : Edition}
    (fresh : store.Demands (∀ c ∈ records, c.id ≠ id))
    (free : ∀ c ∈ records, c.live.slug ≠ edition.slug) (actor : String) (now : Instant) :
    ∃ after kept, store.answer .none (.insert (.initial id edition actor now)) = (.ok (), after) ∧
      after.Holds kept ∧
      kept.Perm (.initial id edition actor (store.backend.time now) :: others id records) := by
  have unheld : records.any (·.live.slug == edition.slug) = false :=
    List.any_eq_false.mpr fun c member same => free c member (beq_iff_eq.mp same)
  cases store with
  | memory world =>
      obtain ⟨ascending, rfl⟩ := holds
      refine ⟨_, _, answer_memory (if_neg (Bool.eq_false_iff.mp unheld)),
        ⟨ascending.insertById _, rfl⟩, ?_⟩
      exact Memory.insertById_perm _ ascending
  | database tables =>
      have new : records.any (·.id == id) = false :=
        List.any_eq_false.mpr fun c member same => fresh c member (beq_iff_eq.mp same)
      obtain ⟨after, replied, held⟩ := holds.perform_insert new unheld
      refine ⟨_, _, answer_database replied, held, ?_⟩
      rw [Sql.others_eq_self fresh]
      exact List.perm_append_singleton _ _

/-- A change of a record writes what it amounts to, if no other record has the slug of that. -/
theorem answer_apply (holds : store.Holds records) {id : Uuid} {change : Change} {old : Content}
    (found : records.find? (·.id == id) = some old) {edition : Edition}
    (asked : old.editionOf change = .ok edition)
    (free : ∀ c ∈ records, c.id ≠ id → c.live.slug ≠ edition.slug)
    (now : Instant) :
    ∃ after kept, store.answer .none (.apply id change now) =
        (.ok (old.write edition change.actor now), after) ∧
      after.Holds kept ∧
      kept.Perm (old.write edition change.actor (store.backend.time now) :: others id records) := by
  obtain ⟨member, rfl⟩ := mem_and_key_of_find? found
  cases store with
  | memory world =>
      obtain ⟨ascending, rfl⟩ := holds
      have unwanted : ∀ slug, Memory.slugWanted? change = some slug →
          ∀ c ∈ world.contents, c.id ≠ old.id → c.live.slug ≠ slug := by
        intro slug wanted
        rw [Content.slug_of_editionOf asked, wanted] at free
        exact free
      have done := Memory.answerContent_apply_of_free unwanted now
      rw [found] at done
      simp only [asked] at done
      refine ⟨_, _, answer_memory done, ⟨ascending.insertById _, rfl⟩, ?_⟩
      exact Memory.insertById_perm _ ascending
  | database tables =>
      obtain ⟨after, replied, held⟩ := holds.perform_apply found asked free now
      exact ⟨_, _, answer_database replied, held, Sql.replaced_perm holds.distinct member rfl⟩

theorem answer_restore_missing (holds : store.Holds records) {id : Uuid}
    (missing : records.find? (·.id == id) = none) (number : Int) (actor : String) (now : Instant) :
    store.answer .none (.apply id (.restore number actor) now) =
      (.error (.contentNotFound id), store) := by
  cases store with
  | memory world =>
      obtain ⟨-, rfl⟩ := holds
      have free : ∀ slug, Memory.slugWanted? (.restore number actor) = some slug →
          ∀ c ∈ world.contents, c.id ≠ id → c.live.slug ≠ slug := fun _ absent => nomatch absent
      have refused := Memory.answerContent_apply_of_free free now
      rw [missing] at refused
      exact answer_memory refused
  | database tables => exact answer_database (holds.perform_apply_missing missing)

/-- A change that fails is refused, if no other record has the slug that it asks for. -/
theorem answer_apply_failed (holds : store.Holds records) {id : Uuid} {change : Change}
    {old : Content} (found : records.find? (·.id == id) = some old)
    (free : ∀ slug, Memory.slugWanted? change = some slug →
      ∀ c ∈ records, c.id ≠ id → c.live.slug ≠ slug)
    {failure : Failure} (failed : old.editionOf change = .error failure) (now : Instant) :
    store.answer .none (.apply id change now) = (.error failure, store) := by
  cases store with
  | memory world =>
      obtain ⟨-, rfl⟩ := holds
      have refused := Memory.answerContent_apply_of_free free now
      rw [found] at refused
      simp only [failed] at refused
      exact answer_memory refused
  | database tables =>
      have fails : old.apply change now = .error failure := Content.apply_eq_error_iff.mpr failed
      exact answer_database (holds.perform_apply_failed found fails)

/-- The database does not get to the slug of a change that fails. -/
theorem answer_apply_failed_of_database (holds : store.Holds records)
    (database : store.backend = .database) {id : Uuid} {change : Change} {old : Content}
    (found : records.find? (·.id == id) = some old) {failure : Failure} {now : Instant}
    (failed : old.apply change now = .error failure) :
    store.answer .none (.apply id change now) = (.error failure, store) := by
  cases store with
  | memory world => cases database
  | database tables => exact answer_database (holds.perform_apply_failed found failed)

theorem answer_delete (holds : store.Holds records) (id : Uuid) :
    ∃ after, store.answer .none (.delete id) = (.ok (records.any (·.id == id)), after) ∧
      after.Holds (others id records) := by
  cases store with
  | memory world =>
      obtain ⟨ascending, rfl⟩ := holds
      exact ⟨_, answer_memory rfl, ascending.filter _, rfl⟩
  | database tables =>
      obtain ⟨after, replied, held⟩ := holds.perform_delete id
      exact ⟨_, answer_database replied, held⟩

end Store

end ContentService
