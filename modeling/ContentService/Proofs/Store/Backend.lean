import ContentService.Proofs.Store.Database
import ContentService.Proofs.Store.Memory

/-! # Both stores

A store of content records is in memory or in the database. Each request to it is one step, with
whatever faults; it does to the records what its answer says, and without faults the listing gives
all records.
-/

namespace ContentService

/-- What keeps content records. -/
inductive Backend
  | memory
  | database

/-- A store of content records. -/
inductive Store
  | memory (world : Memory.World)
  | database (tables : Sql.Tables)

/-- What goes wrong with a request, in memory or in the database. -/
structure Faults where
  memory : List Memory.Fault
  database : List (Nat × DatabaseFault)

/-- Nothing goes wrong. -/
def Faults.none : Faults := ⟨[], []⟩

/-- What kind of store it is. -/
def Store.backend : Store → Backend
  | .memory _ => .memory
  | .database _ => .database

namespace Store

/-- A store without records. -/
def empty : Backend → Store
  | .memory => .memory .empty
  | .database => .database .empty

/-- What a request is answered, and the store afterwards. -/
def answer {β : Type} (faults : Faults) (request : ContentRequest β) :
    Store → Except Failure β × Store
  | .memory world =>
    let (reply, world) := world.answer faults.memory (.content request)
    (reply, .memory world)
  | .database tables =>
    let (reply, session) :=
      (Sql.Session.start tables faults.database).perform (Sql.content request)
    (reply, .database session.connection.committed)

/-- The records of a store, as they are listed if nothing goes wrong. -/
def listing (store : Store) : Except Failure (List Content) :=
  (store.answer .none .list).1

/-- A store keeps records, in its own way. -/
def Holds (store : Store) (records : List Content) : Prop :=
  match store with
  | .memory world => Memory.Ascending Content.id world.contents ∧ world.contents = records
  | .database tables => tables.Holds records

theorem holds_empty (backend : Backend) : (empty backend).Holds [] := by
  cases backend with
  | memory => exact ⟨.nil, rfl⟩
  | database => exact Sql.Tables.holds_empty

theorem Holds.distinct {store : Store} {records : List Content} (holds : store.Holds records) :
    (records.map (·.id)).Nodup := by
  cases store with
  | memory world =>
      obtain ⟨ascending, rfl⟩ := holds
      refine List.pairwise_map.mpr (ascending.imp fun less equal => ?_)
      rw [equal] at less
      exact Nat.lt_irrefl _ less
  | database tables => exact Sql.Tables.Holds.distinct holds

theorem listing_eq_ok {store : Store} {records : List Content} (holds : store.Holds records) :
    store.listing = .ok records := by
  cases store with
  | memory world => exact congrArg Except.ok holds.2
  | database tables => exact Sql.perform_list holds

theorem Holds.eq {store : Store} {records kept : List Content} (holds : store.Holds records)
    (held : store.Holds kept) : kept = records :=
  Except.ok.inj ((listing_eq_ok held).symm.trans (listing_eq_ok holds))

/-- **Requests to a store.** Whatever goes wrong, a request leaves a store that keeps records, and
does to the records what its answer says. -/
theorem answer_turns {store : Store} {records : List Content} (holds : store.Holds records)
    {β : Type} {request : ContentRequest β} (proper : request.InsertsNew) (faults : Faults) :
    ∃ kept, (store.answer faults request).2.Holds kept ∧
      (request.effect (store.answer faults request).1).Turns records kept := by
  cases store with
  | memory world =>
      obtain ⟨ascending, rfl⟩ := holds
      obtain ⟨ascends, turns⟩ := Memory.World.answer_turns faults.memory request proper ascending
      exact ⟨_, ⟨ascends, rfl⟩, turns⟩
  | database tables =>
      obtain ⟨after, ended, kept, held, turns⟩ := Sql.settles_content request proper holds
        (Sql.Session.start tables faults.database) rfl
      refine ⟨kept, ?_, turns⟩
      change Sql.Tables.Holds (Sql.Session.perform _ _).2.connection.committed kept
      rw [ended]
      exact held

end Store

end ContentService
