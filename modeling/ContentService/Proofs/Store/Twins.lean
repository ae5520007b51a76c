import ContentService.Proofs.Store.Arrangement
import ContentService.Proofs.Store.Memory

/-! # Twin stores

A store in memory and a database that hold the same records, the one by id and the other as rows in
some order. A request that both stores can do has the same answer from both, and they hold the same
records again afterwards. The stores are not alike in everything: the database looks for a record,
and for a number for its next version, before it looks at the slugs, the memory the other way round.
-/

namespace ContentService

open Sql Memory

variable {β : Type}

/-- Records in memory, and a connection whose tables hold the same. -/
structure Twins (contents : List Content) (connection : Connection) (tables : Tables)
    (records : List Content) : Prop where
  mirrors : connection.Mirrors (.idle tables)
  holds : tables.Holds records
  same : records.Perm contents
  ascending : Ascending Content.id contents
  apart : contents.Pairwise Apart

/-- The records in memory are those in the database. -/
def Together (contents : List Content) (connection : Connection) : Prop :=
  ∃ tables records, Twins contents connection tables records

theorem together_empty : Together [] (.idle .empty) := by
  have lawful : Tables.empty.Lawful :=
    Tables.holds_empty.lawful List.nodup_nil List.nodup_nil
  have mirrors : (Connection.idle .empty).Mirrors (.idle .empty) :=
    ⟨.refl _, .none, lawful, fun _ absent => nomatch absent⟩
  exact ⟨.empty, [], mirrors, Tables.holds_empty, .refl _, .nil, .nil⟩

/-- A request for single records that both stores do alike: a new record has a free id, times are
whole microseconds, and no other record has the slug that a change asks for. -/
def Fits (contents : List Content) : ContentRequest β → Prop
  | .list => False
  | .insert content =>
    ∃ id edition actor now, content = .initial id edition actor now ∧ now.stored = now ∧
      ∀ c ∈ contents, c.id ≠ id
  | .apply id change now =>
    now.stored = now ∧ ∀ slug, slugWanted? change = some slug →
      ∀ c ∈ contents, c.id ≠ id → c.live.slug ≠ slug
  | .get _ | .slugOwner _ | .delete _ => True

theorem Fits.single {contents : List Content} {request : ContentRequest β}
    (fits : Fits contents request) : Single request := by
  cases request with
  | list => exact fits
  | _ => trivial

theorem Fits.insertsNew {contents : List Content} {request : ContentRequest β}
    (fits : Fits contents request) : request.InsertsNew := by
  cases request with
  | insert content =>
      obtain ⟨id, edition, actor, now, rfl, -⟩ := fits
      exact ⟨id, edition, actor, now, rfl⟩
  | _ => trivial

namespace Twins

variable {contents : List Content} {connection : Connection} {tables : Tables}
  {records : List Content} (twins : Twins contents connection tables records)

include twins

theorem find?_id (id : Uuid) :
    records.find? (·.id == id) = contents.find? (·.id == id) :=
  Tables.find?_eq_of_perm twins.same ((twins.same.map _).nodup_iff.mp twins.holds.distinct) id

theorem nodup_slugs : (contents.map (·.live.slug)).Nodup :=
  List.pairwise_map.mpr (twins.apart.imp fun both => both.2)

theorem find?_slug (slug : String) :
    records.find? (·.live.slug == slug) = contents.find? (·.live.slug == slug) :=
  Tables.find?_eq_of_perm twins.same twins.nodup_slugs slug

end Twins

/-- The database replies as the memory does, and has the records that the memory then has. -/
def Replies (tables : Tables) (contents : List Content) (request : ContentRequest β) : Prop :=
  ∃ written kept, (Connection.idle tables).perform (Sql.content request) =
      ((answerContent request contents).1, .idle written) ∧
    written.Holds kept ∧ kept.Perm (answerContent request contents).2

namespace Twins

variable {contents : List Content} {connection : Connection} {tables : Tables}
  {records : List Content} (twins : Twins contents connection tables records)

include twins

theorem replies_get (id : Uuid) : Replies tables contents (.get id) := by
  refine ⟨tables, records, ?_, twins.holds, twins.same⟩
  rw [twins.holds.perform_get, twins.find?_id]
  rfl

theorem replies_slugOwner (slug : String) : Replies tables contents (.slugOwner slug) := by
  refine ⟨tables, records, ?_, twins.holds, twins.same⟩
  rw [twins.holds.perform_slugOwner, twins.find?_slug]
  rfl

theorem replies_delete (id : Uuid) : Replies tables contents (.delete id) := by
  obtain ⟨written, replied, holds⟩ := twins.holds.perform_delete id
  refine ⟨written, others id records, ?_, holds, twins.same.filter _⟩
  rw [replied, twins.same.any_eq]
  rfl

theorem replies_insert {id : Uuid} {now : Instant} (whole : now.stored = now)
    (fresh : ∀ c ∈ contents, c.id ≠ id) (edition : Edition) (actor : String) :
    Replies tables contents (.insert (.initial id edition actor now)) := by
  have absent : ∀ c ∈ records, c.id ≠ id := fun c member => fresh c (twins.same.mem_iff.mp member)
  have free : records.any (·.id == id) = false :=
    List.any_eq_false.mpr fun c member same => absent c member (beq_iff_eq.mp same)
  unfold Replies
  simp only [answerContent, ← twins.same.any_eq]
  by_cases taken : records.any (·.live.slug == edition.slug) = true
  · have slug : (records.any fun c =>
        c.live.slug == (Content.initial id edition actor now).live.slug) = true := taken
    rw [if_pos slug]
    exact ⟨tables, records, twins.holds.perform_insert_taken free taken, twins.holds, twins.same⟩
  · have slug : ¬ (records.any fun c =>
        c.live.slug == (Content.initial id edition actor now).live.slug) = true := taken
    rw [if_neg slug]
    obtain ⟨written, replied, holds⟩ : ∃ written,
        (Connection.idle tables).perform (content (.insert (.initial id edition actor now))) =
            (.ok (), .idle written) ∧
          written.Holds (records ++ [.initial id edition actor now.stored]) :=
      twins.holds.perform_insert free (Bool.eq_false_iff.mpr taken)
    rw [whole] at holds
    refine ⟨written, _, replied, holds, ?_⟩
    have beside := insertById_perm (Content.initial id edition actor now) twins.ascending
    have kept : contents.filter (·.id ≠ id) = contents := others_eq_self fresh
    rw [show contents.filter (·.id ≠ (Content.initial id edition actor now).id) = contents
      from kept] at beside
    exact (List.perm_append_singleton _ _).trans ((twins.same.cons _).trans beside.symm)

theorem replies_apply {id : Uuid} {change : Change} {now : Instant} (whole : now.stored = now)
    (free : ∀ slug, slugWanted? change = some slug →
      ∀ c ∈ contents, c.id ≠ id → c.live.slug ≠ slug) :
    Replies tables contents (.apply id change now) := by
  unfold Replies
  rw [answerContent_apply_of_free free]
  cases found : contents.find? (·.id == id) with
  | none =>
      have missing := (twins.find?_id id).trans found
      exact ⟨tables, records, twins.holds.perform_apply_missing missing, twins.holds, twins.same⟩
  | some old =>
      have present := (twins.find?_id id).trans found
      obtain ⟨member, rfl⟩ := mem_and_key_of_find? found
      dsimp only
      cases asked : old.editionOf change with
      | error failure =>
          have failed : old.apply change now = .error failure :=
            Content.apply_eq_error_iff.mpr asked
          exact ⟨tables, records, twins.holds.perform_apply_failed present failed, twins.holds,
            twins.same⟩
      | ok edition =>
          let changed := old.write edition change.actor now
          have unheld := free_of_editionOf twins.apart member asked free
          have slug : ∀ c ∈ records, c.id ≠ old.id → c.live.slug ≠ edition.slug :=
            fun c inside => unheld c (twins.same.mem_iff.mp inside)
          obtain ⟨written, replied, holds⟩ := twins.holds.perform_apply present asked slug now
          rw [whole] at holds
          refine ⟨written, _, replied, holds, ?_⟩
          have replaces : (replaced changed records).Perm (changed :: others old.id records) :=
            replaced_perm twins.holds.distinct (twins.same.mem_iff.mpr member) rfl
          have beside : (insertById Content.id changed contents).Perm
              (changed :: others old.id contents) := insertById_perm changed twins.ascending
          exact replaces.trans (((twins.same.filter _).cons _).trans beside.symm)

theorem replies {request : ContentRequest β} (fits : Fits contents request) :
    Replies tables contents request := by
  cases request with
  | list => exact fits.elim
  | get id => exact twins.replies_get id
  | slugOwner slug => exact twins.replies_slugOwner slug
  | delete id => exact twins.replies_delete id
  | insert content =>
      obtain ⟨id, edition, actor, now, rfl, whole, fresh⟩ := fits
      exact twins.replies_insert whole fresh edition actor
  | apply id change now => exact twins.replies_apply fits.1 fits.2

end Twins

namespace Together

theorem apart {contents : List Content} {connection : Connection}
    (together : Together contents connection) : contents.Pairwise Apart := by
  obtain ⟨tables, records, twins⟩ := together
  exact twins.apart

theorem distinct {contents : List Content} {connection : Connection}
    (together : Together contents connection) : (contents.map (·.id)).Nodup :=
  List.pairwise_map.mpr (together.apart.imp fun both => both.1)

variable {contents : List Content} {connection : Connection}
  (together : Together contents connection) (arrangements : Nat → Arrangement) (turn : Nat)

include together

/-- A fitting request has the same answer from both stores. -/
theorem performIn {request : ContentRequest β} (fits : Fits contents request) :
    (Connection.performIn arrangements (content request) (connection, turn)).1 =
        (answerContent request contents).1 ∧
      Together (answerContent request contents).2
        (Connection.performIn arrangements (content request) (connection, turn)).2.1 := by
  obtain ⟨tables, records, twins⟩ := together
  obtain ⟨written, kept, replied, holds, same⟩ := twins.replies fits
  have ran := twins.mirrors.performIn arrangements (orderly_content fits.single) turn
  rw [replied] at ran
  obtain ⟨ascending, turns⟩ := answerContent_turns request fits.insertsNew twins.ascending
  exact ⟨ran.1, written, kept, ran.2, holds, same, ascending, turns.pairwise_apart twins.apart⟩

/-- Listings differ in the order of records at most. -/
theorem performIn_list :
    ∃ listed after, Connection.performIn arrangements (content .list) (connection, turn) =
        (.ok listed, after) ∧
      listed.Perm contents ∧ Together contents after.1 := by
  obtain ⟨tables, records, twins⟩ := together
  obtain ⟨listed, after, ran, same, mirrors⟩ :=
    twins.holds.performIn_list arrangements twins.mirrors turn
  exact ⟨listed, after, ran, same.trans twins.same, tables, records,
    { twins with mirrors := mirrors }⟩

end Together

end ContentService
