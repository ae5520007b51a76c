import ContentService.Proofs.Agreement
import ContentService.Proofs.Content.Restoration
import ContentService.Proofs.Outcome
import ContentService.Proofs.Verdict

/-! # Overlooked owners

Before a slug is written, its owner is looked up. Others may take the slug in between, and then the
look-up has told of nobody. In memory that makes no difference: the store refuses the slug with the
same failure, and everything is as it was. The database looks at the id of a new record and at the
number of a new version before it looks at the slug, so there it makes no difference unless one of
these is refused (`ContentService.Service.attempt_blind_eq`). A record whose newest version has the
greatest number is where it does (`ContentService.Service.attempt_blind_ne_at_greatest_number`).
-/

namespace ContentService

variable {α β : Type} {records : List Content}

/-! ## Blind answers -/

namespace Surroundings

/-- What an action is answered if nothing goes wrong, except that whoever is blind overlooks the
owner of a slug. -/
def answerTo (blind : Bool) (action : Action β) (s : Surroundings) :
    Except Failure β × Surroundings :=
  match blind, action with
  | true, .content (.slugOwner _) => (.ok none, s)
  | _, action => s.answer .fine action

end Surroundings

/-- A request that does not look for the owner of a slug. -/
def ContentRequest.NotOwner : ContentRequest β → Prop
  | .slugOwner _ => False
  | _ => True

/-- An action that does not look for the owner of a slug. -/
def Action.NotOwner : Action β → Prop
  | .content request => request.NotOwner
  | _ => True

theorem Surroundings.answerTo_of_notOwner {action : Action β} (other : action.NotOwner)
    (s : Surroundings) (blind : Bool) : s.answerTo blind action = s.answer .fine action := by
  cases blind with
  | false => rfl
  | true =>
      cases action with
      | content request => cases request <;> first | exact other.elim | rfl
      | _ => rfl

open Surroundings (answerTo)

/-- A call that looks for no owner is the same, blind or not. -/
theorem Call.Asks.run_blind {call : Call α} (asks : call.Asks Action.NotOwner) (s : Surroundings) :
    Program.run (answerTo true) call s = Program.run (answerTo false) call s := by
  have follows {γ : Type} (action : Action γ) (other : action.NotOwner) {s t : Surroundings}
      (same : s = t) : (s.answerTo true action).1 = (t.answerTo false action).1 ∧
        (s.answerTo true action).2 = (t.answerTo false action).2 := by
    subst same
    rw [Surroundings.answerTo_of_notOwner other, Surroundings.answerTo_of_notOwner other]
    exact ⟨rfl, rfl⟩
  have ends := Program.run_of_related Eq follows asks.program (rfl : s = s)
  exact Prod.ext ends.1 ends.2

/-! ## Single operations -/

/-- A write that is announced is the same, blind or not. -/
theorem run_change_blind {request : ContentRequest α} (other : (Action.content request).NotOwner)
    (result : α → β) (s : Surroundings) :
    Program.run (answerTo true) (Contents.change request result) s =
      Program.run (answerTo false) (Contents.change request result) s := by
  refine Call.Asks.run_blind (.bind (.perform other) fun a => ?_) s
  exact .bind (.announce trivial) fun _ => .pure _

section Single

variable {s : Surroundings} (holds : s.store.Holds records)
include holds

theorem answerTo_get (blind : Bool) (id : Uuid) :
    s.answerTo blind (.content (.get id)) = (.ok (records.find? (·.id == id)), s) := by
  have other : (Action.content (.get id)).NotOwner := trivial
  rw [Surroundings.answerTo_of_notOwner other]
  exact Surroundings.answer_fine (Store.answer_get holds id)

theorem answerTo_slugOwner (slug : String) :
    s.answerTo false (.content (.slugOwner slug)) =
      (.ok ((records.find? (·.live.slug == slug)).map (·.id)), s) :=
  Surroundings.answer_fine (Store.answer_slugOwner holds slug)

/-- A creation that overlooks the owner of its slug is refused by the store. -/
theorem run_create_blind {id : Uuid} (fresh : s.store.Demands (∀ c ∈ records, c.id ≠ id))
    (now : Instant) (submission : Submission) (actor : String) :
    Program.run (answerTo true) (Contents.create id now submission actor) s =
      Program.run (answerTo false) (Contents.create id now submission actor) s := by
  cases accepted : submission.validate with
  | error problems =>
      rw [Contents.run_create_invalid accepted, Contents.run_create_invalid accepted]
  | ok edition =>
      have overlooked : s.answerTo true (.content (.slugOwner edition.slug)) = (.ok none, s) := rfl
      have looked := answerTo_slugOwner holds edition.slug
      rw [Contents.run_create accepted overlooked]
      cases found : records.find? (·.live.slug == edition.slug) with
      | none =>
          rw [found] at looked
          rw [Contents.run_create accepted looked]
          refine run_change_blind ?_ _ s
          trivial
      | some holder =>
          rw [found] at looked
          have taken : ∃ c ∈ records, c.live.slug = edition.slug :=
            ⟨holder, mem_and_key_of_find? found⟩
          have refused : s.answer .fine (.content (.insert (.initial id edition actor now))) =
              (.error (.slugTaken edition.slug), s) :=
            Surroundings.answer_fine (Store.answer_insert_taken holds fresh taken)
          have inserts : (Action.content (.insert (.initial id edition actor now))).NotOwner :=
            trivial
          rw [Contents.run_create_taken accepted looked, Contents.run_change,
            Surroundings.answerTo_of_notOwner inserts, refused]

/-- An update that overlooks the owner of its slug is refused by the store. -/
theorem run_update_blind {id : Uuid}
    (room : s.store.Demands (∀ c ∈ records, c.id = id → nextNumber c.versions < 2 ^ 31))
    (now : Instant) (submission : Submission) (actor : String) :
    Program.run (answerTo true) (Contents.update id now submission actor) s =
      Program.run (answerTo false) (Contents.update id now submission actor) s := by
  have got (blind : Bool) := answerTo_get holds blind id
  cases accepted : submission.validate with
  | error problems =>
      rw [Contents.run_update_invalid accepted, Contents.run_update_invalid accepted]
  | ok edition =>
      cases present : records.find? (·.id == id) with
      | none =>
          simp only [present] at got
          rw [Contents.run_update_missing accepted (got true),
            Contents.run_update_missing accepted (got false)]
      | some old =>
          simp only [present] at got
          have overlooked : s.answerTo true (.content (.slugOwner edition.slug)) = (.ok none, s) :=
            rfl
          have looked := answerTo_slugOwner holds edition.slug
          have nobody : ∀ holder ∈ (none : Option Uuid), holder = id :=
            fun _ absent => nomatch absent
          rw [Contents.run_update accepted (got true) overlooked nobody]
          have writes : (Action.content (.apply id (.write edition actor) now)).NotOwner := trivial
          by_cases own : ∀ holder ∈ (records.find? (·.live.slug == edition.slug)).map (·.id),
              holder = id
          · rw [Contents.run_update accepted (got false) looked own]
            exact run_change_blind writes _ s
          · simp only [not_forall] at own
            obtain ⟨_, held, other⟩ := own
            obtain ⟨holder, found, rfl⟩ := Option.map_eq_some_iff.mp held
            rw [found] at looked
            obtain ⟨member, slug⟩ := mem_and_key_of_find? found
            obtain ⟨inside, same⟩ := mem_and_key_of_find? present
            have number := room.imp fun all => all old inside same
            have refused : s.answer .fine (.content (.apply id (.write edition actor) now)) =
                (.error (.slugTaken edition.slug), s) :=
              Surroundings.answer_fine
                (Store.answer_write_taken holds present ⟨holder, member, other, slug⟩ number)
            rw [Contents.run_update_taken accepted (got false) looked other, Contents.run_change,
              Surroundings.answerTo_of_notOwner writes, refused]

end Single

/-! ## Operations in turn -/

/-- A record is not in the way of what an operation writes: it does not have the id of a new record,
and if it is to be updated, then none of its versions has the greatest number yet. -/
def Operation.FitsBeside (c : Content) : Operation α → Prop
  | .create id _ _ => c.id ≠ id
  | .update id _ _ => c.id = id → ∀ v ∈ c.versions, v.number < 2 ^ 31 - 1
  | _ => True

/-- An operation that changes content records, its time, and whether it overlooks the owner of its
slug. -/
structure Attempt where
  {Result : Type}
  operation : Operation Result
  changes : operation.stale? = some .contents
  now : Instant
  blind : Bool

/-- The results of operations one after another, given which are blind, and the surroundings
afterwards. -/
def Surroundings.attempt (blind : Attempt → Bool) :
    List Attempt → Surroundings → List Answer × Surroundings
  | [], s => ([], s)
  | attempt :: rest, s =>
    let (result, s) :=
      Program.run (answerTo (blind attempt)) (attempt.operation.call attempt.now) s
    let (answers, s) := Surroundings.attempt blind rest s
    (⟨result⟩ :: answers, s)

namespace Surroundings

theorem attempt_concat (blind : Attempt → Bool) (early : List Attempt) (last : Attempt)
    (s : Surroundings) :
    s.attempt blind (early ++ [last]) =
      let before := s.attempt blind early
      let ended := Program.run (answerTo (blind last)) (last.operation.call last.now) before.2
      (before.1 ++ [⟨ended.1⟩], ended.2) := by
  induction early generalizing s with
  | nil => rfl
  | cons first rest ih => simp only [List.cons_append, attempt, ih]

theorem attempt_congr {blind other : Attempt → Bool} {attempts : List Attempt}
    (same : ∀ attempt ∈ attempts, blind attempt = other attempt) (s : Surroundings) :
    s.attempt blind attempts = s.attempt other attempts := by
  induction attempts generalizing s with
  | nil => rfl
  | cons first rest ih =>
      obtain ⟨here, later⟩ := List.forall_mem_cons.mp same
      simp only [attempt, here, ih later]

/-- Operations in turn leave a store of the same kind that keeps records, and these are apart. -/
theorem exists_apart_attempt {s : Surroundings} (holds : s.store.Holds records)
    (apart : records.Pairwise Apart) (attempts : List Attempt) :
    ∃ kept, (s.attempt (fun _ => false) attempts).2.store.Holds kept ∧ kept.Pairwise Apart ∧
      (s.attempt (fun _ => false) attempts).2.store.backend = s.store.backend := by
  induction attempts generalizing s records with
  | nil => exact ⟨records, holds, apart, rfl⟩
  | cons first rest ih =>
      obtain ⟨kept, held, still⟩ := exists_holds_carryOut holds first.operation first.now
      obtain ⟨left, ends, onwards, kind⟩ := ih held (still apart)
      exact ⟨left, ends, onwards, kind.trans (s.backend_carryOut first.operation first.now)⟩

end Surroundings

theorem run_operation_sighted (s : Surroundings) (operation : Operation α) (now : Instant) :
    Program.run (answerTo false) (operation.call now) s = s.carryOut operation now :=
  rfl

theorem attempt_concat_sighted (s : Surroundings) (early : List Attempt) (last : Attempt) :
    (s.attempt (fun _ => false) (early ++ [last])).2 =
      ((s.attempt (fun _ => false) early).2.carryOut last.operation last.now).2 := by
  rw [Surroundings.attempt_concat]
  rfl

/-- An operation has the same result and leaves the same, blind or not. -/
theorem run_operation_blind {s : Surroundings} (holds : s.store.Holds records)
    {operation : Operation α} (changes : operation.stale? = some .contents) {blind : Bool}
    (fits : blind = true → s.store.Demands (∀ c ∈ records, operation.FitsBeside c))
    (now : Instant) :
    Program.run (answerTo blind) (operation.call now) s = s.carryOut operation now := by
  cases blind with
  | false => rfl
  | true =>
      cases operation with
      | create id submission actor => exact run_create_blind holds (fits rfl) now submission actor
      | update id submission actor =>
          refine run_update_blind holds ((fits rfl).imp fun all c member same => ?_) now submission
            actor
          exact nextNumber_lt (all c member same)
      | restore id number actor =>
          refine Call.Asks.run_blind ?_ s
          exact Contents.asks_restore_of trivial trivial
      | delete id =>
          refine Call.Asks.run_blind ?_ s
          exact Contents.asks_delete_of trivial trivial
      | _ => cases changes

/-- Operations in turn have the same results and leave the same, whichever of them are blind, if the
store is the one in memory or holds no record that is in the way of what the blind ones write. -/
theorem attempt_blind_eq_of_holds {s : Surroundings} (holds : ∃ records, s.store.Holds records)
    (attempts : List Attempt)
    (fits : s.store.backend = .database → ∀ place (inside : place < attempts.length),
      attempts[place].blind = true → ∀ records,
        (s.attempt (fun _ => false) (attempts.take place)).2.store.listing = .ok records →
          ∀ c ∈ records, attempts[place].operation.FitsBeside c) :
    s.attempt Attempt.blind attempts = s.attempt (fun _ => false) attempts := by
  induction attempts generalizing s with
  | nil => rfl
  | cons attempt rest ih =>
      obtain ⟨records, holds⟩ := holds
      have here (blind : attempt.blind = true) :
          s.store.Demands (∀ c ∈ records, attempt.operation.FitsBeside c) :=
        .of_database fun database =>
          fits database 0 (Nat.succ_pos _) blind records (Store.listing_eq_ok holds)
      have first := run_operation_blind holds attempt.changes here attempt.now
      obtain ⟨kept, held, -⟩ :=
        Surroundings.exists_holds_carryOut holds attempt.operation attempt.now
      have same := s.backend_carryOut attempt.operation attempt.now
      have later := ih ⟨kept, held⟩ fun database place inside =>
        fits (same ▸ database) (place + 1) (Nat.succ_lt_succ inside)
      simp only [Surroundings.attempt, first, run_operation_sighted, later]

/-! ## Numbers that are kept -/

/-- The numbers of the versions that a store has under an id, in no order. -/
def Store.numbersOf (store : Store) (id : Uuid) : List Int :=
  match store with
  | .memory world => (byId world.contents id).elim [] fun c => c.versions.map (·.number)
  | .database tables => (tables.versions.filter (·.contentId == id)).map (·.number)

theorem Store.Holds.numbersOf_eq {store : Store} (holds : store.Holds records) {c : Content}
    (member : c ∈ records) : store.numbersOf c.id = c.versions.map (·.number) := by
  have distinct := holds.distinct
  cases store with
  | memory world =>
      obtain ⟨-, rfl⟩ := holds
      have found : byId world.contents c.id = some c :=
        (byId_eq_some_iff distinct).mpr ⟨member, rfl⟩
      change (byId world.contents c.id).elim [] _ = _
      rw [found]
      rfl
  | database tables =>
      have logs := Sql.Tables.Holds.logs holds c member
      change (tables.versions.filter (·.contentId == c.id)).map _ = _
      rw [logs, List.map_map]
      rfl

/-- No record is in the way of an update if the numbers under its id have room for another. -/
theorem fitsBeside_update {store : Store} {id : Uuid} (held : ∃ kept, store.Holds kept)
    (numbers : ∀ number ∈ store.numbersOf id, number < 2 ^ 31 - 1) (submission : Submission)
    (actor : String) (listed : store.listing = .ok records) :
    ∀ c ∈ records, (Operation.update id submission actor).FitsBeside c := by
  rintro c member rfl v logged
  obtain ⟨kept, holds⟩ := held
  obtain rfl := Except.ok.inj ((Store.listing_eq_ok holds).symm.trans listed)
  rw [holds.numbersOf_eq member] at numbers
  exact numbers v.number (List.mem_map_of_mem logged)

/-! ## In the service -/

namespace Service

variable {Client : Type} [DecidableEq Client]

/-- **Lost races.** In whatever surroundings clients have brought about, operations that change
content records have the same results, make the same announcements and leave the same, whichever of
them overlook the owners of their slugs. That holds of the store in memory without exception. It
holds of the database if each blind creation has an id that no record has, and each blind update is
one of a record none of whose versions has the greatest number yet. -/
theorem attempt_blind_eq (events : List (Event Client)) (attempts : List Attempt) :
    let memory := (run .memory events).surroundings
    let database := (run .database events).surroundings
    memory.attempt Attempt.blind attempts = memory.attempt (fun _ => false) attempts ∧
      ((∀ place (inside : place < attempts.length), attempts[place].blind = true → ∀ records,
        (database.attempt (fun _ => false) (attempts.take place)).2.store.listing = .ok records →
          ∀ c ∈ records, attempts[place].operation.FitsBeside c) →
      database.attempt Attempt.blind attempts =
        database.attempt (fun _ => false) attempts) := by
  have holds (backend : Backend) := (sound_run backend events).surroundings.records
  refine ⟨attempt_blind_eq_of_holds (holds .memory) attempts fun database => ?_,
    fun fits => attempt_blind_eq_of_holds (holds .database) attempts fun _ => fits⟩
  rw [backend_run] at database
  cases database

theorem exists_apart_run_attempt (backend : Backend) (events : List (Event Client))
    (attempts : List Attempt) :
    let after := ((run backend events).surroundings.attempt (fun _ => false) attempts).2
    ∃ records, after.store.Holds records ∧ records.Pairwise Apart ∧
      after.store.backend = backend := by
  obtain ⟨records, holds, apart⟩ := exists_apart_run backend events
  obtain ⟨kept, held, still, kind⟩ := Surroundings.exists_apart_attempt holds apart attempts
  exact ⟨kept, held, still, kind.trans (backend_run backend events)⟩

/-- Two records are added. Then a third one and an update of the second ask for the slug of the
first, and both are blind. -/
def blindClashes : List Attempt :=
  [⟨.create (.ofNat 1) (note "sets") "ada", rfl, dawn, false⟩,
    ⟨.create (.ofNat 2) (note "lists") "ben", rfl, dawn, true⟩,
    ⟨.create (.ofNat 3) (note "sets") "ben", rfl, dawn, true⟩,
    ⟨.update (.ofNat 2) (note "sets") "ben", rfl, dawn, true⟩]

/-- The database after the first of these operations. -/
def afterClashes (count : Nat) : Surroundings :=
  ((run .database ([] : List (Event Unit))).surroundings.attempt (fun _ => false)
    (blindClashes.take count)).2

theorem exists_holds_clashes (count : Nat) : ∃ kept, (afterClashes count).store.Holds kept := by
  obtain ⟨kept, holds, -⟩ := exists_apart_run_attempt .database ([] : List (Event Unit))
    (blindClashes.take count)
  exact ⟨kept, holds⟩

theorem fitsBeside_clashes : ∀ place (inside : place < blindClashes.length),
    blindClashes[place].blind = true → ∀ records,
      (afterClashes place).store.listing = .ok records →
        ∀ c ∈ records, blindClashes[place].operation.FitsBeside c := by
  intro place inside blind records listed
  have few : place < 4 := inside
  obtain rfl | rfl | rfl | rfl : place = 0 ∨ place = 1 ∨ place = 2 ∨ place = 3 := by omega
  · cases blind
  · have free : ∀ c ∈ (afterClashes 1).store.listing.toOption.getD [], c.id ≠ .ofNat 2 := by
      decide +kernel
    rw [listed] at free
    exact free
  · have free : ∀ c ∈ (afterClashes 2).store.listing.toOption.getD [], c.id ≠ .ofNat 3 := by
      decide +kernel
    rw [listed] at free
    exact free
  · have numbers : ∀ number ∈ (afterClashes 3).store.numbersOf (.ofNat 2), number < 2 ^ 31 - 1 := by
      decide +kernel
    exact fitsBeside_update (exists_holds_clashes 3) numbers (note "sets") "ben" listed

theorem attempt_blind_eq_clashes :
    let s := (run .database ([] : List (Event Unit))).surroundings
    (∀ place (inside : place < blindClashes.length), blindClashes[place].blind = true →
      ∀ records,
        (s.attempt (fun _ => false) (blindClashes.take place)).2.store.listing = .ok records →
          ∀ c ∈ records, blindClashes[place].operation.FitsBeside c) ∧
      s.attempt Attempt.blind blindClashes = s.attempt (fun _ => false) blindClashes ∧
      (s.attempt Attempt.blind blindClashes).1.map (fun answer => answer.result.toOption.isSome) =
        [true, true, false, false] := by
  intro s
  obtain ⟨-, same⟩ := attempt_blind_eq ([] : List (Event Unit)) blindClashes
  refine ⟨fitsBeside_clashes, same fitsBeside_clashes, ?_⟩
  rw [same fitsBeside_clashes]
  decide +kernel

/-! ## A record with the greatest number -/

/-- Two records are in the database, one of which has been restored a number of times. -/
structure Restored (s : Surroundings) (count : Nat) : Prop where
  backend : s.store.backend = .database
  records : ∃ records, s.store.Holds records ∧ records.Pairwise Apart ∧
    (∃ c, byId records (.ofNat 1) = some c ∧ Gapless c.versions ∧
      c.versions.length = count + 1) ∧
    ∃ d ∈ records, d.id ≠ .ofNat 1 ∧ d.live.slug = "lists"

-- Where the run begins is a variable, so that nothing computes what its store holds.
theorem restored_zero {attempts : List Attempt} {s : Surroundings}
    (begins : s = (run .database ([] : List (Event Unit))).surroundings)
    (first : ∃ c ∈ (s.attempt (fun _ => false) attempts).2.store.listing.toOption.getD [],
      c.id = .ofNat 1)
    (second : ∃ d ∈ (s.attempt (fun _ => false) attempts).2.store.listing.toOption.getD [],
      d.id ≠ .ofNat 1 ∧ d.live.slug = "lists")
    (numbers : (s.attempt (fun _ => false) attempts).2.store.numbersOf (.ofNat 1) = [1]) :
    Restored (s.attempt (fun _ => false) attempts).2 0 := by
  subst begins
  obtain ⟨records, holds, apart, backend⟩ :=
    exists_apart_run_attempt .database ([] : List (Event Unit)) attempts
  rw [Store.listing_eq_ok holds] at first second
  obtain ⟨c, member, own⟩ := first
  rw [← own, holds.numbersOf_eq member] at numbers
  have length := congrArg List.length numbers
  rw [List.length_map] at length
  refine ⟨backend, records, holds, apart,
    ⟨c, (byId_eq_some_iff holds.distinct).mpr ⟨member, own⟩, ?_, length⟩, second⟩
  unfold Gapless
  rw [numbers, length]
  rfl

/-- As long as there is a number for it, the record can be restored once more. -/
theorem Restored.restore {s : Surroundings} {count : Nat} (restored : Restored s count)
    (room : count + 2 < 2 ^ 31) :
    Restored (s.carryOut (.restore (.ofNat 1) 1 "ben") dawn).2 (count + 1) := by
  let restore : Operation Content := .restore (.ofNat 1) 1 "ben"
  have works : restore.record? = some (.ofNat 1) := rfl
  obtain ⟨backend, records, holds, apart, ⟨c, found, gapless, length⟩, d, member, other, slug⟩ :=
    restored
  obtain ⟨kept, held, still, becomes⟩ := exists_carryOut holds apart works dawn
  obtain ⟨v, inside, first⟩ := gapless.exists_number_eq (le_refl 1) (by omega)
  have next := nextNumber_of_gapless gapless
  have wanted : c.wanted (.restore 1 "ben") = .ok (c.restored v) :=
    Content.wanted_restore_eq_ok_iff.mpr ⟨v, first ▸ Content.version?_of_mem gapless inside, rfl⟩
  have asked := Content.editionOf_eq_ok_iff.mpr ⟨wanted, by omega⟩
  let changed := c.write (c.restored v) "ben" (s.store.backend.time dawn)
  have left : remains (byId records (.ofNat 1))
      (Operation.verdictAmong s.store.backend dawn records works) = some changed := by
    change remains (byId records (.ofNat 1)) (Verdict.restore _ dawn (.ofNat 1)
      (byId records (.ofNat 1)) 1 "ben") = _
    rw [found]
    change remains (some c) ((c.editionOf (.restore 1 "ben")).map _) = _
    rw [asked]
    rfl
  rw [left] at becomes
  refine ⟨(s.backend_carryOut restore dawn).trans backend, kept, held, still,
    ⟨changed, by rw [becomes, Function.update_self], gapless.append next, ?_⟩, d, ?_, other, slug⟩
  · change (c.versions ++ [_]).length = _
    rw [List.length_append, length]
    rfl
  · rw [mem_iff_byId held.distinct, becomes, Function.update_of_ne other]
    exact (mem_iff_byId holds.distinct).mp member

/-- Two records are added. -/
def additions : List Attempt :=
  [⟨.create (.ofNat 1) (note "sets") "ada", rfl, dawn, false⟩,
    ⟨.create (.ofNat 2) (note "lists") "ben", rfl, dawn, false⟩]

/-- The first of two records is restored a number of times. -/
def restorations (count : Nat) : List Attempt :=
  additions ++ List.replicate count ⟨.restore (.ofNat 1) 1 "ben", rfl, dawn, false⟩

/-- The record can be restored until its newest version has the greatest number. -/
theorem restored_attempt (count : Nat) (few : count + 1 < 2 ^ 31) :
    Restored ((run .database ([] : List (Event Unit))).surroundings.attempt (fun _ => false)
      (restorations count)).2 count := by
  induction count with
  | zero =>
      exact restored_zero rfl (by decide +kernel) (by decide +kernel) (by decide +kernel)
  | succ count ih =>
      have more : restorations (count + 1) = restorations count ++
          [⟨.restore (.ofNat 1) 1 "ben", rfl, dawn, false⟩] := by
        unfold restorations
        rw [List.replicate_succ', List.append_assoc]
      rw [more, attempt_concat_sighted]
      exact (ih (by omega)).restore (by omega)

theorem attempt_restorations (s : Surroundings) (count : Nat) :
    s.attempt Attempt.blind (restorations count) =
      s.attempt (fun _ => false) (restorations count) := by
  refine Surroundings.attempt_congr (fun attempt member => ?_) s
  rcases List.mem_append.mp member with early | late
  · rcases List.mem_pair.mp early with rfl | rfl <;> rfl
  · rw [List.eq_of_mem_replicate late]

/-- The first record is to get the slug of the second, which is overlooked. -/
def blindMove : Attempt :=
  ⟨.update (.ofNat 1) (note "lists") "ben", rfl, dawn, true⟩

/-- That is a conflict, unless the owner is overlooked: there is no number for another version, and
the database does not look at the slug. -/
theorem Restored.run_blindMove {s : Surroundings} {count : Nat} (restored : Restored s count)
    (full : count + 2 = 2 ^ 31) (blind : Bool) :
    (⟨(Program.run (answerTo blind) (blindMove.operation.call blindMove.now) s).1⟩ : Answer) =
      ⟨(.error (if blind then .overflow else .slugTaken "lists") : Except Failure Content)⟩ := by
  change (⟨(Program.run (answerTo blind)
    (Contents.update (.ofNat 1) dawn (note "lists") "ben") s).1⟩ : Answer) = _
  obtain ⟨backend, records, holds, apart, ⟨c, found, gapless, length⟩, d, member, other, slug⟩ :=
    restored
  have next := nextNumber_of_gapless gapless
  let edition : Edition := (note "lists").edition .published
  have accepted : (note "lists").validate = .ok edition := by decide +kernel
  have got := answerTo_get holds blind (.ofNat 1)
  rw [show records.find? (·.id == .ofNat 1) = some c from found] at got
  cases blind with
  | false =>
      have looked := answerTo_slugOwner holds edition.slug
      have owner := find?_slug apart member
      rw [slug] at owner
      rw [show records.find? (·.live.slug == edition.slug) = some d from owner] at looked
      rw [Contents.run_update_taken accepted got looked other]
      rfl
  | true =>
      have overlooked : s.answerTo true (.content (.slugOwner edition.slug)) = (.ok none, s) := rfl
      have nobody : ∀ holder ∈ (none : Option Uuid), holder = .ofNat 1 :=
        fun _ absent => nomatch absent
      have failed : c.apply (.write edition "ben") dawn = .error .overflow :=
        Content.apply_eq_error_iff.mpr
          (Content.editionOf_eq_error_iff.mpr (.inr ⟨⟨edition, rfl⟩, by omega, rfl⟩))
      have refused : s.store.answer .none (.apply (.ofNat 1) (.write edition "ben") dawn) =
          (.error .overflow, s.store) :=
        Store.answer_apply_failed_of_database holds backend found failed
      have writes : (Action.content (.apply (.ofNat 1) (.write edition "ben") dawn)).NotOwner :=
        trivial
      rw [Contents.run_update accepted got overlooked nobody, Contents.run_change,
        Surroundings.answerTo_of_notOwner writes, Surroundings.answer_fine refused]
      rfl

/-- What the move is answered after all numbers have been used up. -/
theorem attempt_concat_blindMove {count : Nat} (full : count + 2 = 2 ^ 31) (blind : Attempt → Bool)
    {s : Surroundings} (restored : Restored (s.attempt blind (restorations count)).2 count) :
    (s.attempt blind (restorations count ++ [blindMove])).1 =
      (s.attempt blind (restorations count)).1 ++
        [⟨(.error (if blind blindMove then .overflow else .slugTaken "lists") :
          Except Failure Content)⟩] := by
  rw [Surroundings.attempt_concat, ← restored.run_blindMove full (blind blindMove)]

/-- The newest version has the greatest number. -/
theorem Restored.exists_greatest {s : Surroundings} {count : Nat} (restored : Restored s count)
    (full : count + 2 = 2 ^ 31) :
    ∃ records, s.store.listing = .ok records ∧
      ∃ c ∈ records, c.id = .ofNat 1 ∧ ∃ v ∈ c.versions, v.number = 2147483647 := by
  obtain ⟨-, records, holds, -, ⟨c, found, gapless, length⟩, -⟩ := restored
  obtain ⟨member, own⟩ := (byId_eq_some_iff holds.distinct).mp found
  refine ⟨records, Store.listing_eq_ok holds, c, member, own, ?_⟩
  exact gapless.exists_number_eq (by omega) (by omega)

/-- What the move is answered by the database once all numbers have been used up. -/
theorem attempt_after_restorations {s : Surroundings}
    (begins : s = (run .database ([] : List (Event Unit))).surroundings) {count : Nat}
    (full : count + 2 = 2 ^ 31) :
    (∃ records, (s.attempt Attempt.blind (restorations count)).2.store.listing = .ok records ∧
      ∃ c ∈ records, c.id = .ofNat 1 ∧ ∃ v ∈ c.versions, v.number = 2147483647) ∧
    (s.attempt Attempt.blind (restorations count ++ [blindMove])).1 =
      (s.attempt Attempt.blind (restorations count)).1 ++
        [⟨(.error .overflow : Except Failure Content)⟩] ∧
    (s.attempt (fun _ => false) (restorations count ++ [blindMove])).1 =
      (s.attempt Attempt.blind (restorations count)).1 ++
        [⟨(.error (.slugTaken "lists") : Except Failure Content)⟩] := by
  have restored : Restored (s.attempt (fun _ => false) (restorations count)).2 count :=
    begins ▸ restored_attempt count (by omega)
  have sighted := attempt_restorations s count
  have ends := attempt_concat_blindMove full (fun _ => false) restored
  rw [← sighted] at ends restored
  exact ⟨restored.exists_greatest full, attempt_concat_blindMove full Attempt.blind restored, ends⟩

/-- A record is restored until its newest version has the number 2147483647. When it is then to get
the slug of another record, that is a conflict; but if the owner of the slug is overlooked, then the
database runs out of numbers before it looks at the slug. -/
theorem attempt_blind_ne_at_greatest_number :
    let s := (run .database ([] : List (Event Unit))).surroundings
    let before := restorations 2147483646
    ((∃ records, (s.attempt Attempt.blind before).2.store.listing = .ok records ∧
        ∃ c ∈ records, c.id = .ofNat 1 ∧ ∃ v ∈ c.versions, v.number = 2147483647) ∧
      (s.attempt Attempt.blind (before ++ [blindMove])).1 =
        (s.attempt Attempt.blind before).1 ++ [⟨(.error .overflow : Except Failure Content)⟩] ∧
      (s.attempt (fun _ => false) (before ++ [blindMove])).1 =
        (s.attempt Attempt.blind before).1 ++
          [⟨(.error (.slugTaken "lists") : Except Failure Content)⟩]) ∧
    s.attempt Attempt.blind (before ++ [blindMove]) ≠
      s.attempt (fun _ => false) (before ++ [blindMove]) := by
  have full : 2147483646 + 2 = 2 ^ 31 := by decide
  have answers := attempt_after_restorations rfl full
  refine ⟨answers, fun same => ?_⟩
  have both := answers.2.1.symm.trans ((congrArg Prod.fst same).trans answers.2.2)
  cases List.singleton_inj.mp (List.append_cancel_left both)

end Service

end ContentService
