import ContentService.Proofs.Content.Runs
import ContentService.Proofs.Service
import ContentService.Proofs.Store.Faultless

/-! # Verdicts

What an operation that changes a content record comes to, if nothing goes wrong: a failure, or its
result and the record afterwards. This depends on the record with its id and on the slugs that other
records have, and on nothing else. Other records stay as they were.
-/

namespace ContentService

variable {α β : Type}

/-! ## Records by id -/

/-- The record with an id. -/
def byId (records : List Content) : Uuid → Option Content :=
  fun id => records.find? (·.id == id)

section ById

variable {records kept : List Content} {id : Uuid} {c : Content}

theorem byId_eq_some_iff (distinct : (records.map (·.id)).Nodup) :
    byId records id = some c ↔ c ∈ records ∧ c.id = id := by
  constructor
  · intro found
    exact mem_and_key_of_find? found
  · rintro ⟨member, rfl⟩
    cases found : byId records c.id with
    | none => exact absurd (beq_self_eq_true c.id) (List.find?_eq_none.mp found c member)
    | some d =>
        obtain ⟨present, same⟩ := mem_and_key_of_find? found
        rw [List.inj_on_of_nodup_map distinct present member same]

theorem mem_iff_byId (distinct : (records.map (·.id)).Nodup) :
    c ∈ records ↔ byId records c.id = some c := by
  rw [byId_eq_some_iff distinct, and_iff_left rfl]

/-- Records that are found alike by id are the same records. -/
theorem perm_of_byId_eq (distinct : (records.map (·.id)).Nodup)
    (keptDistinct : (kept.map (·.id)).Nodup) (same : byId kept = byId records) :
    kept.Perm records := by
  refine (List.perm_ext_iff_of_nodup keptDistinct.of_map distinct.of_map).mpr fun c => ?_
  rw [mem_iff_byId keptDistinct, mem_iff_byId distinct, same]

theorem mem_others {d : Content} : d ∈ others id records ↔ d ∈ records ∧ d.id ≠ id := by
  unfold others
  rw [List.mem_filter, decide_eq_true_iff]

theorem byId_others (distinct : (records.map (·.id)).Nodup) (id : Uuid) :
    byId (others id records) = Function.update (byId records) id none := by
  have rest : ((others id records).map (·.id)).Nodup :=
    distinct.sublist (List.filter_sublist.map _)
  funext other
  ext d
  rw [byId_eq_some_iff rest, mem_others]
  by_cases same : other = id
  · subst same
    rw [Function.update_self]
    exact ⟨fun both => absurd both.2 both.1.2, fun absent => nomatch absent⟩
  · rw [Function.update_of_ne same, byId_eq_some_iff distinct]
    exact ⟨fun both => ⟨both.1.1, both.2⟩, fun both => ⟨⟨both.1, both.2 ▸ same⟩, both.2⟩⟩

/-- A record beside the others takes the place of the one with its id. -/
theorem byId_of_perm (distinct : (records.map (·.id)).Nodup)
    (keptDistinct : (kept.map (·.id)).Nodup) (arranged : kept.Perm (c :: others c.id records)) :
    byId kept = Function.update (byId records) c.id (some c) := by
  funext other
  ext d
  rw [byId_eq_some_iff keptDistinct, arranged.mem_iff, List.mem_cons, mem_others]
  by_cases same : other = c.id
  · subst same
    rw [Function.update_self, Option.some_inj]
    constructor
    · rintro ⟨rfl | ⟨-, differs⟩, equal⟩
      · rfl
      · exact absurd equal differs
    · rintro rfl
      exact ⟨.inl rfl, rfl⟩
  · rw [Function.update_of_ne same, byId_eq_some_iff distinct]
    constructor
    · rintro ⟨rfl | ⟨member, -⟩, rfl⟩
      · exact absurd rfl same
      · exact ⟨member, rfl⟩
    · rintro ⟨member, rfl⟩
      exact ⟨.inr ⟨member, same⟩, rfl⟩

end ById

/-! ## Verdicts -/

/-- What is kept of a record after a verdict, which is what there was if that is a failure. -/
def remains (own : Option Content) : Except Failure (α × Option Content) → Option Content
  | .ok (_, left) => left
  | .error _ => own

/-- The verdict on a submission, given that on the edition that it describes. -/
def Submission.verdict (submission : Submission) (next : Edition → Except Failure β) :
    Except Failure β :=
  match submission.validate with
  | .error problems => .error (.validation problems)
  | .ok edition => next edition

/-- The slug of the edition that a submission describes. -/
def Submission.slug? (submission : Submission) : Option String :=
  submission.validate.toOption.map (·.slug)

section Submission

variable {submission : Submission} {next : Edition → Except Failure β}

theorem Submission.verdict_of_invalid {problems : FieldErrors}
    (refused : submission.validate = .error problems) :
    submission.verdict next = .error (.validation problems) := by
  unfold verdict
  rw [refused]

theorem Submission.verdict_of_valid {edition : Edition}
    (accepted : submission.validate = .ok edition) : submission.verdict next = next edition := by
  unfold verdict
  rw [accepted]

theorem Submission.slug?_of_valid {edition : Edition}
    (accepted : submission.validate = .ok edition) : submission.slug? = some edition.slug := by
  unfold slug?
  rw [accepted]
  rfl

end Submission

namespace Verdict

variable (backend : Backend) (now : Instant) (id : Uuid) (own : Option Content)
  (held : String → Bool)

/-- The new record, and what is kept of it. -/
def added (edition : Edition) (actor : String) : Except Failure (Content × Option Content) :=
  match backend.insertFault? own with
  | some fault => .error (.database fault)
  | none =>
    .ok (.initial id edition actor now, some (.initial id edition actor (backend.time now)))

/-- A record after a change, and what is kept of it. -/
def rewritten (old : Content) (change : Change) : Except Failure (Content × Option Content) :=
  (old.editionOf change).map fun edition =>
    (old.write edition change.actor now,
      some (old.write edition change.actor (backend.time now)))

/-- A creation needs a slug that no record holds. -/
def create (submission : Submission) (actor : String) :
    Except Failure (Content × Option Content) :=
  submission.verdict fun edition =>
    if held edition.slug || own.any (·.live.slug == edition.slug) then
      .error (.slugTaken edition.slug)
    else added backend now id own edition actor

/-- An update needs the record, and a slug that no other record holds. -/
def update (submission : Submission) (actor : String) :
    Except Failure (Content × Option Content) :=
  submission.verdict fun edition =>
    match own with
    | none => .error (.contentNotFound id)
    | some old =>
      if held edition.slug then .error (.slugTaken edition.slug)
      else rewritten backend now old (.write edition actor)

/-- A restoration needs the record, and the version in its log. -/
def restore (number : Int) (actor : String) : Except Failure (Content × Option Content) :=
  match own with
  | none => .error (.contentNotFound id)
  | some old => rewritten backend now old (.restore number actor)

/-- A deletion needs the record. -/
def delete : Except Failure (Unit × Option Content) :=
  match own with
  | none => .error (.contentNotFound id)
  | some _ => .ok ((), none)

end Verdict

namespace Operation

/-- The record that an operation is to change. -/
def record? : Operation α → Option Uuid
  | create id .. | update id .. | restore id .. | delete id => some id
  | _ => none

/-- The slug that an operation asks for. -/
def newSlug? : Operation α → Option String
  | create _ submission _ | update _ submission _ => submission.slug?
  | _ => none

/-- What an operation comes to, given the record with its id and the slugs that others hold: a
failure, or its result and what is then kept under the id. -/
def verdict (backend : Backend) (now : Instant) (id : Uuid) (own : Option Content)
    (held : String → Bool) : (operation : Operation α) → operation.record? = some id →
    Except Failure (α × Option Content)
  | create _ submission actor, _ => Verdict.create backend now id own held submission actor
  | update _ submission actor, _ => Verdict.update backend now id own held submission actor
  | restore _ number actor, _ => Verdict.restore backend now id own number actor
  | delete _, _ => Verdict.delete id own
  | get _, absent | versions _, absent | version .., absent | slugExists _, absent
  | query .., absent | upload .., absent | deleteMedia _, absent | queryMedia .., absent =>
    nomatch absent

/-- What an operation comes to among records. -/
def verdictAmong (backend : Backend) (now : Instant) (records : List Content) {id : Uuid}
    {operation : Operation α} (works : operation.record? = some id) :
    Except Failure (α × Option Content) :=
  operation.verdict backend now id (byId records id) (Memory.slugHeldByOther records · id) works

end Operation

/-! ## Operations come to their verdicts -/

/-- What has ended fulfils a verdict: it has the result of that, and the store keeps what that
leaves under the id, and what it kept under all others. -/
structure Fulfils (records : List Content) (id : Uuid)
    (verdict : Except Failure (α × Option Content)) (ended : Except Failure α × Surroundings) :
    Prop where
  result : ended.1 = verdict.map Prod.fst
  kept : ∃ kept, ended.2.store.Holds kept ∧
    byId kept = Function.update (byId records) id (remains (byId records id) verdict)

section Fulfils

open Surroundings (answer answer_fine)
open Contents (change)

variable {s : Surroundings} {records : List Content} {id : Uuid} (holds : s.store.Holds records)

include holds in
theorem Fulfils.error (failure : Failure) :
    Fulfils records id (.error failure : Except Failure (α × Option Content))
      (.error failure, s) :=
  ⟨rfl, records, holds, (Function.update_eq_self id (byId records)).symm⟩

include holds in
theorem fulfils_change_refused {request : ContentRequest α} {failure : Failure}
    (refused : s.store.answer .none request = (.error failure, s.store)) (result : α → β) :
    Fulfils records id (.error failure : Except Failure (β × Option Content))
      (Program.run (answer .fine) (change request result) s) := by
  rw [Contents.run_change, answer_fine refused]
  exact .error holds failure

theorem fulfils_change {request : ContentRequest α} {a : α} {after : Store} {kept : List Content}
    {own : Option Content} (answered : s.store.answer .none request = (.ok a, after))
    (held : after.Holds kept) (becomes : byId kept = Function.update (byId records) id own)
    (result : α → β) :
    Fulfils records id (.ok (result a, own))
      (Program.run (answer .fine) (change request result) s) := by
  rw [Contents.run_change, answer_fine answered]
  exact ⟨rfl, kept, held, becomes⟩

include holds

/-- A new record is added if no record holds its slug. -/
theorem fulfils_insert {edition : Edition} (free : ∀ c ∈ records, c.live.slug ≠ edition.slug)
    (actor : String) (now : Instant) :
    Fulfils records id (Verdict.added s.store.backend now id (byId records id) edition actor)
      (Program.run (answer .fine) (change (.insert (.initial id edition actor now))
        fun _ => Content.initial id edition actor now) s) := by
  unfold Verdict.added
  cases fits : s.store.backend.insertFault? (byId records id) with
  | some fault => exact fulfils_change_refused holds (Store.answer_insert_refused holds fits) _
  | none =>
      obtain ⟨after, kept, answered, held, arranged⟩ :=
        Store.answer_insert holds (Store.demands_fresh fits) free actor now
      have becomes := byId_of_perm holds.distinct held.distinct arranged
      exact fulfils_change answered held becomes fun _ => Content.initial id edition actor now

/-- A record is changed if no other record holds the slug that is asked for. -/
theorem fulfils_apply (apart : records.Pairwise Apart) {old : Content}
    (found : byId records id = some old) {change : Change}
    (free : ∀ slug, Memory.slugWanted? change = some slug →
      ∀ c ∈ records, c.id ≠ id → c.live.slug ≠ slug) (now : Instant) :
    Fulfils records id (Verdict.rewritten s.store.backend now old change)
      (Program.run (answer .fine) (Contents.change (.apply id change now) fun c => c) s) := by
  unfold Verdict.rewritten
  cases asked : old.editionOf change with
  | error failure =>
      exact fulfils_change_refused holds (Store.answer_apply_failed holds found free asked now) _
  | ok edition =>
      obtain ⟨member, rfl⟩ := (byId_eq_some_iff holds.distinct).mp found
      have unheld := free_of_editionOf apart member asked free
      obtain ⟨after, kept, answered, held, arranged⟩ :=
        Store.answer_apply holds found asked unheld now
      have becomes := byId_of_perm holds.distinct held.distinct arranged
      exact fulfils_change answered held becomes fun c => c

omit holds in
theorem find?_slug (apart : records.Pairwise Apart) {c : Content} (member : c ∈ records) :
    records.find? (·.live.slug == c.live.slug) = some c := by
  cases found : records.find? (·.live.slug == c.live.slug) with
  | none => exact absurd (beq_self_eq_true c.live.slug) (List.find?_eq_none.mp found c member)
  | some d =>
      obtain ⟨present, same⟩ := mem_and_key_of_find? found
      by_contra differs
      have unequal : d ≠ c := fun equal => differs (congrArg some equal)
      exact (apart.forall present member unequal).2 same

/-- A slug is held by another record or by the one with the id, or by none. -/
theorem slugHeld_iff (id : Uuid) (slug : String) :
    (Memory.slugHeldByOther records slug id || (byId records id).any (·.live.slug == slug)) = true ↔
      ∃ c ∈ records, c.live.slug = slug := by
  rw [Bool.or_eq_true_iff, Memory.slugHeldByOther_iff, Option.any_eq_true]
  constructor
  · rintro (⟨c, member, -, same⟩ | ⟨c, own, same⟩)
    · exact ⟨c, member, same⟩
    · exact ⟨c, ((byId_eq_some_iff holds.distinct).mp own).1, beq_iff_eq.mp same⟩
  · rintro ⟨c, member, same⟩
    by_cases own : c.id = id
    · exact .inr ⟨c, (byId_eq_some_iff holds.distinct).mpr ⟨member, own⟩, beq_iff_eq.mpr same⟩
    · exact .inl ⟨c, member, own, same⟩

theorem fulfils_create (now : Instant) (submission : Submission) (actor : String) :
    Fulfils records id
      (Verdict.create s.store.backend now id (byId records id)
        (Memory.slugHeldByOther records · id) submission actor)
      (Program.run (answer .fine) (Contents.create id now submission actor) s) := by
  unfold Verdict.create
  cases accepted : submission.validate with
  | error problems =>
      rw [Contents.run_create_invalid accepted, Submission.verdict_of_invalid accepted]
      exact .error holds _
  | ok edition =>
      have looked := answer_fine (Store.answer_slugOwner holds edition.slug)
      rw [Submission.verdict_of_valid accepted]
      dsimp only
      cases found : records.find? (·.live.slug == edition.slug) with
      | some holder =>
          rw [found] at looked
          have taken := (slugHeld_iff holds id edition.slug).mpr
            ⟨holder, mem_and_key_of_find? found⟩
          rw [Contents.run_create_taken accepted looked, if_pos taken]
          exact .error holds _
      | none =>
          rw [found] at looked
          have free : ∀ c ∈ records, c.live.slug ≠ edition.slug := fun c member same =>
            List.find?_eq_none.mp found c member (beq_iff_eq.mpr same)
          have untaken := mt (slugHeld_iff holds id edition.slug).mp fun held =>
            held.elim fun c both => free c both.1 both.2
          rw [Contents.run_create accepted looked, if_neg untaken]
          exact fulfils_insert holds free actor now

theorem fulfils_update (apart : records.Pairwise Apart) (now : Instant) (submission : Submission)
    (actor : String) :
    Fulfils records id
      (Verdict.update s.store.backend now id (byId records id)
        (Memory.slugHeldByOther records · id) submission actor)
      (Program.run (answer .fine) (Contents.update id now submission actor) s) := by
  unfold Verdict.update
  cases accepted : submission.validate with
  | error problems =>
      rw [Contents.run_update_invalid accepted, Submission.verdict_of_invalid accepted]
      exact .error holds _
  | ok edition =>
      have got := answer_fine (Store.answer_get holds id)
      have looked := answer_fine (Store.answer_slugOwner holds edition.slug)
      rw [Submission.verdict_of_valid accepted]
      cases present : byId records id with
      | none =>
          rw [show records.find? (·.id == id) = none from present] at got
          rw [Contents.run_update_missing accepted got]
          exact .error holds _
      | some old =>
          rw [show records.find? (·.id == id) = some old from present] at got
          dsimp only
          by_cases taken : Memory.slugHeldByOther records edition.slug id = true
          · obtain ⟨holder, member, differs, same⟩ := Memory.slugHeldByOther_iff.mp taken
            have found := find?_slug apart member
            rw [same] at found
            rw [found] at looked
            rw [Contents.run_update_taken accepted got looked differs, if_pos taken]
            exact .error holds _
          · have free : ∀ c ∈ records, c.id ≠ id → c.live.slug ≠ edition.slug :=
              fun c member differs same =>
                taken (Memory.slugHeldByOther_iff.mpr ⟨c, member, differs, same⟩)
            have unheld : ∀ slug, Memory.slugWanted? (.write edition actor) = some slug →
                ∀ c ∈ records, c.id ≠ id → c.live.slug ≠ slug :=
              fun slug wanted => Option.some.inj wanted ▸ free
            have own : ∀ holder ∈ (records.find? (·.live.slug == edition.slug)).map (·.id),
                holder = id := by
              intro _ looked
              obtain ⟨holder, found, rfl⟩ := Option.map_eq_some_iff.mp looked
              by_contra differs
              obtain ⟨member, same⟩ := mem_and_key_of_find? found
              exact free holder member differs same
            rw [Contents.run_update accepted got looked own, if_neg taken]
            exact fulfils_apply holds apart present unheld now

theorem fulfils_restore (apart : records.Pairwise Apart) (now : Instant) (number : Int)
    (actor : String) :
    Fulfils records id (Verdict.restore s.store.backend now id (byId records id) number actor)
      (Program.run (answer .fine) (Contents.restore id now number actor) s) := by
  unfold Verdict.restore
  rw [Contents.run_restore]
  cases present : byId records id with
  | none => exact fulfils_change_refused holds (Store.answer_restore_missing holds present ..) _
  | some old =>
      have unheld : ∀ slug, Memory.slugWanted? (.restore number actor) = some slug →
          ∀ c ∈ records, c.id ≠ id → c.live.slug ≠ slug := fun _ absent => nomatch absent
      exact fulfils_apply holds apart present unheld now

theorem fulfils_delete :
    Fulfils records id (Verdict.delete id (byId records id))
      (Program.run (answer .fine) (Contents.delete id) s) := by
  obtain ⟨after, answered, held⟩ := Store.answer_delete holds id
  have becomes := byId_others holds.distinct id
  unfold Verdict.delete
  rw [Contents.run_delete (answer_fine answered)]
  cases present : byId records id with
  | none =>
      have absent : ¬ records.any (·.id == id) = true := by
        rw [List.any_eq_true]
        rintro ⟨c, member, same⟩
        exact List.find?_eq_none.mp present c member same
      rw [if_neg absent]
      refine ⟨rfl, _, held, ?_⟩
      change byId _ = Function.update (byId records) id (byId records id)
      rw [present, becomes]
  | some own =>
      obtain ⟨member, same⟩ := (byId_eq_some_iff holds.distinct).mp present
      have found : records.any (·.id == id) = true :=
        List.any_eq_true.mpr ⟨own, member, beq_iff_eq.mpr same⟩
      rw [if_pos found]
      exact ⟨rfl, _, held, becomes⟩

/-- **Verdicts.** An operation that changes a content record comes to its verdict. -/
theorem fulfils_carryOut (apart : records.Pairwise Apart) {operation : Operation α}
    (works : operation.record? = some id) (now : Instant) :
    Fulfils records id (Operation.verdictAmong s.store.backend now records works)
      (s.carryOut operation now) := by
  cases operation with
  | create id submission actor =>
      cases works
      exact fulfils_create holds now submission actor
  | update id submission actor =>
      cases works
      exact fulfils_update holds apart now submission actor
  | restore id number actor =>
      cases works
      exact fulfils_restore holds apart now number actor
  | delete id =>
      cases works
      exact fulfils_delete holds
  | _ => cases works

theorem exists_carryOut (apart : records.Pairwise Apart) {operation : Operation α}
    (works : operation.record? = some id) (now : Instant) :
    ∃ kept, (s.carryOut operation now).2.store.Holds kept ∧ kept.Pairwise Apart ∧
      byId kept = Function.update (byId records) id (remains (byId records id)
        (Operation.verdictAmong s.store.backend now records works)) := by
  obtain ⟨-, kept, held, becomes⟩ := fulfils_carryOut holds apart works now
  obtain ⟨after, alsoHeld, still⟩ := Surroundings.exists_holds_carryOut holds operation now
  obtain rfl := held.eq alsoHeld
  exact ⟨after, held, still apart, becomes⟩

end Fulfils

end ContentService
