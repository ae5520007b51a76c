import ContentService.Proofs.Content.Valid
import ContentService.Proofs.Independence

/-! # Slugs in use

Whether a slug is in use can be asked before a record is written with it. The answer tells what
becomes of a creation, and it changes with what is written and removed
(`ContentService.Service.slugExists_decides`).
-/

namespace ContentService

variable {α : Type} {s : Surroundings} {records kept : List Content} {id : Uuid}
  {own : Option Content} {submission : Submission} {raw slug : String} {now : Instant}

/-! ## Slugs of records -/

/-- One of the records has the slug. -/
def Held (records : List Content) (slug : String) : Prop :=
  ∃ c ∈ records, c.live.slug = slug

/-- After a change of one record, a slug is held by what has become of that or by another record. -/
theorem held_iff_of_becomes (distinct : (records.map (·.id)).Nodup)
    (keptDistinct : (kept.map (·.id)).Nodup)
    (becomes : byId kept = Function.update (byId records) id own) :
    Held kept slug ↔ (∃ c ∈ own, c.live.slug = slug) ∨
      ∃ c ∈ records, c.id ≠ id ∧ c.live.slug = slug := by
  have others {c : Content} (differs : c.id ≠ id) : c ∈ kept ↔ c ∈ records := by
    rw [mem_iff_byId keptDistinct, mem_iff_byId distinct, becomes, Function.update_of_ne differs]
  have changed (c : Content) : c ∈ own ↔ c ∈ kept ∧ c.id = id := by
    rw [← byId_eq_some_iff keptDistinct, becomes, Function.update_self, Option.mem_def]
  constructor
  · rintro ⟨c, member, same⟩
    by_cases here : c.id = id
    · exact .inl ⟨c, (changed c).mpr ⟨member, here⟩, same⟩
    · exact .inr ⟨c, (others here).mp member, here, same⟩
  · rintro (⟨c, member, same⟩ | ⟨c, member, differs, same⟩)
    · exact ⟨c, ((changed c).mp member).1, same⟩
    · exact ⟨c, (others differs).mpr member, same⟩

/-! ## The answer -/

theorem carryOut_slugExists (holds : s.store.Holds records) (raw : String) (now : Instant) :
    s.carryOut (.slugExists raw) now = (.ok (records.any (·.live.slug == Text.trim raw)), s) := by
  have looked := Surroundings.answer_fine (Store.answer_slugOwner holds (Text.trim raw))
  refine (Call.run_performBind _ _ _ _).trans ?_
  rw [looked, ← List.isSome_find?, ← Option.isSome_map]
  rfl

/-- A slug is said to be in use exactly if a record has it, without the white space around it. -/
theorem slugExists_eq_ok_iff (holds : s.store.Holds records) {b : Bool} :
    (s.carryOut (.slugExists raw) now).1 = .ok b ↔ (b = true ↔ Held records (Text.trim raw)) := by
  rw [carryOut_slugExists holds, Except.ok.injEq, Bool.eq_iff_iff, List.any_eq_true]
  simp only [beq_iff_eq, Held]
  exact iff_comm

section After

variable (holds : s.store.Holds records) (apart : records.Pairwise Apart)

include holds apart

/-- After an operation on a record, a slug is said to be in use exactly if the record then has it,
or another one had it before. -/
theorem slugExists_carryOut_iff {operation : Operation α} (works : operation.record? = some id)
    (later : Instant) {b : Bool} :
    (((s.carryOut operation now).2).carryOut (.slugExists raw) later).1 = .ok b ↔
      (b = true ↔
        (∃ c ∈ remains (byId records id)
          (Operation.verdictAmong s.store.backend now records works),
            c.live.slug = Text.trim raw) ∨
        ∃ c ∈ records, c.id ≠ id ∧ c.live.slug = Text.trim raw) := by
  obtain ⟨kept, held, -, becomes⟩ := exists_carryOut holds apart works now
  rw [slugExists_eq_ok_iff held, held_iff_of_becomes holds.distinct held.distinct becomes]

theorem exists_verdict_of_ok {operation : Operation α} (works : operation.record? = some id) {a : α}
    (succeeded : (s.carryOut operation now).1 = .ok a) :
    ∃ left, Operation.verdictAmong s.store.backend now records works = .ok (a, left) := by
  have result := (fulfils_carryOut holds apart works now).result
  rw [succeeded] at result
  cases verdict : Operation.verdictAmong s.store.backend now records works with
  | error failure =>
      rw [verdict] at result
      cases result
  | ok done =>
      rw [verdict] at result
      cases result
      exact ⟨done.2, rfl⟩

end After

/-! ## Submissions that succeed -/

namespace Verdict

variable {backend : Backend} {held : String → Bool} {edition : Edition} {actor : String}
  {c : Content} {left : Option Content}

/-- The record that a creation adds has the slug of the submission. -/
theorem slug_of_create (accepted : submission.validate = .ok edition)
    (done : create backend now id own held submission actor = .ok (c, left)) :
    ∃ d, left = some d ∧ d.live.slug = edition.slug := by
  rw [create, Submission.verdict_of_valid accepted] at done
  split at done
  case isTrue => cases done
  case isFalse =>
    unfold added at done
    cases fits : backend.insertFault? own with
    | some fault =>
        rw [fits] at done
        cases done
    | none =>
        rw [fits] at done
        cases done
        exact ⟨_, rfl, rfl⟩

/-- The record that an update changes has the slug of the submission. -/
theorem slug_of_update (accepted : submission.validate = .ok edition)
    (done : update backend now id own held submission actor = .ok (c, left)) :
    ∃ d, left = some d ∧ d.live.slug = edition.slug := by
  rw [update, Submission.verdict_of_valid accepted] at done
  cases own with
  | none => cases done
  | some old =>
      dsimp only at done
      split at done
      case isTrue => cases done
      case isFalse =>
        unfold rewritten at done
        cases asked : old.editionOf (.write edition actor) with
        | error failure =>
            rw [asked] at done
            cases done
        | ok written =>
            rw [asked] at done
            cases done
            exact ⟨_, rfl, Content.slug_of_editionOf asked⟩

/-- A creation ends in a conflict exactly if its slug is held. -/
theorem create_conflict_iff (accepted : submission.validate = .ok edition) :
    (∃ message, create backend now id own held submission actor = .error (.conflict message)) ↔
      (held edition.slug || own.any (·.live.slug == edition.slug)) = true := by
  rw [create, Submission.verdict_of_valid accepted]
  constructor
  · rintro ⟨message, failed⟩
    split at failed
    case isTrue taken => exact taken
    case isFalse =>
      unfold added at failed
      cases fits : backend.insertFault? own with
      | some fault =>
          rw [fits] at failed
          cases failed
      | none =>
          rw [fits] at failed
          cases failed
  · intro taken
    rw [if_pos taken]
    exact ⟨_, rfl⟩

/-- A creation under a new id succeeds if its slug is free. -/
theorem exists_create (accepted : submission.validate = .ok edition)
    (free : held edition.slug = false) :
    ∃ c left, create backend now id none held submission actor = .ok (c, left) := by
  have fits : backend.insertFault? none = none := by cases backend <;> rfl
  rw [create, Submission.verdict_of_valid accepted, free, added, fits]
  exact ⟨_, _, rfl⟩

end Verdict

theorem Submission.exists_edition (asked : submission.slug? = some slug) :
    ∃ edition, submission.validate = .ok edition ∧ edition.slug = slug := by
  cases accepted : submission.validate with
  | error problems =>
      rw [slug?, accepted] at asked
      cases asked
  | ok edition =>
      rw [slug?_of_valid accepted] at asked
      exact ⟨edition, rfl, Option.some.inj asked⟩

/-- An operation that asks for a slug and succeeds leaves a record with it. -/
theorem Operation.exists_left {operation : Operation α} (works : operation.record? = some id)
    (asked : operation.newSlug? = some slug) {backend : Backend} {held : String → Bool} {a : α}
    {left : Option Content}
    (done : operation.verdict backend now id own held works = .ok (a, left)) :
    ∃ d, left = some d ∧ d.live.slug = slug := by
  cases operation with
  | create _ submission actor =>
      cases works
      obtain ⟨edition, accepted, rfl⟩ := Submission.exists_edition asked
      have made : Verdict.create backend now id own held submission actor = .ok (a, left) := done
      exact Verdict.slug_of_create accepted made
  | update _ submission actor =>
      cases works
      obtain ⟨edition, accepted, rfl⟩ := Submission.exists_edition asked
      have made : Verdict.update backend now id own held submission actor = .ok (a, left) := done
      exact Verdict.slug_of_update accepted made
  | restore | delete => cases asked
  | _ => cases works

/-! ## Before and after an operation -/

section Creations

variable (holds : s.store.Holds records) {edition : Edition}
  (accepted : submission.validate = .ok edition) (actor : String)

include holds accepted

/-- A creation ends in a conflict exactly if its slug is in use. -/
theorem conflict_iff_held (id : Uuid) :
    (∃ message, (s.carryOut (.create id submission actor) now).1 = .error (.conflict message)) ↔
      Held records edition.slug := by
  let verdict := Verdict.create s.store.backend now id (byId records id)
    (Memory.slugHeldByOther records · id) submission actor
  have result : (s.carryOut (.create id submission actor) now).1 = verdict.map Prod.fst :=
    (fulfils_create holds now submission actor).result
  have conflicts : (∃ message, verdict = .error (.conflict message)) ↔ Held records edition.slug :=
    (Verdict.create_conflict_iff accepted).trans (slugHeld_iff holds id edition.slug)
  rw [result, ← conflicts]
  refine exists_congr fun message => ?_
  cases verdict with
  | error failure => simp only [Except.map, Except.error.injEq]
  | ok done => simp only [Except.map, reduceCtorEq]

theorem exists_created (free : ¬ Held records edition.slug) (fresh : ∀ c ∈ records, c.id ≠ id) :
    ∃ c, (s.carryOut (.create id submission actor) now).1 = .ok c := by
  have absent : byId records id = none :=
    List.find?_eq_none.mpr fun c member same => fresh c member (beq_iff_eq.mp same)
  let held (slug : String) : Bool := Memory.slugHeldByOther records slug id
  have unheld : held edition.slug = false := by
    rw [Bool.eq_false_iff, ne_eq, Memory.slugHeldByOther_iff]
    rintro ⟨c, member, -, same⟩
    exact free ⟨c, member, same⟩
  have fulfils : Fulfils records id _ (s.carryOut (.create id submission actor) now) :=
    fulfils_create holds now submission actor
  have result := fulfils.result
  rw [absent] at result
  obtain ⟨c, left, made⟩ := Verdict.exists_create accepted unheld
  rw [made] at result
  exact ⟨c, result⟩

end Creations

section Changes

variable (holds : s.store.Holds records) (apart : records.Pairwise Apart) {operation : Operation α}

include holds apart

theorem exists_left_of_ok (works : operation.record? = some id)
    (asked : operation.newSlug? = some slug) {a : α}
    (succeeded : (s.carryOut operation now).1 = .ok a) :
    ∃ d, remains (byId records id)
      (Operation.verdictAmong s.store.backend now records works) = some d ∧
        d.live.slug = slug := by
  obtain ⟨left, verdict⟩ := exists_verdict_of_ok holds apart works succeeded
  rw [verdict]
  exact Operation.exists_left works asked verdict

/-- A slug is in use after an operation that has asked for it. -/
theorem check_of_asked (works : operation.record? = some id)
    (asked : operation.newSlug? = some (Text.trim raw)) {a : α}
    (succeeded : (s.carryOut operation now).1 = .ok a) (later : Instant) :
    ((s.carryOut operation now).2.carryOut (.slugExists raw) later).1 = .ok true := by
  refine (slugExists_carryOut_iff holds apart works later).mpr (iff_of_true rfl (.inl ?_))
  exact exists_left_of_ok holds apart works asked succeeded

variable {c : Content} (member : c ∈ records) (same : c.live.slug = Text.trim raw)

include member same

/-- A slug is not in use after an operation on its holder that leaves no record with it. -/
theorem check_of_holder (works : operation.record? = some c.id)
    (gone : ∀ d, remains (byId records c.id)
      (Operation.verdictAmong s.store.backend now records works) = some d →
        d.live.slug ≠ Text.trim raw) (later : Instant) :
    ((s.carryOut operation now).2.carryOut (.slugExists raw) later).1 = .ok false := by
  refine (slugExists_carryOut_iff holds apart works later).mpr (iff_of_false Bool.false_ne_true ?_)
  rintro (⟨d, left, has⟩ | ⟨d, present, differs, has⟩)
  · exact gone d left has
  · have unequal : d ≠ c := fun equal => differs (congrArg Content.id equal)
    exact (apart.forall present member unequal).2 (has.trans same.symm)

theorem check_of_moved (works : operation.record? = some c.id)
    (asked : operation.newSlug? = some slug) (differs : slug ≠ Text.trim raw) {a : α}
    (succeeded : (s.carryOut operation now).1 = .ok a) (later : Instant) :
    ((s.carryOut operation now).2.carryOut (.slugExists raw) later).1 = .ok false := by
  obtain ⟨d, left, has⟩ := exists_left_of_ok holds apart works asked succeeded
  refine check_of_holder holds apart member same works (fun e remaining => ?_) later
  rw [left] at remaining
  cases remaining
  rwa [has]

theorem check_of_deleted (later : Instant) :
    (s.carryOut (.delete c.id) now).1 = .ok () ∧
      ((s.carryOut (.delete c.id) now).2.carryOut (.slugExists raw) later).1 = .ok false := by
  have found : byId records c.id = some c := (mem_iff_byId holds.distinct).mp member
  have works : (Operation.delete c.id).record? = some c.id := rfl
  have verdict : Operation.verdictAmong s.store.backend now records works = .ok ((), none) := by
    change Verdict.delete c.id (byId records c.id) = _
    rw [found]
    rfl
  constructor
  · rw [(fulfils_carryOut holds apart works now).result, verdict]
    rfl
  · refine check_of_holder holds apart member same works (fun d left => ?_) later
    rw [verdict] at left
    cases left

end Changes

namespace Service

variable {Client : Type} [DecidableEq Client]

/-- **The check of slugs.** In whatever surroundings clients have brought about, take a submission
that is accepted, with a slug and perhaps white space around it. The check of this slug has an
answer, and says that it is in use exactly if a creation with the submission ends in a conflict;
otherwise a creation under a new id succeeds. After a creation or an update with the submission has
succeeded, the slug is in use. After the record that has it is deleted or gets another slug, it is
not. -/
theorem slugExists_decides (backend : Backend) (events : List (Event Client))
    {records : List Content}
    (listed : (run backend events).surroundings.store.listing = .ok records)
    {submission : Submission} {edition : Edition} (accepted : submission.validate = .ok edition)
    {raw : String} (given : submission.slug = some raw) (now later : Instant) :
    let s := (run backend events).surroundings
    let check (t : Surroundings) := (t.carryOut (.slugExists raw) later).1
    (∃ b, check s = .ok b) ∧
    (∀ (id : Uuid) (actor : String),
      let created := s.carryOut (.create id submission actor) now
      (check s = .ok true ↔ ∃ message, created.1 = .error (.conflict message)) ∧
      (check s = .ok false → (∀ c ∈ records, c.id ≠ id) → ∃ c, created.1 = .ok c) ∧
      ∀ c, created.1 = .ok c → check created.2 = .ok true) ∧
    (∀ (id : Uuid) (actor : String),
      let updated := s.carryOut (.update id submission actor) now
      ∀ c, updated.1 = .ok c → check updated.2 = .ok true) ∧
    ∀ c ∈ records, c.live.slug = Text.trim raw →
      let deleted := s.carryOut (.delete c.id) now
      (deleted.1 = .ok () ∧ check deleted.2 = .ok false) ∧
      ∀ (another : Submission) (other : Edition) (actor : String), another.validate = .ok other →
        other.slug ≠ Text.trim raw →
        let moved := s.carryOut (.update c.id another actor) now
        ∀ d, moved.1 = .ok d → check moved.2 = .ok false := by
  intro s check
  obtain ⟨known, holds, apart⟩ := exists_apart_run backend events
  obtain rfl : records = known :=
    Except.ok.inj (listed.symm.trans (Store.listing_eq_ok holds))
  have slugged : edition.slug = Text.trim raw := by
    obtain ⟨-, status, -, rfl⟩ := Submission.validate_eq_ok_iff.mp accepted
    change Text.trim (submission.slug.getD "") = _
    rw [given, Option.getD_some]
  have asked : submission.slug? = some (Text.trim raw) :=
    (Submission.slug?_of_valid accepted).trans (congrArg some slugged)
  have answered := congrArg Prod.fst (carryOut_slugExists holds raw later)
  refine ⟨⟨_, answered⟩, fun id actor => ⟨?_, ?_, ?_⟩, ?_, ?_⟩
  · rw [conflict_iff_held holds accepted actor id, slugged, slugExists_eq_ok_iff holds]
    exact iff_true_left rfl
  · intro free fresh
    refine exists_created holds accepted actor (fun held => ?_) fresh
    rw [slugged] at held
    exact Bool.false_ne_true (((slugExists_eq_ok_iff holds).mp free).mpr held)
  · intro c succeeded
    have works : (Operation.create id submission actor).record? = some id := rfl
    exact check_of_asked holds apart works asked succeeded later
  · intro id actor updated c succeeded
    have works : (Operation.update id submission actor).record? = some id := rfl
    exact check_of_asked holds apart works asked succeeded later
  · intro c member same
    refine ⟨check_of_deleted holds apart member same later, ?_⟩
    intro another other actor alsoAccepted differs moved d succeeded
    have works : (Operation.update c.id another actor).record? = some c.id := rfl
    have asksOther := Submission.slug?_of_valid alsoAccepted
    exact check_of_moved holds apart member same works asksOther differs succeeded later

/-- A note whose slug has white space around it. -/
def spacedNote (slug : String) : Submission :=
  { note slug with slug := some (" " ++ slug ++ "\n") }

/-- One slug is held by a note that is then removed, another one is free. -/
theorem slugExists_decides_two_notes :
    let s := (run .database twoNotes).surroundings
    let check (raw : String) (t : Surroundings) := (t.carryOut (.slugExists raw) dawn).1
    let added (slug : String) := s.carryOut (.create (.ofNat 3) (spacedNote slug) "ada") dawn
    let removed := s.carryOut (.delete (.ofNat 1)) dawn
    let moved := s.carryOut (.update (.ofNat 1) (spacedNote "maps") "ben") dawn
    (check " sets\n" s = .ok true ∧ ∃ message, (added "sets").1 = .error (.conflict message)) ∧
      (removed.1 = .ok () ∧ check " sets\n" removed.2 = .ok false) ∧
      ((∃ c, moved.1 = .ok c) ∧ check " sets\n" moved.2 = .ok false) ∧
      check " maps\n" s = .ok false ∧ (∃ c, (added "maps").1 = .ok c) ∧
      check " maps\n" (added "maps").2 = .ok true := by
  intro s check added removed moved
  obtain ⟨records, listed⟩ := exists_listing_run .database twoNotes
  have facts : let records := s.store.listing.toOption.getD []
      (∀ c ∈ records, c.id ≠ .ofNat 3) ∧
        ∃ c ∈ records, c.id = .ofNat 1 ∧ c.live.slug = "sets" := by
    decide +kernel
  rw [listed] at facts
  obtain ⟨fresh, holder, member, named, has⟩ := facts
  have accepted (slug : String) (valid : slug = "sets" ∨ slug = "maps") :
      (spacedNote slug).validate = .ok ((spacedNote slug).edition .published) := by
    rcases valid with rfl | rfl <;> decide +kernel
  have used : check " sets\n" s = .ok true := by decide +kernel
  have unused : check " maps\n" s = .ok false := by decide +kernel
  have trimmed : holder.live.slug = Text.trim " sets\n" := has.trans (by decide +kernel)
  obtain ⟨-, creations, -, holders⟩ :=
    slugExists_decides .database twoNotes listed (accepted "sets" (.inl rfl)) rfl dawn dawn
  obtain ⟨-, others, -, -⟩ :=
    slugExists_decides .database twoNotes listed (accepted "maps" (.inr rfl)) rfl dawn dawn
  obtain ⟨conflicts, -, -⟩ := creations (.ofNat 3) "ada"
  obtain ⟨-, succeeds, follows⟩ := others (.ofNat 3) "ada"
  obtain ⟨c, made⟩ := succeeds unused fresh
  obtain ⟨gone, leaves⟩ := holders holder member trimmed
  have apart : ((spacedNote "maps").edition .published).slug ≠ Text.trim " sets\n" := by
    decide +kernel
  have leaves := leaves (spacedNote "maps") _ "ben" (accepted "maps" (.inr rfl)) apart
  rw [named] at gone leaves
  have updates : moved.1.toOption.isSome := by decide +kernel
  obtain ⟨d, written⟩ := exists_of_isSome updates
  exact ⟨⟨used, conflicts.mp used⟩, gone, ⟨⟨d, written⟩, leaves d written⟩, unused, ⟨c, made⟩,
    follows c made⟩

end Service

end ContentService
