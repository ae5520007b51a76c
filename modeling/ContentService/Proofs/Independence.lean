import ContentService.Proofs.Agreement
import ContentService.Proofs.Outcome
import ContentService.Proofs.Verdict

/-! # Independent operations

Operations on different records meet only in their slugs. If neither asks for a slug that the
other's record has, or for the one that the other asks for, then they come to the same in either
order, and leave the same records.
-/

namespace ContentService

variable {α β : Type} {records kept : List Content} {id other : Uuid} {own : Option Content}

/-! ## Slugs -/

section Held

variable (distinct : (records.map (·.id)).Nodup) (keptDistinct : (kept.map (·.id)).Nodup)
  (becomes : byId kept = Function.update (byId records) other own) {slug : String}

include distinct keptDistinct becomes

theorem held_of_becomes (free : ∀ c ∈ own, c.live.slug ≠ slug)
    (held : Memory.slugHeldByOther kept slug id = true) :
    Memory.slugHeldByOther records slug id = true := by
  obtain ⟨c, member, differs, same⟩ := Memory.slugHeldByOther_iff.mp held
  have found : byId kept c.id = some c := (byId_eq_some_iff keptDistinct).mpr ⟨member, rfl⟩
  rw [becomes] at found
  by_cases changed : c.id = other
  · rw [changed, Function.update_self] at found
    exact absurd same (free c found)
  · rw [Function.update_of_ne changed] at found
    obtain ⟨before, -⟩ := (byId_eq_some_iff distinct).mp found
    exact Memory.slugHeldByOther_iff.mpr ⟨c, before, differs, same⟩

/-- Whether a slug is held by others does not change with a record that does not have the slug,
before or after. -/
theorem held_eq_of_becomes (free : ∀ c ∈ byId records other, c.live.slug ≠ slug)
    (stillFree : ∀ c ∈ own, c.live.slug ≠ slug) :
    Memory.slugHeldByOther kept slug id = Memory.slugHeldByOther records slug id := by
  have back : byId records = Function.update (byId kept) other (byId records other) := by
    rw [becomes, Function.update_idem, Function.update_eq_self]
  rw [Bool.eq_iff_iff]
  exact ⟨held_of_becomes distinct keptDistinct becomes stillFree,
    held_of_becomes keptDistinct distinct back free⟩

end Held

/-! ## Verdicts and slugs -/

namespace Verdict

variable {backend : Backend} {now : Instant} {edition : Edition} {actor : String} {c old : Content}

theorem slug_of_added (left : c ∈ remains own (added backend now id own edition actor)) :
    c.live.slug = edition.slug ∨ c ∈ own := by
  unfold added at left
  cases fits : backend.insertFault? own with
  | some fault =>
      rw [fits] at left
      exact .inr left
  | none =>
      rw [fits] at left
      cases left
      exact .inl rfl

/-- A change leaves the slug that it asks for, or the one from before. -/
theorem slug_of_rewritten {change : Change}
    (left : c ∈ remains (some old) (rewritten backend now old change)) :
    Memory.slugWanted? change = some c.live.slug ∨ c.live.slug = old.live.slug := by
  unfold rewritten at left
  cases asked : old.editionOf change with
  | error failure =>
      rw [asked] at left
      exact .inr (congrArg (·.live.slug) (Option.some.inj left).symm)
  | ok edition =>
      rw [asked] at left
      cases left
      have slug := Content.slug_of_editionOf asked
      cases wanted : Memory.slugWanted? change with
      | some asks =>
          rw [wanted] at slug
          exact .inl (congrArg some slug.symm)
      | none =>
          rw [wanted] at slug
          exact .inr slug

end Verdict

namespace Submission

variable {submission : Submission} {next next' : Edition → Except Failure (β × Option Content)}

theorem verdict_congr
    (same : ∀ edition, edition.slug ∈ submission.slug? → next edition = next' edition) :
    submission.verdict next = submission.verdict next' := by
  cases accepted : submission.validate with
  | error problems => rw [verdict_of_invalid accepted, verdict_of_invalid accepted]
  | ok edition =>
      rw [verdict_of_valid accepted, verdict_of_valid accepted]
      exact same edition (slug?_of_valid accepted)

/-- What is kept after the verdict on a submission was there before, or comes from the edition. -/
theorem remains_verdict {c : Content} (left : c ∈ remains own (submission.verdict next)) :
    c ∈ own ∨ ∃ edition, edition.slug ∈ submission.slug? ∧ c ∈ remains own (next edition) := by
  cases accepted : submission.validate with
  | error problems =>
      rw [verdict_of_invalid accepted] at left
      exact .inl left
  | ok edition =>
      rw [verdict_of_valid accepted] at left
      exact .inr ⟨edition, slug?_of_valid accepted, left⟩

end Submission

namespace Operation

variable {backend : Backend} {now : Instant} {operation : Operation α}
  (works : operation.record? = some id)

/-- The verdict depends on no slug but the one that the operation asks for. -/
theorem verdict_congr {held held' : String → Bool}
    (same : ∀ slug ∈ operation.newSlug?, held slug = held' slug) :
    operation.verdict backend now id own held works =
      operation.verdict backend now id own held' works := by
  cases operation with
  | create _ submission actor =>
      cases works
      change Verdict.create backend now id own held submission actor =
        Verdict.create backend now id own held' submission actor
      unfold Verdict.create
      refine Submission.verdict_congr fun edition asked => ?_
      rw [same edition.slug asked]
  | update _ submission actor =>
      cases works
      change Verdict.update backend now id own held submission actor =
        Verdict.update backend now id own held' submission actor
      unfold Verdict.update
      refine Submission.verdict_congr fun edition asked => ?_
      rw [same edition.slug asked]
  | restore | delete => rfl
  | _ => cases works

/-- A record that an operation leaves has the slug that it asks for, or the one from before. -/
theorem slug_of_verdict {held : String → Bool} {c : Content}
    (left : c ∈ remains own (operation.verdict backend now id own held works)) :
    c.live.slug ∈ operation.newSlug? ∨ ∃ old ∈ own, old.live.slug = c.live.slug := by
  cases operation with
  | create _ submission actor =>
      cases works
      change c ∈ remains own (Verdict.create backend now id own held submission actor) at left
      unfold Verdict.create at left
      obtain before | ⟨edition, asked, left⟩ := Submission.remains_verdict left
      · exact .inr ⟨c, before, rfl⟩
      · split at left
        case isTrue => exact .inr ⟨c, left, rfl⟩
        case isFalse =>
          rcases Verdict.slug_of_added left with same | before
          · exact .inl (same ▸ asked)
          · exact .inr ⟨c, before, rfl⟩
  | update _ submission actor =>
      cases works
      change c ∈ remains own (Verdict.update backend now id own held submission actor) at left
      unfold Verdict.update at left
      obtain before | ⟨edition, asked, left⟩ := Submission.remains_verdict left
      · exact .inr ⟨c, before, rfl⟩
      · cases own with
        | none => cases left
        | some old =>
            dsimp only at left
            split at left
            case isTrue => exact .inr ⟨c, left, rfl⟩
            case isFalse =>
              rcases Verdict.slug_of_rewritten left with same | same
              · exact .inl (Option.some.inj same ▸ asked)
              · exact .inr ⟨old, rfl, same.symm⟩
  | restore _ number actor =>
      cases works
      cases own with
      | none => cases left
      | some old =>
          rcases Verdict.slug_of_rewritten left with absent | same
          · exact nomatch absent
          · exact .inr ⟨old, rfl, same.symm⟩
  | delete =>
      cases works
      cases own <;> cases left
  | _ => cases works

/-- An operation asks for no slug that the record with an id has or that another operation asks
for. -/
def Avoids (operation : Operation α) (records : List Content) (id : Uuid)
    (another : Operation β) : Prop :=
  ∀ slug ∈ operation.newSlug?, slug ∉ another.newSlug? ∧
    ∀ c ∈ records, c.id = id → c.live.slug ≠ slug

instance (operation : Operation α) (records : List Content) (id : Uuid) (another : Operation β) :
    Decidable (operation.Avoids records id another) :=
  inferInstanceAs (Decidable (∀ slug ∈ operation.newSlug?, slug ∉ another.newSlug? ∧
    ∀ c ∈ records, c.id = id → c.live.slug ≠ slug))

end Operation

/-! ## One operation after another -/

section After

variable {s : Surroundings} {a : Operation α} {b : Operation β} (holds : s.store.Holds records)
  (apart : records.Pairwise Apart) (works : a.record? = some id)
  (worksOther : b.record? = some other)

include holds apart

/-- An operation comes to the same after another one whose record and slugs it avoids. -/
theorem exists_carryOut_after (differ : id ≠ other) (avoids : a.Avoids records other b)
    (now later : Instant) :
    ((s.carryOut b later).2.carryOut a now).1 = (s.carryOut a now).1 ∧
      ∃ kept, ((s.carryOut b later).2.carryOut a now).2.store.Holds kept ∧
        byId kept = Function.update
          (Function.update (byId records) other (remains (byId records other)
            (Operation.verdictAmong s.store.backend later records worksOther)))
          id (remains (byId records id)
            (Operation.verdictAmong s.store.backend now records works)) := by
  obtain ⟨first, held, still, becomes⟩ := exists_carryOut holds apart worksOther later
  have own : byId first id = byId records id := by rw [becomes, Function.update_of_ne differ]
  have same : Operation.verdictAmong s.store.backend now first works =
      Operation.verdictAmong s.store.backend now records works := by
    unfold Operation.verdictAmong
    rw [own]
    refine Operation.verdict_congr works fun slug asked => ?_
    obtain ⟨unasked, free⟩ := avoids slug asked
    have freeBefore : ∀ c ∈ byId records other, c.live.slug ≠ slug := by
      intro c found
      obtain ⟨member, named⟩ := (byId_eq_some_iff holds.distinct).mp found
      exact free c member named
    refine held_eq_of_becomes holds.distinct held.distinct becomes freeBefore fun c left equal => ?_
    rcases Operation.slug_of_verdict worksOther left with asks | ⟨old, found, before⟩
    · exact unasked (equal ▸ asks)
    · exact freeBefore old found (before.trans equal)
  have fulfils := fulfils_carryOut held still works now
  rw [s.backend_carryOut b later, same] at fulfils
  obtain ⟨result, kept, ended, ends⟩ := fulfils
  refine ⟨result.trans (fulfils_carryOut holds apart works now).result.symm, kept, ended, ?_⟩
  rw [ends, own, becomes]

end After

/-! ## In either order -/

/-- In memory, records in any order are in the same order. -/
theorem Store.Holds.eq_of_perm {store after : Store} (holds : store.Holds records)
    (held : after.Holds kept) (memory : store.backend = .memory)
    (still : after.backend = .memory) (same : kept.Perm records) : kept = records := by
  cases store with
  | database => cases memory
  | memory world =>
      cases after with
      | database => cases still
      | memory world' =>
          obtain ⟨ascending, rfl⟩ := holds
          obtain ⟨alsoAscending, rfl⟩ := held
          refine same.eq_of_pairwise (fun c d _ _ less greater => ?_) alsoAscending ascending
          exact absurd greater (Nat.lt_asymm less)

/-- Both stores list the same records under all ids but one. -/
def Surroundings.Spares (s : Surroundings) (id : Uuid) (after : Surroundings) : Prop :=
  ∃ records kept, s.store.listing = .ok records ∧ after.store.listing = .ok kept ∧
    ∀ c, c.id ≠ id → (c ∈ kept ↔ c ∈ records)

/-- An operation changes nothing of any other record. -/
theorem spares_carryOut {s : Surroundings} (holds : s.store.Holds records)
    (apart : records.Pairwise Apart) {operation : Operation α}
    (works : operation.record? = some id) (now : Instant) :
    s.Spares id (s.carryOut operation now).2 := by
  obtain ⟨kept, held, -, becomes⟩ := exists_carryOut holds apart works now
  refine ⟨records, kept, Store.listing_eq_ok holds, Store.listing_eq_ok held, fun c differs => ?_⟩
  rw [mem_iff_byId held.distinct, mem_iff_byId holds.distinct, becomes,
    Function.update_of_ne differs]

namespace Service

variable {Client : Type} [DecidableEq Client]

theorem exists_listing_run (backend : Backend) (events : List (Event Client)) :
    ∃ records, (run backend events).surroundings.store.listing = .ok records := by
  obtain ⟨records, holds, -⟩ := exists_apart_run backend events
  exact ⟨records, Store.listing_eq_ok holds⟩

/-- **Independence.** In whatever surroundings clients have brought about, take operations on two
different records, neither of which asks for the slug of the other's record or for the slug that the
other asks for. Each has the same result after the other as before it, and they leave the same
records in either order; the database may list them in another order. Neither changes anything of a
record that is not its own. -/
theorem carryOut_comm (backend : Backend) (events : List (Event Client)) {records : List Content}
    (listed : (run backend events).surroundings.store.listing = .ok records)
    {a : Operation α} {b : Operation β} {id other : Uuid} (works : a.record? = some id)
    (worksOther : b.record? = some other) (differ : id ≠ other)
    (avoids : a.Avoids records other b) (avoided : b.Avoids records id a) (now later : Instant) :
    let s := (run backend events).surroundings
    let afterA := (s.carryOut a now).2
    let afterB := (s.carryOut b later).2
    ((afterB.carryOut a now).1 = (s.carryOut a now).1 ∧
      (afterA.carryOut b later).1 = (s.carryOut b later).1) ∧
    (∃ kept arranged, (afterA.carryOut b later).2.store.listing = .ok kept ∧
      (afterB.carryOut a now).2.store.listing = .ok arranged ∧ arranged.Perm kept ∧
      (backend = .memory → arranged = kept)) ∧
    (s.Spares id afterA ∧ afterA.Spares other (afterA.carryOut b later).2) ∧
    (s.Spares other afterB ∧ afterB.Spares id (afterB.carryOut a now).2) := by
  intro s afterA afterB
  obtain ⟨_, holds, apart⟩ := exists_apart_run backend events
  obtain rfl := Except.ok.inj ((Store.listing_eq_ok holds).symm.trans listed)
  have kind := backend_run backend events
  obtain ⟨resultA, arranged, heldBA, leavesBA⟩ :=
    exists_carryOut_after holds apart works worksOther differ avoids now later
  obtain ⟨resultB, kept, heldAB, leavesAB⟩ :=
    exists_carryOut_after holds apart worksOther works differ.symm avoided later now
  have same : arranged.Perm kept := by
    refine perm_of_byId_eq heldAB.distinct heldBA.distinct ?_
    rw [leavesBA, leavesAB, Function.update_comm differ]
  obtain ⟨keptA, heldA, apartA, -⟩ := exists_carryOut holds apart works now
  obtain ⟨keptB, heldB, apartB, -⟩ := exists_carryOut holds apart worksOther later
  refine ⟨⟨resultA, resultB⟩, ⟨kept, arranged, Store.listing_eq_ok heldAB,
    Store.listing_eq_ok heldBA, same, fun memory => ?_⟩,
    ⟨spares_carryOut holds apart works now, spares_carryOut heldA apartA worksOther later⟩,
    ⟨spares_carryOut holds apart worksOther later, spares_carryOut heldB apartB works now⟩⟩
  have kindAB := (afterA.backend_carryOut b later).trans ((s.backend_carryOut a now).trans kind)
  have kindBA := (afterB.backend_carryOut a now).trans ((s.backend_carryOut b later).trans kind)
  exact heldAB.eq_of_perm heldBA (kindAB.trans memory) (kindBA.trans memory) same

/-- A note is added. -/
def addsNote (id : Nat) (slug : String) : List (Event Unit) :=
  [.start () (.create (.ofNat id) (note slug) "ada") dawn, .proceed () .fine, .proceed () .fine,
    .proceed () .fine, .leave ()]

def twoNotes : List (Event Unit) :=
  addsNote 1 "sets" ++ addsNote 2 "lists"

/-- Of two notes one gets another slug, and the other is removed. -/
theorem carryOut_comm_two_notes :
    let s := (run .database twoNotes).surroundings
    let moves : Operation Content := .update (.ofNat 1) (note "maps") "ben"
    let removes : Operation Unit := .delete (.ofNat 2)
    ∃ records, s.store.listing = .ok records ∧ records.length = 2 ∧
      moves.Avoids records (.ofNat 2) removes ∧ removes.Avoids records (.ofNat 1) moves ∧
      (s.carryOut moves dawn).1.toOption.isSome ∧ (s.carryOut removes dawn).1.toOption.isSome ∧
      ((s.carryOut removes dawn).2.carryOut moves dawn).1 = (s.carryOut moves dawn).1 ∧
      ((s.carryOut moves dawn).2.carryOut removes dawn).1 = (s.carryOut removes dawn).1 := by
  intro s moves removes
  obtain ⟨records, listed⟩ := exists_listing_run .database twoNotes
  have facts : let records := s.store.listing.toOption.getD []
      records.length = 2 ∧ moves.Avoids records (.ofNat 2) removes ∧
        removes.Avoids records (.ofNat 1) moves := by
    decide +kernel
  rw [listed] at facts
  obtain ⟨two, avoids, avoided⟩ := facts
  have differ : Uuid.ofNat 1 ≠ .ofNat 2 := by decide
  obtain ⟨⟨first, second⟩, -⟩ :=
    carryOut_comm .database twoNotes listed (a := moves) (b := removes) rfl rfl differ avoids
      avoided dawn dawn
  exact ⟨records, listed, two, avoids, avoided, by decide +kernel, by decide +kernel, first, second⟩

end Service

end ContentService
