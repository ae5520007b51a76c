import ContentService.Proofs.Content.Effect

/-! # The store in memory

The records in memory ascend by id, so that adding a record puts it in place of the one with its id.
Each request, whether it is done or made to fail, does to the records what its answer says.
-/

namespace ContentService.Memory

section Order

variable {ρ : Type} {idOf : ρ → Uuid}

/-- Records are ordered by id, and no two have the same. -/
def Ascending (idOf : ρ → Uuid) (records : List ρ) : Prop :=
  records.Pairwise fun a b => (idOf a).number < (idOf b).number

/-- Adding a record puts it among those with other ids. -/
theorem insertById_perm (record : ρ) {records : List ρ} (ascending : Ascending idOf records) :
    (insertById idOf record records).Perm (record :: records.filter (idOf · ≠ idOf record)) := by
  have differ {a b : Uuid} (less : a.number < b.number) : b ≠ a := by
    rintro rfl
    exact Nat.lt_irrefl _ less
  induction records with
  | nil => exact .refl _
  | cons other rest ih =>
      obtain ⟨above, tail⟩ := List.pairwise_cons.mp ascending
      unfold insertById
      cases compared : (idOf record).order (idOf other) with
      | lt =>
          have less : (idOf record).number < (idOf other).number := Nat.compare_eq_lt.mp compared
          have all : ∀ a ∈ other :: rest, decide (idOf a ≠ idOf record) = true := by
            intro a member
            rcases List.mem_cons.mp member with rfl | later
            · exact decide_eq_true (differ less)
            · exact decide_eq_true (differ (Nat.lt_trans less (above a later)))
          rw [List.filter_eq_self.mpr all]
      | eq =>
          have same : idOf record = idOf other :=
            (Uuid.mk.injEq ..).mpr (Nat.compare_eq_eq.mp compared)
          have all : ∀ a ∈ rest, decide (idOf a ≠ idOf record) = true := by
            intro a later
            rw [same]
            exact decide_eq_true (differ (above a later))
          have replaced : ¬ decide (idOf other ≠ idOf record) = true :=
            fun differs => of_decide_eq_true differs same.symm
          rw [List.filter_cons, if_neg replaced, List.filter_eq_self.mpr all]
      | gt =>
          have less : (idOf other).number < (idOf record).number := Nat.compare_eq_gt.mp compared
          rw [List.filter_cons, if_pos (decide_eq_true (Ne.symm (differ less)))]
          exact ((ih tail).cons other).trans (.swap record other _)

theorem Ascending.insertById (record : ρ) {records : List ρ}
    (ascending : Ascending idOf records) : Ascending idOf (insertById idOf record records) := by
  induction records with
  | nil => exact List.pairwise_singleton _ _
  | cons other rest ih =>
      obtain ⟨above, tail⟩ := List.pairwise_cons.mp ascending
      unfold Memory.insertById
      cases compared : (idOf record).order (idOf other) with
      | lt =>
          have less : (idOf record).number < (idOf other).number := Nat.compare_eq_lt.mp compared
          refine List.pairwise_cons.mpr ⟨fun a member => ?_, ascending⟩
          rcases List.mem_cons.mp member with rfl | later
          · exact less
          · exact Nat.lt_trans less (above a later)
      | eq =>
          have same : (idOf record).number = (idOf other).number := Nat.compare_eq_eq.mp compared
          refine List.pairwise_cons.mpr ⟨fun a later => ?_, tail⟩
          rw [same]
          exact above a later
      | gt =>
          have less : (idOf other).number < (idOf record).number := Nat.compare_eq_gt.mp compared
          refine List.pairwise_cons.mpr ⟨fun a member => ?_, ih tail⟩
          rcases List.mem_cons.mp ((insertById_perm record tail).mem_iff.mp member) with rfl | old
          · exact less
          · exact above a (List.mem_filter.mp old).1

end Order

theorem slugHeldByOther_iff {records : List Content} {slug : String} {id : Uuid} :
    slugHeldByOther records slug id = true ↔ ∃ c ∈ records, c.id ≠ id ∧ c.live.slug = slug := by
  simp only [slugHeldByOther, List.any_eq_true, Bool.and_eq_true, decide_eq_true_eq, beq_iff_eq]

/-- A change is refused, or it writes an edition to the record with the id, while no other record
holds a slug that it asks for. -/
theorem answerContent_apply (id : Uuid) (change : Change) (now : Instant)
    (records : List Content) :
    (∃ failure, answerContent (.apply id change now) records = (.error failure, records)) ∨
      (∀ slug, slugWanted? change = some slug →
        ∀ c ∈ records, c.id ≠ id → c.live.slug ≠ slug) ∧
      ∃ old ∈ records, old.id = id ∧ ∃ edition, old.editionOf change = .ok edition ∧
        answerContent (.apply id change now) records =
          (.ok (old.write edition change.actor now),
            insertById Content.id (old.write edition change.actor now) records) := by
  simp only [answerContent]
  cases clash : (slugWanted? change).filter (slugHeldByOther records · id) with
  | some slug => exact .inl ⟨_, rfl⟩
  | none =>
      cases found : records.find? (·.id == id) with
      | none => exact .inl ⟨_, rfl⟩
      | some old =>
          cases applied : old.apply change now with
          | error failure => exact .inl ⟨failure, by simp only [applied]⟩
          | ok result =>
              obtain ⟨changed, v⟩ := result
              obtain ⟨edition, asked, rfl, -⟩ := Content.apply_eq_ok_iff.mp applied
              obtain ⟨present, named⟩ := mem_and_key_of_find? found
              refine .inr ⟨fun slug wanted c member differs same => ?_, old, present, named,
                edition, asked, ?_⟩
              · rw [wanted, Option.filter_eq_none_iff] at clash
                exact clash slug rfl (slugHeldByOther_iff.mpr ⟨c, member, differs, same⟩)
              · simp only [applied]

/-- A change whose slug is free is made to the record with the id, if there is one. -/
theorem answerContent_apply_of_free {contents : List Content} {id : Uuid} {change : Change}
    (free : ∀ slug, slugWanted? change = some slug →
      ∀ c ∈ contents, c.id ≠ id → c.live.slug ≠ slug) (now : Instant) :
    answerContent (.apply id change now) contents =
      match contents.find? (·.id == id) with
      | none => (.error (.contentNotFound id), contents)
      | some old =>
        match old.editionOf change with
        | .error failure => (.error failure, contents)
        | .ok edition =>
          (.ok (old.write edition change.actor now),
            insertById Content.id (old.write edition change.actor now) contents) := by
  have unheld : (slugWanted? change).filter (slugHeldByOther contents · id) = none := by
    refine Option.filter_eq_none_iff.mpr fun slug wanted held => ?_
    obtain ⟨c, member, differs, same⟩ := slugHeldByOther_iff.mp held
    exact free slug wanted c member differs same
  simp only [answerContent, unheld]
  cases contents.find? (·.id == id) with
  | none => rfl
  | some old =>
      dsimp only
      rw [old.apply_eq_map]
      cases old.editionOf change <;> rfl

/-- Each request does to the records what its answer says. -/
theorem answerContent_turns {β : Type} (request : ContentRequest β) (proper : request.InsertsNew)
    {records : List Content} (ascending : Ascending Content.id records) :
    Ascending Content.id (answerContent request records).2 ∧
      (request.effect (answerContent request records).1).Turns records
        (answerContent request records).2 := by
  cases request with
  | get | list | slugOwner => exact ⟨ascending, .refl _⟩
  | delete id => exact ⟨ascending.filter _, .refl _⟩
  | insert content =>
      obtain ⟨id, edition, actor, now, rfl⟩ := proper
      simp only [answerContent]
      split
      case isTrue => exact ⟨ascending, .refl _⟩
      case isFalse taken =>
        refine ⟨ascending.insertById _, fun c member held => taken ?_, now,
          insertById_perm _ ascending⟩
        exact List.any_eq_true.mpr ⟨c, member, beq_iff_eq.mpr held⟩
  | apply id change now =>
      obtain ⟨failure, refused⟩ | ⟨free, old, member, rfl, edition, asked, done⟩ :=
        answerContent_apply id change now records
      · rw [refused]
        exact ⟨ascending, .refl _⟩
      · rw [done]
        exact ⟨ascending.insertById _, free, old, member, rfl, edition, asked, now,
          insertById_perm _ ascending⟩

theorem World.answer_content {β : Type} (request : ContentRequest β) (world : World) :
    world.answer [] (.content request) =
      ((answerContent request world.contents).1,
        { world with contents := (answerContent request world.contents).2 }) := by
  cases request <;> rfl

/-- A request that is made to fail tells of nothing done. -/
theorem effect_of_faultyContent? {β : Type} {faults : List Fault} {request : ContentRequest β}
    {reply : Except Failure β} (faulty : faultyContent? faults request = some reply) :
    request.effect reply = .nothing := by
  cases request with
  | get | list | slugOwner => rfl
  | delete id => cases faulty
  | insert | apply =>
      obtain ⟨-, same⟩ := Option.ite_none_right_eq_some.mp faulty
      cases same
      rfl

/-- Each request, faults or not, does to the records what its answer says. -/
theorem World.answer_turns {β : Type} (faults : List Fault) (request : ContentRequest β)
    (proper : request.InsertsNew) {world : World}
    (ascending : Ascending Content.id world.contents) :
    Ascending Content.id (world.answer faults (.content request)).2.contents ∧
      (request.effect (world.answer faults (.content request)).1).Turns world.contents
        (world.answer faults (.content request)).2.contents := by
  simp only [World.answer]
  cases faulty : faultyContent? faults request with
  | some reply =>
      rw [effect_of_faultyContent? faulty]
      exact ⟨ascending, .refl _⟩
  | none => exact answerContent_turns request proper ascending

end ContentService.Memory
