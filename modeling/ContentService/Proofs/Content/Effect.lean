import ContentService.Memory
import ContentService.Proofs.Content.Log
import Mathlib.Data.List.Pairwise

/-! # Effects on the records

What a request to a store of content records does to its records, whatever keeps them and in
whatever order. Records stay apart by id and by slug under every effect, and a record that accounts
for the changes made to it since it was added goes on doing so.
-/

namespace ContentService

/-- What a request has done to the records of a store. -/
inductive Effect
  | nothing
  | inserted (id : Uuid) (edition : Edition) (actor : String)
  | changed (id : Uuid) (change : Change)
  | removed (id : Uuid)

/-- What a request has done if it was answered so. A request that fails has done nothing. -/
def ContentRequest.effect {β : Type} : ContentRequest β → Except Failure β → Effect
  | .insert content, .ok _ => .inserted content.id content.live content.createdBy
  | .apply id change _, .ok _ => .changed id change
  | .delete id, .ok _ => .removed id
  | _, _ => .nothing

/-- A request that adds no record but a new one, with one version. -/
def ContentRequest.InsertsNew {β : Type} : ContentRequest β → Prop
  | .insert content =>
    ∃ id edition actor now, content = Content.initial id edition actor now
  | _ => True

/-- The records with another id. -/
def others (id : Uuid) (records : List Content) : List Content :=
  records.filter (·.id ≠ id)

/-- The records that an effect may leave. What is added or changed is as it was asked for, and holds
no slug of another record. -/
def Effect.Turns (effect : Effect) (records after : List Content) : Prop :=
  match effect with
  | .nothing => after.Perm records
  | .inserted id edition actor =>
    (∀ c ∈ records, c.live.slug ≠ edition.slug) ∧
      ∃ now, after.Perm (Content.initial id edition actor now :: others id records)
  | .changed id change =>
    (∀ slug, Memory.slugWanted? change = some slug →
      ∀ c ∈ records, c.id ≠ id → c.live.slug ≠ slug) ∧
      ∃ old ∈ records, old.id = id ∧ ∃ edition, old.editionOf change = .ok edition ∧
        ∃ now, after.Perm (old.write edition change.actor now :: others id records)
  | .removed id => after.Perm (others id records)

/-! ## Records apart -/

/-- Two records differ in id and slug. -/
def Apart (c d : Content) : Prop :=
  c.id ≠ d.id ∧ c.live.slug ≠ d.live.slug

instance : Std.Symm Apart where
  symm _ _ apart := ⟨apart.1.symm, apart.2.symm⟩

theorem pairwise_apart_of_perm {records after : List Content} (arranged : after.Perm records)
    (apart : records.Pairwise Apart) : after.Pairwise Apart :=
  (List.Perm.pairwise_iff (fun both => Std.Symm.symm _ _ both) arranged).mpr apart

/-- A change that asks for no slug keeps the one that the record has. -/
theorem Content.slug_of_editionOf {c : Content} {change : Change} {edition : Edition}
    (asked : c.editionOf change = .ok edition) :
    edition.slug = (Memory.slugWanted? change).getD c.live.slug := by
  obtain ⟨wanted, -⟩ := editionOf_eq_ok_iff.mp asked
  cases change with
  | write written actor =>
      cases wanted
      rfl
  | restore number actor =>
      obtain ⟨source, found, rfl⟩ := wanted_restore_eq_ok_iff.mp wanted
      rfl

/-- No other record has the slug of what a change writes, if no other has the slug that it asks
for. -/
theorem free_of_editionOf {records : List Content} (apart : records.Pairwise Apart) {old : Content}
    (present : old ∈ records) {change : Change} {edition : Edition}
    (asked : old.editionOf change = .ok edition)
    (free : ∀ slug, Memory.slugWanted? change = some slug →
      ∀ c ∈ records, c.id ≠ old.id → c.live.slug ≠ slug) :
    ∀ c ∈ records, c.id ≠ old.id → c.live.slug ≠ edition.slug := by
  intro c member differs
  rw [Content.slug_of_editionOf asked]
  cases wanted : Memory.slugWanted? change with
  | some slug => exact free slug wanted c member differs
  | none =>
      -- A restored record keeps its slug, which no other record had before.
      have unequal : c ≠ old := fun same => differs (same ▸ rfl)
      exact (apart.forall member present unequal).2

/-- Every effect keeps the records apart. -/
theorem Effect.Turns.pairwise_apart {effect : Effect} {records after : List Content}
    (turns : effect.Turns records after) (apart : records.Pairwise Apart) :
    after.Pairwise Apart := by
  have rest (id : Uuid) : (others id records).Pairwise Apart := apart.filter _
  cases effect with
  | nothing => exact pairwise_apart_of_perm turns apart
  | removed id => exact pairwise_apart_of_perm turns (rest id)
  | inserted id edition actor =>
      obtain ⟨free, now, arranged⟩ := turns
      refine pairwise_apart_of_perm arranged ?_
      refine List.pairwise_cons.mpr ⟨fun c member => ?_, rest id⟩
      obtain ⟨member, differs⟩ := List.mem_filter.mp member
      exact ⟨Ne.symm (of_decide_eq_true differs), (free c member).symm⟩
  | changed id change =>
      obtain ⟨free, old, present, rfl, edition, asked, now, arranged⟩ := turns
      refine pairwise_apart_of_perm arranged ?_
      refine List.pairwise_cons.mpr ⟨fun c member => ?_, rest old.id⟩
      obtain ⟨member, differs⟩ := List.mem_filter.mp member
      have differs : c.id ≠ old.id := of_decide_eq_true differs
      exact ⟨differs.symm, (free_of_editionOf apart present asked free c member differs).symm⟩

/-! ## Records with their changes -/

/-- The changes of a record since it was last added, in the order in which they were made. The
latest effect comes first. -/
def changesOf (id : Uuid) : List Effect → List Change
  | [] => []
  | .inserted other _ _ :: earlier => if other = id then [] else changesOf id earlier
  | .changed other change :: earlier =>
    if other = id then changesOf id earlier ++ [change] else changesOf id earlier
  | .nothing :: earlier | .removed _ :: earlier => changesOf id earlier

/-- An effect adds or changes the record with an id. -/
def Effect.writes (id : Uuid) : Effect → Bool
  | .inserted other _ _ | .changed other _ => other == id
  | .nothing | .removed _ => false

/-- Each record accounts for the changes that the history tells of it. -/
def Accounted (records : List Content) (history : List Effect) : Prop :=
  ∀ c ∈ records, c.Accounts (changesOf c.id history)

/-- An effect that neither adds nor changes a record leaves what the history tells of it. -/
theorem changesOf_cons_of_not_writes {id : Uuid} {effect : Effect} (others : ¬ effect.writes id)
    (history : List Effect) : changesOf id (effect :: history) = changesOf id history := by
  cases effect with
  | nothing | removed other => rfl
  | inserted other edition actor | changed other change =>
      have differs : other ≠ id := fun same => others (beq_iff_eq.mpr same)
      exact if_neg differs

theorem changesOf_inserted (id : Uuid) (edition : Edition) (actor : String)
    (history : List Effect) : changesOf id (.inserted id edition actor :: history) = [] :=
  if_pos rfl

theorem changesOf_changed (id : Uuid) (change : Change) (history : List Effect) :
    changesOf id (.changed id change :: history) = changesOf id history ++ [change] :=
  if_pos rfl

/-- What an effect leaves is the record that it adds or changes, and records that it does not. -/
theorem Effect.Turns.mem_cases {effect : Effect} {records after : List Content}
    (turns : effect.Turns records after) {c : Content} (member : c ∈ after) :
    (c ∈ records ∧ ¬ effect.writes c.id) ∨
      (∃ id edition actor now, effect = .inserted id edition actor ∧
        c = .initial id edition actor now) ∨
      ∃ old ∈ records, ∃ change edition now, effect = .changed old.id change ∧
        old.editionOf change = .ok edition ∧ c = old.write edition change.actor now := by
  cases effect with
  | nothing => exact .inl ⟨turns.mem_iff.mp member, Bool.false_ne_true⟩
  | removed id =>
      exact .inl ⟨(List.mem_filter.mp (turns.mem_iff.mp member)).1, Bool.false_ne_true⟩
  | inserted id edition actor =>
      obtain ⟨free, now, arranged⟩ := turns
      rcases List.mem_cons.mp (arranged.mem_iff.mp member) with rfl | other
      · exact .inr (.inl ⟨id, edition, actor, now, rfl, rfl⟩)
      · obtain ⟨present, differs⟩ := List.mem_filter.mp other
        refine .inl ⟨present, fun same => of_decide_eq_true differs (beq_iff_eq.mp same).symm⟩
  | changed id change =>
      obtain ⟨free, old, present, rfl, edition, asked, now, arranged⟩ := turns
      rcases List.mem_cons.mp (arranged.mem_iff.mp member) with rfl | other
      · exact .inr (.inr ⟨old, present, change, edition, now, rfl, asked, rfl⟩)
      · obtain ⟨present, differs⟩ := List.mem_filter.mp other
        refine .inl ⟨present, fun same => of_decide_eq_true differs (beq_iff_eq.mp same).symm⟩

/-- Every effect leaves records that account for their changes. -/
theorem Effect.Turns.accounted {effect : Effect} {records after : List Content}
    {history : List Effect} (turns : effect.Turns records after)
    (accounted : Accounted records history) :
    Accounted after (effect :: history) := by
  intro c member
  obtain ⟨present, untouched⟩ | ⟨id, edition, actor, now, rfl, rfl⟩ |
    ⟨old, present, change, edition, now, rfl, asked, rfl⟩ := turns.mem_cases member
  · rw [changesOf_cons_of_not_writes untouched]
    exact accounted c present
  · change Content.Accounts _ (changesOf id _)
    rw [changesOf_inserted]
    exact Content.Accounts.initial id edition actor now
  · change Content.Accounts _ (changesOf old.id _)
    rw [changesOf_changed]
    exact (accounted old present).write asked now

end ContentService
