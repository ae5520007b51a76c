import ContentService.Proofs.Content.Effect
import ContentService.Proofs.Query.ValueOrder
import ContentService.Proofs.Store.Execution
import Mathlib.Data.List.Nodup

/-! # Records in tables

The tables hold records: one row of `contents` for each, and the versions of its log as rows of
`content_versions`. They hold records again with a record's rows added, changed or removed. What
the statements that write such rows are refused for keeps the ids, the slugs and the version
numbers apart.
-/

namespace ContentService.Sql

/-! ## Version numbers -/

/-- The version numbers of a log ascend, and are numbers that the database takes. -/
structure Numbered (versions : List Version) : Prop where
  ascending : versions.Pairwise fun v w => v.number < w.number
  taken : ∀ v ∈ versions, 1 ≤ v.number ∧ v.number < 2 ^ 31

theorem Numbered.initial (edition : Edition) (actor : String) (now : Instant) :
    Numbered [edition.version 1 actor now] where
  ascending := List.pairwise_singleton _ _
  taken := by
    intro v single
    rw [List.mem_singleton.mp single]
    change (1 : Int) ≤ 1 ∧ (1 : Int) < 2 ^ 31
    decide

/-- The next number of such a log is positive. -/
theorem Numbered.nextNumber_pos {versions : List Version} (numbered : Numbered versions) :
    1 ≤ nextNumber versions := by
  unfold nextNumber
  cases highest : (versions.map (·.number)).max? with
  | none => decide
  | some number =>
      obtain ⟨last, present, rfl⟩ := List.mem_map.mp (List.max?_eq_some_iff.mp highest).1
      have := (numbered.taken last present).1
      simp only [Option.getD_some]
      omega

theorem Numbered.append {versions : List Version} (numbered : Numbered versions) {v : Version}
    (next : v.number = nextNumber versions) (room : nextNumber versions < 2 ^ 31) :
    Numbered (versions ++ [v]) := by
  constructor
  case ascending =>
    refine List.pairwise_append.mpr ⟨numbered.ascending, List.pairwise_singleton _ _, ?_⟩
    intro w member u single
    rw [List.mem_singleton.mp single, next]
    exact lt_nextNumber member
  case taken =>
    intro w member
    rcases List.mem_append.mp member with old | new
    · exact numbered.taken w old
    · rw [List.mem_singleton.mp new, next]
      exact ⟨numbered.nextNumber_pos, room⟩

/-! ## Rows of records -/

theorem read?_name (status : Status) : Status.read? status.name = some status := by
  cases status <;> decide +kernel

theorem ContentRow.content_ofContent (c : Content) :
    (ContentRow.ofContent c).content c.versions = .ok c := by
  unfold ContentRow.content
  rw [show (ContentRow.ofContent c).status = c.live.status.name from rfl, read?_name]
  rfl

/-- The tables have a row for each record, and the rows of its versions and of no others. -/
structure Tables.Holds (tables : Tables) (records : List Content) : Prop where
  rows : tables.contents = records.map ContentRow.ofContent
  logs : ∀ c ∈ records,
    tables.versions.filter (·.contentId == c.id) = c.versions.map (VersionRow.ofVersion c.id)
  owned : ∀ row ∈ tables.versions, ∃ c ∈ records, c.id = row.contentId
  distinct : (records.map (·.id)).Nodup
  numbered : ∀ c ∈ records, Numbered c.versions

theorem Tables.holds_empty : Tables.empty.Holds [] where
  rows := rfl
  logs := fun _ absent => nomatch absent
  owned := fun _ absent => nomatch absent
  distinct := List.nodup_nil
  numbered := fun _ absent => nomatch absent

namespace Tables.Holds

variable {tables : Tables} {records : List Content}

/-- The row with an id is that of the record with the id. -/
theorem exists_of_find? (holds : tables.Holds records) {id : Uuid} {row : ContentRow}
    (found : tables.contents.find? (·.id == id) = some row) :
    ∃ c ∈ records, c.id = id ∧ row = ContentRow.ofContent c := by
  obtain ⟨member, same⟩ := mem_and_key_of_find? found
  rw [holds.rows] at member
  obtain ⟨c, present, rfl⟩ := List.mem_map.mp member
  exact ⟨c, present, same, rfl⟩

theorem row_mem (holds : tables.Holds records) {c : Content} (member : c ∈ records) :
    ContentRow.ofContent c ∈ tables.contents := by
  rw [holds.rows]
  exact List.mem_map_of_mem member

/-- The versions of a record that the tables have are in its log. -/
theorem exists_version (holds : tables.Holds records) {c : Content} (member : c ∈ records)
    {row : VersionRow} (inside : row ∈ tables.versions) (owner : row.contentId = c.id) :
    ∃ v ∈ c.versions, row = .ofVersion c.id v := by
  have chosen : row ∈ tables.versions.filter (·.contentId == c.id) :=
    List.mem_filter.mpr ⟨inside, beq_iff_eq.mpr owner⟩
  rw [holds.logs c member] at chosen
  obtain ⟨v, logged, rfl⟩ := List.mem_map.mp chosen
  exact ⟨v, logged, rfl⟩

theorem eq_of_id_eq (holds : tables.Holds records) {c d : Content} (first : c ∈ records)
    (second : d ∈ records) (same : c.id = d.id) : c = d :=
  List.inj_on_of_nodup_map holds.distinct first second same

end Tables.Holds

theorem versionOrder_isLE {id : Uuid} {v w : Version} (less : v.number < w.number) :
    (Tables.versionOrder (.ofVersion id v) (.ofVersion id w)).isLE := by
  change ((id.order id).then (compare v.number w.number)).isLE
  rw [@Std.ReflCmp.compare_self _ Uuid.order, Std.compare_eq_lt.mpr less]
  rfl

/-- More version rows of one record belong to that record. -/
theorem filter_append_versions (rows : List VersionRow) (id owner : Uuid)
    (versions : List Version) :
    (rows ++ versions.map (VersionRow.ofVersion owner)).filter (·.contentId == id) =
      rows.filter (·.contentId == id) ++
        if owner = id then versions.map (VersionRow.ofVersion owner) else [] := by
  rw [List.filter_append, List.filter_map]
  by_cases same : owner = id
  · have all : ∀ v ∈ versions, ((·.contentId == id) ∘ VersionRow.ofVersion owner) v = true :=
      fun v _ => beq_iff_eq.mpr same
    rw [if_pos same, List.filter_eq_self.mpr all]
  · have none : ∀ v ∈ versions, ¬ ((·.contentId == id) ∘ VersionRow.ofVersion owner) v = true :=
      fun v _ equal => same (beq_iff_eq.mp equal)
    rw [if_neg same, List.filter_eq_nil_iff.mpr none, List.map_nil]

/-- The version rows of a record stay if those of another are left out. -/
theorem filter_filter_version (rows : List VersionRow) {id other : Uuid} (differs : id ≠ other) :
    (rows.filter (·.contentId != other)).filter (·.contentId == id) =
      rows.filter (·.contentId == id) := by
  rw [List.filter_filter]
  refine List.filter_congr fun row _ => ?_
  rw [Bool.eq_iff_iff, Bool.and_eq_true, beq_iff_eq, bne_iff_ne, and_iff_left_iff_imp]
  exact fun same => same ▸ differs

instance : Std.TransCmp Tables.versionOrder := by
  have _ := transCmp_on VersionRow.contentId Uuid.order
  have _ := transCmp_on VersionRow.number compare
  exact inferInstanceAs (Std.TransCmp (compareLex
    (fun a b : VersionRow => a.contentId.order b.contentId) fun a b => compare a.number b.number))

namespace Tables.Holds

variable {tables : Tables} {records : List Content}

theorem pairwise_versionOrder (holds : tables.Holds records) {c : Content} (member : c ∈ records) :
    (c.versions.map (VersionRow.ofVersion c.id)).Pairwise
      fun v w => (versionOrder v w).isLE := by
  refine List.pairwise_map.mpr ?_
  exact (holds.numbered c member).ascending.imp fun less => versionOrder_isLE less

/-- The versions of a record are selected as its log. -/
theorem sortVersions_filter (holds : tables.Holds records) {c : Content} (member : c ∈ records) :
    sortVersions (tables.versions.filter (·.contentId == c.id)) =
      c.versions.map (VersionRow.ofVersion c.id) := by
  rw [holds.logs c member]
  exact List.mergeSort_of_pairwise (holds.pairwise_versionOrder member)

/-- The versions of a record stand in order among all. -/
theorem filter_sortVersions (holds : tables.Holds records) {c : Content} (member : c ∈ records) :
    (sortVersions tables.versions).filter (·.contentId == c.id) =
      c.versions.map (VersionRow.ofVersion c.id) := by
  rw [sortVersions, filter_mergeSort versionOrder]
  exact holds.sortVersions_filter member

/-! ## Changed tables -/

/-- The tables with a new record's row and versions hold the record. -/
theorem append (holds : tables.Holds records) {new : Content}
    (fresh : ∀ c ∈ records, c.id ≠ new.id) (numbered : Numbered new.versions) :
    Tables.Holds
      { tables with
        contents := tables.contents ++ [.ofContent new]
        versions := tables.versions ++ new.versions.map (VersionRow.ofVersion new.id) }
      (records ++ [new]) where
  rows := by
    change tables.contents ++ _ = _
    rw [holds.rows, List.map_append, List.map_singleton]
  logs := by
    intro c member
    change (tables.versions ++ _).filter _ = _
    rw [filter_append_versions]
    rcases List.mem_append.mp member with old | single
    · rw [holds.logs c old, if_neg (fresh c old).symm, List.append_nil]
    · obtain rfl := List.mem_singleton.mp single
      have none : tables.versions.filter (·.contentId == c.id) = [] := by
        rw [List.filter_eq_nil_iff]
        intro row inside same
        obtain ⟨d, present, owner⟩ := holds.owned row inside
        exact fresh d present (owner.trans (beq_iff_eq.mp same))
      rw [none, if_pos rfl, List.nil_append]
  owned := by
    intro row member
    rcases List.mem_append.mp member with old | added
    · obtain ⟨c, present, owner⟩ := holds.owned row old
      exact ⟨c, List.mem_append_left _ present, owner⟩
    · obtain ⟨v, -, rfl⟩ := List.mem_map.mp added
      exact ⟨new, List.mem_append_right _ (List.mem_singleton_self _), rfl⟩
  distinct := by
    rw [List.map_append, List.map_singleton, List.nodup_append]
    refine ⟨holds.distinct, List.nodup_singleton _, fun other member id single => ?_⟩
    obtain ⟨c, present, rfl⟩ := List.mem_map.mp member
    rw [List.mem_singleton.mp single]
    exact fresh c present
  numbered := by
    intro c member
    rcases List.mem_append.mp member with old | single
    · exact holds.numbered c old
    · rw [List.mem_singleton.mp single]
      exact numbered

/-- The tables with a new record's row and first version hold the record. -/
theorem insert (holds : tables.Holds records) {id : Uuid} (fresh : ∀ c ∈ records, c.id ≠ id)
    (edition : Edition) (actor : String) (now : Instant) :
    Tables.Holds
      { tables with
        contents := tables.contents ++ [.ofContent (.initial id edition actor now)]
        versions := tables.versions ++ [.ofVersion id (edition.version 1 actor now)] }
      (records ++ [.initial id edition actor now]) := by
  have first : Numbered (Content.initial id edition actor now).versions :=
    .initial edition actor now
  exact holds.append fresh first

/-- The tables without a record's row and versions hold the other records. -/
theorem remove (holds : tables.Holds records) (id : Uuid) :
    Tables.Holds
      { tables with
        contents := tables.contents.filter (·.id != id)
        versions := tables.versions.filter (·.contentId != id) }
      (others id records) where
  rows := by
    change tables.contents.filter _ = _
    rw [holds.rows, List.filter_map]
    refine congrArg (List.map _) (List.filter_congr fun c member => ?_)
    change (c.id != id) = decide (c.id ≠ id)
    rw [Bool.eq_iff_iff, bne_iff_ne, decide_eq_true_iff]
  logs := by
    intro c member
    obtain ⟨present, differs⟩ := List.mem_filter.mp member
    rw [← holds.logs c present]
    exact filter_filter_version tables.versions (of_decide_eq_true differs)
  owned := by
    intro row member
    obtain ⟨inside, differs⟩ := List.mem_filter.mp member
    obtain ⟨c, present, owner⟩ := holds.owned row inside
    refine ⟨c, List.mem_filter.mpr ⟨present, decide_eq_true ?_⟩, owner⟩
    rw [owner]
    exact bne_iff_ne.mp differs
  distinct := holds.distinct.sublist (List.filter_sublist.map _)
  numbered := fun c member => holds.numbered c (List.mem_filter.mp member).1

end Tables.Holds

/-! ## A changed record -/

/-- The records with a changed one in place of the one that had its id. -/
def replaced (changed : Content) (records : List Content) : List Content :=
  records.map fun c => if c.id = changed.id then changed else c

/-- A record after a replacement is the changed one or an old one with another id. -/
theorem mem_replaced_cases {changed : Content} {records : List Content} {c : Content}
    (member : c ∈ replaced changed records) :
    c = changed ∨ c ∈ records ∧ c.id ≠ changed.id := by
  obtain ⟨d, present, rfl⟩ := List.mem_map.mp member
  by_cases same : d.id = changed.id
  · exact .inl (if_pos same)
  · rw [if_neg same]
    exact .inr ⟨present, same⟩

theorem map_id_replaced (changed : Content) (records : List Content) :
    (replaced changed records).map (·.id) = records.map (·.id) := by
  unfold replaced
  rw [List.map_map]
  refine List.map_congr_left fun c _ => ?_
  change (if c.id = changed.id then changed else c).id = c.id
  split
  case isTrue same => exact same.symm
  case isFalse => rfl

theorem replaced_eq_self {changed : Content} {records : List Content}
    (differ : ∀ c ∈ records, c.id ≠ changed.id) : replaced changed records = records := by
  refine (List.map_congr_left fun c member => ?_).trans (List.map_id _)
  exact if_neg (differ c member)

theorem others_eq_self {id : Uuid} {records : List Content} (differ : ∀ c ∈ records, c.id ≠ id) :
    others id records = records :=
  List.filter_eq_self.mpr fun c member => decide_eq_true (differ c member)

/-- Of records with distinct ids, all but the replaced one stay. -/
theorem replaced_perm {records : List Content} (distinct : (records.map (·.id)).Nodup)
    {old changed : Content} (member : old ∈ records) (same : old.id = changed.id) :
    (replaced changed records).Perm (changed :: others changed.id records) := by
  obtain ⟨before, after, rfl⟩ := List.append_of_mem member
  rw [List.map_append, List.map_cons, List.nodup_append, List.nodup_cons] at distinct
  obtain ⟨-, ⟨later, -⟩, earlier⟩ := distinct
  have front : ∀ c ∈ before, c.id ≠ changed.id := fun c inside =>
    same ▸ earlier c.id (List.mem_map_of_mem inside) old.id List.mem_cons_self
  have back : ∀ c ∈ after, c.id ≠ changed.id := fun c inside equal =>
    later (same ▸ equal ▸ List.mem_map_of_mem inside)
  have here : replaced changed (before ++ old :: after) = before ++ changed :: after := by
    rw [replaced, List.map_append, List.map_cons, if_pos same]
    exact congrArg₂ (fun front back => front ++ changed :: back) (replaced_eq_self front)
      (replaced_eq_self back)
  have rest : others changed.id (before ++ old :: after) = before ++ after := by
    have gone : ¬ decide (old.id ≠ changed.id) = true := fun differs =>
      of_decide_eq_true differs same
    rw [others, List.filter_append, List.filter_cons, if_neg gone]
    exact congrArg₂ (· ++ ·) (others_eq_self front) (others_eq_self back)
  rw [here, rest]
  exact List.perm_middle

namespace Tables.Holds

variable {tables : Tables} {records : List Content}

/-- The tables with a record's row changed and another version hold the changed record. -/
theorem write (holds : tables.Holds records) {old : Content} (member : old ∈ records)
    (edition : Edition) (actor : String) (now : Instant)
    (room : nextNumber old.versions < 2 ^ 31) :
    Tables.Holds
      { tables with
        contents := tables.contents.map fun row =>
          if row.id == old.id then .ofContent (old.write edition actor now) else row
        versions := tables.versions ++ [.ofVersion old.id (old.written edition actor now)] }
      (replaced (old.write edition actor now) records) where
  rows := by
    change tables.contents.map _ = _
    unfold replaced
    rw [holds.rows, List.map_map, List.map_map]
    refine List.map_congr_left fun c present => ?_
    change (if c.id == old.id then ContentRow.ofContent (old.write edition actor now)
      else ContentRow.ofContent c) = ContentRow.ofContent (if c.id = old.id then _ else _)
    by_cases same : c.id = old.id
    · rw [if_pos same, if_pos (beq_iff_eq.mpr same)]
    · rw [if_neg same, if_neg fun equal => same (beq_iff_eq.mp equal)]
  logs := by
    intro c inside
    change (tables.versions ++ List.map (VersionRow.ofVersion old.id) [_]).filter _ = _
    rw [filter_append_versions]
    rcases mem_replaced_cases inside with rfl | ⟨present, differs⟩
    · change tables.versions.filter (·.contentId == old.id) ++ ite (old.id = old.id) _ _ =
        (old.versions ++ [_]).map _
      rw [holds.logs old member, if_pos rfl, List.map_append]
      rfl
    · have differs : c.id ≠ old.id := differs
      rw [holds.logs c present, if_neg differs.symm, List.append_nil]
  owned := by
    intro row inside
    have owner : row.contentId ∈ records.map (·.id) := by
      rcases List.mem_append.mp inside with earlier | new
      · obtain ⟨c, present, owner⟩ := holds.owned row earlier
        exact List.mem_map.mpr ⟨c, present, owner⟩
      · rw [List.mem_singleton.mp new]
        exact List.mem_map_of_mem member
    rw [← map_id_replaced (old.write edition actor now)] at owner
    exact List.mem_map.mp owner
  distinct := by
    rw [map_id_replaced]
    exact holds.distinct
  numbered := by
    intro c inside
    rcases mem_replaced_cases inside with rfl | ⟨present, differs⟩
    · exact (holds.numbered old member).append rfl room
    · exact holds.numbered c present

end Tables.Holds

/-- Updating the row of a record makes it that of the changed record. -/
theorem Tables.Holds.map_updated {tables : Tables} {records : List Content}
    (holds : tables.Holds records) {old : Content} (member : old ∈ records) (edition : Edition)
    (actor : String) (now : Instant) :
    (tables.contents.map fun r =>
      if r.id == old.id then
        updated (ContentRow.stored { ContentRow.ofContent (old.write edition actor now) with
          id := old.id }) r
      else r) =
    tables.contents.map fun r =>
      if r.id == old.id then ContentRow.ofContent (old.write edition actor now.stored) else r := by
  refine List.map_congr_left fun r inside => ?_
  rw [holds.rows] at inside
  obtain ⟨c, present, rfl⟩ := List.mem_map.mp inside
  by_cases same : c.id = old.id
  · obtain rfl := holds.eq_of_id_eq present member same
    have own : (c.id == c.id) = true := beq_self_eq_true c.id
    exact (if_pos own).trans (if_pos own).symm
  · have differs : ¬ (c.id == old.id) = true := fun equal => same (beq_iff_eq.mp equal)
    exact (if_neg differs).trans (if_neg differs).symm

end ContentService.Sql
