import ContentService.Proofs.Store.Arrangement

/-! # Versioned records in tables

Tables that keep versioned records: records with a gapless log whose last version has the live
title, body and cover image. Each of the writes of the stores, added to such tables as a whole,
leaves such tables again if these satisfy the constraints of the schema.
-/

namespace ContentService

/-- A version as the database keeps its time. -/
def Version.stored (v : Version) : Version :=
  { v with modifiedAt := v.modifiedAt.stored }

/-- A record as the database keeps its times. -/
def Content.stored (c : Content) : Content :=
  { c with
    createdAt := c.createdAt.stored
    updatedAt := c.updatedAt.stored
    versions := c.versions.map Version.stored }

/-- A gapless log as long as there are numbers for it is one that the database takes. -/
theorem Gapless.numbered {versions : List Version} (gapless : Gapless versions)
    (short : versions.length < 2 ^ 31) : Sql.Numbered versions where
  ascending := by
    refine List.pairwise_map.mp ?_
    rw [gapless]
    refine List.pairwise_map.mpr (List.pairwise_lt_range.imp fun less => ?_)
    omega
  taken := by
    intro v member
    have number : v.number ∈ versions.map (·.number) := List.mem_map_of_mem member
    rw [gapless] at number
    obtain ⟨i, inside, same⟩ := List.mem_map.mp number
    have bound := List.mem_range.mp inside
    omega

theorem Content.Versioned.stored {c : Content} (versioned : c.Versioned) : c.stored.Versioned where
  gapless := by
    change (c.versions.map Version.stored).map _ = (List.range (c.versions.map _).length).map _
    rw [List.length_map, List.map_map]
    exact versioned.gapless
  live := by
    obtain ⟨v, member, number, live⟩ := versioned.live
    refine ⟨v.stored, List.mem_map_of_mem member, ?_, live⟩
    change v.number = (c.versions.map Version.stored).length
    rw [List.length_map, number]

namespace Sql

/-! ## Tables with versioned records -/

/-- The tables satisfy the constraints of the schema and hold records, which are all versioned. -/
structure Tables.Keeps (tables : Tables) (records : List Content) : Prop where
  lawful : tables.Lawful
  holds : tables.Holds records
  versioned : ∀ c ∈ records, c.Versioned

/-- The tables have a row for the record, and the rows of its versions. -/
structure Tables.Has (tables : Tables) (c : Content) : Prop where
  row : ContentRow.ofContent c ∈ tables.contents
  log : tables.versions.filter (·.contentId == c.id) = c.versions.map (VersionRow.ofVersion c.id)

namespace Tables.Keeps

variable {tables after : Tables} {records : List Content} (keeps : tables.Keeps records)

include keeps

theorem has_iff {c : Content} : tables.Has c ↔ c ∈ records := by
  constructor
  · rintro ⟨row, log⟩
    rw [keeps.holds.rows] at row
    obtain ⟨d, member, same⟩ := List.mem_map.mp row
    have id : d.id = c.id := congrArg ContentRow.id same
    have other := keeps.holds.logs d member
    rw [id, log] at other
    have versions : c.versions = d.versions := by
      have both := congrArg (List.map VersionRow.version) other
      rw [List.map_map, List.map_map] at both
      exact (List.map_id _).symm.trans (both.trans (List.map_id _))
    have read := ContentRow.content_ofContent c
    rw [← same, versions, ContentRow.content_ofContent] at read
    exact Except.ok.inj read ▸ member
  · exact fun member => ⟨keeps.holds.row_mem member, keeps.holds.logs c member⟩

section Reading

variable {shuffled : Tables} (same : shuffled.Rearranges tables)

include same

theorem find?_id (id : Uuid) : shuffled.contents.find? (·.id == id) =
    (records.find? (·.id == id)).map ContentRow.ofContent :=
  (find?_eq_of_perm same.contents keeps.lawful.ids id).trans (keeps.holds.find?_contents id)

theorem log_of_mem {c : Content} (member : c ∈ records) :
    (sortVersions (shuffled.versions.filter (·.contentId == c.id))).map VersionRow.version =
      c.versions := by
  have keys : ((tables.versions.filter (·.contentId == c.id)).map VersionRow.key).Nodup :=
    keeps.lawful.keys.sublist (List.filter_sublist.map _)
  rw [sortVersions_eq_of_perm (same.versions.filter _) keys]
  exact keeps.holds.log member

/-- All rows, joined to all versions of the same tables in any order, are the records. -/
theorem exists_joinRows {rows : Tables} (rearranged : rows.Rearranges tables) :
    ∃ listed : List Content, joinRows rows.contents (sortVersions shuffled.versions) = .ok listed ∧
      listed.Perm records := by
  have arranged := rearranged.contents
  rw [keeps.holds.rows] at arranged
  obtain ⟨listed, read, arranged⟩ := exists_records_of_perm arranged
  have distinct : (listed.map (·.id)).Nodup := (arranged.map _).nodup_iff.mpr keeps.holds.distinct
  refine ⟨listed, ?_, arranged⟩
  rw [read, sortVersions_eq_of_perm same.versions keeps.lawful.keys]
  exact joinRows_eq_ok distinct fun c member =>
    keeps.holds.filter_sortVersions (arranged.mem_iff.mp member)

end Reading

/-- Another version of a record has a number that none of its versions has. -/
theorem key_notMem {c : Content} (member : c ∈ records) (edition : Edition) (actor : String)
    (now : Instant) :
    (VersionRow.ofVersion c.id (c.written edition actor now)).key ∉
      tables.versions.map VersionRow.key := by
  intro taken
  obtain ⟨row, present, same⟩ := List.mem_map.mp taken
  obtain ⟨owner, number⟩ := Prod.mk.inj same
  obtain ⟨v, earlier, rfl⟩ := keeps.holds.exists_version member present owner
  have next : v.number = nextNumber c.versions := number
  have less := lt_nextNumber earlier
  omega

/-- Tables with another record's row and versions keep that record too. -/
theorem insert {new : Content} (versioned : new.Versioned) (short : new.versions.length < 2 ^ 31)
    (changed : after =
      { tables with
        contents := tables.contents ++ [(ContentRow.ofContent new).stored]
        versions := tables.versions ++
          new.versions.map fun v => (VersionRow.ofVersion new.id v).stored })
    (lawful : after.Lawful) : after.Keeps (records ++ [new.stored]) := by
  have fresh : ∀ c ∈ records, c.id ≠ new.stored.id := by
    have ids := lawful.ids
    rw [changed, List.map_append, List.nodup_append] at ids
    intro c member
    have present : c.id ∈ tables.contents.map (·.id) :=
      List.mem_map_of_mem (keeps.holds.row_mem member)
    exact ids.2.2 c.id present new.id (List.mem_singleton_self _)
  have rows : new.versions.map (fun v => (VersionRow.ofVersion new.id v).stored) =
      new.stored.versions.map (VersionRow.ofVersion new.stored.id) := by
    change _ = (new.versions.map Version.stored).map _
    rw [List.map_map]
    rfl
  have taken : Numbered new.stored.versions := by
    refine versioned.stored.gapless.numbered ?_
    change (new.versions.map Version.stored).length < _
    rwa [List.length_map]
  rw [rows] at changed
  refine ⟨lawful, changed ▸ keeps.holds.append fresh taken, fun c member => ?_⟩
  rcases List.mem_append.mp member with old | single
  · exact keeps.versioned c old
  · rw [List.mem_singleton.mp single]
    exact versioned.stored

/-- Tables with another version of a record, and its row changed, keep the changed record. -/
theorem write {old : Content} (member : old ∈ records) (edition : Edition) (actor : String)
    (now : Instant) (room : nextNumber old.versions < 2 ^ 31)
    (changed : after =
      (tables.changedBy
        (.insertVersion (.ofVersion old.id (old.written edition actor now)))).changedBy
          (.updateContent { ContentRow.ofContent (old.write edition actor now) with id := old.id }))
    (lawful : after.Lawful) :
    after.Keeps (replaced (old.write edition actor now.stored) records) := by
  refine ⟨lawful, ?_, fun c inside => ?_⟩
  · have written := keeps.holds.write member edition actor now.stored room
    rw [← keeps.holds.map_updated member edition actor now] at written
    exact changed ▸ written
  · rcases mem_replaced_cases inside with rfl | ⟨present, -⟩
    · exact (keeps.versioned old member).write edition actor now.stored
    · exact keeps.versioned c present

/-- Tables without a record's row and versions keep the other records. -/
theorem remove (id : Uuid) : (tables.changedBy (.deleteContent id)).Keeps (others id records) where
  lawful := keeps.lawful.deleteContent id
  holds := keeps.holds.remove id
  versioned := fun c member => keeps.versioned c (List.mem_filter.mp member).1

end Tables.Keeps

end Sql

end ContentService
