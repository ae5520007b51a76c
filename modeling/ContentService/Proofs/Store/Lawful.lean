import ContentService.Proofs.Store.Tables

/-! # Lawful tables

Tables whose rows satisfy the constraints of the schema. A statement that is executed has checked
the constraints that it could violate, so it leads from lawful tables to lawful tables. Tables that
hold records with distinct slugs are lawful.
-/

namespace ContentService.Sql

namespace Tables

variable {tables after : Tables}

/-- The constraints of the schema that concern more than one row, and those on numbers. -/
structure Lawful (tables : Tables) : Prop where
  ids : (tables.contents.map (·.id)).Nodup
  slugs : (tables.contents.map (·.slug)).Nodup
  keys : (tables.versions.map VersionRow.key).Nodup
  numbers : ∀ row ∈ tables.versions, 1 ≤ row.number
  owned : ∀ row ∈ tables.versions, ∃ r ∈ tables.contents, r.id = row.contentId
  mediaIds : (tables.media.map (·.id)).Nodup

/-! ## What writes preserve -/

theorem nodup_append_singleton {α : Type} {xs : List α} {x : α} (distinct : xs.Nodup)
    (fresh : x ∉ xs) : (xs ++ [x]).Nodup := by
  rw [List.nodup_append]
  refine ⟨distinct, List.nodup_singleton x, fun y member z single same => ?_⟩
  rw [List.mem_singleton.mp single] at same
  exact fresh (same ▸ member)

namespace Lawful

variable (lawful : tables.Lawful)

include lawful

theorem insertContent {row : ContentRow} (id : row.id ∉ tables.contents.map (·.id))
    (slug : row.slug ∉ tables.contents.map (·.slug)) :
    Lawful { tables with contents := tables.contents ++ [row.stored] } where
  ids := by
    rw [List.map_append]
    exact nodup_append_singleton lawful.ids id
  slugs := by
    rw [List.map_append]
    exact nodup_append_singleton lawful.slugs slug
  keys := lawful.keys
  numbers := lawful.numbers
  owned := by
    intro v member
    obtain ⟨r, inside, owner⟩ := lawful.owned v member
    exact ⟨r, List.mem_append_left _ inside, owner⟩
  mediaIds := lawful.mediaIds

theorem insertVersion {row : VersionRow} (number : 1 ≤ row.number)
    (key : row.key ∉ tables.versions.map VersionRow.key)
    (owner : ∃ r ∈ tables.contents, r.id = row.contentId) :
    Lawful { tables with versions := tables.versions ++ [row.stored] } where
  ids := lawful.ids
  slugs := lawful.slugs
  keys := by
    rw [List.map_append]
    exact nodup_append_singleton lawful.keys key
  numbers := by
    intro v member
    rcases List.mem_append.mp member with old | new
    · exact lawful.numbers v old
    · rw [List.mem_singleton.mp new]
      exact number
  owned := by
    intro v member
    rcases List.mem_append.mp member with old | new
    · exact lawful.owned v old
    · rw [List.mem_singleton.mp new]
      exact owner
  mediaIds := lawful.mediaIds

/-- The changed row has the id that it had, and a slug that no other row has. -/
theorem updateContent {row : ContentRow} (fits : tables.updateViolation? row = none) :
    Lawful { tables with
      contents := tables.contents.map fun r =>
        if r.id == row.id then updated row.stored r else r } := by
  have ids : (tables.contents.map fun r => if r.id == row.id then updated row.stored r else r).map
      (·.id) = tables.contents.map (·.id) := by
    rw [List.map_map]
    refine List.map_congr_left fun r _ => ?_
    by_cases same : r.id = row.id
    · simp only [Function.comp_apply, beq_iff_eq, same, if_true]
      rfl
    · simp only [Function.comp_apply, beq_iff_eq, same, if_false]
  constructor
  case ids =>
    rw [ids]
    exact lawful.ids
  case slugs =>
    rw [List.map_map]
    refine List.Nodup.map_on (fun r first s second same => ?_) lawful.ids.of_map
    have distinct := List.inj_on_of_nodup_map lawful.ids first second
    by_cases left : r.id = row.id <;> by_cases right : s.id = row.id
    · exact distinct (left.trans right.symm)
    · simp only [Function.comp_apply, beq_iff_eq, left, right, if_true, if_false] at same
      exact absurd same.symm (updateViolation?_eq_none fits first left s second right)
    · simp only [Function.comp_apply, beq_iff_eq, left, right, if_true, if_false] at same
      exact absurd same (updateViolation?_eq_none fits second right r first left)
    · simp only [Function.comp_apply, beq_iff_eq, left, right, if_false] at same
      exact List.inj_on_of_nodup_map lawful.slugs first second same
  case keys => exact lawful.keys
  case numbers => exact lawful.numbers
  case owned =>
    intro v member
    have owner : v.contentId ∈ tables.contents.map (·.id) := by
      obtain ⟨r, inside, owner⟩ := lawful.owned v member
      exact List.mem_map.mpr ⟨r, inside, owner⟩
    rw [← ids] at owner
    exact List.mem_map.mp owner
  case mediaIds => exact lawful.mediaIds

theorem deleteContent (id : Uuid) :
    Lawful { tables with
      contents := tables.contents.filter (·.id != id)
      versions := tables.versions.filter (·.contentId != id) } where
  ids := lawful.ids.sublist (List.filter_sublist.map _)
  slugs := lawful.slugs.sublist (List.filter_sublist.map _)
  keys := lawful.keys.sublist (List.filter_sublist.map _)
  numbers := fun v member => lawful.numbers v (List.mem_filter.mp member).1
  owned := by
    intro v member
    obtain ⟨inside, differs⟩ := List.mem_filter.mp member
    obtain ⟨r, present, owner⟩ := lawful.owned v inside
    exact ⟨r, List.mem_filter.mpr ⟨present, owner ▸ differs⟩, owner⟩
  mediaIds := lawful.mediaIds

/-- A statement that violates no constraint leaves lawful tables. -/
theorem changedBy {β : Type} {statement : Statement β}
    (fits : tables.violation? statement = none) : (tables.changedBy statement).Lawful := by
  cases statement with
  | insertContent row =>
      obtain ⟨id, slug⟩ := contentViolation?_eq_none fits
      exact lawful.insertContent id slug
  | insertVersion row =>
      obtain ⟨number, key, owner⟩ := versionViolation?_eq_none fits
      exact lawful.insertVersion number key owner
  | updateContent row => exact lawful.updateContent fits
  | insertMedia row =>
      refine { lawful with mediaIds := ?_ }
      change ((tables.media ++ [row.stored]).map (·.id)).Nodup
      rw [List.map_append]
      exact nodup_append_singleton lawful.mediaIds (mediaViolation?_eq_none fits)
  | deleteContent id => exact lawful.deleteContent id
  | deleteMedia id =>
      exact { lawful with mediaIds := lawful.mediaIds.sublist (List.filter_sublist.map _) }
  | _ => exact lawful

theorem of_execute {β : Type} {statement : Statement β} {answer : β}
    (executed : tables.execute statement = .ok (answer, after)) : after.Lawful := by
  obtain ⟨fits, -, rfl⟩ := Tables.of_execute executed
  exact lawful.changedBy fits

end Lawful

/-! ## Tables that hold records -/

/-- Version rows have distinct keys if those of each record have distinct numbers. -/
theorem nodup_keys {rows : List VersionRow}
    (each : ∀ id, ((rows.filter (·.contentId == id)).map (·.number)).Nodup) :
    (rows.map VersionRow.key).Nodup := by
  induction rows with
  | nil => exact List.nodup_nil
  | cons v rest ih =>
      have later (id : Uuid) : ((rest.filter (·.contentId == id)).map (·.number)).Nodup :=
        (each id).sublist (((List.sublist_cons_self v rest).filter _).map _)
      refine List.nodup_cons.mpr ⟨fun member => ?_, ih later⟩
      obtain ⟨w, inside, same⟩ := List.mem_map.mp member
      obtain ⟨owner, number⟩ := Prod.mk.inj same
      have own := each v.contentId
      have self : (v.contentId == v.contentId) = true := beq_self_eq_true _
      simp only [List.filter_cons, self, if_true, List.map_cons] at own
      refine (List.nodup_cons.mp own).1 (List.mem_map.mpr ⟨w, ?_, number⟩)
      exact List.mem_filter.mpr ⟨inside, beq_iff_eq.mpr owner⟩

theorem Holds.nodup_numbers {records : List Content} (holds : tables.Holds records) (id : Uuid) :
    ((tables.versions.filter (·.contentId == id)).map (·.number)).Nodup := by
  by_cases present : ∃ c ∈ records, c.id = id
  · obtain ⟨c, member, rfl⟩ := present
    rw [holds.logs c member, List.map_map]
    have ascending := List.pairwise_map.mpr (holds.numbered c member).ascending
    exact ascending.imp Int.ne_of_lt
  · have none : tables.versions.filter (·.contentId == id) = [] := by
      refine List.filter_eq_nil_iff.mpr fun row member same => ?_
      obtain ⟨c, inside, owner⟩ := holds.owned row member
      exact present ⟨c, inside, owner.trans (beq_iff_eq.mp same)⟩
    rw [none]
    exact List.nodup_nil

/-- Tables that hold records with distinct slugs are lawful, if the media in them are. -/
theorem Holds.lawful {records : List Content} (holds : tables.Holds records)
    (slugs : (records.map (·.live.slug)).Nodup) (mediaIds : (tables.media.map (·.id)).Nodup) :
    tables.Lawful where
  ids := by
    rw [holds.rows, List.map_map]
    exact holds.distinct
  slugs := by
    rw [holds.rows, List.map_map]
    exact slugs
  keys := nodup_keys holds.nodup_numbers
  numbers := by
    intro row member
    obtain ⟨c, present, owner⟩ := holds.owned row member
    obtain ⟨v, logged, rfl⟩ := holds.exists_version present member owner.symm
    exact ((holds.numbered c present).taken v logged).1
  owned := by
    intro row member
    obtain ⟨c, present, owner⟩ := holds.owned row member
    exact ⟨_, holds.row_mem present, owner⟩
  mediaIds := mediaIds

end Tables

end ContentService.Sql
