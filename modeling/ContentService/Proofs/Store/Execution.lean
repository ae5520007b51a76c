import ContentService.Sql.Database

/-! # Execution of statements

A statement is executed unless it violates a constraint. What it answers and what it writes do not
depend on the constraints, and what these make sure of does not depend on the other statements.
-/

namespace ContentService.Sql

/-- The primary key of a version row. -/
def VersionRow.key (row : VersionRow) : Uuid × Int :=
  (row.contentId, row.number)

namespace Tables

variable {tables after : Tables}

/-! ## Answers and writes -/

/-- What a statement answers if it is executed, whatever the constraints say. -/
def answer {β : Type} (tables : Tables) : Statement β → β
  | .begin | .commit | .rollback | .snapshot => ()
  | .selectContent id | .lockContent id => tables.contents.find? (·.id == id)
  | .selectContents => tables.contents
  | .selectVersionsOf id => sortVersions (tables.versions.filter (·.contentId == id))
  | .selectVersions => sortVersions tables.versions
  | .selectSlugOwner slug => (tables.contents.find? (·.slug == slug)).map (·.id)
  | .insertContent _ | .insertVersion _ | .updateContent _ | .insertMedia _ => ()
  | .deleteContent id => (tables.contents.filter (·.id == id)).length
  | .selectMedia => tables.media
  | .deleteMedia id => tables.media.find? (·.id == id)

/-- The tables as a statement leaves them if it is executed, whatever the constraints say. -/
def changedBy {β : Type} (tables : Tables) : Statement β → Tables
  | .insertContent row => { tables with contents := tables.contents ++ [row.stored] }
  | .insertVersion row => { tables with versions := tables.versions ++ [row.stored] }
  | .updateContent row =>
    { tables with
      contents := tables.contents.map fun r =>
        if r.id == row.id then updated row.stored r else r }
  | .deleteContent id =>
    { tables with
      contents := tables.contents.filter (·.id != id)
      versions := tables.versions.filter (·.contentId != id) }
  | .insertMedia row => { tables with media := tables.media ++ [row.stored] }
  | .deleteMedia id => { tables with media := tables.media.filter (·.id != id) }
  | _ => tables

/-- The constraint that a statement violates. -/
def violation? {β : Type} (tables : Tables) : Statement β → Option DatabaseFault
  | .insertContent row => tables.contentViolation? row
  | .insertVersion row => tables.versionViolation? row
  | .updateContent row => tables.updateViolation? row
  | .insertMedia row => tables.mediaViolation? row
  | _ => none

section

variable {β : Type} {statement : Statement β}

theorem execute_eq (tables : Tables) (statement : Statement β) :
    tables.execute statement =
      match tables.violation? statement with
      | some fault => .error fault
      | none => .ok (tables.answer statement, tables.changedBy statement) := by
  cases statement with
  | insertContent row =>
      simp only [execute, violation?]
      cases tables.contentViolation? row <;> rfl
  | insertVersion row =>
      simp only [execute, violation?]
      cases tables.versionViolation? row <;> rfl
  | updateContent row =>
      simp only [execute, violation?]
      cases tables.updateViolation? row <;> rfl
  | insertMedia row =>
      simp only [execute, violation?]
      cases tables.mediaViolation? row <;> rfl
  | _ => rfl

theorem execute_of_fits (fits : tables.violation? statement = none) :
    tables.execute statement = .ok (tables.answer statement, tables.changedBy statement) := by
  rw [execute_eq, fits]

theorem execute_of_violates {fault : DatabaseFault}
    (violates : tables.violation? statement = some fault) :
    tables.execute statement = .error fault := by
  rw [execute_eq, violates]

theorem of_execute {answer : β} (executed : tables.execute statement = .ok (answer, after)) :
    tables.violation? statement = none ∧ answer = tables.answer statement ∧
      after = tables.changedBy statement := by
  rw [execute_eq] at executed
  cases fits : tables.violation? statement with
  | some fault => simp only [fits, reduceCtorEq] at executed
  | none =>
      simp only [fits, Except.ok.injEq, Prod.mk.injEq] at executed
      exact ⟨rfl, executed.1.symm, executed.2.symm⟩

end

/-! ## What constraints make sure of -/

theorem contentViolation?_eq_none {row : ContentRow}
    (fits : tables.contentViolation? row = none) :
    row.id ∉ tables.contents.map (·.id) ∧ row.slug ∉ tables.contents.map (·.slug) := by
  unfold contentViolation? at fits
  split at fits
  case isTrue => cases fits
  case isFalse id =>
    split at fits
    case isTrue => cases fits
    case isFalse slug =>
      simp only [List.any_eq_true, beq_iff_eq, not_exists, not_and] at id slug
      constructor
      · simpa only [List.mem_map, not_exists, not_and] using id
      · simpa only [List.mem_map, not_exists, not_and] using slug

theorem versionViolation?_eq_none {row : VersionRow}
    (fits : tables.versionViolation? row = none) :
    1 ≤ row.number ∧ row.key ∉ tables.versions.map VersionRow.key ∧
      ∃ r ∈ tables.contents, r.id = row.contentId := by
  unfold versionViolation? at fits
  split at fits
  case isTrue => cases fits
  case isFalse low =>
    split at fits
    case isTrue => cases fits
    case isFalse taken =>
      split at fits
      case isTrue => cases fits
      case isFalse orphan =>
        simp only [List.any_eq_true, Bool.and_eq_true, beq_iff_eq, not_exists, not_and] at taken
        simp only [Bool.not_eq_true', Bool.not_eq_false, List.any_eq_true, beq_iff_eq] at orphan
        refine ⟨by omega, fun member => ?_, orphan⟩
        obtain ⟨v, inside, same⟩ := List.mem_map.mp member
        obtain ⟨owner, number⟩ := Prod.mk.inj same
        exact taken v inside owner number

theorem updateViolation?_eq_none {row : ContentRow}
    (fits : tables.updateViolation? row = none) {old : ContentRow} (member : old ∈ tables.contents)
    (same : old.id = row.id) : ∀ r ∈ tables.contents, r.id ≠ row.id → r.slug ≠ row.slug := by
  intro r inside differs held
  have present : tables.contents.any (·.id == row.id) = true :=
    List.any_eq_true.mpr ⟨old, member, beq_iff_eq.mpr same⟩
  have taken : (tables.contents.any fun r => r.id != row.id && r.slug == row.slug) = true :=
    List.any_eq_true.mpr ⟨r, inside, Bool.and_eq_true_iff.mpr
      ⟨bne_iff_ne.mpr differs, beq_iff_eq.mpr held⟩⟩
  rw [updateViolation?, if_pos present, if_pos taken] at fits
  cases fits

theorem mediaViolation?_eq_none {row : MediaRow} (fits : tables.mediaViolation? row = none) :
    row.id ∉ tables.media.map (·.id) := by
  unfold mediaViolation? at fits
  split at fits
  case isTrue => cases fits
  case isFalse =>
    split at fits
    case isTrue => cases fits
    case isFalse taken =>
      simp only [List.any_eq_true, beq_iff_eq, not_exists, not_and] at taken
      simpa only [List.mem_map, not_exists, not_and] using taken

end Tables

end ContentService.Sql
