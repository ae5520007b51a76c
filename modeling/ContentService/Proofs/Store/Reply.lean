import ContentService.Proofs.Store.Conversation
import ContentService.Proofs.Store.Tables
import ContentService.Proofs.Store.Transaction

/-! # Replies of the database

What the database replies to each request for content records if nothing goes wrong, and what it
holds afterwards. The replies are computed statement by statement from the records that the tables
hold.
-/

namespace ContentService.Sql

namespace Connection

variable {α β : Type}

/-- Work on a connection to which nothing goes wrong. -/
def perform (work : Work α) (connection : Connection) : Except Failure α × Connection :=
  Program.run execute work connection

/-- A connection with an open transaction. -/
def opened (committed working : Tables) : Connection :=
  ⟨committed, some working⟩

theorem perform_bind (work : Work α) (next : α → Work β) (connection : Connection) :
    connection.perform (work >>= next) =
      match connection.perform work with
      | (.ok a, connection) => connection.perform (next a)
      | (.error failure, connection) => (.error failure, connection) := by
  refine (Program.run_exceptBind execute work next connection).trans ?_
  unfold perform
  obtain ⟨result, after⟩ := Program.run execute work connection
  cases result <;> rfl

theorem perform_executeOr (explain : DatabaseFault → Failure) (statement : Statement β)
    (connection : Connection) :
    connection.perform (Work.executeOr explain statement) =
      ((connection.execute statement).1.mapError explain, (connection.execute statement).2) := by
  change Program.run execute (Program.ask statement _) connection = _
  simp only [Program.run]
  cases (connection.execute statement).1 <;> rfl

theorem perform_ofExcept (result : Except Failure β) (next : β → Work α)
    (connection : Connection) :
    connection.perform (ofExcept result >>= next) =
      match result with
      | .ok a => connection.perform (next a)
      | .error failure => (.error failure, connection) := by
  cases result <;> rfl

theorem perform_transaction (commits : α → Bool) (body : Work α) (tables : Tables) :
    (idle tables).perform (Work.transaction commits body) =
      match (opened tables tables).perform body with
      | (.ok a, connection) =>
        (.ok a, if commits a then idle (connection.working.getD connection.committed)
          else connection.undone)
      | (.error failure, connection) => (.error failure, connection.undone) := by
  refine Eq.trans (Program.run_bind execute (Work.execute .begin >>= fun _ => body : Work α)
    (Work.finish commits) (idle tables)) ?_
  have begun : (idle tables).perform (Work.execute .begin >>= fun _ => body) =
      (opened tables tables).perform body := by
    rw [perform_bind]
    rfl
  rw [show Program.run execute (Work.execute .begin >>= fun _ => body : Work α) (idle tables) = _
    from begun]
  obtain ⟨result, after⟩ := (opened tables tables).perform body
  cases result with
  | error failure => rfl
  | ok a =>
      simp only [Work.finish]
      cases commits a <;> rfl

variable {committed working tables : Tables} {a : β} {explain : DatabaseFault → Failure}
  {next : β → Work α}

theorem execute_opened (statement : Statement β)
    (executed : working.execute statement = .ok (a, tables)) (works : statement.Works) :
    (opened committed working).execute statement = (.ok a, opened committed tables) := by
  unfold Connection.execute opened
  simp only [Option.getD_some, executed]
  cases statement <;> first | exact works.elim | rfl

theorem execute_opened_error (statement : Statement β) {fault : DatabaseFault}
    (refused : working.execute statement = .error fault) :
    (opened committed working).execute statement = (.error fault, idle committed) := by
  unfold Connection.execute opened
  simp only [Option.getD_some, refused]
  rfl

theorem perform_statement (statement : Statement β)
    (executed : working.execute statement = .ok (a, tables)) (works : statement.Works) :
    (opened committed working).perform (Work.executeOr explain statement >>= next) =
      (opened committed tables).perform (next a) := by
  rw [perform_bind, perform_executeOr, execute_opened statement executed works]
  rfl

theorem perform_statement_error (statement : Statement β) {fault : DatabaseFault}
    (refused : working.execute statement = .error fault) :
    (opened committed working).perform (Work.executeOr explain statement >>= next) =
      (.error (explain fault), idle committed) := by
  rw [perform_bind, perform_executeOr, execute_opened_error statement refused]
  rfl

theorem perform_versionsOf (id : Uuid) (working : Tables) {next : List Version → Work α} :
    (opened committed working).perform (versionsOf id >>= next) =
      (opened committed working).perform (next ((Tables.sortVersions
        (working.versions.filter (·.contentId == id))).map VersionRow.version)) := by
  unfold versionsOf Work.execute
  rw [perform_bind, perform_statement (.selectVersionsOf id) rfl trivial]
  rfl

theorem perform_getContent (id : Uuid) (tables : Tables) :
    (idle tables).perform (getContent id) =
      (match tables.contents.find? (·.id == id) with
        | none => .ok none
        | some row => (row.content ((Tables.sortVersions
            (tables.versions.filter (·.contentId == id))).map VersionRow.version)).map some,
        idle tables) := by
  unfold getContent Work.execute
  rw [perform_bind, perform_transaction, perform_statement .snapshot rfl trivial,
    perform_statement (.selectContent id) rfl trivial]
  cases found : tables.contents.find? (·.id == id) with
  | none => rfl
  | some row =>
      dsimp only
      rw [perform_versionsOf]
      generalize (Tables.sortVersions _).map VersionRow.version = versions
      change (idle tables).perform (ofExcept (row.content versions) >>= fun content =>
        pure (some content)) = _
      rw [perform_ofExcept]
      cases row.content versions <;> rfl

end Connection

open Connection

/-! ## Writes that fit -/

namespace Tables

variable {tables : Tables}

/-- A version row fits if it has a positive number above those of the record's log. -/
theorem versionViolation?_of_above {row : VersionRow} (number : 1 ≤ row.number)
    (above : ∀ v ∈ tables.versions, v.contentId = row.contentId → v.number < row.number)
    (owner : tables.contents.any (·.id == row.contentId) = true) :
    tables.versionViolation? row = none := by
  have key : (tables.versions.any fun v => v.contentId == row.contentId && v.number == row.number) =
      false := by
    refine List.any_eq_false.mpr fun v member same => ?_
    obtain ⟨owned, equal⟩ := Bool.and_eq_true_iff.mp same
    have less := above v member (beq_iff_eq.mp owned)
    have tie : v.number = row.number := beq_iff_eq.mp equal
    omega
  have low : ¬ row.number < 1 := by omega
  unfold versionViolation?
  rw [if_neg low, key, owner]
  rfl

/-- A changed row is refused the slug of another row. -/
theorem updateViolation?_of_taken {row : ContentRow}
    (present : ∃ r ∈ tables.contents, r.id = row.id)
    (taken : ∃ r ∈ tables.contents, r.id ≠ row.id ∧ r.slug = row.slug) :
    tables.updateViolation? row = some (violation uniqueViolation slugConstraint) := by
  have here : (tables.contents.any fun r => r.id == row.id) = true := by
    obtain ⟨r, member, same⟩ := present
    exact List.any_eq_true.mpr ⟨r, member, beq_iff_eq.mpr same⟩
  have clash : (tables.contents.any fun r => r.id != row.id && r.slug == row.slug) = true := by
    obtain ⟨r, member, other, same⟩ := taken
    refine List.any_eq_true.mpr ⟨r, member, Bool.and_eq_true_iff.mpr ⟨?_, ?_⟩⟩
    · exact bne_iff_ne.mpr other
    · exact beq_iff_eq.mpr same
  unfold updateViolation?
  rw [if_pos here, if_pos clash]

theorem updateViolation?_of_free {row : ContentRow}
    (free : ∀ r ∈ tables.contents, r.id ≠ row.id → r.slug ≠ row.slug) :
    tables.updateViolation? row = none := by
  have clash : (tables.contents.any fun r => r.id != row.id && r.slug == row.slug) = false := by
    refine List.any_eq_false.mpr fun r member taken => ?_
    obtain ⟨other, same⟩ := Bool.and_eq_true_iff.mp taken
    exact free r member (bne_iff_ne.mp other) (beq_iff_eq.mp same)
  unfold updateViolation?
  rw [clash]
  exact ite_self none

end Tables

/-! ## Replies -/

namespace Tables.Holds

variable {tables : Tables} {records : List Content}

theorem find?_contents (holds : tables.Holds records) (id : Uuid) :
    tables.contents.find? (·.id == id) =
      (records.find? (·.id == id)).map ContentRow.ofContent := by
  rw [holds.rows, List.find?_map]
  rfl

theorem log (holds : tables.Holds records) {c : Content} (member : c ∈ records) :
    (sortVersions (tables.versions.filter (·.contentId == c.id))).map VersionRow.version =
      c.versions := by
  rw [holds.sortVersions_filter member, List.map_map]
  exact List.map_id _

theorem perform_get (holds : tables.Holds records) (id : Uuid) :
    (idle tables).perform (content (.get id)) =
      (.ok (records.find? (·.id == id)), idle tables) := by
  refine (perform_getContent id tables).trans ?_
  rw [holds.find?_contents id]
  cases found : records.find? (·.id == id) with
  | none => rfl
  | some c =>
      obtain ⟨member, rfl⟩ := mem_and_key_of_find? found
      simp only [Option.map_some, holds.log member, ContentRow.content_ofContent]
      rfl

theorem perform_slugOwner (holds : tables.Holds records) (slug : String) :
    (idle tables).perform (content (.slugOwner slug)) =
      (.ok ((records.find? (·.live.slug == slug)).map (·.id)), idle tables) := by
  have found : (tables.contents.find? (·.slug == slug)).map (·.id) =
      (records.find? (·.live.slug == slug)).map (·.id) := by
    rw [holds.rows, List.find?_map, Option.map_map]
    rfl
  rw [← found]
  rfl

theorem perform_delete (holds : tables.Holds records) (id : Uuid) :
    ∃ after, (idle tables).perform (content (.delete id)) =
      (.ok (records.any (·.id == id)), idle after) ∧ after.Holds (others id records) := by
  refine ⟨_, ?_, holds.remove id⟩
  have removed : decide ((tables.contents.filter (·.id == id)).length > 0) =
      records.any (·.id == id) := by
    rw [holds.rows, List.filter_map, List.length_map, Bool.eq_iff_iff, decide_eq_true_eq,
      gt_iff_lt, List.length_pos_iff_exists_mem, List.any_eq_true]
    simp only [List.mem_filter, Function.comp_apply]
    rfl
  rw [← removed]
  rfl

theorem any_id (holds : tables.Holds records) (id : Uuid) :
    tables.contents.any (·.id == id) = records.any (·.id == id) := by
  rw [holds.rows, List.any_map]
  rfl

theorem any_slug (holds : tables.Holds records) (slug : String) :
    tables.contents.any (·.slug == slug) = records.any (·.live.slug == slug) := by
  rw [holds.rows, List.any_map]
  rfl

/-! ## Insertion -/

theorem contentViolation?_eq (holds : tables.Holds records) {row : ContentRow}
    (fresh : records.any (·.id == row.id) = false) :
    tables.contentViolation? row =
      if records.any (·.live.slug == row.slug) then some (violation uniqueViolation slugConstraint)
      else none := by
  unfold contentViolation?
  rw [holds.any_id, holds.any_slug, fresh]
  rfl

section Insertion

variable {id : Uuid} {edition : Edition} {actor : String} {now : Instant}

theorem perform_insert_taken (holds : tables.Holds records)
    (fresh : records.any (·.id == id) = false)
    (taken : records.any (·.live.slug == edition.slug) = true) :
    (idle tables).perform (content (.insert (.initial id edition actor now))) =
      (.error (.slugTaken edition.slug), idle tables) := by
  let row := ContentRow.ofContent (.initial id edition actor now)
  have clash : records.any (·.live.slug == row.slug) = true := taken
  have refused : tables.violation? (.insertContent row) =
      some (violation uniqueViolation slugConstraint) := by
    change tables.contentViolation? row = _
    rw [holds.contentViolation?_eq fresh, if_pos clash]
  change (idle tables).perform (insertContent _) = _
  unfold insertContent
  rw [perform_transaction, perform_statement_error _ (execute_of_violates refused)]
  rfl

theorem perform_insert_present (holds : tables.Holds records)
    (present : records.any (·.id == id) = true) :
    (idle tables).perform (content (.insert (.initial id edition actor now))) =
      (.error (.database (violation uniqueViolation "contents_pkey")), idle tables) := by
  let row := ContentRow.ofContent (.initial id edition actor now)
  have refused : tables.violation? (.insertContent row) =
      some (violation uniqueViolation "contents_pkey") := by
    change tables.contentViolation? row = _
    unfold contentViolation?
    rw [holds.any_id]
    exact if_pos present
  change (idle tables).perform (insertContent _) = _
  unfold insertContent
  rw [perform_transaction, perform_statement_error _ (execute_of_violates refused)]
  rfl

/-- A new record is kept with its times in whole microseconds. -/
theorem perform_insert (holds : tables.Holds records)
    (fresh : records.any (·.id == id) = false)
    (free : records.any (·.live.slug == edition.slug) = false) :
    ∃ after, (idle tables).perform (content (.insert (.initial id edition actor now))) =
      (.ok (), idle after) ∧ after.Holds (records ++ [.initial id edition actor now.stored]) := by
  have absent : ∀ c ∈ records, c.id ≠ id := fun c member same =>
    List.any_eq_false.mp fresh c member (beq_iff_eq.mpr same)
  refine ⟨_, ?_, holds.insert absent edition actor now.stored⟩
  let row := ContentRow.ofContent (.initial id edition actor now)
  let first := VersionRow.ofVersion id (edition.version 1 actor now)
  have noClash : ¬ records.any (·.live.slug == row.slug) = true := Bool.eq_false_iff.mp free
  have rowFits : tables.violation? (.insertContent row) = none := by
    change tables.contentViolation? row = _
    rw [holds.contentViolation?_eq fresh, if_neg noClash]
  have rowAdded := execute_of_fits rowFits
  have firstFits : (tables.changedBy (.insertContent row)).violation? (.insertVersion first) =
      none := by
    refine versionViolation?_of_above (Int.le_refl 1) (fun v member same => ?_) ?_
    · obtain ⟨c, present, owner⟩ := holds.owned v member
      exact absurd (owner.trans same) (absent c present)
    · have added : row.stored ∈ (tables.changedBy (.insertContent row)).contents :=
        List.mem_append_right _ (List.mem_singleton_self _)
      exact List.any_eq_true.mpr ⟨_, added, beq_self_eq_true id⟩
  have firstAdded := execute_of_fits firstFits
  change (idle tables).perform (insertContent _) = _
  unfold insertContent
  rw [perform_transaction, perform_statement _ rowAdded trivial]
  have sends : insertVersions (Content.initial id edition actor now).id
      (Content.initial id edition actor now).versions =
        (Work.executeOr .database (.insertVersion first) >>= fun _ => pure () : Work Unit) := rfl
  rw [sends, perform_statement _ firstAdded trivial]
  rfl

end Insertion

/-! ## Changes -/

section Changes

variable {id : Uuid} {change : Change} {now : Instant} {old : Content}

theorem perform_apply_missing (holds : tables.Holds records)
    (missing : records.find? (·.id == id) = none) :
    (idle tables).perform (content (.apply id change now)) =
      (.error (.contentNotFound id), idle tables) := by
  have absent : tables.contents.find? (·.id == id) = none := by
    rw [holds.find?_contents, missing]
    rfl
  change (idle tables).perform (Work.transaction _ (changing id change now)) = _
  unfold changing Work.execute
  rw [perform_transaction, perform_statement (.lockContent id) rfl trivial, absent]
  rfl

/-- A change of a record that is there does what the record allows, and then stores it. -/
theorem perform_apply_found (holds : tables.Holds records)
    (found : records.find? (·.id == id) = some old) :
    (idle tables).perform (content (.apply id change now)) =
      match old.apply change now with
      | .error failure => (.error failure, idle tables)
      | .ok (changed, v) =>
        match (opened tables tables).perform (storing id changed v) with
        | (.ok a, connection) => (.ok a, idle (connection.working.getD connection.committed))
        | (.error failure, connection) => (.error failure, connection.undone) := by
  obtain ⟨member, rfl⟩ := mem_and_key_of_find? found
  have locked : tables.contents.find? (·.id == old.id) = some (ContentRow.ofContent old) := by
    rw [holds.find?_contents, found]
    rfl
  change (idle tables).perform (Work.transaction _ (changing old.id change now)) = _
  unfold changing Work.execute
  rw [perform_transaction, perform_statement (.lockContent old.id) rfl trivial, locked]
  dsimp only
  rw [perform_versionsOf, holds.log member, ContentRow.content_ofContent, perform_ofExcept]
  dsimp only
  rw [perform_ofExcept]
  cases old.apply change now with
  | error failure => rfl
  | ok result =>
      obtain ⟨changed, v⟩ := result
      dsimp only
      obtain ⟨outcome, connection⟩ := (opened tables tables).perform (storing old.id changed v)
      cases outcome <;> rfl

theorem perform_apply_failed (holds : tables.Holds records)
    (found : records.find? (·.id == id) = some old) {failure : Failure}
    (failed : old.apply change now = .error failure) :
    (idle tables).perform (content (.apply id change now)) = (.error failure, idle tables) := by
  rw [holds.perform_apply_found found, failed]

/-- The version that a change appends is taken. -/
theorem execute_insertVersion (holds : tables.Holds records) (member : old ∈ records)
    (edition : Edition) (actor : String) (time : Instant) :
    let row := VersionRow.ofVersion old.id (old.written edition actor time)
    tables.execute (.insertVersion row) = .ok ((), tables.changedBy (.insertVersion row)) := by
  have positive := (holds.numbered old member).nextNumber_pos
  refine execute_of_fits (versionViolation?_of_above positive (fun w inside owner => ?_) ?_)
  · obtain ⟨earlier, present, rfl⟩ := holds.exists_version member inside owner
    exact lt_nextNumber present
  · exact List.any_eq_true.mpr ⟨_, holds.row_mem member, beq_self_eq_true old.id⟩

/-- A change that asks for the slug of another record is refused. -/
theorem perform_apply_taken (holds : tables.Holds records)
    (found : records.find? (·.id == id) = some old) {edition : Edition}
    (asked : old.editionOf change = .ok edition)
    (taken : ∃ c ∈ records, c.id ≠ id ∧ c.live.slug = edition.slug) :
    (idle tables).perform (content (.apply id change now)) =
      (.error (.slugTaken edition.slug), idle tables) := by
  obtain ⟨member, rfl⟩ := mem_and_key_of_find? found
  let changed := old.write edition change.actor now
  let row := VersionRow.ofVersion old.id (old.written edition change.actor now)
  have applied : old.apply change now = .ok (changed, old.written edition change.actor now) :=
    Content.apply_eq_ok_iff.mpr ⟨edition, asked, rfl, rfl⟩
  have logged := holds.execute_insertVersion member edition change.actor now
  have clash : (tables.changedBy (.insertVersion row)).violation?
      (.updateContent { ContentRow.ofContent changed with id := old.id }) =
        some (violation uniqueViolation slugConstraint) := by
    refine updateViolation?_of_taken ⟨_, holds.row_mem member, rfl⟩ ?_
    obtain ⟨c, present, differs, slug⟩ := taken
    exact ⟨_, holds.row_mem present, differs, slug⟩
  have refused := execute_of_violates clash
  rw [holds.perform_apply_found found, applied]
  dsimp only
  unfold storing Work.execute
  rw [perform_statement _ logged trivial, perform_statement_error _ refused]
  rfl

/-- A changed record is kept with its times in whole microseconds. -/
theorem perform_apply (holds : tables.Holds records)
    (found : records.find? (·.id == id) = some old) {edition : Edition}
    (asked : old.editionOf change = .ok edition)
    (free : ∀ c ∈ records, c.id ≠ id → c.live.slug ≠ edition.slug)
    (now : Instant) :
    ∃ after, (idle tables).perform (content (.apply id change now)) =
      (.ok (old.write edition change.actor now), idle after) ∧
      after.Holds (replaced (old.write edition change.actor now.stored) records) := by
  obtain ⟨member, rfl⟩ := mem_and_key_of_find? found
  have room := (Content.editionOf_eq_ok_iff.mp asked).2
  refine ⟨_, ?_, holds.write member edition change.actor now.stored room⟩
  let changed := old.write edition change.actor now
  let v := old.written edition change.actor now
  let row := VersionRow.ofVersion old.id v
  have applied : old.apply change now = .ok (changed, v) :=
    Content.apply_eq_ok_iff.mpr ⟨edition, asked, rfl, rfl⟩
  have logged := holds.execute_insertVersion member edition change.actor now
  have unclashed : (tables.changedBy (.insertVersion row)).violation?
      (.updateContent { ContentRow.ofContent changed with id := old.id }) = none := by
    refine updateViolation?_of_free fun r inside differs => ?_
    change r ∈ tables.contents at inside
    rw [holds.rows] at inside
    obtain ⟨c, present, rfl⟩ := List.mem_map.mp inside
    exact free c present differs
  have stored := execute_of_fits unclashed
  rw [holds.perform_apply_found found, applied]
  dsimp only
  unfold storing Work.execute
  rw [perform_statement _ logged trivial, perform_statement _ stored trivial]
  have rows := holds.map_updated member edition change.actor now
  exact congrArg (fun contents => (_, idle ⟨contents, tables.versions ++ [row.stored],
    tables.media⟩)) rows

end Changes

end Tables.Holds

end ContentService.Sql
