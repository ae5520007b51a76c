import ContentService.Proofs.Store.Tables
import ContentService.Proofs.Store.Transaction

/-! # The store in the database

A request to the store in the database, whichever of its statements fail, leaves tables that hold
records again, and does to the records what its answer says. All records are read back as they are
held.
-/

namespace ContentService.Sql

open Work

/-! ## Requests that only read -/

theorem leads_versionsOf (id : Uuid) (tables : Tables) :
    (versionsOf id).Leads tables fun versions after =>
      versions = (Tables.sortVersions (tables.versions.filter (·.contentId == id))).map
        VersionRow.version ∧ after = tables := by
  refine Leads.bind (Leads.statement trivial) fun rows after executed => Leads.pure ?_
  cases executed
  exact ⟨rfl, rfl⟩

theorem settles_getContent (id : Uuid) (tables : Tables) :
    (getContent id).Settles tables fun _ after => after = tables := by
  unfold getContent
  refine Settles.bind (Settles.transaction (fun _ after => after = tables) ?_)
    (fun found after settled => ?_) fun failure after settled => settled
  · refine Leads.bind (Leads.statement trivial) fun _ after executed => ?_
    cases executed
    refine Leads.bind (Leads.statement trivial) fun found after executed => ?_
    cases executed
    cases tables.contents.find? (·.id == id) with
    | none => exact Leads.pure rfl
    | some row => exact Leads.bind (leads_versionsOf id tables) fun _ _ read => Leads.pure read.2
  · obtain ⟨working, rfl, rfl⟩ := settled
    rw [ite_self]
    cases found with
    | none => exact Settles.pure rfl
    | some pair =>
        have read : Settles (ofExcept (pair.1.content pair.2)) working
            fun _ after => after = working := Settles.ofExcept rfl
        exact Settles.bind read (fun _ _ same => Settles.pure same) fun _ _ same => same

theorem settles_listContents (tables : Tables) :
    listContents.Settles tables fun _ after => after = tables := by
  unfold listContents
  refine Settles.bind (Settles.transaction (fun _ after => after = tables) ?_)
    (fun found after settled => ?_) fun failure after settled => settled
  · refine Leads.bind (Leads.statement trivial) fun _ after executed => ?_
    cases executed
    refine Leads.bind (Leads.statement trivial) fun rows after executed => ?_
    cases executed
    refine Leads.bind (Leads.statement trivial) fun versions after executed => ?_
    cases executed
    exact Leads.pure rfl
  · obtain ⟨working, rfl, rfl⟩ := settled
    exact Settles.ofExcept rfl

/-! ## Requests that write -/

variable {tables : Tables} {records : List Content}

/-- What a request to tables that hold records leaves, and what it does to the records. -/
def Turned {β : Type} (records : List Content) (request : ContentRequest β)
    (reply : Except Failure β) (after : Tables) : Prop :=
  ∃ kept, after.Holds kept ∧ (request.effect reply).Turns records kept

theorem turned_error {β : Type} (holds : tables.Holds records) (request : ContentRequest β)
    (failure : Failure) : Turned records request (.error failure) tables := by
  refine ⟨records, holds, ?_⟩
  cases request <;> exact .refl _

theorem settles_deleteContent (holds : tables.Holds records) (id : Uuid) :
    (content (.delete id)).Settles tables (Turned records (.delete id)) := by
  refine Settles.bind (Settles.statement trivial) (fun removed after executed => ?_)
    fun failure after same => ?_
  · cases executed
    exact Settles.pure ⟨others id records, holds.remove id, .refl _⟩
  · obtain rfl := same
    exact turned_error holds _ failure

theorem settles_insertContent (holds : tables.Holds records) (id : Uuid) (edition : Edition)
    (actor : String) (now : Instant) :
    (insertContent (.initial id edition actor now)).Settles tables
      (Turned records (.insert (.initial id edition actor now))) := by
  refine (Settles.transaction (fun _ after =>
    (∀ c ∈ records, c.id ≠ id ∧ c.live.slug ≠ edition.slug) ∧
      after.Holds (records ++ [.initial id edition actor now.stored])) ?_).imp
    fun result after settled => ?_
  · refine Leads.bind (Leads.statement trivial) fun _ after executed => ?_
    obtain ⟨fits, -, rfl⟩ := Tables.of_execute executed
    refine Leads.bind (Leads.statement trivial) fun _ after executed => ?_
    obtain ⟨-, -, rfl⟩ := Tables.of_execute executed
    obtain ⟨freshId, freeSlug⟩ := Tables.contentViolation?_eq_none fits
    have apart : ∀ c ∈ records, c.id ≠ id ∧ c.live.slug ≠ edition.slug := fun c member =>
      ⟨fun same => freshId (List.mem_map.mpr ⟨_, holds.row_mem member, same⟩),
        fun same => freeSlug (List.mem_map.mpr ⟨_, holds.row_mem member, same⟩)⟩
    have fresh : ∀ c ∈ records, c.id ≠ id := fun c member => (apart c member).1
    exact Leads.pure ⟨apart, holds.insert fresh edition actor now.stored⟩
  cases result with
  | error failure =>
      obtain rfl := settled
      exact turned_error holds _ failure
  | ok =>
      obtain ⟨working, ⟨free, held⟩, rfl⟩ := settled
      refine ⟨_, held, fun c member => (free c member).2, now.stored, ?_⟩
      change (records ++ [_]).Perm (_ :: others id records)
      rw [others_eq_self fun c member => (free c member).1]
      exact List.perm_append_singleton _ _

/-- A change that leads to a commit writes to a record, while no other holds its slug. -/
def Changed (records : List Content) (id : Uuid) (change : Change) (now : Instant)
    (after : Tables) : Prop :=
  ∃ old ∈ records, old.id = id ∧ ∃ edition, old.editionOf change = .ok edition ∧
    (∀ c ∈ records, c.id ≠ id → c.live.slug ≠ edition.slug) ∧
    after.Holds (replaced (old.write edition change.actor now.stored) records)

theorem leads_write (holds : tables.Holds records) {old : Content} (member : old ∈ records)
    (edition : Edition) (actor : String) (now : Instant)
    (room : nextNumber old.versions < 2 ^ 31) :
    Leads (do
      execute (.insertVersion (.ofVersion old.id (old.written edition actor now)))
      executeOr (Failure.ofWrite · edition.slug)
        (.updateContent { ContentRow.ofContent (old.write edition actor now) with id := old.id })
      return old.write edition actor now) tables fun _ after =>
        (∀ c ∈ records, c.id ≠ old.id → c.live.slug ≠ edition.slug) ∧
          after.Holds (replaced (old.write edition actor now.stored) records) := by
  refine Leads.bind (Leads.statement trivial) fun _ after executed => ?_
  obtain ⟨-, -, rfl⟩ := Tables.of_execute executed
  refine Leads.bind (Leads.statement trivial) fun _ after executed => ?_
  obtain ⟨fits, -, rfl⟩ := Tables.of_execute executed
  have free := Tables.updateViolation?_eq_none fits (holds.row_mem member) rfl
  refine Leads.pure ⟨fun c present differs => free _ (holds.row_mem present) differs, ?_⟩
  have written := holds.write member edition actor now.stored room
  rw [← holds.map_updated member edition actor now] at written
  exact written

theorem settles_applyChange (holds : tables.Holds records) (id : Uuid) (change : Change)
    (now : Instant) :
    (applyChange id change now).Settles tables (Turned records (.apply id change now)) := by
  refine (Settles.transaction (fun _ after => Changed records id change now after) ?_).imp
    fun result after settled => ?_
  · refine Leads.bind (Leads.statement trivial) fun found after executed => ?_
    cases executed
    cases found : tables.contents.find? (·.id == id) with
    | none => exact Leads.throw _
    | some row =>
        obtain ⟨old, member, rfl, rfl⟩ := holds.exists_of_find? found
        refine Leads.bind (leads_versionsOf old.id tables) fun versions after read => ?_
        obtain ⟨rfl, rfl⟩ := read
        have log : (Tables.sortVersions (after.versions.filter (·.contentId == old.id))).map
            VersionRow.version = old.versions := by
          rw [holds.sortVersions_filter member, List.map_map]
          exact List.map_id _
        refine Leads.bind (Leads.ofExcept _) fun content _ read => ?_
        obtain ⟨read, rfl⟩ := read
        rw [log, ContentRow.content_ofContent] at read
        cases read
        refine Leads.bind (Leads.ofExcept _) fun result _ applied => ?_
        obtain ⟨applied, rfl⟩ := applied
        obtain ⟨changed, appended⟩ := result
        obtain ⟨edition, asked, rfl, rfl⟩ := Content.apply_eq_ok_iff.mp applied
        have room := (Content.editionOf_eq_ok_iff.mp asked).2
        refine (leads_write holds member edition change.actor now room).imp
          fun _ working written => ?_
        exact ⟨old, member, rfl, edition, asked, written⟩
  cases result with
  | error failure =>
      obtain rfl := settled
      exact turned_error holds _ failure
  | ok changed =>
      obtain ⟨working, ⟨old, member, rfl, edition, asked, free, held⟩, rfl⟩ := settled
      refine ⟨_, held, fun slug wanted c present differs => ?_, old, member, rfl, edition, asked,
        now.stored, replaced_perm holds.distinct member rfl⟩
      rw [Content.slug_of_editionOf asked, wanted] at free
      exact free c present differs

/-- **Requests to the database.** Whichever of its statements fail, a request leaves tables that
hold records, and does to the records what its answer says. -/
theorem settles_content {β : Type} (request : ContentRequest β) (proper : request.InsertsNew)
    (holds : tables.Holds records) :
    (content request).Settles tables (Turned records request) := by
  cases request with
  | get id =>
      refine (settles_getContent id tables).imp fun reply after same => ?_
      exact ⟨records, same ▸ holds, .refl _⟩
  | list =>
      refine (settles_listContents tables).imp fun reply after same => ?_
      exact ⟨records, same ▸ holds, .refl _⟩
  | slugOwner slug =>
      have works : (Statement.selectSlugOwner slug).Works := trivial
      refine (Settles.statement works).imp fun reply after settled => ?_
      cases reply with
      | error failure => exact settled ▸ turned_error holds _ failure
      | ok owner =>
          cases settled
          exact ⟨records, holds, .refl _⟩
  | insert content =>
      obtain ⟨id, edition, actor, now, rfl⟩ := proper
      exact settles_insertContent holds id edition actor now
  | apply id change now => exact settles_applyChange holds id change now
  | delete id => exact settles_deleteContent holds id

/-! ## Reading back -/

theorem mapM_eq_ok_iff {ρ σ : Type} {read : ρ → Except Failure σ} {rows : List ρ} {found : List σ} :
    rows.mapM read = .ok found ↔ List.Forall₂ (fun row a => read row = .ok a) rows found := by
  induction rows generalizing found with
  | nil =>
      rw [List.mapM_nil, List.forall₂_nil_left_iff]
      exact ⟨fun same => (Except.ok.inj same).symm, fun same => congrArg Except.ok same.symm⟩
  | cons row rest ih =>
      rw [List.mapM_cons, List.forall₂_cons_left_iff]
      simp only [← ih]
      cases read row with
      | error failure => exact iff_of_false nofun fun ⟨_, _, absent, _⟩ => nomatch absent
      | ok a =>
          cases rest.mapM read with
          | error failure => exact iff_of_false nofun fun ⟨_, _, _, absent, _⟩ => nomatch absent
          | ok others =>
              constructor
              · intro same
                cases same
                exact ⟨a, others, rfl, rfl, rfl⟩
              · rintro ⟨_, _, same, sameOthers, rfl⟩
                cases same
                cases sameOthers
                rfl

/-- Rows with distinct ids are joined one by one, each with the version rows of its id. -/
theorem joinRows_eq_mapM {rows : List ContentRow} {versions : List VersionRow}
    (distinct : (rows.map (·.id)).Nodup) {log : Uuid → List VersionRow}
    (logs : ∀ row ∈ rows, versions.filter (·.contentId == row.id) = log row.id) :
    joinRows rows versions =
      rows.mapM fun row => row.content ((log row.id).map VersionRow.version) := by
  induction rows generalizing versions with
  | nil => rfl
  | cons row rest ih =>
      obtain ⟨absent, distinct⟩ := List.nodup_cons.mp distinct
      have others : ∀ other ∈ rest, (versions.filter (·.contentId != row.id)).filter
          (·.contentId == other.id) = log other.id := by
        intro other later
        have differs : other.id ≠ row.id := fun same =>
          absent (List.mem_map.mpr ⟨other, later, same⟩)
        rw [filter_filter_version versions differs]
        exact logs other (List.mem_cons_of_mem row later)
      rw [joinRows, List.mapM_cons, ih distinct others, logs row List.mem_cons_self]

/-- Rows are joined to the records whose versions the version rows are. -/
theorem joinRows_eq_ok {records : List Content} {versions : List VersionRow}
    (distinct : (records.map (·.id)).Nodup)
    (logs : ∀ c ∈ records,
      versions.filter (·.contentId == c.id) = c.versions.map (VersionRow.ofVersion c.id)) :
    joinRows (records.map ContentRow.ofContent) versions = .ok records := by
  have ids : ((records.map ContentRow.ofContent).map (·.id)).Nodup := by
    rw [List.map_map]
    exact distinct
  let log (id : Uuid) : List VersionRow := versions.filter (·.contentId == id)
  have own : ∀ row ∈ records.map ContentRow.ofContent,
      versions.filter (·.contentId == row.id) = log row.id := fun _ _ => rfl
  rw [joinRows_eq_mapM ids own, mapM_eq_ok_iff, List.forall₂_map_left_iff, List.forall₂_same]
  intro c member
  have log : (versions.filter (·.contentId == c.id)).map VersionRow.version = c.versions := by
    rw [logs c member, List.map_map]
    exact List.map_id _
  exact (congrArg (ContentRow.ofContent c).content log).trans (ContentRow.content_ofContent c)

/-- All records that the tables hold are read back, if no statement fails. -/
theorem perform_list (holds : tables.Holds records) :
    ((Session.start tables []).perform (content .list)).1 = .ok records := by
  have joined : joinRows tables.contents (Tables.sortVersions tables.versions) = .ok records := by
    rw [holds.rows]
    exact joinRows_eq_ok holds.distinct fun c member => holds.filter_sortVersions member
  change (Session.perform
    (ofExcept (joinRows tables.contents (Tables.sortVersions tables.versions))) _).1 = _
  rw [joined]
  rfl

end ContentService.Sql
