import ContentService.Proofs.Store.Faultless

/-! # The listing

The database lists all records from two selections, of all rows and of all version rows, which are
joined in the service; it gives a single record from its row and the version rows of its id.
Whatever rows the tables have, the listing has for each row, in their order, what is given for its
id alone, unless the status of a row is none (`ContentService.Sql.listing_eq_single_records`).
-/

namespace ContentService.Sql

open Connection

variable {tables : Tables} {rows : List ContentRow} {records : List Content}

/-! ## Single rows -/

/-- The version rows of an id, ascending by number. -/
def Tables.log (tables : Tables) (id : Uuid) : List VersionRow :=
  sortVersions (tables.versions.filter (·.contentId == id))

/-- The rows of a record's versions. -/
def versionRows (c : Content) : List VersionRow :=
  c.versions.map (VersionRow.ofVersion c.id)

/-- A record is what a row and version rows say: it has the columns of the row, the status that the
row names, and the version rows of its id as its log, ascending by number. -/
structure Joined (versions : List VersionRow) (row : ContentRow) (c : Content) : Prop where
  columns : ContentRow.ofContent c = { row with status := c.live.status.name }
  status : Status.read? row.status = some c.live.status
  log : (versionRows c).Perm (versions.filter (·.contentId == row.id))
  ascending : c.versions.Pairwise fun v w => v.number ≤ w.number

theorem contentId_of_mem_log {id : Uuid} {row : VersionRow} (member : row ∈ tables.log id) :
    row.contentId = id := by
  have chosen := (List.mergeSort_perm _ _).mem_iff.mp member
  exact beq_iff_eq.mp (List.mem_filter.mp chosen).2

/-- The log of an id ascends by number. -/
theorem pairwise_log (tables : Tables) (id : Uuid) :
    ((tables.log id).map VersionRow.version).Pairwise fun v w => v.number ≤ w.number := by
  refine List.pairwise_map.mpr ?_
  refine (pairwise_mergeSort Tables.versionOrder _).imp_of_mem fun {v w} first second ordered => ?_
  rw [Tables.versionOrder, contentId_of_mem_log first, contentId_of_mem_log second,
    @Std.ReflCmp.compare_self _ Uuid.order, Ordering.eq_then] at ordered
  exact Std.isLE_compare.mp ordered

/-- Version rows of one id are those of the versions that they become. -/
theorem map_ofVersion_version {id : Uuid} {log : List VersionRow}
    (own : ∀ row ∈ log, row.contentId = id) :
    (log.map VersionRow.version).map (VersionRow.ofVersion id) = log := by
  rw [List.map_map]
  refine (List.map_congr_left fun row member => ?_).trans (List.map_id log)
  obtain rfl := own row member
  rfl

theorem content_eq_error_iff {row : ContentRow} {versions : List Version} {failure : Failure} :
    row.content versions = .error failure ↔ Status.read? row.status = none ∧
      failure = .internal ("content " ++ row.id.write ++ " has bad status: " ++
        Status.unknownMessage row.status) := by
  unfold ContentRow.content
  cases Status.read? row.status with
  | none => simp only [Except.error.injEq, true_and, eq_comm]
  | some status => simp only [reduceCtorEq, false_and]

theorem joined_of_content {row : ContentRow} {c : Content}
    (made : row.content ((tables.log row.id).map VersionRow.version) = .ok c) :
    Joined tables.versions row c := by
  unfold ContentRow.content at made
  cases named : Status.read? row.status with
  | none => simp only [named, reduceCtorEq] at made
  | some status =>
      simp only [named, Except.ok.injEq] at made
      subst made
      refine ⟨rfl, named, ?_, pairwise_log tables row.id⟩
      change (((tables.log row.id).map _).map (VersionRow.ofVersion row.id)).Perm _
      rw [map_ofVersion_version fun _ => contentId_of_mem_log]
      exact List.mergeSort_perm _ _

/-! ## All rows -/

/-- The listing joins each row with the version rows of its id. -/
theorem listing_eq_mapM (distinct : (tables.contents.map (·.id)).Nodup) :
    (Store.database tables).listing = tables.contents.mapM fun row =>
      row.content ((tables.log row.id).map VersionRow.version) := by
  have logs : ∀ row ∈ tables.contents,
      (Tables.sortVersions tables.versions).filter (·.contentId == row.id) = tables.log row.id :=
    fun row _ => filter_mergeSort Tables.versionOrder _ _
  rw [← joinRows_eq_mapM distinct logs]
  change (Session.perform (ofExcept
    (joinRows tables.contents (Tables.sortVersions tables.versions))) _).1 = _
  cases joinRows tables.contents (Tables.sortVersions tables.versions) <;> rfl

/-- The record with the id of a row is what the row becomes with the version rows of its id. -/
theorem answer_get_row (distinct : (tables.contents.map (·.id)).Nodup) {row : ContentRow}
    (member : row ∈ tables.contents) :
    ((Store.database tables).answer .none (.get row.id)).1 =
      (row.content ((tables.log row.id).map VersionRow.version)).map some := by
  have found : tables.contents.find? (·.id == row.id) = some row := by
    cases search : tables.contents.find? (·.id == row.id) with
    | none => exact absurd (beq_self_eq_true row.id) (List.find?_eq_none.mp search row member)
    | some other =>
        obtain ⟨present, same⟩ := mem_and_key_of_find? search
        rw [List.inj_on_of_nodup_map distinct present member same]
  have replied : (idle tables).perform (content (.get row.id)) =
      ((row.content ((tables.log row.id).map VersionRow.version)).map some, idle tables) := by
    refine (perform_getContent row.id tables).trans ?_
    rw [found]
    rfl
  rw [Store.answer_database replied]

section Reading

variable {ρ σ : Type} {read : ρ → Except Failure σ} {rows before after : List ρ} {found : List σ}

theorem exists_mapM_eq_ok (fine : ∀ row ∈ rows, ∃ a, read row = .ok a) :
    ∃ found, rows.mapM read = .ok found := by
  induction rows with
  | nil => exact ⟨[], rfl⟩
  | cons row rest ih =>
      obtain ⟨a, done⟩ := fine row List.mem_cons_self
      obtain ⟨others, rest⟩ := ih fun other later => fine other (List.mem_cons_of_mem row later)
      rw [List.mapM_cons, done, rest]
      exact ⟨a :: others, rfl⟩

theorem exists_row_of_mem (made : List.Forall₂ (fun row a => read row = .ok a) rows found) {a : σ}
    (member : a ∈ found) : ∃ row ∈ rows, read row = .ok a := by
  induction made with
  | nil => cases member
  | cons here _ ih =>
      rcases List.mem_cons.mp member with rfl | later
      · exact ⟨_, List.mem_cons_self, here⟩
      · obtain ⟨row, inside, done⟩ := ih later
        exact ⟨row, List.mem_cons_of_mem _ inside, done⟩

/-- A row that cannot be read fails the reading of all, if those in front of it can be read. -/
theorem mapM_eq_error {row : ρ} {failure : Failure} (fine : ∀ r ∈ before, ∃ a, read r = .ok a)
    (fails : read row = .error failure) : (before ++ row :: after).mapM read = .error failure := by
  obtain ⟨found, done⟩ := exists_mapM_eq_ok fine
  rw [List.mapM_append, List.mapM_cons, done, fails]
  rfl

end Reading

/-- The version rows of all these rows are those of any of them, each once. -/
theorem flatMap_filter_perm (distinct : (rows.map (·.id)).Nodup) (versions : List VersionRow) :
    (rows.flatMap fun row => versions.filter (·.contentId == row.id)).Perm
      (versions.filter fun v => rows.any (·.id == v.contentId)) := by
  induction rows with
  | nil => simp only [List.flatMap_nil, List.any_nil, List.filter_false, List.Perm.refl]
  | cons row rest ih =>
      obtain ⟨absent, distinct⟩ := List.nodup_cons.mp distinct
      have own : (versions.filter fun v => (row :: rest).any (·.id == v.contentId)).filter
          (·.contentId == row.id) = versions.filter (·.contentId == row.id) := by
        rw [List.filter_filter]
        refine List.filter_congr fun v _ => ?_
        rw [List.any_cons, Bool.eq_iff_iff, Bool.and_eq_true, Bool.or_eq_true, beq_iff_eq,
          beq_iff_eq, and_iff_left_iff_imp]
        exact fun same => .inl same.symm
      have others : (versions.filter fun v => (row :: rest).any (·.id == v.contentId)).filter
          (fun v => !(v.contentId == row.id)) =
            versions.filter fun v => rest.any (·.id == v.contentId) := by
        rw [List.filter_filter]
        refine List.filter_congr fun v _ => ?_
        rw [List.any_cons, Bool.eq_iff_iff, Bool.and_eq_true, Bool.or_eq_true, Bool.not_eq_true',
          beq_eq_false_iff_ne, beq_iff_eq]
        constructor
        · rintro ⟨differs, same | later⟩
          · exact absurd same.symm differs
          · exact later
        · intro later
          refine ⟨fun same => absent ?_, .inr later⟩
          obtain ⟨other, member, equal⟩ := List.any_eq_true.mp later
          exact List.mem_map.mpr ⟨other, member, (beq_iff_eq.mp equal).trans same⟩
      rw [List.flatMap_cons]
      refine ((List.Perm.append_left _ (ih distinct)).trans ?_)
      rw [← own, ← others]
      exact List.filter_append_perm _ _

theorem flatMap_versionRows_perm {versions : List VersionRow}
    (joined : List.Forall₂ (Joined versions) rows records) :
    (records.flatMap versionRows).Perm
      (rows.flatMap fun row => versions.filter (·.contentId == row.id)) := by
  induction joined with
  | nil => exact .refl _
  | cons first rest ih =>
      rw [List.flatMap_cons, List.flatMap_cons]
      exact first.log.append ih

/-- **The listing and single records.** Of tables with distinct ids, whatever rows they have, the
listing has one record for each row, in the order of the rows, if each row names a status. The logs
of these records are the version rows of their ids, each in one log and once, ascending by number,
and each record is the one that is given for its id alone. If some rows name no status, then there
is no listing, but a failure that tells the first of these rows. -/
theorem listing_eq_single_records (tables : Tables)
    (distinct : (tables.contents.map (·.id)).Nodup) :
    ((∀ row ∈ tables.contents, (Status.read? row.status).isSome) →
      ∃ records, (Store.database tables).listing = .ok records ∧
        List.Forall₂ (Joined tables.versions) tables.contents records ∧
        (records.flatMap versionRows).Perm
          (tables.versions.filter fun v => tables.contents.any (·.id == v.contentId)) ∧
        ∀ c ∈ records, ((Store.database tables).answer .none (.get c.id)).1 = .ok (some c)) ∧
    ∀ before row after, tables.contents = before ++ row :: after →
      (∀ r ∈ before, (Status.read? r.status).isSome) → Status.read? row.status = none →
      (Store.database tables).listing = .error (.internal ("content " ++ row.id.write ++
        " has bad status: " ++ Status.unknownMessage row.status)) := by
  have reads {row : ContentRow} (named : (Status.read? row.status).isSome) :
      ∃ c, row.content ((tables.log row.id).map VersionRow.version) = .ok c := by
    cases made : row.content ((tables.log row.id).map VersionRow.version) with
    | ok c => exact ⟨c, rfl⟩
    | error failure =>
        rw [(content_eq_error_iff.mp made).1] at named
        cases named
  rw [listing_eq_mapM distinct]
  constructor
  · intro named
    obtain ⟨records, done⟩ := exists_mapM_eq_ok fun row member => reads (named row member)
    have made := mapM_eq_ok_iff.mp done
    have joined : List.Forall₂ (Joined tables.versions) tables.contents records :=
      made.imp fun _ _ => joined_of_content
    refine ⟨records, done, joined, ?_, fun c member => ?_⟩
    · exact (flatMap_versionRows_perm joined).trans (flatMap_filter_perm distinct _)
    · obtain ⟨row, present, own⟩ := exists_row_of_mem made member
      rw [show c.id = row.id from congrArg ContentRow.id (joined_of_content own).columns,
        answer_get_row distinct present, own]
      rfl
  · intro before row after split fine bad
    rw [split]
    exact mapM_eq_error (fun r member => reads (fine r member))
      (content_eq_error_iff.mpr ⟨bad, rfl⟩)

/-- Two rows, the last of which has a given status. Its versions do not stand in order, the first
row has none, and there is a version of no row. -/
def shelf (status : String) : Tables :=
  let row (id : Nat) (status : String) : ContentRow :=
    { id := .ofNat id
      contentType := "note"
      title := "On rows"
      slug := "rows"
      body := "They stand as they came."
      tags := []
      status := status
      language := "en"
      coverImageUrl := none
      metaTitle := ""
      metaDescription := ""
      metaKeywords := []
      createdAt := june 0
      updatedAt := june 1
      createdBy := "ada"
      updatedBy := "ben" }
  let version (id : Nat) (number : Int) : VersionRow :=
    ⟨.ofNat id, number, "On rows", "They stand as they came.", none, june 1, "ben"⟩
  { contents := [row 2 " PUBLISHED ", row 1 status]
    versions := [version 1 2, version 7 1, version 1 1]
    media := [] }

theorem listing_eq_single_records_shelf :
    ((shelf "Draft").contents.map (·.id)).Nodup ∧
      (∀ row ∈ (shelf "Draft").contents, (Status.read? row.status).isSome) ∧
      (∃ records, (Store.database (shelf "Draft")).listing = .ok records ∧
        List.Forall₂ (Joined (shelf "Draft").versions) (shelf "Draft").contents records ∧
        ∀ c ∈ records,
          ((Store.database (shelf "Draft")).answer .none (.get c.id)).1 = .ok (some c)) ∧
      Status.read? "gone" = none ∧
      ∃ first last, (shelf "gone").contents = [first, last] ∧
        (Store.database (shelf "gone")).listing = .error (.internal ("content " ++ last.id.write ++
          " has bad status: " ++ Status.unknownMessage last.status)) := by
  have distinct (status : String) : ((shelf status).contents.map (·.id)).Nodup := by
    change ([.ofNat 2, .ofNat 1] : List Uuid).Nodup
    decide
  have named : ∀ row ∈ (shelf "Draft").contents, (Status.read? row.status).isSome := by
    decide +kernel
  have bad : Status.read? "gone" = none := by decide +kernel
  have first : ∀ row ∈ (shelf "gone").contents.take 1, (Status.read? row.status).isSome := by
    decide +kernel
  obtain ⟨records, listed, joined, -, single⟩ :=
    (listing_eq_single_records (shelf "Draft") (distinct "Draft")).1 named
  refine ⟨distinct "Draft", named, ⟨records, listed, joined, single⟩, bad, _, _, rfl, ?_⟩
  exact (listing_eq_single_records (shelf "gone") (distinct "gone")).2 _ _ [] rfl first bad

end ContentService.Sql
