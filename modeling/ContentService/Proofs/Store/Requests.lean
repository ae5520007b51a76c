import ContentService.Proofs.Store.Safe

/-! # Requests among others

Each request for content records is safe work, from its first statement to its result. What it reads
in several statements belongs to one committed state, or is locked meanwhile. What it writes it
commits on top of what others have committed.
-/

namespace ContentService.Sql

open Work

/-! ## What holds of requests -/

/-- The records that a request gives are versioned. The last version of a changed record is one that
a commit has added. -/
def Returned {β : Type} : ContentRequest β → List Commit → β → Prop
  | .get _, _, found => ∀ c ∈ found, c.Versioned
  | .list, _, found => ∀ c ∈ found, c.Versioned
  | .apply id _ _, history, changed =>
    changed.Versioned ∧ ∃ v commit, changed.versions.getLast? = some v ∧ commit ∈ history ∧
      .ofVersion id v ∈ addedVersions commit.statements
  | _, _, _ => True

/-- A change that is under way has added no version with the key of a committed one. -/
def Pending {β : Type} (request : ContentRequest β) (opened : Option Transaction)
    (tables : Tables) : Prop :=
  match request with
  | .apply .. => ∀ transaction ∈ opened, ∀ row ∈ addedVersions transaction.statements,
      row.key ∉ tables.versions.map VersionRow.key
  | _ => True

/-- A request leaves neither a transaction nor locks behind. -/
structure Ended {β : Type} (request : ContentRequest β) (result : Except Failure β)
    (scene : Scene) : Prop where
  idle : scene = .idle scene.history
  returned : ∀ value, result = .ok value → Returned request scene.history value

theorem Returned.later {β : Type} {request : ContentRequest β} {history later : List Commit}
    {value : β} (returned : Returned request history value) (onward : history <:+ later) :
    Returned request later value := by
  cases request with
  | apply id change now =>
      obtain ⟨versioned, v, commit, last, member, logged⟩ := returned
      exact ⟨versioned, v, commit, last, onward.mem member, logged⟩
  | _ => exact returned

theorem Ended.ok {β : Type} {request : ContentRequest β} {history : List Commit} {value : β}
    (returned : Returned request history value) : Ended request (.ok value) (.idle history) where
  idle := rfl
  returned := by
    intro other same
    cases same
    exact returned

theorem Ended.later {β : Type} {request : ContentRequest β} {result : Except Failure β}
    {scene : Scene} (ended : Ended request result scene) {later : List Commit}
    (onward : scene.history <:+ later) : Ended request result { scene with history := later } where
  idle := by rw [ended.idle]; rfl
  returned := fun value same => (ended.returned value same).later onward

theorem tolerates_ended {β : Type} (request : ContentRequest β) :
    Tolerates (Pending request) (Ended request) where
  calm := by
    intro tables
    cases request with
    | apply => exact fun _ absent => nomatch absent
    | _ => trivial
  failed := fun failure history _ => ⟨rfl, fun _ absent => nomatch absent⟩

/-! ## Reading -/

theorem Commit.Fair.of_unchanged {transaction : Transaction} {history : List Commit}
    {own : Uuid → Prop} (sound : Sound history)
    (unchanged : (transaction.commit history).tables = committed history)
    (reads : addedVersions transaction.statements = []) :
    (transaction.commit history).Fair history own where
  keeps := by
    rw [unchanged]
    exact sound.keeps
  tidy := .inl reads
  spared := fun c _ has => unchanged ▸ has

theorem safe_getContent (id : Uuid) (history : List Commit) :
    Safe (Pending (.get id)) (Ended (.get id)) (getContent id) (.idle history) := by
  have tolerates := tolerates_ended (.get id)
  have pends (scene : Scene) : Pends (Pending (.get id)) scene := fun _ _ => trivial
  refine Safe.exceptBind (Safe.transaction (tolerates.bind _) history fun later _ => ?_)
  refine Safe.snapshot ((tolerates.bind _).finish _) (pends _) fun later _ => ?_
  refine Safe.statement ((tolerates.bind _).finish _) (.selectContent id) trivial (pends _)
    fun later place seen continues same => ?_
  -- Both statements see the tables that the first of them has decided on.
  obtain ⟨records, keeps⟩ := (continues.sound.drop place).keeps
  have found : seen.answer (.selectContent id) = _ := keeps.find?_id same id
  rw [found]
  cases read : records.find? (·.id == id) with
  | none =>
      refine Safe.finish_discard rfl (pends _) fun history _ => ?_
      exact .ok fun _ absent => nomatch absent
  | some c =>
      obtain ⟨member, rfl⟩ := mem_and_key_of_find? read
      refine Safe.versionsOf ((tolerates.bind _).finish _) c.id (pends _)
        fun later _ seen continues same => ?_
      rw [keeps.log_of_mem same member]
      refine Safe.finish_commit (tolerates.bind _) rfl (pends _) fun later continues _ => ?_
      refine ⟨.of_unchanged continues.sound rfl rfl, ?_⟩
      dsimp only
      rw [ContentRow.content_ofContent]
      refine .ok fun d single => ?_
      cases single
      exact keeps.versioned c member

theorem safe_listContents (history : List Commit) :
    Safe (Pending .list) (Ended .list) listContents (.idle history) := by
  have tolerates := tolerates_ended .list
  have pends (scene : Scene) : Pends (Pending .list) scene := fun _ _ => trivial
  refine Safe.exceptBind (Safe.transaction (tolerates.bind _) history fun later _ => ?_)
  refine Safe.snapshot ((tolerates.bind _).finish _) (pends _) fun later _ => ?_
  refine Safe.statement ((tolerates.bind _).finish _) .selectContents trivial (pends _)
    fun later place rows continues rearranged => ?_
  obtain ⟨records, keeps⟩ := (continues.sound.drop place).keeps
  refine Safe.statement ((tolerates.bind _).finish _) .selectVersions trivial (pends _)
    fun later _ versions _ same => ?_
  obtain ⟨listed, joined, arranged⟩ := keeps.exists_joinRows same rearranged
  refine Safe.finish_commit (tolerates.bind _) rfl (pends _) fun later continues _ => ?_
  refine ⟨.of_unchanged continues.sound rfl rfl, ?_⟩
  change Safe _ _ (ofExcept (joinRows rows.contents (Tables.sortVersions versions.versions)) :
    Work (List Content)) _
  rw [joined]
  exact .ok fun c member => keeps.versioned c (arranged.mem_iff.mp member)

theorem safe_selectSlugOwner (slug : String) (history : List Commit) :
    Safe (Pending (.slugOwner slug)) (Ended (.slugOwner slug)) (execute (.selectSlugOwner slug))
      (.idle history) := by
  refine Safe.single (tolerates_ended _) (.selectSlugOwner slug) trivial history
    fun later fate continues _ => ?_
  exact ⟨.of_unchanged continues.sound rfl rfl, .ok trivial⟩

/-! ## Adding and removing -/

/-- The commit of a deletion is fair to the records that it does not lock. -/
theorem safe_deleteContent (id : Uuid) (history : List Commit) :
    Safe (Pending (.delete id)) (Ended (.delete id)) (content (.delete id)) (.idle history) := by
  refine Safe.exceptBind (Safe.single ((tolerates_ended (.delete id)).bind _) (.deleteContent id)
    trivial history fun later fate continues _ => ⟨?_, .ok trivial⟩)
  obtain ⟨records, keeps⟩ := continues.sound.keeps
  have left := keeps.remove id
  refine ⟨⟨_, left⟩, .inl rfl, fun c differs has => ?_⟩
  have other : c.id ≠ id := fun same => differs (congrArg some same.symm)
  exact left.has_iff.mpr (List.mem_filter.mpr ⟨keeps.has_iff.mp has, decide_eq_true other⟩)

/-- The statements that add the rows of versions. -/
def insertions (id : Uuid) (versions : List Version) : List Sent :=
  versions.map fun v => ⟨.insertVersion (.ofVersion id v)⟩

theorem Tables.changedByAll_insertions (tables : Tables) (id : Uuid) (versions : List Version) :
    tables.changedByAll (insertions id versions) =
      { tables with
        versions := tables.versions ++
          versions.map fun v => (VersionRow.ofVersion id v).stored } := by
  induction versions generalizing tables with
  | nil => exact congrArg (fun rows => { tables with versions := rows }) (List.append_nil _).symm
  | cons v rest ih =>
      refine (ih (tables.changedBy (.insertVersion (.ofVersion id v)))).trans ?_
      exact congrArg (fun rows => { tables with versions := rows }) (List.append_assoc _ _ _)

theorem removedRecords_insertions (id : Uuid) (versions : List Version) :
    removedRecords (insertions id versions) = [] := by
  induction versions with
  | nil => rfl
  | cons v rest ih => exact ih

theorem safe_insertVersions {record : Content} {post : Except Failure Unit → Scene → Prop}
    (tolerates : Tolerates (Pending (.insert record)) post) (id : Uuid) (versions : List Version)
    {history : List Commit} {sent : List Sent} (sound : Sound history)
    (goes : ∀ later, Sound later →
      post (.ok ()) ⟨later, some ⟨.latest, sent ++ insertions id versions⟩, []⟩) :
    Safe (Pending (.insert record)) post (insertVersions id versions)
      ⟨history, some ⟨.latest, sent⟩, []⟩ := by
  induction versions generalizing history sent with
  | nil =>
      rw [insertions, List.map_nil, List.append_nil] at goes
      exact goes history sound
  | cons v rest ih =>
      refine Safe.statement tolerates (.insertVersion (.ofVersion id v)) trivial
        (fun _ _ => trivial) fun later _ _ continues _ => ih continues.sound fun later sound => ?_
      rw [List.append_assoc]
      exact goes later sound

theorem safe_insertContent {record : Content} (versioned : record.Versioned)
    (short : record.versions.length < 2 ^ 31) (history : List Commit) :
    Safe (Pending (.insert record)) (Ended (.insert record)) (insertContent record)
      (.idle history) := by
  have tolerates := tolerates_ended (.insert record)
  refine Safe.transaction tolerates history fun later _ => ?_
  refine Safe.statement (tolerates.finish _) (.insertContent (.ofContent record)) trivial
    (fun _ _ => trivial) fun later _ _ continues _ => ?_
  refine safe_insertVersions (tolerates.finish _) record.id record.versions continues.sound
    fun later _ => ?_
  refine Safe.finish_commit tolerates rfl (fun _ _ => trivial) fun later continues lawful => ?_
  obtain ⟨records, keeps⟩ := continues.sound.keeps
  have changed := Tables.changedByAll_insertions
    ((committed later).changedBy (.insertContent (.ofContent record))) record.id record.versions
  have added := keeps.insert versioned short changed lawful
  refine ⟨⟨⟨_, added⟩, .inr ?_, fun c _ has => ?_⟩, .ok trivial⟩
  · exact removedRecords_insertions record.id record.versions
  · exact added.has_iff.mpr (List.mem_append_left _ (keeps.has_iff.mp has))

/-! ## Changing -/

section Changes

variable {id : Uuid} {change : Change} {now : Instant}

/-- Nothing is pending of a transaction that has added no versions yet. -/
theorem pends_of_reads {history : List Commit} {sight : Sight} {sent : List Sent}
    {held : List Uuid} (reads : addedVersions sent = []) :
    Pends (Pending (.apply id change now)) ⟨history, some ⟨sight, sent⟩, held⟩ := by
  rintro later - transaction single row added
  cases single
  rw [reads] at added
  exact nomatch added

/-- As long as a record is locked, the number of its next version is no other's. -/
theorem pends_of_written {history : List Commit} {sight : Sight} {sent : List Sent}
    {held : List Uuid} {c : Content} {edition : Edition} {actor : String}
    (locked : c.id ∈ held) (has : (committed history).Has c)
    (added : addedVersions sent = [.ofVersion c.id (c.written edition actor now)]) :
    Pends (Pending (.apply id change now)) ⟨history, some ⟨sight, sent⟩, held⟩ := by
  rintro later continues transaction single row member
  cases single
  rw [added] at member
  obtain ⟨records, keeps⟩ := continues.sound.keeps
  have present := keeps.has_iff.mp (continues.kept c locked has)
  rw [List.mem_singleton.mp member]
  exact keeps.key_notMem present edition actor now

/-- The log of a record is read as it is committed. -/
theorem Sound.log_of_has {history : List Commit} (sound : Sound history) {c : Content}
    (has : (committed history).Has c) {seen : Tables} (same : seen.Rearranges (committed history)) :
    (Tables.sortVersions (seen.versions.filter (·.contentId == c.id))).map VersionRow.version =
      c.versions := by
  obtain ⟨records, keeps⟩ := sound.keeps
  exact keeps.log_of_mem same (keeps.has_iff.mp has)

/-- The new version and the changed row are committed together, on top of the record as it was
locked. -/
theorem safe_storing {c : Content} {edition : Edition} {history : List Commit}
    (has : (committed history).Has c) (room : nextNumber c.versions < 2 ^ 31) :
    Within (Pending (.apply c.id change now)) (fun _ => true) (Ended (.apply c.id change now))
      (storing c.id (c.write edition change.actor now) (c.written edition change.actor now))
      ⟨history, some ⟨.latest, [⟨.lockContent c.id⟩, ⟨.selectVersionsOf c.id⟩]⟩, [c.id]⟩ := by
  have tolerates := tolerates_ended (.apply c.id change now)
  let changed := c.write edition change.actor now
  let v := c.written edition change.actor now
  have locked (more : List Uuid) : c.id ∈ more ++ [c.id] :=
    List.mem_append_right more (List.mem_singleton_self c.id)
  -- The record is locked, so at each statement it is still the one that the version was made for.
  refine Safe.statement (tolerates.finish _) (.insertVersion (.ofVersion c.id v)) trivial
    (pends_of_reads rfl) fun later _ _ continues _ => ?_
  have has := continues.kept c (locked []) has
  refine Safe.statement (tolerates.finish _)
    (.updateContent { ContentRow.ofContent changed with id := c.id }) trivial
    (pends_of_written (locked []) has rfl) fun later _ _ continues _ => ?_
  have has := continues.kept c (locked _) has
  refine Safe.finish_commit tolerates rfl (pends_of_written (locked _) has rfl)
    fun later continues lawful => ?_
  obtain ⟨records, keeps⟩ := continues.sound.keeps
  have member := keeps.has_iff.mp (continues.kept c (locked _) has)
  have left := keeps.write member edition change.actor now room rfl lawful
  refine ⟨⟨⟨_, left⟩, .inr rfl, fun d unlocked present => ?_⟩, .ok ⟨?_, ?_⟩⟩
  case refine_1 =>
    have differs : d.id ≠ c.id := by
      intro same
      apply unlocked
      rw [same]
      exact locked _
    exact left.has_iff.mpr (List.mem_map.mpr ⟨d, keeps.has_iff.mp present, if_neg differs⟩)
  case refine_2 => exact (keeps.versioned c member).write edition change.actor now
  case refine_3 =>
    refine ⟨v, _, List.getLast?_concat, List.mem_cons_self, ?_⟩
    exact List.mem_singleton_self (VersionRow.ofVersion c.id v)

theorem safe_applyChange (id : Uuid) (change : Change) (now : Instant) (history : List Commit) :
    Safe (Pending (.apply id change now)) (Ended (.apply id change now))
      (applyChange id change now) (.idle history) := by
  have tolerates := tolerates_ended (.apply id change now)
  rw [applyChange_eq]
  refine Safe.transaction tolerates history fun later _ => ?_
  refine Safe.statement (tolerates.finish _) (.lockContent id) trivial (pends_of_reads rfl)
    fun later _ seen continues same => ?_
  obtain ⟨records, keeps⟩ := continues.sound.keeps
  have found : seen.answer (.lockContent id) = _ := keeps.find?_id same id
  rw [found]
  cases read : records.find? (·.id == id) with
  | none =>
      exact Safe.finish_error tolerates (fun _ => true) (pends_of_reads rfl) (.contentNotFound id)
  | some c =>
      obtain ⟨member, rfl⟩ := mem_and_key_of_find? read
      -- The row has been found, so it is locked from here on.
      have there : seen.contents.any (·.id == c.id) = true := by
        rw [same.contents.any_eq]
        exact List.any_eq_true.mpr ⟨_, keeps.holds.row_mem member, beq_self_eq_true c.id⟩
      have locks : [c.id].filter (fun id => seen.contents.any (·.id == id)) = [c.id] :=
        List.filter_cons_of_pos there
      change Within _ _ _ (versionsOf c.id >>= _ : Work Content)
        ⟨_, _, [c.id].filter (fun id => seen.contents.any (·.id == id)) ++ []⟩
      rw [locks]
      refine Safe.versionsOf (tolerates.finish _) c.id (pends_of_reads rfl)
        fun later _ seen onwards same => ?_
      have locked : c.id ∈ [c.id] := List.mem_singleton_self c.id
      have has := onwards.kept c locked (keeps.has_iff.mpr member)
      rw [onwards.sound.log_of_has has same, ContentRow.content_ofContent]
      change Safe _ _ (ofExcept (c.apply change now) >>= fun result =>
        storing c.id result.1 result.2 : Work Content) _
      rw [Content.apply_eq_map]
      cases asked : c.editionOf change with
      | error failure =>
          exact Safe.finish_error tolerates (fun _ => true) (pends_of_reads rfl) failure
      | ok edition => exact safe_storing has (Content.editionOf_eq_ok_iff.mp asked).2

end Changes

/-- Every request is safe from its first statement on. -/
theorem safe_content {β : Type} (request : ContentRequest β) (proper : request.InsertsVersioned)
    (history : List Commit) :
    Safe (Pending request) (Ended request) (content request) (.idle history) := by
  cases request with
  | get id => exact safe_getContent id history
  | list => exact safe_listContents history
  | slugOwner slug => exact safe_selectSlugOwner slug history
  | insert record => exact safe_insertContent proper.1 proper.2 history
  | apply id change now => exact safe_applyChange id change now history
  | delete id => exact safe_deleteContent id history

end ContentService.Sql
