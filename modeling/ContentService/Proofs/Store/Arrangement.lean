import ContentService.Proofs.Store.Database
import ContentService.Proofs.Store.Lawful
import ContentService.Proofs.Store.Reply
import Mathlib.Data.List.Find
import Mathlib.Data.List.Perm.Basic

/-! # Rows in any order

The rows of a table have no order of their own: before each statement they may stand in another.
As long as the tables are lawful this shows only in the answers of the two statements that select
all rows of a table without ordering them.
-/

namespace ContentService.Sql

namespace Tables

/-- The same rows in any order. -/
structure Rearranges (shuffled tables : Tables) : Prop where
  contents : shuffled.contents.Perm tables.contents
  versions : shuffled.versions.Perm tables.versions
  media : shuffled.media.Perm tables.media

namespace Rearranges

variable {shuffled tables : Tables}

theorem refl (tables : Tables) : tables.Rearranges tables :=
  ⟨.refl _, .refl _, .refl _⟩

theorem trans {first second third : Tables} (left : first.Rearranges second)
    (right : second.Rearranges third) : first.Rearranges third :=
  ⟨left.contents.trans right.contents, left.versions.trans right.versions,
    left.media.trans right.media⟩

variable (same : shuffled.Rearranges tables)

include same

/-! ## Constraints -/

theorem contentViolation? (row : ContentRow) :
    shuffled.contentViolation? row = tables.contentViolation? row := by
  unfold Tables.contentViolation?
  rw [same.contents.any_eq, same.contents.any_eq]

theorem versionViolation? (row : VersionRow) :
    shuffled.versionViolation? row = tables.versionViolation? row := by
  unfold Tables.versionViolation?
  rw [same.versions.any_eq, same.contents.any_eq]

theorem updateViolation? (row : ContentRow) :
    shuffled.updateViolation? row = tables.updateViolation? row := by
  unfold Tables.updateViolation?
  rw [same.contents.any_eq, same.contents.any_eq]

theorem mediaViolation? (row : MediaRow) :
    shuffled.mediaViolation? row = tables.mediaViolation? row := by
  unfold Tables.mediaViolation?
  rw [same.media.any_eq]

end Rearranges

/-! ## Single rows and sorted rows -/

/-- The row with a key is found in any order, if keys are distinct. -/
theorem find?_eq_of_perm {ρ κ : Type} [DecidableEq κ] {keyOf : ρ → κ} {shuffled rows : List ρ}
    (same : shuffled.Perm rows) (distinct : (rows.map keyOf).Nodup) (key : κ) :
    shuffled.find? (keyOf · == key) = rows.find? (keyOf · == key) := by
  refine List.find?_eq_find?_of_perm same ?_
  intro r first s second
  have left := beq_iff_eq.mp first.2
  have right := beq_iff_eq.mp second.2
  refine List.inj_on_of_nodup_map distinct ?_ ?_ (left.trans right.symm)
  · exact same.mem_iff.mp first.1
  · exact same.mem_iff.mp second.1

theorem key_eq_of_versionOrder {v w : VersionRow} (tie : versionOrder v w = .eq) :
    v.key = w.key := by
  obtain ⟨owner, number⟩ := Ordering.then_eq_eq.mp tie
  have sameOwner : v.contentId = w.contentId := Std.LawfulEqCmp.eq_of_compare owner
  have sameNumber : v.number = w.number := Std.compare_eq_iff_eq.mp number
  unfold VersionRow.key
  rw [sameOwner, sameNumber]

/-- Version rows with distinct keys have one order. -/
theorem sortVersions_eq_of_perm {shuffled rows : List VersionRow} (same : shuffled.Perm rows)
    (distinct : (rows.map VersionRow.key).Nodup) : sortVersions shuffled = sortVersions rows := by
  have sorted (rows : List VersionRow) :
      (sortVersions rows).Pairwise fun v w => (versionOrder v w).isLE :=
    pairwise_mergeSort versionOrder rows
  have arranged : (sortVersions shuffled).Perm (sortVersions rows) :=
    (List.mergeSort_perm _ _).trans (same.trans (List.mergeSort_perm _ _).symm)
  refine arranged.eq_of_pairwise (fun v w left right first second => ?_) (sorted _) (sorted _)
  have key := key_eq_of_versionOrder (Std.OrientedCmp.isLE_antisymm first second)
  refine List.inj_on_of_nodup_map distinct ?_ ((List.mergeSort_perm _ _).mem_iff.mp right) key
  exact same.mem_iff.mp ((List.mergeSort_perm _ _).mem_iff.mp left)

end Tables

/-! ## Statements -/

/-- Answers that differ at most in the order of rows that no statement orders. -/
def Statement.Alike {β : Type} : Statement β → β → β → Prop
  | .selectContents, answer, other => answer.Perm other
  | .selectMedia, answer, other => answer.Perm other
  | _, answer, other => answer = other

/-- Both executions fail alike, or both give answers and tables that differ at most in the order of
rows. -/
inductive Statement.Matches {β : Type} (statement : Statement β) :
    Except DatabaseFault (β × Tables) → Except DatabaseFault (β × Tables) → Prop
  | error (fault : DatabaseFault) : Matches statement (.error fault) (.error fault)
  | ok {answer other : β} {shuffled tables : Tables} (alike : statement.Alike answer other)
      (same : shuffled.Rearranges tables) :
      Matches statement (.ok (answer, shuffled)) (.ok (other, tables))

namespace Tables.Rearranges

variable {shuffled tables : Tables} (same : shuffled.Rearranges tables) {β : Type}

include same

theorem violation?_eq (statement : Statement β) :
    shuffled.violation? statement = tables.violation? statement := by
  cases statement with
  | insertContent row => exact same.contentViolation? row
  | insertVersion row => exact same.versionViolation? row
  | updateContent row => exact same.updateViolation? row
  | insertMedia row => exact same.mediaViolation? row
  | _ => rfl

theorem changedBy (statement : Statement β) :
    (shuffled.changedBy statement).Rearranges (tables.changedBy statement) := by
  obtain ⟨contents, versions, media⟩ := same
  cases statement with
  | insertContent row => exact ⟨contents.append_right _, versions, media⟩
  | insertVersion row => exact ⟨contents, versions.append_right _, media⟩
  | updateContent row => exact ⟨contents.map _, versions, media⟩
  | deleteContent id => exact ⟨contents.filter _, versions.filter _, media⟩
  | insertMedia row => exact ⟨contents, versions, media.append_right _⟩
  | deleteMedia id => exact ⟨contents, versions, media.filter _⟩
  | _ => exact ⟨contents, versions, media⟩

theorem alike_answer (lawful : tables.Lawful) (statement : Statement β) :
    statement.Alike (shuffled.answer statement) (tables.answer statement) := by
  obtain ⟨contents, versions, media⟩ := same
  cases statement with
  | selectContents => exact contents
  | selectMedia => exact media
  | selectContent id | lockContent id => exact find?_eq_of_perm contents lawful.ids id
  | selectSlugOwner slug =>
      exact congrArg (Option.map ContentRow.id) (find?_eq_of_perm contents lawful.slugs slug)
  | selectVersions => exact sortVersions_eq_of_perm versions lawful.keys
  | selectVersionsOf id =>
      have keys : ((tables.versions.filter (·.contentId == id)).map VersionRow.key).Nodup :=
        lawful.keys.sublist (List.filter_sublist.map _)
      exact sortVersions_eq_of_perm (versions.filter _) keys
  | deleteContent id => exact (contents.filter _).length_eq
  | deleteMedia id => exact find?_eq_of_perm media lawful.mediaIds id
  | _ => rfl

/-- A statement does the same to rows in any order. -/
theorem matches_execute (lawful : tables.Lawful) (statement : Statement β) :
    statement.Matches (shuffled.execute statement) (tables.execute statement) := by
  rw [execute_eq, execute_eq, same.violation?_eq]
  cases tables.violation? statement with
  | some fault => exact .error fault
  | none => exact .ok (same.alike_answer lawful statement) (same.changedBy statement)

end Tables.Rearranges

/-! ## Connections -/

/-- A way to order the rows of tables. -/
structure Arrangement where
  arrange : Tables → Tables
  rearranges : ∀ tables, (arrange tables).Rearranges tables

/-- The constraint on statuses that a row of `contents` violates. -/
def Statement.statusViolation? {β : Type} : Statement β → Option DatabaseFault
  | .insertContent row | .updateContent row =>
    if (Status.ofName? row.status).isSome then none
    else some (Tables.violation "23514" "contents_status_check")
  | _ => none

namespace Connection

variable {α β : Type}

/-- The connection with the rows of its tables arranged. -/
def arranged (connection : Connection) (arrangement : Arrangement) : Connection :=
  ⟨arrangement.arrange connection.committed, connection.working.map arrangement.arrange⟩

/-- What a statement answers if rows are arranged before it and statuses checked, and the connection
afterwards. -/
def executeIn (arrangement : Arrangement) (statement : Statement β) (connection : Connection) :
    Except DatabaseFault β × Connection :=
  match statement.statusViolation? with
  | some fault => (.error fault, connection.undone)
  | none => (connection.arranged arrangement).execute statement

/-- Work on a connection whose rows are arranged before each statement. The statements are
numbered. -/
def performIn (arrangements : Nat → Arrangement) (work : Work α) (s : Connection × Nat) :
    Except Failure α × Connection × Nat :=
  Program.run
    (fun statement (connection, turn) =>
      let (reply, connection) := connection.executeIn (arrangements turn) statement
      (reply, connection, turn + 1))
    work s

/-- A connection that differs from one with lawful tables at most in the order of rows. -/
structure Mirrors (shuffled plain : Connection) : Prop where
  committed : shuffled.committed.Rearranges plain.committed
  working : Option.Rel Tables.Rearranges shuffled.working plain.working
  lawful : plain.committed.Lawful
  lawfulWorking : ∀ tables ∈ plain.working, tables.Lawful

end Connection

/-- A statement that orders its rows, and writes no status that the schema does not know. -/
def Statement.Settled {β : Type} : Statement β → Prop
  | .selectContents | .selectMedia => False
  | .insertContent row | .updateContent row => ∃ status : Status, row.status = status.name
  | _ => True

/-- Work whose statements order their rows, whatever they are answered. -/
structure Work.Orderly {α : Type} (work : Work α) : Prop where
  asks : Program.Asks Statement.Settled work

theorem statusViolation?_of_settled {β : Type} {statement : Statement β}
    (settled : statement.Settled) : statement.statusViolation? = none := by
  have known (status : Status) : (Status.ofName? status.name).isSome = true := by
    cases status <;> decide +kernel
  cases statement with
  | insertContent row | updateContent row =>
      obtain ⟨status, same⟩ := settled
      have named : (Status.ofName? row.status).isSome = true := same ▸ known status
      exact if_pos named
  | _ => rfl

namespace Connection.Mirrors

variable {α β : Type} {shuffled plain : Connection}

theorem visible (mirrors : shuffled.Mirrors plain) :
    (shuffled.working.getD shuffled.committed).Rearranges
        (plain.working.getD plain.committed) ∧
      (plain.working.getD plain.committed).Lawful := by
  obtain ⟨before, _⟩ := shuffled
  obtain ⟨committed, _⟩ := plain
  obtain ⟨same, working, lawful, lawfulWorking⟩ := mirrors
  cases working with
  | none => exact ⟨same, lawful⟩
  | some related => exact ⟨related, lawfulWorking _ rfl⟩

theorem undone (mirrors : shuffled.Mirrors plain) : shuffled.undone.Mirrors plain.undone :=
  ⟨mirrors.committed, .none, mirrors.lawful, fun _ absent => nomatch absent⟩

theorem arranged (mirrors : shuffled.Mirrors plain) (arrangement : Arrangement) :
    (shuffled.arranged arrangement).Mirrors plain := by
  obtain ⟨before, _⟩ := shuffled
  obtain ⟨committed, _⟩ := plain
  obtain ⟨same, working, lawful, lawfulWorking⟩ := mirrors
  refine ⟨(arrangement.rearranges _).trans same, ?_, lawful, lawfulWorking⟩
  cases working with
  | none => exact .none
  | some related => exact .some ((arrangement.rearranges _).trans related)

/-- A statement that is executed changes the working tables, or else the committed ones. -/
theorem worked (mirrors : shuffled.Mirrors plain) {left right : Tables}
    (same : left.Rearranges right) (lawful : right.Lawful) :
    (if shuffled.working.isSome then ⟨shuffled.committed, some left⟩ else idle left).Mirrors
      (if plain.working.isSome then ⟨plain.committed, some right⟩ else idle right) := by
  obtain ⟨before, _⟩ := shuffled
  obtain ⟨committed, _⟩ := plain
  obtain ⟨rearranged, working, earlier, -⟩ := mirrors
  cases working with
  | none => exact ⟨same, .none, lawful, fun _ absent => nomatch absent⟩
  | some =>
      refine ⟨rearranged, .some same, earlier, fun tables single => ?_⟩
      cases single
      exact lawful

theorem execute (mirrors : shuffled.Mirrors plain) {statement : Statement β}
    (settled : statement.Settled) :
    (shuffled.execute statement).1 = (plain.execute statement).1 ∧
      (shuffled.execute statement).2.Mirrors (plain.execute statement).2 := by
  obtain ⟨same, lawful⟩ := mirrors.visible
  have matched := same.matches_execute lawful statement
  unfold Connection.execute
  dsimp only
  generalize first : (shuffled.working.getD shuffled.committed).execute statement = left
    at matched ⊢
  generalize second : (plain.working.getD plain.committed).execute statement = right at matched ⊢
  cases matched with
  | error fault => exact ⟨rfl, mirrors.undone⟩
  | ok alike rearranged =>
      have working := mirrors.worked rearranged (lawful.of_execute second)
      cases statement with
      | selectContents | selectMedia => exact settled.elim
      | begin =>
          refine ⟨rfl, mirrors.committed, .some mirrors.committed, mirrors.lawful, ?_⟩
          intro tables single
          cases single
          exact mirrors.lawful
      | commit => exact ⟨rfl, same, .none, lawful, fun _ absent => nomatch absent⟩
      | rollback => exact ⟨rfl, mirrors.undone⟩
      | _ => exact ⟨congrArg Except.ok alike, working⟩

theorem executeIn (mirrors : shuffled.Mirrors plain) (arrangement : Arrangement)
    {statement : Statement β} (settled : statement.Settled) :
    (shuffled.executeIn arrangement statement).1 = (plain.execute statement).1 ∧
      (shuffled.executeIn arrangement statement).2.Mirrors (plain.execute statement).2 := by
  unfold Connection.executeIn
  rw [statusViolation?_of_settled settled]
  exact (mirrors.arranged arrangement).execute settled

/-- Work whose statements order their rows has the same result in any arrangement. -/
theorem performIn (mirrors : shuffled.Mirrors plain) (arrangements : Nat → Arrangement)
    {work : Work α} (orderly : work.Orderly) (turn : Nat) :
    (Connection.performIn arrangements work (shuffled, turn)).1 = (plain.perform work).1 ∧
      (Connection.performIn arrangements work (shuffled, turn)).2.1.Mirrors
        (plain.perform work).2 := by
  let related (s : Connection × Nat) (t : Connection) : Prop := s.1.Mirrors t
  have begins : related (shuffled, turn) plain := mirrors
  refine Program.run_of_related related (fun statement settled s t mirrors => ?_) orderly.asks
    begins
  exact Mirrors.executeIn mirrors (arrangements s.2) settled

end Connection.Mirrors

/-! ## Requests -/

/-- A request that does not list records. -/
def Single {β : Type} : ContentRequest β → Prop
  | .list => False
  | _ => True

namespace Work.Orderly

variable {α β : Type}

theorem executeOr {explain : DatabaseFault → Failure} {statement : Statement α}
    (settled : statement.Settled) : Orderly (executeOr explain statement) := by
  refine ⟨settled, fun reply => ?_⟩
  cases reply <;> trivial

theorem execute {statement : Statement α} (settled : statement.Settled) :
    Orderly (execute statement) :=
  executeOr settled

theorem pure (a : α) : Orderly (pure a : Work α) := ⟨trivial⟩

theorem throw (failure : Failure) : Orderly (throw failure : Work α) := ⟨trivial⟩

theorem ofExcept (result : Except Failure α) : Orderly (ofExcept result : Work α) := by
  cases result <;> exact ⟨trivial⟩

theorem bind {work : Work α} {next : α → Work β} (first : work.Orderly)
    (rest : ∀ a, (next a).Orderly) : Orderly (work >>= next) :=
  ⟨first.asks.exceptBind fun a => (rest a).asks⟩

theorem transaction (commits : α → Bool) {body : Work α} (orderly : body.Orderly) :
    Orderly (transaction commits body) := by
  have begun : Orderly (do Work.execute .begin; body) := .bind (.execute trivial) fun _ => orderly
  refine ⟨begun.asks.bind fun result => ?_⟩
  cases result with
  | error failure => exact ⟨trivial, fun _ => trivial⟩
  | ok a =>
      unfold finish
      dsimp only
      cases commits a with
      | false => exact ⟨trivial, fun _ => trivial⟩
      | true =>
          refine ⟨trivial, fun reply => ?_⟩
          cases reply with
          | ok => trivial
          | error fault => exact ⟨trivial, fun _ => trivial⟩

end Work.Orderly

open Work (Orderly)

theorem orderly_versionsOf (id : Uuid) : Orderly (versionsOf id) :=
  .bind (.execute trivial) fun _ => .pure _

theorem orderly_insertVersions (id : Uuid) (versions : List Version) :
    Orderly (insertVersions id versions) := by
  induction versions with
  | nil => exact .pure ()
  | cons v rest ih => exact .bind (.execute trivial) fun _ => ih

theorem orderly_getContent (id : Uuid) : Orderly (getContent id) := by
  refine .bind (.transaction _ (.bind (.execute trivial) fun _ => ?_)) fun found => ?_
  · refine .bind (.execute trivial) fun found => ?_
    cases found with
    | none => exact .pure none
    | some row => exact .bind (orderly_versionsOf id) fun _ => .pure _
  · cases found with
    | none => exact .pure none
    | some pair => exact .bind (.ofExcept _) fun _ => .pure _

theorem orderly_insertContent (record : Content) : Orderly (insertContent record) := by
  refine .transaction _ (.bind (.executeOr ?_) fun _ => ?_)
  · exact ⟨record.live.status, rfl⟩
  · exact orderly_insertVersions record.id record.versions

theorem orderly_applyChange (id : Uuid) (change : Change) (now : Instant) :
    Orderly (applyChange id change now) := by
  refine .transaction _ (.bind (.execute trivial) fun found => ?_)
  cases found with
  | none => exact .throw _
  | some row =>
      refine .bind (orderly_versionsOf id) fun versions => ?_
      refine .bind (.ofExcept _) fun content => .bind (.ofExcept _) fun result => ?_
      refine .bind (.execute trivial) fun _ => .bind (.executeOr ?_) fun _ => .pure _
      exact ⟨result.1.live.status, rfl⟩

theorem orderly_content {β : Type} {request : ContentRequest β} (single : Single request) :
    Orderly (content request) := by
  cases request with
  | list => exact single.elim
  | get id => exact orderly_getContent id
  | slugOwner slug => exact .execute trivial
  | insert record => exact orderly_insertContent record
  | apply id change now => exact orderly_applyChange id change now
  | delete id => exact .bind (.execute trivial) fun _ => .pure _

/-! ## The listing -/

/-- The listing joins the rows in the order in which they happen to stand. -/
theorem performIn_list (arrangements : Nat → Arrangement) {shuffled : Connection}
    {tables : Tables} (mirrors : shuffled.Mirrors (.idle tables)) (turn : Nat) :
    ∃ rows after, Connection.performIn arrangements (content .list) (shuffled, turn) =
        (joinRows rows (Tables.sortVersions tables.versions), after) ∧
      rows.Perm tables.contents ∧ after.1.Mirrors (.idle tables) := by
  obtain ⟨before, _⟩ := shuffled
  obtain ⟨same, working, lawful, -⟩ := mirrors
  cases working
  let arrange (place : Nat) (tables : Tables) : Tables :=
    (arrangements (turn + place)).arrange tables
  have again {t : Tables} (place : Nat) (rearranges : t.Rearranges tables) :
      (arrange place t).Rearranges tables :=
    ((arrangements (turn + place)).rearranges t).trans rearranges
  let third := arrange 2 (arrange 1 (arrange 0 before))
  let fourth := arrange 3 third
  let fifth := arrange 4 fourth
  have atThird : third.Rearranges tables := again 2 (again 1 (again 0 same))
  have atFourth : fourth.Rearranges tables := again 3 atThird
  have sorted : Tables.sortVersions fourth.versions = Tables.sortVersions tables.versions :=
    Tables.sortVersions_eq_of_perm atFourth.versions lawful.keys
  refine ⟨third.contents, (.idle fifth, turn + 5), ?_, atThird.contents, again 4 atFourth, .none,
    lawful, fun _ absent => nomatch absent⟩
  rw [← sorted]
  change Program.run _ (ofExcept (joinRows third.contents (Tables.sortVersions fourth.versions)) :
    Work (List Content)) (Connection.idle fifth, turn + 5) = _
  cases joinRows third.contents (Tables.sortVersions fourth.versions) <;> rfl

/-- Rows of records in another order are those of the records in another order. -/
theorem exists_records_of_perm {rows : List ContentRow} {records : List Content}
    (same : rows.Perm (records.map ContentRow.ofContent)) :
    ∃ listed : List Content, rows = listed.map ContentRow.ofContent ∧ listed.Perm records := by
  have split := congrFun₂ (List.eq_map_comp_perm ContentRow.ofContent) rows records
  exact split.mpr same

theorem Tables.Holds.performIn_list {tables : Tables} {records : List Content}
    (holds : tables.Holds records) (arrangements : Nat → Arrangement) {shuffled : Connection}
    (mirrors : shuffled.Mirrors (.idle tables)) (turn : Nat) :
    ∃ listed after, Connection.performIn arrangements (content .list) (shuffled, turn) =
        (.ok listed, after) ∧ listed.Perm records ∧ after.1.Mirrors (.idle tables) := by
  obtain ⟨rows, after, ran, same, kept⟩ := Sql.performIn_list arrangements mirrors turn
  rw [holds.rows] at same
  obtain ⟨listed, rfl, arranged⟩ := exists_records_of_perm same
  refine ⟨listed, after, ?_, arranged, kept⟩
  have distinct : (listed.map (·.id)).Nodup := (arranged.map _).nodup_iff.mpr holds.distinct
  rw [ran, joinRows_eq_ok distinct fun c member =>
    holds.filter_sortVersions (arranged.mem_iff.mp member)]

end ContentService.Sql
