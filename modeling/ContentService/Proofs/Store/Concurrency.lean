import ContentService.Proofs.Store.Requests
import Mathlib

/-! # Concurrent requests

Whatever clients ask of the database at the same time, and in whatever order their statements are
executed: each reads versioned records, the versions that they add get numbers of their own, and
these versions stay until their record is removed. No row is locked by two clients, so that what one
client's statement commits leaves the locked records of all others alone.
-/

namespace ContentService.Sql

/-! ## Locks -/

namespace Scene

variable {β : Type} {scene : Scene} {statement : Statement β} {fate : Fate} {id : Uuid}

theorem held_work {transaction : Transaction}
    (locked : id ∈ (scene.work fate transaction statement).2.held) :
    id ∈ scene.held ∨ statement.locks? = some id := by
  rcases List.mem_append.mp locked with new | old
  · exact .inr (Option.mem_toList.mp (List.mem_filter.mp new).1)
  · exact .inl old

theorem held_commit (locked : id ∈ scene.commit.2.held) : id ∈ scene.held := by
  unfold commit at locked
  split at locked
  case h_1 => exact locked
  case h_2 =>
    dsimp only at locked
    split at locked <;> exact nomatch locked

/-- A statement locks at most the row that it wants to lock. -/
theorem held_perform (locked : id ∈ (scene.perform fate statement).2.held) :
    id ∈ scene.held ∨ statement.locks? = some id := by
  by_cases plain : statement.Plain
  case pos =>
    cases opened : scene.transaction with
    | some transaction =>
        rw [perform_opened plain fate opened] at locked
        exact held_work locked
    | none =>
        rw [perform_unopened plain fate opened] at locked
        exact held_work (held_commit locked)
  case neg =>
    cases statement with
    | begin | snapshot => exact .inl locked
    | commit => exact .inl (held_commit locked)
    | rollback => exact nomatch locked
    | _ => exact (plain trivial).elim

theorem held_execute (locked : id ∈ (scene.execute fate statement).2.held) :
    id ∈ scene.held ∨ fate.executes = true ∧ statement.locks? = some id := by
  unfold execute at locked
  unfold Fate.executes
  cases fault : fate.fault with
  | none =>
      simp only [fault] at locked
      exact (held_perform locked).imp_right fun wants => ⟨rfl, wants⟩
  | some told =>
      simp only [fault] at locked
      split at locked <;> exact nomatch locked

/-- A statement that is not executed changes nothing for others. -/
theorem history_execute (idle : fate.executes = false) :
    (scene.execute fate statement).2.history = scene.history := by
  obtain ⟨unfaulted, early⟩ := Bool.or_eq_false_iff.mp idle
  unfold execute
  cases fault : fate.fault with
  | none =>
      rw [fault] at unfaulted
      exact nomatch unfaulted
  | some told =>
      simp only [early, Bool.false_eq_true, if_false]
      rfl

end Scene

namespace Server

variable {Client : Type} [DecidableEq Client] {server : Server Client} {client other : Client}

/-- A client holds what its scene says; all others hold what they held. -/
theorem held_put (other : Client) (scene : Scene) :
    (server.put client scene).held other =
      if other = client then scene.held else server.held other := by
  unfold held put
  simp only [List.filter_append, List.map_append, List.filter_filter, List.filter_map]
  by_cases same : other = client
  · subst same
    simp [Function.comp_def]
  · have kept (lock : Client × Uuid) :
        (decide (lock.1 = other) && !decide (lock.1 = client)) = decide (lock.1 = other) := by
      have apart : lock.1 = other → lock.1 ≠ client := fun equal => equal ▸ same
      simpa using apart
    simp [Function.comp_def, Ne.symm same, same, kept]

theorem scene_put_self (scene : Scene) : (server.put client scene).scene client = scene := by
  unfold Server.scene
  rw [held_put, if_pos rfl]
  simp only [put, Function.update_self]

theorem scene_put_of_ne (differs : other ≠ client) (scene : Scene) :
    (server.put client scene).scene other =
      { server.scene other with history := scene.history } := by
  unfold Server.scene
  rw [held_put, if_neg differs]
  simp only [put, Function.update_of_ne differs]

/-! ## What every event preserves -/

/-- No row is locked by two clients, and what is left of every request is safe. -/
structure Consistent (server : Server Client) : Prop where
  sound : Sound server.history
  exclusive : ∀ client other id, id ∈ server.held client → id ∈ server.held other → client = other
  safe : ∀ client errand, server.errands client = some errand →
    Safe (Pending errand.request) (Ended errand.request) errand.rest (server.scene client)

theorem consistent_initial : (initial : Server Client).Consistent where
  sound := .nil
  exclusive := fun _ _ _ locked => nomatch locked
  safe := fun _ _ absent => nomatch absent

namespace Consistent

/-- A client gets further, which the others tolerate. -/
theorem replace (consistent : server.Consistent) {scene : Scene} {errand : Option Errand}
    (sound : Sound scene.history)
    (tolerated : ∀ other ≠ client, Continues (server.held other) server.history scene.history)
    (apart : ∀ other ≠ client, ∀ id ∈ scene.held, id ∉ server.held other)
    (safe : ∀ next ∈ errand,
      Safe (Pending next.request) (Ended next.request) next.rest scene) :
    ((server.put client scene).setErrand client errand).Consistent where
  sound := sound
  exclusive := by
    intro first second id left right
    change id ∈ (server.put client scene).held first at left
    change id ∈ (server.put client scene).held second at right
    rw [held_put] at left right
    by_cases one : first = client <;> by_cases two : second = client
    · exact one.trans two.symm
    · rw [if_pos one] at left
      rw [if_neg two] at right
      exact absurd right (apart second two id left)
    · rw [if_neg one] at left
      rw [if_pos two] at right
      exact absurd left (apart first one id right)
    · rw [if_neg one] at left
      rw [if_neg two] at right
      exact consistent.exclusive first second id left right
  safe := by
    intro other next found
    change Safe _ _ _ ((server.put client scene).scene other)
    change Function.update server.errands client errand other = some next at found
    by_cases same : other = client
    · subst same
      rw [Function.update_self] at found
      rw [scene_put_self]
      exact safe next found
    · rw [Function.update_of_ne same] at found
      rw [scene_put_of_ne same]
      have lasting (result) (scene : Scene) (later)
          (continues : Continues scene.held scene.history later)
          (ended : Ended next.request result scene) := ended.later continues.onward
      exact (consistent.safe other next found).later lasting (tolerated other same)

theorem start (consistent : server.Consistent) (client : Client) {β : Type}
    {request : ContentRequest β} (proper : request.InsertsVersioned) :
    (server.after (.start client request proper)).Consistent := by
  unfold after
  dsimp only
  split
  case h_1 => exact consistent
  case h_2 =>
    refine consistent.replace consistent.sound (fun _ _ => .refl consistent.sound)
      (fun _ _ _ locked => nomatch locked) fun next single => ?_
    cases single
    exact safe_content request proper server.history

theorem leave (consistent : server.Consistent) (client : Client) :
    (server.after (.leave client)).Consistent :=
  consistent.replace consistent.sound (fun _ _ => .refl consistent.sound)
    (fun _ _ _ locked => nomatch locked) fun _ absent => nomatch absent

/-- A statement locks no row that another client has locked. -/
theorem notMem_held (consistent : server.Consistent) {β : Type} {statement : Statement β}
    {fate : Fate} (goes : ¬ (fate.executes && server.waits client statement) = true)
    (differs : other ≠ client) {id : Uuid}
    (locked : id ∈ server.held client ∨ fate.executes = true ∧ statement.locks? = some id) :
    id ∉ server.held other := by
  intro held
  rcases locked with own | ⟨executes, wants⟩
  · exact differs (consistent.exclusive other client id held own)
  · refine goes (Bool.and_eq_true_iff.mpr ⟨executes, ?_⟩)
    obtain ⟨⟨holder, _⟩, member, rfl⟩ := List.mem_map.mp held
    obtain ⟨present, same⟩ := List.mem_filter.mp member
    obtain rfl := of_decide_eq_true same
    refine List.any_eq_true.mpr ⟨_, present, Bool.and_eq_true_iff.mpr ⟨decide_eq_true differs, ?_⟩⟩
    exact beq_iff_eq.mpr wants

theorem proceed (consistent : server.Consistent) (fate : Fate) {errand : Errand}
    (found : server.errands client = some errand) :
    (server.proceed client fate errand).Consistent := by
  have safe := consistent.safe client errand found
  obtain ⟨request, rest⟩ := errand
  unfold Server.proceed
  cases rest with
  | done result => exact consistent
  | ask statement next =>
      dsimp only
      split
      case isTrue => exact consistent
      case isFalse goes =>
        obtain ⟨-, spares, safe⟩ :=
          (safe server.history (.refl consistent.sound)).imp_right fun goes => goes fate
        let scene := ((server.scene client).execute fate statement).2
        refine consistent.replace spares.sound (fun other differs => ?_)
          (fun other differs id locked => ?_) fun next single => ?_
        · -- What others have locked this statement does not change: it has not locked it, and it
          -- would have had to wait before it locked it.
          refine ⟨spares.onward, spares.sound, fun c held has => ?_⟩
          have apart (mine : _) := consistent.notMem_held goes differs mine held
          cases executes : fate.executes with
          | false =>
              rw [Scene.history_execute executes]
              exact has
          | true =>
              exact spares.spared c (fun own => apart (.inl own))
                (fun wants => apart (.inr ⟨executes, wants⟩)) has
        · exact consistent.notMem_held goes differs (Scene.held_execute locked)
        · cases single
          exact safe

theorem after (consistent : server.Consistent) (event : Event Client) :
    (server.after event).Consistent := by
  cases event with
  | start client request proper => exact consistent.start client proper
  | leave client => exact consistent.leave client
  | proceed client fate =>
      unfold Server.after
      dsimp only
      cases found : server.errands client with
      | none => exact consistent
      | some errand => exact consistent.proceed fate found

end Consistent

theorem consistent_run (events : List (Event Client)) : (run events).Consistent := by
  unfold run
  exact List.foldlRecOn events after consistent_initial
    fun server consistent event _ => consistent.after event

end Server

/-! ## What stays -/

namespace Tables

variable {tables : Tables} {row : VersionRow}

/-- A version row stays unless its record is removed. -/
theorem mem_changedBy {β : Type} {statement : Statement β} (member : row ∈ tables.versions)
    (stays : row.contentId ∉ Sent.removed? ⟨statement⟩) :
    row ∈ (tables.changedBy statement).versions := by
  cases statement with
  | insertVersion other => exact List.mem_append_left _ member
  | deleteContent id =>
      have differs : row.contentId ≠ id := fun same => stays (congrArg some same.symm)
      exact List.mem_filter.mpr ⟨member, bne_iff_ne.mpr differs⟩
  | _ => exact member

theorem mem_changedByAll {statements : List Sent} (member : row ∈ tables.versions)
    (stays : row.contentId ∉ removedRecords statements) :
    row ∈ (tables.changedByAll statements).versions := by
  induction statements generalizing tables with
  | nil => exact member
  | cons sent rest ih =>
      have apart : ∀ other ∈ sent :: rest, row.contentId ∉ other.removed? :=
        fun other inside gone => stays (List.mem_filterMap.mpr ⟨other, inside, gone⟩)
      refine ih (mem_changedBy member (apart sent List.mem_cons_self)) fun gone => ?_
      obtain ⟨other, inside, same⟩ := List.mem_filterMap.mp gone
      exact apart other (List.mem_cons_of_mem _ inside) same

/-- Added version rows stay if no record is removed. -/
theorem stored_mem_changedByAll {statements : List Sent} (member : row ∈ addedVersions statements)
    (tidy : removedRecords statements = []) :
    row.stored ∈ (tables.changedByAll statements).versions := by
  induction statements generalizing tables with
  | nil => exact nomatch member
  | cons sent rest ih =>
      obtain ⟨statement⟩ := sent
      cases statement with
      | insertVersion other =>
          have clear : removedRecords rest = [] := tidy
          rcases List.mem_cons.mp member with rfl | later
          · have added : row.stored ∈ (tables.changedBy (.insertVersion row)).versions :=
              List.mem_append_right _ (List.mem_singleton_self _)
            have stays : row.stored.contentId ∉ removedRecords rest := by
              rw [clear]
              exact List.not_mem_nil
            have kept := mem_changedByAll added stays
            exact kept
          · exact ih later clear
      | deleteContent id => exact nomatch tidy
      | _ => exact ih member tidy

end Tables

/-- The versions of a commit stay until a later commit removes their record. -/
theorem Sound.stored_mem {later earlier : List Commit} {commit : Commit} {row : VersionRow}
    (sound : Sound (later ++ commit :: earlier)) (member : row ∈ addedVersions commit.statements) :
    row.stored ∈ (committed (later ++ commit :: earlier)).versions ∨
      ∃ other ∈ later, row.contentId ∈ removedRecords other.statements := by
  induction later with
  | nil =>
      cases sound with
      | cons _ fair =>
          refine .inl (Tables.stored_mem_changedByAll member ?_)
          exact fair.tidy.resolve_left (List.ne_nil_of_mem member)
  | cons other later ih =>
      cases sound with
      | cons earlier fair =>
          rename_i transaction own
          by_cases gone : row.contentId ∈ removedRecords transaction.statements
          · exact .inr ⟨_, List.mem_cons_self, gone⟩
          · refine (ih earlier).imp (fun present => Tables.mem_changedByAll present gone) ?_
            rintro ⟨other, inside, removed⟩
            exact ⟨other, List.mem_cons_of_mem _ inside, removed⟩

/-! ## All runs -/

theorem Safe.pending {β : Type} {request : ContentRequest β}
    {rest : Program Statement DatabaseFault (Except Failure β)} {scene : Scene}
    (safe : Safe (Pending request) (Ended request) rest scene) (sound : Sound scene.history) :
    Pending request scene.transaction (committed scene.history) := by
  cases rest with
  | done result =>
      have idle : scene = .idle scene.history := Ended.idle safe
      rw [idle]
      exact (tolerates_ended request).calm _
  | ask statement next => exact (safe scene.history (.refl sound)).1

/-- However the statements of concurrent requests are interleaved, and however they fare: the
committed tables keep versioned records, the records that requests give are versioned, a version
that a change has added but not committed has a number that no committed version of its record has,
and the versions that were committed stay until their record is removed. -/
theorem Server.run_keeps_versions {Client : Type} [DecidableEq Client]
    (events : List (Event Client)) :
    (∃ records, (committed (run events).history).Keeps records) ∧
    (∀ client errand, (run events).errands client = some errand →
      (∀ value, errand.rest = .done (.ok value) →
        Returned errand.request (run events).history value) ∧
      Pending errand.request ((run events).transactions client)
        (committed (run events).history)) ∧
    ∀ later commit earlier, (run events).history = later ++ commit :: earlier →
      ∀ row ∈ addedVersions commit.statements,
        row.stored ∈ (committed (run events).history).versions ∨
          ∃ other ∈ later, row.contentId ∈ removedRecords other.statements := by
  have consistent := consistent_run events
  have sound := consistent.sound
  refine ⟨sound.keeps, fun client errand found => ?_,
    fun later commit earlier split row member => ?_⟩
  · have safe := consistent.safe client errand found
    refine ⟨fun value done => ?_, safe.pending sound⟩
    rw [done] at safe
    exact safe.returned value rfl
  · rw [split] at sound ⊢
    exact sound.stored_mem member

/-! ## An interleaving -/

def headed (title : String) : Edition where
  contentType := "page"
  title := title
  slug := "locks"
  body := "One at a time."
  tags := []
  status := .draft
  language := "en"
  coverImageUrl := none
  metaTitle := ""
  metaDescription := ""
  metaKeywords := []

/-- Clients take turns, and no statement fails. -/
def turns (clients : List (Fin 3)) : List (Event (Fin 3)) :=
  clients.map fun client => .proceed client ⟨none, false, 0, ⟨id, .refl⟩⟩

/-- Two clients change a record. The second has to wait for the lock of the first, and so its
version comes after that of the first. A third client reads the record meanwhile. -/
def twoWriters : List (Event (Fin 3)) :=
  [.start 0 (.insert (.initial (.ofNat 1) (headed "Keys") "ada" (june 0)))
      ⟨.initial _ _ _ _, by decide⟩] ++
    turns [0, 0, 0, 0] ++
    [.leave 0, .start 0 (.apply (.ofNat 1) (.write (headed "Bolts") "ada") (june 1)) trivial,
      .start 1 (.apply (.ofNat 1) (.write (headed "Locks") "ben") (june 2)) trivial,
      .start 2 (.get (.ofNat 1)) trivial] ++
    turns [0, 0, 1, 1, 0, 2, 2, 2, 1, 0, 0, 0, 2, 1, 1, 2, 1, 1, 1, 1]

/-- The request is over, and it has not failed. -/
def Errand.succeeded (errand : Errand) : Bool :=
  match errand.rest with
  | .done (.ok _) => true
  | _ => false

theorem Errand.succeeded_iff {errand : Errand} :
    errand.succeeded = true ↔ ∃ value, errand.rest = .done (.ok value) := by
  unfold Errand.succeeded
  split
  next value done => exact ⟨fun _ => ⟨value, done⟩, fun _ => rfl⟩
  next undone => exact ⟨nofun, fun ⟨value, done⟩ => (undone value done).elim⟩

/-- All three requests succeed, and what they give is as it has to be. -/
theorem Server.run_keeps_versions_two_writers :
    (Server.run twoWriters).history.map (fun commit =>
      commit.tables.versions.map fun row => (row.number, row.title)) =
        [[(1, "Keys"), (2, "Bolts"), (3, "Locks")], [(1, "Keys"), (2, "Bolts")],
          [(1, "Keys"), (2, "Bolts")], [(1, "Keys")]] ∧
    ∀ client, ∃ errand, (Server.run twoWriters).errands client = some errand ∧
      ∃ value, errand.rest = .done (.ok value) ∧
        Returned errand.request (Server.run twoWriters).history value := by
  have succeed : ∀ client, ((Server.run twoWriters).errands client).any Errand.succeeded
    | 0 => by cbv
    | 1 => by cbv
    | 2 => by cbv
  refine ⟨by cbv, fun client => ?_⟩
  obtain ⟨errand, found, succeeded⟩ := (Option.any_eq_true _ _).mp (succeed client)
  obtain ⟨value, done⟩ := Errand.succeeded_iff.mp succeeded
  have kept := (Server.run_keeps_versions twoWriters).2.1 client errand found
  exact ⟨errand, found, value, done, kept.1 value done⟩

end ContentService.Sql
