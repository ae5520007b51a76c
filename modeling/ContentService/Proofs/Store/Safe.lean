import ContentService.Proofs.Program
import ContentService.Proofs.Store.Server
import ContentService.Proofs.Store.Transaction

/-! # Work among others

What one client may rely on while others commit between its statements: the tables keep versioned
records, and the records whose rows it has locked stay as they are. In return its own commits keep
versioned records, and spare those whose rows it has not locked. Work that is safe in this sense is
put together from safe statements, whatever becomes of each.
-/

namespace ContentService.Sql

/-! ## Histories -/

/-- What a commit of one client does to the records, those of its own and those of others. -/
structure Commit.Fair (commit : Commit) (history : List Commit) (own : Uuid → Prop) : Prop where
  keeps : ∃ records, commit.tables.Keeps records
  /-- No commit both adds versions and removes records. -/
  tidy : addedVersions commit.statements = [] ∨ removedRecords commit.statements = []
  spared : ∀ c : Content, ¬ own c.id → (committed history).Has c → commit.tables.Has c

/-- Every commit has left the tables that it found as its statements change them, and these keep
versioned records. -/
inductive Sound : List Commit → Prop
  | nil : Sound []
  | cons {history : List Commit} {transaction : Transaction} {own : Uuid → Prop}
      (sound : Sound history) (fair : (transaction.commit history).Fair history own) :
      Sound (transaction.commit history :: history)

namespace Sound

variable {history : List Commit}

theorem keeps (sound : Sound history) : ∃ records, (committed history).Keeps records := by
  cases sound with
  | nil =>
      have lawful := Tables.holds_empty.lawful List.nodup_nil List.nodup_nil
      exact ⟨[], lawful, Tables.holds_empty, fun _ absent => nomatch absent⟩
  | cons _ fair => exact fair.keeps

theorem drop (sound : Sound history) (place : Nat) : Sound (history.drop place) := by
  induction sound generalizing place with
  | nil =>
      rw [List.drop_nil]
      exact .nil
  | cons earlier fair ih =>
      cases place with
      | zero => exact .cons earlier fair
      | succ place => exact ih place

end Sound

/-- What others do to the database that a client with locks has before it. -/
structure Continues (held : List Uuid) (history later : List Commit) : Prop where
  onward : history <:+ later
  sound : Sound later
  kept : ∀ c : Content, c.id ∈ held → (committed history).Has c → (committed later).Has c

/-- What a client's statement does to the database that others have before them. -/
structure Spares {β : Type} (statement : Statement β) (held : List Uuid)
    (history later : List Commit) : Prop where
  onward : history <:+ later
  sound : Sound later
  spared : ∀ c : Content, c.id ∉ held → statement.locks? ≠ some c.id →
    (committed history).Has c → (committed later).Has c

namespace Continues

variable {held : List Uuid} {history later last : List Commit}

theorem refl (sound : Sound history) : Continues held history history :=
  ⟨List.suffix_rfl, sound, fun _ _ has => has⟩

theorem trans (first : Continues held history later) (second : Continues held later last) :
    Continues held history last where
  onward := first.onward.trans second.onward
  sound := second.sound
  kept := fun c locked has => second.kept c locked (first.kept c locked has)

end Continues

theorem Spares.refl {β : Type} {statement : Statement β} {held : List Uuid}
    {history : List Commit} (sound : Sound history) : Spares statement held history history :=
  ⟨List.suffix_rfl, sound, fun _ _ _ has => has⟩

theorem Spares.commit {β : Type} {statement : Statement β} {held : List Uuid}
    {history : List Commit} {transaction : Transaction} {own : Uuid → Prop} (sound : Sound history)
    (fair : (transaction.commit history).Fair history own)
    (locked : ∀ id, own id → id ∈ held ∨ statement.locks? = some id) :
    Spares statement held history (transaction.commit history :: history) where
  onward := List.suffix_cons _ _
  sound := .cons sound fair
  spared := by
    intro c free unlocked
    refine fair.spared c fun owned => ?_
    exact (locked c.id owned).elim free unlocked

/-! ## Statements -/

/-- A statement that has nothing to do with the course of transactions. -/
def Statement.Plain {β : Type} : Statement β → Prop
  | .begin | .commit | .rollback | .snapshot => False
  | _ => True

namespace Scene

variable {α β : Type} {scene : Scene} {transaction : Transaction}

theorem perform_opened {statement : Statement β} (plain : statement.Plain) (fate : Fate)
    (opened : scene.transaction = some transaction) :
    scene.perform fate statement =
      (.ok (scene.work fate transaction statement).1,
        (scene.work fate transaction statement).2) := by
  cases statement <;> first | exact plain.elim | simp only [perform, opened]

theorem perform_unopened {statement : Statement β} (plain : statement.Plain) (fate : Fate)
    (unopened : scene.transaction = none) :
    scene.perform fate statement =
      let worked := scene.work fate .fresh statement
      (worked.2.commit.1.map fun _ => worked.1, worked.2.commit.2) := by
  cases statement <;> first | exact plain.elim | simp only [perform, unopened]

/-- A statement within a transaction fails, or is answered from what it sees. -/
theorem execute_opened {statement : Statement β} (plain : statement.Plain) (fate : Fate)
    (opened : scene.transaction = some transaction) :
    (∃ fault, scene.execute fate statement = (.error fault, scene.ended)) ∨
      scene.execute fate statement =
        (.ok (scene.work fate transaction statement).1,
          (scene.work fate transaction statement).2) := by
  unfold execute
  rw [perform_opened plain fate opened]
  cases fate.fault with
  | some fault => exact .inl ⟨fault, congrArg (Prod.mk _) (ite_self scene.ended)⟩
  | none => exact .inr rfl

theorem execute_begin (fate : Fate) (history : List Commit) :
    (∃ fault, (idle history).execute fate .begin = (.error fault, idle history)) ∨
      (idle history).execute fate .begin = (.ok (), ⟨history, some .fresh, []⟩) := by
  unfold execute
  cases fate.fault with
  | some fault => exact .inl ⟨fault, congrArg (Prod.mk _) (ite_self (idle history))⟩
  | none => exact .inr rfl

theorem execute_snapshot (fate : Fate) (opened : scene.transaction = some transaction) :
    (∃ fault, scene.execute fate .snapshot = (.error fault, scene.ended)) ∨
      scene.execute fate .snapshot =
        (.ok (), { scene with transaction := some { transaction with sight := .undecided } }) := by
  unfold execute
  cases fate.fault with
  | some fault => exact .inl ⟨fault, congrArg (Prod.mk _) (ite_self scene.ended)⟩
  | none =>
      refine .inr ?_
      simp only [perform, opened, Option.map_some]

theorem eq_idle_of_rollback {fate : Fate} {reply : Except DatabaseFault Unit} {after : Scene}
    (executed : scene.execute fate .rollback = (reply, after)) : after = idle scene.history := by
  have ended : (scene.execute fate .rollback).2 = idle scene.history := by
    unfold execute
    cases fate.fault with
    | some fault => exact ite_self scene.ended
    | none => rfl
  rw [← ended, executed]

/-- How a commit may end: it fails, or it is there for all later statements to see, which its client
is told unless the answer is lost. -/
inductive Ends (a : β) (commit : Commit) (history : List Commit) :
    Except DatabaseFault β × Scene → Prop
  | failed (fault : DatabaseFault) : Ends a commit history (.error fault, idle history)
  | lost (fault : DatabaseFault) (lawful : commit.tables.Lawful) :
      Ends a commit history (.error fault, idle (commit :: history))
  | landed (lawful : commit.tables.Lawful) :
      Ends a commit history (.ok a, idle (commit :: history))

theorem ends_of_perform {fate : Fate} {statement : Statement β} {commit : Commit} {a : β}
    (fault : DatabaseFault)
    (performed : scene.perform fate statement =
      if commit.tables.Lawful then (.ok a, idle (commit :: scene.history))
      else (.error fault, scene.ended)) :
    Ends a commit scene.history (scene.execute fate statement) := by
  unfold execute
  rw [performed]
  by_cases lawful : commit.tables.Lawful
  · rw [if_pos lawful]
    rcases fate.fault with _ | told
    · exact .landed lawful
    · cases fate.late with
      | true => exact .lost told lawful
      | false => exact .failed told
  · rw [if_neg lawful]
    rcases fate.fault with _ | told
    · exact .failed fault
    · cases fate.late <;> exact .failed told

theorem execute_commit (fate : Fate) (opened : scene.transaction = some transaction) :
    Ends () (transaction.commit scene.history) scene.history (scene.execute fate .commit) := by
  refine ends_of_perform (.refused none none) ?_
  simp only [perform, commit, opened]

/-- A statement outside transactions is committed at once. -/
theorem execute_idle {statement : Statement β} (plain : statement.Plain) (fate : Fate)
    (history : List Commit) :
    Ends ((fate.arrangement.arrange (committed history)).answer statement)
      (Transaction.commit ⟨.latest, [⟨statement⟩]⟩ history) history
      ((idle history).execute fate statement) := by
  let single := Transaction.commit ⟨.latest, [⟨statement⟩]⟩ history
  let answer := (fate.arrangement.arrange (committed history)).answer statement
  have performed : (idle history).perform fate statement =
      if single.tables.Lawful then (.ok answer, idle (single :: history))
      else (.error (.refused none none), idle history) := by
    have ended : ((idle history).work fate .fresh statement).2.commit =
        if single.tables.Lawful then (.ok (), idle (single :: history))
        else (.error (.refused none none), idle history) := rfl
    rw [perform_unopened plain fate rfl]
    dsimp only
    rw [ended]
    split <;> rfl
  exact ends_of_perform (.refused none none) performed

end Scene

/-! ## Safe work -/

variable {α β : Type}

/-- Work that goes on safely from a scene, whatever others do in between and however its statements
fare. What is pending holds of the open transaction and the committed tables all along, and the
result fits the last scene. -/
def Safe (pending : Option Transaction → Tables → Prop) (post : α → Scene → Prop) :
    Program Statement DatabaseFault α → Scene → Prop
  | .done result, scene => post result scene
  | .ask statement next, scene =>
    ∀ later, Continues scene.held scene.history later →
      pending scene.transaction (committed later) ∧ ∀ fate,
        let executed := ({ scene with history := later } : Scene).execute fate statement
        Spares statement scene.held later executed.2.history ∧
          Safe pending post (next executed.1) executed.2

/-- What is pending holds whatever others commit before the next statement. -/
def Pends (pending : Option Transaction → Tables → Prop) (scene : Scene) : Prop :=
  ∀ later, Continues scene.held scene.history later → pending scene.transaction (committed later)

namespace Safe

variable {pending : Option Transaction → Tables → Prop} {post : α → Scene → Prop} {scene : Scene}

theorem ask (statement : Statement β)
    {next : Except DatabaseFault β → Program Statement DatabaseFault α}
    (pends : Pends pending scene)
    (goes : ∀ later fate reply after, Continues scene.held scene.history later →
      Scene.execute fate statement ⟨later, scene.transaction, scene.held⟩ = (reply, after) →
        Spares statement scene.held later after.history ∧ Safe pending post (next reply) after) :
    Safe pending post (.ask statement next) scene :=
  fun later continues => ⟨pends later continues, fun fate => goes later fate _ _ continues rfl⟩

/-- Safe work stays safe while others go on. -/
theorem later {program : Program Statement DatabaseFault α} (safe : Safe pending post program scene)
    (lasting : ∀ result (scene : Scene) later, Continues scene.held scene.history later →
      post result scene → post result { scene with history := later })
    {later : List Commit} (continues : Continues scene.held scene.history later) :
    Safe pending post program { scene with history := later } := by
  cases program with
  | done result => exact lasting result scene later continues safe
  | ask statement next => exact fun last onwards => safe last (continues.trans onwards)

theorem bind {first : Program Statement DatabaseFault β}
    {next : β → Program Statement DatabaseFault α}
    (safe : Safe pending (fun result scene => Safe pending post (next result) scene) first scene) :
    Safe pending post (first.bind next) scene := by
  induction first generalizing scene with
  | done result => exact safe
  | ask statement rest ih =>
      -- The scene differs from statement to statement, and so it is general in the hypothesis.
      intro later continues
      obtain ⟨holds, goes⟩ := safe later continues
      exact ⟨holds, fun fate => ⟨(goes fate).1, ih _ (goes fate).2⟩⟩

theorem imp {program : Program Statement DatabaseFault α} {pre : α → Scene → Prop}
    (safe : Safe pending pre program scene)
    (follows : ∀ result scene, pre result scene → post result scene) :
    Safe pending post program scene := by
  induction program generalizing scene with
  | done result => exact follows result scene safe
  | ask statement rest ih =>
      intro later continues
      obtain ⟨holds, goes⟩ := safe later continues
      exact ⟨holds, fun fate => ⟨(goes fate).1, ih _ (goes fate).2⟩⟩

/-- Work that may fail, and what follows it if it does not. -/
theorem exceptBind {post : Except Failure α → Scene → Prop} {first : Work β} {next : β → Work α}
    (safe : Safe pending
      (fun result scene =>
        match result with
        | .ok b => Safe pending post (next b) scene
        | .error failure => post (.error failure) scene) first scene) :
    Safe pending post (first >>= next : Work α) scene := by
  refine Safe.bind (safe.imp fun result scene fits => ?_)
  cases result <;> exact fits

end Safe

/-! ## Transactions -/

/-- It is always right to fail without a transaction. -/
structure Tolerates (pending : Option Transaction → Tables → Prop)
    (post : Except Failure α → Scene → Prop) : Prop where
  calm : ∀ tables, pending none tables
  failed : ∀ failure history, Sound history → post (.error failure) (.idle history)

/-- The body of a transaction is safe, and so is the end of the transaction. -/
def Within (pending : Option Transaction → Tables → Prop) (commits : α → Bool)
    (post : Except Failure α → Scene → Prop) (body : Work α) (scene : Scene) : Prop :=
  Safe pending (fun result scene => Safe pending post (Work.finish commits result) scene) body scene

section Rules

variable {pending : Option Transaction → Tables → Prop} {post : Except Failure α → Scene → Prop}
  (tolerates : Tolerates pending post) {commits : α → Bool} {scene : Scene}

include tolerates

theorem Safe.finish_error (commits : α → Bool) (pends : Pends pending scene) (failure : Failure) :
    Safe pending post (Work.finish commits (.error failure)) scene := by
  refine Safe.ask .rollback pends fun later fate reply after continues executed => ?_
  have ended := Scene.eq_idle_of_rollback executed
  exact ended ▸ ⟨.refl continues.sound, tolerates.failed failure later continues.sound⟩

theorem Tolerates.finish (commits : α → Bool) : Tolerates pending
    (fun result scene => Safe pending post (Work.finish commits result) scene) where
  calm := tolerates.calm
  failed := fun failure _ _ =>
    Safe.finish_error tolerates commits (fun _ _ => tolerates.calm _) failure

theorem Tolerates.bind (next : β → Work α) : Tolerates pending
    (fun result scene =>
      match result with
      | .ok b => Safe pending post (next b) scene
      | .error failure => post (.error failure) scene) where
  calm := tolerates.calm
  failed := tolerates.failed

namespace Safe

omit tolerates in
/-- A result that is not worth a commit is given after a rollback. -/
theorem finish_discard {a : α} (worthless : commits a = false) (pends : Pends pending scene)
    (fits : ∀ history, Sound history → post (.ok a) (.idle history)) :
    Safe pending post (Work.finish commits (.ok a)) scene := by
  unfold Work.finish
  simp only [worthless, Bool.false_eq_true, if_false]
  refine Safe.ask .rollback pends fun later fate reply after continues executed => ?_
  have ended := Scene.eq_idle_of_rollback executed
  exact ended ▸ ⟨.refl continues.sound, fits later continues.sound⟩

/-- A commit is safe if it is fair to the records that are not locked. -/
theorem finish_commit {a : α} (worth : commits a = true) {history : List Commit}
    {transaction : Transaction} {held : List Uuid}
    (pends : Pends pending ⟨history, some transaction, held⟩)
    (lands : ∀ later, Continues held history later →
      let commit := transaction.commit later
      commit.tables.Lawful →
        commit.Fair later (· ∈ held) ∧ post (.ok a) (.idle (commit :: later))) :
    Safe pending post (Work.finish commits (.ok a)) ⟨history, some transaction, held⟩ := by
  unfold Work.finish
  simp only [worth, if_true]
  refine Safe.ask .commit pends fun later fate reply after continues executed => ?_
  let here : Scene := ⟨later, some transaction, held⟩
  have opened : here.transaction = some transaction := rfl
  have ends := Scene.execute_commit fate opened
  have undone (fault : DatabaseFault) (history : List Commit) :
      Safe pending post (Work.finish commits (.error (.database fault))) (.idle history) :=
    finish_error tolerates commits (fun _ _ => tolerates.calm _) _
  rw [show here.execute fate .commit = (reply, after) from executed] at ends
  cases ends with
  | failed fault => exact ⟨.refl continues.sound, undone fault later⟩
  | lost fault lawful =>
      -- The client goes on as after a failure, and yet its commit is there.
      obtain ⟨fair, -⟩ := lands later continues lawful
      exact ⟨.commit continues.sound fair fun id locked => .inl locked, undone fault _⟩
  | landed lawful =>
      obtain ⟨fair, fits⟩ := lands later continues lawful
      exact ⟨.commit continues.sound fair fun id locked => .inl locked, fits⟩

/-- A statement outside transactions is safe if its commit is fair to the records that it does not
lock. -/
theorem single (statement : Statement α) (plain : statement.Plain) (history : List Commit)
    (lands : ∀ later (fate : Fate), Continues [] history later →
      let commit := Transaction.commit ⟨.latest, [⟨statement⟩]⟩ later
      commit.tables.Lawful → commit.Fair later (statement.locks? = some ·) ∧
        post (.ok ((fate.arrangement.arrange (committed later)).answer statement))
          (.idle (commit :: later))) :
    Safe pending post (Work.execute statement) (.idle history) := by
  refine Safe.ask statement (fun _ _ => tolerates.calm _)
    fun later fate reply after continues executed => ?_
  have failed (history : List Commit) (fault : DatabaseFault) (sound : Sound history) :
      post (.error (.database fault)) (.idle history) :=
    tolerates.failed _ history sound
  have ends := Scene.execute_idle plain fate later
  rw [show (Scene.idle later).execute fate statement = (reply, after) from executed] at ends
  cases ends with
  | failed fault => exact ⟨.refl continues.sound, failed later fault continues.sound⟩
  | lost fault lawful =>
      obtain ⟨fair, -⟩ := lands later fate continues lawful
      have spares : Spares statement [] later _ :=
        .commit continues.sound fair fun id locked => .inr locked
      exact ⟨spares, failed _ fault spares.sound⟩
  | landed lawful =>
      obtain ⟨fair, fits⟩ := lands later fate continues lawful
      exact ⟨.commit continues.sound fair fun id locked => .inr locked, fits⟩

/-- A transaction is safe if its body is. -/
theorem transaction {body : Work α} (history : List Commit)
    (safe : ∀ later, Continues [] history later →
      Within pending commits post body ⟨later, some ⟨.latest, []⟩, []⟩) :
    Safe pending post (Work.transaction commits body) (.idle history) := by
  have begun :
      Within pending commits post (Work.execute .begin >>= fun _ => body) (.idle history) := by
    refine Safe.ask .begin (fun _ _ => tolerates.calm _)
      fun later fate reply after continues executed => ?_
    obtain ⟨fault, refused⟩ | opened := Scene.execute_begin fate later
    · cases executed.symm.trans refused
      refine ⟨.refl continues.sound, ?_⟩
      exact finish_error tolerates commits (fun _ _ => tolerates.calm _) (.database fault)
    · cases executed.symm.trans opened
      exact ⟨.refl continues.sound, safe later continues⟩
  exact Safe.bind begun

section

variable {history : List Commit} {sight : Sight} {sent : List Sent} {held : List Uuid}

/-- A statement in a transaction goes on from what it has seen, unless it fails. -/
theorem statement {explain : DatabaseFault → Failure} (statement : Statement β)
    (plain : statement.Plain) {next : β → Work α}
    (pends : Pends pending ⟨history, some ⟨sight, sent⟩, held⟩)
    (goes : ∀ later place (seen : Tables), Continues held history later →
      seen.Rearranges (((sight.decided place later).tables later).changedByAll sent) →
        Safe pending post (next (seen.answer statement))
          ⟨later, some ⟨sight.decided place later, sent ++ [⟨statement⟩]⟩,
            (statement.locks?.toList.filter fun id => seen.contents.any (·.id == id)) ++ held⟩) :
    Safe pending post (Work.executeOr explain statement >>= next : Work α)
      ⟨history, some ⟨sight, sent⟩, held⟩ := by
  refine Safe.ask statement pends fun later fate reply after continues executed => ?_
  let here : Scene := ⟨later, some ⟨sight, sent⟩, held⟩
  have opened : here.transaction = some ⟨sight, sent⟩ := rfl
  obtain ⟨fault, refused⟩ | done := Scene.execute_opened plain fate opened
  · cases executed.symm.trans refused
    exact ⟨.refl continues.sound, tolerates.failed (explain fault) later continues.sound⟩
  · cases executed.symm.trans done
    have rearranged := fate.arrangement.rearranges (here.view fate ⟨sight, sent⟩)
    exact ⟨.refl continues.sound, goes later fate.place _ continues rearranged⟩

/-- From here on the transaction sees one committed state. -/
theorem snapshot {next : Unit → Work α}
    (pends : Pends pending ⟨history, some ⟨sight, sent⟩, held⟩)
    (goes : ∀ later, Continues held history later →
      Safe pending post (next ()) ⟨later, some ⟨.undecided, sent⟩, held⟩) :
    Safe pending post (Work.execute .snapshot >>= next : Work α)
      ⟨history, some ⟨sight, sent⟩, held⟩ := by
  refine Safe.ask .snapshot pends fun later fate reply after continues executed => ?_
  let here : Scene := ⟨later, some ⟨sight, sent⟩, held⟩
  have opened : here.transaction = some ⟨sight, sent⟩ := rfl
  obtain ⟨fault, refused⟩ | done := Scene.execute_snapshot fate opened
  · cases executed.symm.trans refused
    exact ⟨.refl continues.sound, tolerates.failed (.database fault) later continues.sound⟩
  · cases executed.symm.trans done
    exact ⟨.refl continues.sound, goes later continues⟩

/-- The versions of a record are read in a transaction. -/
theorem versionsOf {next : List Version → Work α} (id : Uuid)
    (pends : Pends pending ⟨history, some ⟨sight, sent⟩, held⟩)
    (goes : ∀ later place (seen : Tables), Continues held history later →
      seen.Rearranges (((sight.decided place later).tables later).changedByAll sent) →
        Safe pending post
          (next ((Tables.sortVersions
            (seen.versions.filter (·.contentId == id))).map VersionRow.version))
          ⟨later, some ⟨sight.decided place later, sent ++ [⟨.selectVersionsOf id⟩]⟩, held⟩) :
    Safe pending post (Sql.versionsOf id >>= next : Work α) ⟨history, some ⟨sight, sent⟩, held⟩ :=
  Safe.exceptBind (Safe.statement (tolerates.bind next) (.selectVersionsOf id) trivial pends goes)

end

end Safe

end Rules

end ContentService.Sql
