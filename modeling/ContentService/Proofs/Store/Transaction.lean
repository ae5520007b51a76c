import ContentService.Proofs.Program
import ContentService.Sql.Database
import ContentService.Sql.Stores

/-! # Transactions

What work on the database leads to, whichever of its statements fail. Inside a transaction a
failure leaves the committed tables as they were; a transaction as a whole either commits the
tables that its body leads to, or leaves everything as it was.
-/

namespace ContentService.Sql

/-- A statement that neither opens nor ends a transaction. -/
def Statement.Works {β : Type} : Statement β → Prop
  | .begin | .commit | .rollback => False
  | _ => True

namespace Session

/-! ## Single statements -/

/-- A statement is made to fail, which undoes the transaction, or the connection executes it. -/
theorem execute_cases {β : Type} (statement : Statement β) (session : Session) :
    (∃ fault, (session.execute statement).1 = .error fault ∧
      (session.execute statement).2.connection = session.connection.undone) ∨
    (session.execute statement).1 = (session.connection.execute statement).1 ∧
      (session.execute statement).2.connection = (session.connection.execute statement).2 := by
  unfold execute
  cases session.faults.lookup session.log.length with
  | some fault => exact .inl ⟨fault, rfl, rfl⟩
  | none => exact .inr ⟨rfl, rfl⟩

/-- A statement in an open transaction fails and ends it, or changes its working tables. -/
theorem execute_open {β : Type} {statement : Statement β} (works : statement.Works)
    {session : Session} {committed working : Tables}
    (opened : session.connection = ⟨committed, some working⟩) :
    (∃ fault, (session.execute statement).1 = .error fault ∧
      (session.execute statement).2.connection = .idle committed) ∨
    ∃ answer tables, working.execute statement = .ok (answer, tables) ∧
      (session.execute statement).1 = .ok answer ∧
      (session.execute statement).2.connection = ⟨committed, some tables⟩ := by
  rcases session.execute_cases statement with ⟨fault, failed, undone⟩ | ⟨result, after⟩
  · exact .inl ⟨fault, failed, undone.trans (by rw [opened]; rfl)⟩
  · rw [opened] at result after
    simp only [Connection.execute, Option.getD_some] at result after
    cases executed : working.execute statement with
    | error fault =>
        rw [executed] at result after
        exact .inl ⟨fault, result, after⟩
    | ok reached =>
        rw [executed] at result after
        refine .inr ⟨reached.1, reached.2, rfl, result, after.trans ?_⟩
        cases statement <;> first | exact works.elim | rfl

/-- A statement outside transactions fails, or changes the committed tables. -/
theorem execute_idle {β : Type} {statement : Statement β} (works : statement.Works)
    {session : Session} {tables : Tables} (idle : session.connection = .idle tables) :
    (∃ fault, (session.execute statement).1 = .error fault ∧
      (session.execute statement).2.connection = .idle tables) ∨
    ∃ answer after, tables.execute statement = .ok (answer, after) ∧
      (session.execute statement).1 = .ok answer ∧
      (session.execute statement).2.connection = .idle after := by
  rcases session.execute_cases statement with ⟨fault, failed, undone⟩ | ⟨result, after⟩
  · exact .inl ⟨fault, failed, undone.trans (by rw [idle]; rfl)⟩
  · rw [idle] at result after
    simp only [Connection.execute, Connection.idle, Option.getD_none] at result after
    cases executed : tables.execute statement with
    | error fault =>
        rw [executed] at result after
        exact .inl ⟨fault, result, after⟩
    | ok reached =>
        rw [executed] at result after
        refine .inr ⟨reached.1, reached.2, rfl, result, after.trans ?_⟩
        cases statement <;> first | exact works.elim | rfl

theorem execute_begin {session : Session} {tables : Tables}
    (idle : session.connection = .idle tables) :
    (∃ fault, (session.execute .begin).1 = .error fault ∧
      (session.execute .begin).2.connection = .idle tables) ∨
    (session.execute .begin).1 = .ok () ∧
      (session.execute .begin).2.connection = ⟨tables, some tables⟩ := by
  rcases session.execute_cases .begin with ⟨fault, failed, undone⟩ | ⟨result, after⟩
  · exact .inl ⟨fault, failed, undone.trans (by rw [idle]; rfl)⟩
  · rw [idle] at result after
    exact .inr ⟨result, after⟩

theorem execute_commit {session : Session} {committed working : Tables}
    (opened : session.connection = ⟨committed, some working⟩) :
    (∃ fault, (session.execute .commit).1 = .error fault ∧
      (session.execute .commit).2.connection = .idle committed) ∨
    (session.execute .commit).1 = .ok () ∧
      (session.execute .commit).2.connection = .idle working := by
  rcases session.execute_cases .commit with ⟨fault, failed, undone⟩ | ⟨result, after⟩
  · exact .inl ⟨fault, failed, undone.trans (by rw [opened]; rfl)⟩
  · rw [opened] at result after
    exact .inr ⟨result, after⟩

theorem execute_rollback (session : Session) :
    (session.execute .rollback).2.connection = .idle session.connection.committed := by
  rcases session.execute_cases .rollback with ⟨fault, failed, undone⟩ | ⟨result, after⟩
  · exact undone
  · exact after

/-! ## Sequences -/

theorem perform_bind {α β : Type} (work : Work α) (next : α → Work β) (session : Session) :
    session.perform (work >>= next) =
      match session.perform work with
      | (.ok a, session) => session.perform (next a)
      | (.error failure, session) => (.error failure, session) := by
  refine (Program.run_exceptBind execute work next session).trans ?_
  unfold perform
  obtain ⟨result, after⟩ := Program.run execute work session
  cases result <;> rfl

theorem perform_executeOr {β : Type} (explain : DatabaseFault → Failure)
    (statement : Statement β) (session : Session) :
    session.perform (Work.executeOr explain statement) =
      ((session.execute statement).1.mapError explain, (session.execute statement).2) := by
  change Program.run execute (Program.ask statement _) session = _
  simp only [Program.run]
  cases (session.execute statement).1 <;> rfl

end Session

namespace Work

variable {α β : Type}

/-! ## Work in a transaction -/

/-- In an open transaction, work that gives a result leads to working tables that fit it; work that
fails leaves the committed tables. -/
def Leads (work : Work α) (working : Tables) (post : α → Tables → Prop) : Prop :=
  ∀ (session : Session) (committed : Tables), session.connection = ⟨committed, some working⟩ →
    (session.perform work).2.connection.committed = committed ∧
      ∀ a, (session.perform work).1 = .ok a → ∃ tables,
        (session.perform work).2.connection = ⟨committed, some tables⟩ ∧ post a tables

namespace Leads

variable {working : Tables} {post : α → Tables → Prop}

theorem pure {a : α} (holds : post a working) : Leads (pure a) working post := by
  intro session committed opened
  refine ⟨congrArg Connection.committed opened, fun b same => ?_⟩
  cases same
  exact ⟨working, opened, holds⟩

theorem throw (failure : Failure) : Leads (throw failure) working post := by
  intro session committed opened
  exact ⟨congrArg Connection.committed opened, fun b same => nomatch same⟩

theorem ofExcept (result : Except Failure α) :
    Leads (ofExcept result) working fun a tables => result = .ok a ∧ tables = working := by
  cases result with
  | ok a => exact Leads.pure ⟨rfl, rfl⟩
  | error failure => exact Leads.throw failure

/-- A statement leads to the tables that it makes of the working tables. -/
theorem statement {explain : DatabaseFault → Failure} {statement : Statement α}
    (works : statement.Works) :
    Leads (executeOr explain statement) working fun a tables =>
      working.execute statement = .ok (a, tables) := by
  intro session committed opened
  rw [Session.perform_executeOr]
  obtain ⟨fault, failed, undone⟩ | ⟨answer, tables, executed, result, after⟩ :=
    Session.execute_open works opened
  · rw [failed]
    exact ⟨congrArg Connection.committed undone, fun b same => nomatch same⟩
  · rw [result]
    refine ⟨congrArg Connection.committed after, fun b same => ?_⟩
    cases same
    exact ⟨tables, after, executed⟩

theorem bind {work : Work β} {next : β → Work α} {mid : β → Tables → Prop}
    (first : Leads work working mid)
    (rest : ∀ b tables, mid b tables → Leads (next b) tables post) :
    Leads (work >>= next) working post := by
  intro session committed opened
  rw [Session.perform_bind]
  obtain ⟨kept, reached⟩ := first session committed opened
  generalize session.perform work = performed at kept reached ⊢
  obtain ⟨result, after⟩ := performed
  cases result with
  | error failure => exact ⟨kept, fun b same => nomatch same⟩
  | ok b =>
      obtain ⟨tables, still, holds⟩ := reached b rfl
      exact rest b tables holds after committed still

theorem imp {work : Work α} {pre : α → Tables → Prop} (leads : Leads work working pre)
    (follows : ∀ a tables, pre a tables → post a tables) : Leads work working post := by
  intro session committed opened
  obtain ⟨kept, reached⟩ := leads session committed opened
  refine ⟨kept, fun a result => ?_⟩
  obtain ⟨tables, still, holds⟩ := reached a result
  exact ⟨tables, still, follows a tables holds⟩

end Leads

/-! ## Work outside transactions -/

/-- Outside transactions, work ends outside transactions again, with tables that fit its result. -/
def Settles (work : Work α) (tables : Tables) (post : Except Failure α → Tables → Prop) : Prop :=
  ∀ session : Session, session.connection = .idle tables → ∃ after,
    (session.perform work).2.connection = .idle after ∧ post (session.perform work).1 after

theorem perform_finish_error (commits : α → Bool) (failure : Failure) (session : Session) :
    let done := session.perform (finish commits (.error failure) : Work α)
    done.1 = .error failure ∧ done.2.connection = .idle session.connection.committed :=
  ⟨rfl, session.execute_rollback⟩

theorem perform_finish_discarded {commits : α → Bool} {a : α} (discarded : commits a = false)
    (session : Session) :
    let done := session.perform (finish commits (.ok a) : Work α)
    done.1 = .ok a ∧ done.2.connection = .idle session.connection.committed := by
  simp only [finish, discarded, Bool.false_eq_true, if_false]
  exact ⟨rfl, session.execute_rollback⟩

/-- A transaction whose result is worth a commit commits, or fails and is rolled back. -/
theorem perform_finish_committed {commits : α → Bool} {a : α} (committed : commits a = true)
    {session : Session} {before working : Tables}
    (opened : session.connection = ⟨before, some working⟩) :
    let done := session.perform (finish commits (.ok a) : Work α)
    done.1 = .ok a ∧ done.2.connection = .idle working ∨
      ∃ fault, done.1 = .error (.database fault) ∧ done.2.connection = .idle before := by
  obtain ⟨fault, failed, undone⟩ | ⟨result, after⟩ := Session.execute_commit opened
  · have performed : session.perform (finish commits (.ok a) : Work α) =
        (.error (.database fault), ((session.execute .commit).2.execute .rollback).2) := by
      simp only [finish, committed, if_true]
      change Program.run Session.execute (Program.ask .commit _) session = _
      simp only [Program.run, failed]
      rfl
    rw [performed]
    exact .inr ⟨fault, rfl, (Session.execute_rollback _).trans (by rw [undone]; rfl)⟩
  · have performed : session.perform (finish commits (.ok a) : Work α) =
        (.ok a, (session.execute .commit).2) := by
      simp only [finish, committed, if_true]
      change Program.run Session.execute (Program.ask .commit _) session = _
      simp only [Program.run, result]
      rfl
    rw [performed]
    exact .inl ⟨rfl, after⟩

/-- A transaction is its body between its begin and its end. -/
theorem perform_transaction (commits : α → Bool) (body : Work α) (session : Session) :
    session.perform (transaction commits body) =
      match (session.execute .begin).1 with
      | .ok () =>
        let worked := (session.execute .begin).2.perform body
        worked.2.perform (finish commits worked.1 : Work α)
      | .error fault =>
        (session.execute .begin).2.perform
          (finish commits (.error (.database fault)) : Work α) := by
  refine Eq.trans (Program.run_bind Session.execute (execute .begin >>= fun _ => body : Work α)
    (finish commits) session) ?_
  have begun := session.perform_bind (execute .begin) fun _ => body
  rw [execute, Session.perform_executeOr] at begun
  change (session.perform (execute .begin >>= fun _ => body)).2.perform
    (finish commits (session.perform (execute .begin >>= fun _ => body)).1 : Work α) = _
  rw [execute, begun]
  cases (session.execute .begin).1 <;> rfl

/-- **Transactions.** A transaction commits the tables that its body leads to, or leaves the
tables as they were. If it gives a result that is worth a commit, it has committed. -/
theorem Settles.transaction {commits : α → Bool} {body : Work α} {tables : Tables}
    (post : α → Tables → Prop) (leads : body.Leads tables post) :
    (transaction commits body).Settles tables fun result after =>
      match result with
      | .ok a => ∃ working, post a working ∧ after = if commits a then working else tables
      | .error _ => after = tables := by
  intro session idle
  rw [perform_transaction]
  obtain ⟨fault, failed, undone⟩ | ⟨result, opened⟩ := Session.execute_begin idle
  · rw [failed]
    obtain ⟨result, after⟩ := perform_finish_error commits (.database fault)
      (session.execute .begin).2
    exact ⟨tables, after.trans (by rw [undone]; rfl), rfl⟩
  · rw [result]
    obtain ⟨kept, reached⟩ := leads (session.execute .begin).2 tables opened
    dsimp only
    generalize (session.execute .begin).2.perform body = performed at kept reached ⊢
    obtain ⟨outcome, ended⟩ := performed
    cases outcome with
    | error failure =>
        obtain ⟨-, after⟩ := perform_finish_error commits failure ended
        exact ⟨tables, after.trans (congrArg Connection.idle kept), rfl⟩
    | ok a =>
        obtain ⟨working, still, fits⟩ := reached a rfl
        cases worth : commits a with
        | false =>
            obtain ⟨same, after⟩ := perform_finish_discarded worth ended
            refine ⟨tables, after.trans (congrArg Connection.idle kept), ?_⟩
            rw [same]
            exact ⟨working, fits, by rw [worth]; rfl⟩
        | true =>
            obtain ⟨same, after⟩ | ⟨fault, failed, after⟩ := perform_finish_committed worth still
            · refine ⟨working, after, ?_⟩
              rw [same]
              exact ⟨working, fits, by rw [worth]; rfl⟩
            · refine ⟨tables, after, ?_⟩
              rw [failed]

namespace Settles

variable {tables : Tables} {post : Except Failure α → Tables → Prop}

/-- A single statement makes other tables, or fails and leaves them. -/
theorem statement {statement : Statement α} (works : statement.Works) :
    (execute statement).Settles tables fun result after =>
      match result with
      | .ok a => tables.execute statement = .ok (a, after)
      | .error _ => after = tables := by
  intro session idle
  rw [execute, Session.perform_executeOr]
  obtain ⟨fault, failed, after⟩ | ⟨answer, after, executed, result, reached⟩ :=
    Session.execute_idle works idle
  · rw [failed]
    exact ⟨tables, after, rfl⟩
  · rw [result]
    exact ⟨after, reached, executed⟩

theorem imp {work : Work α} {pre : Except Failure α → Tables → Prop}
    (settles : work.Settles tables pre)
    (follows : ∀ result after, pre result after → post result after) :
    work.Settles tables post := by
  intro session idle
  obtain ⟨after, ended, reached⟩ := settles session idle
  exact ⟨after, ended, follows _ _ reached⟩

theorem bind {work : Work β} {next : β → Work α} {mid : Except Failure β → Tables → Prop}
    (first : work.Settles tables mid)
    (rest : ∀ b after, mid (.ok b) after → (next b).Settles after post)
    (failed : ∀ failure after, mid (.error failure) after → post (.error failure) after) :
    (work >>= next).Settles tables post := by
  intro session idle
  rw [Session.perform_bind]
  obtain ⟨after, settled, reached⟩ := first session idle
  generalize session.perform work = performed at settled reached ⊢
  obtain ⟨result, ended⟩ := performed
  cases result with
  | error failure => exact ⟨after, settled, failed failure after reached⟩
  | ok b => exact rest b after reached ended settled

theorem pure {a : α} (holds : post (.ok a) tables) : (pure a : Work α).Settles tables post :=
  fun _ idle => ⟨tables, idle, holds⟩

theorem ofExcept {result : Except Failure α} (holds : post result tables) :
    (ofExcept result : Work α).Settles tables post := by
  intro session idle
  cases result <;> exact ⟨tables, idle, holds⟩

end Settles

/-! ## What work asks for -/

/-- Whatever they are answered, the statements of work are allowed. -/
structure Asks (allowed : {γ : Type} → Statement γ → Prop) (work : Work α) : Prop where
  statements : Program.Asks allowed work

namespace Asks

variable {allowed : {γ : Type} → Statement γ → Prop}

theorem pure (a : α) : Asks allowed (pure a : Work α) := ⟨trivial⟩

theorem throw (failure : Failure) : Asks allowed (throw failure : Work α) := ⟨trivial⟩

theorem ofExcept (result : Except Failure α) : Asks allowed (ofExcept result : Work α) := by
  cases result <;> exact ⟨trivial⟩

theorem executeOr {explain : DatabaseFault → Failure} {statement : Statement α}
    (permitted : allowed statement) : Asks allowed (executeOr explain statement) := by
  refine ⟨permitted, fun reply => ?_⟩
  cases reply <;> trivial

theorem execute {statement : Statement α} (permitted : allowed statement) :
    Asks allowed (execute statement) :=
  executeOr permitted

theorem bind {work : Work β} {next : β → Work α} (first : work.Asks allowed)
    (rest : ∀ b, (next b).Asks allowed) : Asks allowed (work >>= next) :=
  ⟨first.statements.exceptBind fun b => (rest b).statements⟩

/-- A transaction may also begin, commit and be rolled back. -/
theorem transaction (commits : α → Bool) {body : Work α} (asks : body.Asks allowed)
    (begins : allowed Statement.begin) (ends : allowed Statement.commit)
    (reverts : allowed Statement.rollback) : Asks allowed (transaction commits body) := by
  have begun : Asks allowed (do Work.execute .begin; body) := .bind (.execute begins) fun _ => asks
  refine ⟨begun.statements.bind fun result => ?_⟩
  cases result with
  | error failure => exact ⟨reverts, fun _ => trivial⟩
  | ok a =>
      unfold finish
      dsimp only
      cases commits a with
      | false => exact ⟨reverts, fun _ => trivial⟩
      | true =>
          refine ⟨ends, fun reply => ?_⟩
          cases reply with
          | ok => trivial
          | error fault => exact ⟨reverts, fun _ => trivial⟩

end Asks

end Work

end ContentService.Sql
