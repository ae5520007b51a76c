import ContentService.Proofs.Content.Log
import ContentService.Proofs.Transcript
import ContentService.Sql.Stores
import Mathlib.Data.List.Basic
import Mathlib.Data.Int.Order.Basic

/-! # Conversations with the database

What the store says to the database when it adds or changes a record, whatever the database answers.
A commit is sent only after every statement before it has succeeded, and then the statements before
it have written the record's row and its new versions. Exactly a commit that succeeds makes the
request succeed, and exactly a slug that is refused makes it a conflict.
-/

namespace ContentService.Sql

open Program (Runs)
open Work

variable {α β : Type} {said : List (Exchange Statement DatabaseFault)}

/-- The statement is a commit. -/
def IsCommit : Exchange Statement DatabaseFault → Prop
  | ⟨.commit, _⟩ => True
  | _ => False

/-- A row of `contents` is not written because its slug is taken. -/
def RefusesSlug : Exchange Statement DatabaseFault → Prop
  | ⟨.insertContent _, .error fault⟩ | ⟨.updateContent _, .error fault⟩ =>
    fault = .refused (some uniqueViolation) (some slugConstraint)
  | _ => False

/-- A statement that writes no row of `contents` and does not commit. -/
def Statement.Minor : Statement β → Prop
  | .commit | .insertContent _ | .updateContent _ => False
  | _ => True

theorem not_isCommit_of_minor {statement : Statement β} (minor : statement.Minor)
    (reply : Except DatabaseFault β) : ¬ IsCommit ⟨statement, reply⟩ := by
  intro commit
  cases statement <;> first | exact minor | exact commit

theorem not_refusesSlug_of_minor {statement : Statement β} (minor : statement.Minor)
    (reply : Except DatabaseFault β) : ¬ RefusesSlug ⟨statement, reply⟩ := by
  intro refuses
  cases statement <;> first | exact minor | exact refuses

theorem ofWrite_eq_conflict_iff {fault : DatabaseFault} {slug : String} :
    (∃ message, Failure.ofWrite fault slug = .conflict message) ↔
      fault = .refused (some uniqueViolation) (some slugConstraint) := by
  constructor
  · rintro ⟨message, same⟩
    unfold Failure.ofWrite at same
    split at same
    · split at same
      case isTrue both => rw [both.1, both.2]
      case isFalse => cases same
    · cases same
  · rintro rfl
    exact ⟨_, rfl⟩

/-! ## Statements and transactions -/

theorem runs_executeOr {explain : DatabaseFault → Failure} {statement : Statement α}
    {result : Except Failure α} (runs : Runs (executeOr explain statement) said result) :
    ∃ reply, said = [⟨statement, reply⟩] ∧ result = reply.mapError explain := by
  obtain ⟨reply, rest, rfl, ended⟩ := Runs.of_ask runs
  refine ⟨reply, ?_⟩
  cases reply <;> cases ended <;> exact ⟨rfl, rfl⟩

/-- How a transaction ends whose body has this outcome. -/
inductive Ending (outcome : Except Failure α) :
    List (Exchange Statement DatabaseFault) → Except Failure α → Prop
  | committed {a : α} (worked : outcome = .ok a) : Ending outcome [⟨.commit, .ok ()⟩] (.ok a)
  | uncommitted {a : α} (worked : outcome = .ok a) (fault : DatabaseFault)
      (reply : Except DatabaseFault Unit) :
      Ending outcome [⟨.commit, .error fault⟩, ⟨.rollback, reply⟩] (.error (.database fault))
  | failed {failure : Failure} (failed : outcome = .error failure)
      (reply : Except DatabaseFault Unit) : Ending outcome [⟨.rollback, reply⟩] (.error failure)

theorem ending_of_finish {outcome result : Except Failure α}
    (runs : Runs (finish (fun _ => true) outcome) said result) : Ending outcome said result := by
  cases outcome with
  | error failure =>
      obtain ⟨reply, rest, rfl, ended⟩ := Runs.of_ask runs
      cases ended
      exact .failed rfl reply
  | ok a =>
      obtain ⟨reply, rest, rfl, ended⟩ := Runs.of_ask runs
      cases reply with
      | ok =>
          cases ended
          exact .committed rfl
      | error fault =>
          obtain ⟨reply, rest, rfl, rolled⟩ := Runs.of_ask ended
          cases rolled
          exact .uncommitted rfl fault reply

/-- A transaction does not begin, or its body runs between its begin and its end. -/
theorem runs_transaction {body : Work α} {result : Except Failure α}
    (runs : Runs (transaction (fun _ => true) body) said result) :
    (∃ fault reply, said = [⟨.begin, .error fault⟩, ⟨.rollback, reply⟩] ∧
      result = .error (.database fault)) ∨
    ∃ worked outcome ending, said = ⟨.begin, .ok ()⟩ :: (worked ++ ending) ∧
      Runs body worked outcome ∧ Ending outcome ending result := by
  obtain ⟨outcome, inside, ending, rfl, first, last⟩ := Runs.of_bind runs
  have ended := ending_of_finish last
  rcases Runs.of_exceptBind first with ⟨failure, begun, rfl⟩ | ⟨_, early, worked, rfl, begun, works⟩
  · obtain ⟨reply, rfl, same⟩ := runs_executeOr begun
    cases reply with
    | ok => cases same
    | error fault =>
        cases same
        cases ended with
        | committed worked => cases worked
        | uncommitted worked => cases worked
        | failed same reply =>
            cases same
            exact .inl ⟨fault, reply, rfl, rfl⟩
  · obtain ⟨reply, rfl, same⟩ := runs_executeOr begun
    cases reply with
    | error fault => cases same
    | ok => exact .inr ⟨worked, outcome, ending, rfl, works, ended⟩

/-! ## Work inside a transaction -/

/-- Work that leaves the commit to others, does not succeed after a statement that failed, and ends
in a conflict exactly if a slug is refused. -/
structure Contained (work : Work α) : Prop where
  commits : ∀ {said result}, Runs work said result → ∀ e ∈ said, ¬ IsCommit e
  succeeds : ∀ {said a}, Runs work said (.ok a) → ∀ e ∈ said, e.Succeeded
  conflicts : ∀ {said result}, Runs work said result →
    ((∃ message, result = .error (.conflict message)) ↔ ∃ e ∈ said, RefusesSlug e)

namespace Contained

theorem ofExcept {outcome : Except Failure α}
    (peaceful : ∀ message, outcome ≠ .error (.conflict message)) :
    Contained (ofExcept outcome : Work α) := by
  constructor
  · intro said result runs e member
    obtain ⟨rfl, -⟩ := Runs.of_ofExcept runs
    cases member
  · intro said a runs e member
    obtain ⟨rfl, -⟩ := Runs.of_ofExcept runs
    cases member
  · intro said result runs
    obtain ⟨rfl, rfl⟩ := Runs.of_ofExcept runs
    constructor
    · rintro ⟨message, same⟩
      exact absurd same (peaceful message)
    · rintro ⟨e, member, -⟩
      cases member

theorem pure (a : α) : Contained (pure a : Work α) := by
  have peaceful : ∀ message, (.ok a : Except Failure α) ≠ .error (.conflict message) :=
    fun _ same => nomatch same
  exact ofExcept peaceful

theorem throw {failure : Failure} (peaceful : ∀ message, failure ≠ .conflict message) :
    Contained (throw failure : Work α) := by
  have peaceful : ∀ message, (.error failure : Except Failure α) ≠ .error (.conflict message) :=
    fun message same => peaceful message (Except.error.inj same)
  exact ofExcept peaceful

/-- A single statement that does not commit, and whose fault is a conflict exactly if it refuses a
slug. -/
theorem executeOr {explain : DatabaseFault → Failure} {statement : Statement α}
    (commits : ∀ reply, ¬ IsCommit ⟨statement, reply⟩)
    (conflicts : ∀ reply, (∃ message, reply.mapError explain = .error (.conflict message)) ↔
      RefusesSlug ⟨statement, reply⟩) :
    Contained (executeOr explain statement) := by
  constructor
  · intro said result runs e member
    obtain ⟨reply, rfl, -⟩ := runs_executeOr runs
    rw [List.mem_singleton.mp member]
    exact commits reply
  · intro said a runs e member
    obtain ⟨reply, rfl, same⟩ := runs_executeOr runs
    rw [List.mem_singleton.mp member]
    cases reply with
    | ok answer => exact ⟨answer, rfl⟩
    | error fault => cases same
  · intro said result runs
    obtain ⟨reply, rfl, rfl⟩ := runs_executeOr runs
    simp only [List.mem_singleton, exists_eq_left]
    exact conflicts reply

theorem execute {statement : Statement α} (minor : statement.Minor) :
    Contained (execute statement) := by
  refine executeOr (not_isCommit_of_minor minor) fun reply => ?_
  refine iff_of_false ?_ (not_refusesSlug_of_minor minor reply)
  rintro ⟨message, same⟩
  cases reply <;> cases same

/-- A write of a row of `contents`, whose fault is a conflict if it refuses the slug. -/
theorem write {statement : Statement α} {slug : String}
    (commits : ∀ reply, ¬ IsCommit ⟨statement, reply⟩)
    (accepted : ∀ answer, ¬ RefusesSlug ⟨statement, .ok answer⟩)
    (refused : ∀ fault, RefusesSlug ⟨statement, .error fault⟩ ↔
      fault = .refused (some uniqueViolation) (some slugConstraint)) :
    Contained (Work.executeOr (Failure.ofWrite · slug) statement) := by
  refine executeOr commits fun reply => ?_
  cases reply with
  | ok answer => exact iff_of_false (fun ⟨_, same⟩ => nomatch same) (accepted answer)
  | error fault =>
      rw [refused, ← @ofWrite_eq_conflict_iff fault slug]
      simp only [Except.mapError, Except.error.injEq]

theorem bind {work : Work α} {next : α → Work β} (first : Contained work)
    (rest : ∀ a, Contained (next a)) : Contained (work >>= next) := by
  constructor
  · intro said result runs e member
    rcases Runs.of_exceptBind runs with ⟨failure, head, -⟩ | ⟨a, early, late, rfl, head, tail⟩
    · exact first.commits head e member
    · rcases List.mem_append.mp member with inside | inside
      · exact first.commits head e inside
      · exact (rest a).commits tail e inside
  · intro said b runs e member
    obtain ⟨a, early, late, rfl, head, tail⟩ := Runs.of_exceptBind_ok runs
    rcases List.mem_append.mp member with inside | inside
    · exact first.succeeds head e inside
    · exact (rest a).succeeds tail e inside
  · intro said result runs
    rcases Runs.of_exceptBind runs with ⟨failure, head, rfl⟩ | ⟨a, early, late, rfl, head, tail⟩
    · simpa only [Except.error.injEq] using first.conflicts head
    · -- The first part has succeeded, so it holds no refusal.
      have calm : ¬ ∃ e ∈ early, RefusesSlug e := fun refused =>
        nomatch ((first.conflicts head).mpr refused).choose_spec
      rw [(rest a).conflicts tail]
      simp only [List.mem_append, or_and_right, exists_or, calm, false_or]

end Contained

theorem contained_versionsOf (id : Uuid) : Contained (versionsOf id) := by
  refine Contained.bind (Contained.execute trivial) fun rows => ?_
  exact .pure _

theorem contained_insertVersions (id : Uuid) (versions : List Version) :
    Contained (insertVersions id versions) := by
  induction versions with
  | nil => exact .pure ()
  | cons v rest ih =>
      refine Contained.bind (Contained.execute trivial) fun _ => ?_
      exact ih

/-! ## Transactions of contained work -/

/-- What holds of every conversation in which a request's changes are to take effect as a whole:
it succeeds exactly if a commit does, a commit follows no statement that failed, and it ends in a
conflict exactly if a slug is refused. -/
structure Whole (said : List (Exchange Statement DatabaseFault)) (result : Except Failure α) :
    Prop where
  succeeds : (∃ a, result = .ok a) ↔ ⟨.commit, .ok ()⟩ ∈ said
  follows : said.Pairwise fun earlier later => IsCommit later → earlier.Succeeded
  conflicts : (∃ message, result = .error (.conflict message)) ↔ ∃ e ∈ said, RefusesSlug e

theorem isCommit_of_eq {exchange : Exchange Statement DatabaseFault}
    (same : exchange = ⟨.commit, .ok ()⟩) : IsCommit exchange :=
  same ▸ trivial

namespace Ending

variable {outcome result : Except Failure α} {ending : List (Exchange Statement DatabaseFault)}

theorem ok_iff (ended : Ending outcome ending result) :
    (∃ a, result = .ok a) ↔ ⟨.commit, .ok ()⟩ ∈ ending := by
  cases ended with
  | @committed a => exact iff_of_true ⟨a, rfl⟩ (List.mem_singleton_self _)
  | uncommitted worked fault reply =>
      refine iff_of_false (fun ⟨_, same⟩ => nomatch same) fun member => ?_
      rcases List.mem_cons.mp member with same | member
      · simp only [Exchange.mk.injEq, heq_eq_eq, reduceCtorEq, and_false] at same
      · exact isCommit_of_eq (List.mem_singleton.mp member).symm
  | failed worked reply =>
      refine iff_of_false (fun ⟨_, same⟩ => nomatch same) fun member => ?_
      exact isCommit_of_eq (List.mem_singleton.mp member).symm

/-- Work that is followed by a commit has succeeded. -/
theorem outcome_eq_ok (ended : Ending outcome ending result)
    {exchange : Exchange Statement DatabaseFault} (member : exchange ∈ ending)
    (commit : IsCommit exchange) : ∃ a, outcome = .ok a := by
  cases ended with
  | committed worked | uncommitted worked => exact ⟨_, worked⟩
  | failed worked reply =>
      rw [List.mem_singleton.mp member] at commit
      exact commit.elim

theorem pairwise (ended : Ending outcome ending result) :
    ending.Pairwise fun earlier later => IsCommit later → earlier.Succeeded := by
  cases ended with
  | committed | failed => exact List.pairwise_singleton _ _
  | uncommitted =>
      refine List.pairwise_cons.mpr ⟨fun later member commit => ?_, List.pairwise_singleton _ _⟩
      rw [List.mem_singleton.mp member] at commit
      exact commit.elim

theorem conflict_iff (ended : Ending outcome ending result) :
    (∃ message, result = .error (.conflict message)) ↔
      ∃ message, outcome = .error (.conflict message) := by
  cases ended with
  | committed worked => rw [worked]
  | failed worked => rw [worked]
  | uncommitted worked =>
      rw [worked]
      exact iff_of_false (fun ⟨_, same⟩ => nomatch same) fun ⟨_, same⟩ => nomatch same

theorem not_refusesSlug (ended : Ending outcome ending result)
    {exchange : Exchange Statement DatabaseFault} (member : exchange ∈ ending) :
    ¬ RefusesSlug exchange := by
  intro refuses
  cases ended with
  | committed =>
      rw [List.mem_singleton.mp member] at refuses
      exact refuses
  | uncommitted =>
      rcases List.mem_cons.mp member with same | member
      · rw [same] at refuses
        exact refuses
      · rw [List.mem_singleton.mp member] at refuses
        exact refuses
  | failed =>
      rw [List.mem_singleton.mp member] at refuses
      exact refuses

end Ending

/-- A transaction of contained work takes effect as a whole. -/
theorem whole_of_transaction {body : Work α} (contained : Contained body)
    {result : Except Failure α} (runs : Runs (transaction (fun _ => true) body) said result) :
    Whole said result := by
  rcases runs_transaction runs with ⟨fault, reply, rfl, rfl⟩ |
    ⟨worked, outcome, ending, rfl, works, ended⟩
  · -- The transaction has not begun, and its rollback is all that follows.
    have lone : Ending (.error (.database fault) : Except Failure α) [⟨.rollback, reply⟩]
        (.error (.database fault)) := .failed rfl reply
    constructor
    · refine iff_of_false (fun ⟨_, same⟩ => nomatch same) fun member => ?_
      rcases List.mem_cons.mp member with same | member
      · exact isCommit_of_eq same.symm
      · exact nomatch (lone.ok_iff.mpr member).choose_spec
    · refine List.pairwise_cons.mpr ⟨fun later member commit => ?_, lone.pairwise⟩
      exact nomatch (lone.outcome_eq_ok member commit).choose_spec
    · refine iff_of_false (fun ⟨_, same⟩ => nomatch same) ?_
      rintro ⟨e, member, refuses⟩
      rcases List.mem_cons.mp member with rfl | member
      · exact refuses
      · exact lone.not_refusesSlug member refuses
  · -- The commit can only be said at the end, since the body says none.
    constructor
    · rw [ended.ok_iff, List.mem_cons, List.mem_append]
      constructor
      · exact fun member => .inr (.inr member)
      · rintro (same | member | member)
        · exact (isCommit_of_eq same.symm).elim
        · exact absurd (isCommit_of_eq rfl) (contained.commits works _ member)
        · exact member
    · refine List.pairwise_cons.mpr ⟨fun _ _ _ => ⟨(), rfl⟩, ?_⟩
      refine List.pairwise_append.mpr ⟨?_, ended.pairwise, ?_⟩
      · exact List.pairwise_of_forall_mem_list fun _ _ later member commit =>
          absurd commit (contained.commits works later member)
      · intro earlier member later inside commit
        obtain ⟨a, rfl⟩ := ended.outcome_eq_ok inside commit
        exact contained.succeeds works earlier member
    · rw [ended.conflict_iff, contained.conflicts works]
      constructor
      · rintro ⟨e, member, refuses⟩
        exact ⟨e, List.mem_cons_of_mem _ (List.mem_append_left _ member), refuses⟩
      · rintro ⟨e, member, refuses⟩
        rcases List.mem_cons.mp member with rfl | member
        · exact refuses.elim
        · rcases List.mem_append.mp member with inside | last
          · exact ⟨e, inside, refuses⟩
          · exact absurd refuses (ended.not_refusesSlug last)

/-- What is said before a commit and behind it. -/
theorem said_of_isCommit {body : Work α} (contained : Contained body) {result : Except Failure α}
    (runs : Runs (transaction (fun _ => true) body) said result)
    (sent : ∃ e ∈ said, IsCommit e) :
    ∃ a worked reply ending, Runs body worked (.ok a) ∧
      said = ⟨.begin, .ok ()⟩ :: (worked ++ ⟨.commit, reply⟩ :: ending) ∧
      (ending = [] ∨ ∃ undone, ending = [⟨.rollback, undone⟩]) := by
  obtain ⟨e, member, commit⟩ := sent
  rcases runs_transaction runs with ⟨fault, reply, rfl, rfl⟩ |
    ⟨worked, outcome, ending, rfl, works, ended⟩
  · rcases List.mem_cons.mp member with rfl | member
    · exact commit.elim
    · rw [List.mem_singleton.mp member] at commit
      exact commit.elim
  · rcases List.mem_cons.mp member with rfl | member
    · exact commit.elim
    rcases List.mem_append.mp member with inside | last
    · exact absurd commit (contained.commits works e inside)
    cases ended with
    | committed same => exact ⟨_, worked, _, [], same ▸ works, rfl, .inl rfl⟩
    | uncommitted same fault undone =>
        exact ⟨_, worked, _, [_], same ▸ works, rfl, .inr ⟨undone, rfl⟩⟩
    | failed same undone =>
        rw [List.mem_singleton.mp last] at commit
        exact commit.elim

theorem runs_executeOr_ok {explain : DatabaseFault → Failure} {statement : Statement α} {a : α}
    (runs : Runs (executeOr explain statement) said (.ok a)) : said = [⟨statement, .ok a⟩] := by
  obtain ⟨reply, rfl, same⟩ := runs_executeOr runs
  cases reply <;> cases same
  rfl

/-! ## Adding a record -/

theorem said_of_insertVersions {id : Uuid} {versions : List Version}
    (runs : Runs (insertVersions id versions) said (.ok ())) :
    said = versions.map fun v => ⟨.insertVersion (.ofVersion id v), .ok ()⟩ := by
  induction versions generalizing said with
  | nil =>
      obtain ⟨rfl, -⟩ := Runs.of_pure runs
      rfl
  | cons v rest ih =>
      obtain ⟨_, early, late, rfl, first, others⟩ := Runs.of_exceptBind_ok runs
      rw [runs_executeOr_ok first, ih others]
      rfl

theorem said_of_insertBody {content : Content}
    (runs : Runs (do
      executeOr (Failure.ofWrite · content.live.slug) (.insertContent (.ofContent content))
      insertVersions content.id content.versions : Work Unit) said (.ok ())) :
    said = ⟨.insertContent (.ofContent content), .ok ()⟩ ::
      content.versions.map fun v => ⟨.insertVersion (.ofVersion content.id v), .ok ()⟩ := by
  obtain ⟨_, early, late, rfl, first, others⟩ := Runs.of_exceptBind_ok runs
  rw [runs_executeOr_ok first, said_of_insertVersions others]
  rfl

theorem contained_insertBody (content : Content) : Contained (do
    executeOr (Failure.ofWrite · content.live.slug) (.insertContent (.ofContent content))
    insertVersions content.id content.versions : Work Unit) := by
  refine Contained.bind ?_ fun _ => contained_insertVersions _ _
  exact Contained.write (fun _ commit => commit) (fun _ refuses => refuses) fun _ => .rfl

/-! ## Changing a record -/

/-- The statements that write a changed record with the version that was appended to its log. -/
def storing (id : Uuid) (changed : Content) (appended : Version) : Work Content := do
  execute (.insertVersion (.ofVersion id appended))
  executeOr (Failure.ofWrite · changed.live.slug)
    (.updateContent { ContentRow.ofContent changed with id := id })
  return changed

/-- The statements between the begin and the end of a change. -/
def changing (id : Uuid) (change : Change) (now : Instant) : Work Content := do
  match ← execute (.lockContent id) with
  | none => throw (.contentNotFound id)
  | some row =>
    let versions ← versionsOf id
    let content ← ofExcept (row.content versions)
    let result ← ofExcept (content.apply change now)
    storing id result.1 result.2

theorem applyChange_eq (id : Uuid) (change : Change) (now : Instant) :
    applyChange id change now = transaction (fun _ => true) (changing id change now) := rfl

theorem contained_storing (id : Uuid) (changed : Content) (appended : Version) :
    Contained (storing id changed appended) := by
  refine Contained.bind (Contained.execute trivial) fun _ => ?_
  refine Contained.bind ?_ fun _ => .pure _
  exact Contained.write (fun _ commit => commit) (fun _ refuses => refuses) fun _ => .rfl

theorem said_of_storing {id : Uuid} {changed result : Content} {appended : Version}
    (runs : Runs (storing id changed appended) said (.ok result)) :
    result = changed ∧ said = [⟨.insertVersion (.ofVersion id appended), .ok ()⟩,
      ⟨.updateContent { ContentRow.ofContent changed with id := id }, .ok ()⟩] := by
  obtain ⟨_, early, late, rfl, inserted, rest⟩ := Runs.of_exceptBind_ok runs
  obtain ⟨_, middle, ending, rfl, updated, last⟩ := Runs.of_exceptBind_ok rest
  obtain ⟨rfl, same⟩ := Runs.of_pure last
  rw [runs_executeOr_ok inserted, runs_executeOr_ok updated]
  exact ⟨Except.ok.inj same, rfl⟩

/-- A row that is joined to a log names a status. -/
theorem joined_of_content_eq_ok {row : ContentRow} {versions : List Version} {content : Content}
    (joined : row.content versions = .ok content) :
    Status.read? row.status ≠ none ∧ content.versions = versions := by
  unfold ContentRow.content at joined
  split at joined
  case h_1 => cases joined
  case h_2 status named =>
    cases joined
    exact ⟨fun unnamed => (nomatch named.symm.trans unnamed), rfl⟩

theorem content_ne_conflict (row : ContentRow) (versions : List Version) (message : String) :
    row.content versions ≠ .error (.conflict message) := by
  intro same
  unfold ContentRow.content at same
  split at same <;> cases same

theorem apply_ne_conflict (content : Content) (change : Change) (now : Instant)
    (message : String) : content.apply change now ≠ .error (.conflict message) := by
  intro same
  rcases Content.editionOf_eq_error_iff.mp (Content.apply_eq_error_iff.mp same) with
    unwanted | ⟨-, -, overflow⟩
  · obtain ⟨number, actor, -, -, missing⟩ := Content.wanted_eq_error_iff.mp unwanted
    exact nomatch missing
  · exact nomatch overflow

theorem contained_changing (id : Uuid) (change : Change) (now : Instant) :
    Contained (changing id change now) := by
  refine Contained.bind (Contained.execute trivial) fun found => ?_
  cases found with
  | none => exact .throw fun _ same => nomatch same
  | some row =>
      refine Contained.bind (contained_versionsOf id) fun versions => ?_
      refine Contained.bind (Contained.ofExcept (content_ne_conflict row versions))
        fun content => ?_
      refine Contained.bind (Contained.ofExcept (apply_ne_conflict content change now))
        fun result => ?_
      exact contained_storing id result.1 result.2

theorem said_of_versionsOf {id : Uuid} {versions : List Version}
    (runs : Runs (versionsOf id) said (.ok versions)) :
    ∃ rows, said = [⟨.selectVersionsOf id, .ok rows⟩] ∧ versions = rows.map VersionRow.version := by
  obtain ⟨rows, early, late, rfl, selected, rest⟩ := Runs.of_exceptBind_ok runs
  obtain ⟨rfl, same⟩ := Runs.of_pure rest
  rw [runs_executeOr_ok selected]
  exact ⟨rows, rfl, Except.ok.inj same⟩

theorem said_of_changing {id : Uuid} {change : Change} {now : Instant} {changed : Content}
    (runs : Runs (changing id change now) said (.ok changed)) :
    ∃ row rows content v, row.content (rows.map VersionRow.version) = .ok content ∧
      content.apply change now = .ok (changed, v) ∧
      said = [⟨.lockContent id, .ok (some row)⟩, ⟨.selectVersionsOf id, .ok rows⟩,
        ⟨.insertVersion (.ofVersion id v), .ok ()⟩,
        ⟨.updateContent { ContentRow.ofContent changed with id := id }, .ok ()⟩] := by
  obtain ⟨found, first, others, rfl, locked, afterLock⟩ := Runs.of_exceptBind_ok runs
  rw [runs_executeOr_ok locked]
  cases found with
  | none => exact nomatch (Runs.of_throw afterLock).2
  | some row =>
      obtain ⟨versions, second, others, rfl, read, afterLog⟩ := Runs.of_exceptBind_ok afterLock
      obtain ⟨rows, rfl, rfl⟩ := said_of_versionsOf read
      obtain ⟨content, gap, others, rfl, joined, afterJoin⟩ := Runs.of_exceptBind_ok afterLog
      obtain ⟨rfl, join⟩ := Runs.of_ofExcept joined
      obtain ⟨result, gap, others, rfl, applied, afterApply⟩ := Runs.of_exceptBind_ok afterJoin
      obtain ⟨rfl, apply⟩ := Runs.of_ofExcept applied
      obtain ⟨rfl, rfl⟩ := said_of_storing afterApply
      exact ⟨row, rows, content, result.2, join.symm, apply.symm, rfl⟩

/-- The number of a version that is added to a log of version rows. -/
def Follows (number : Int) (rows : List VersionRow) : Prop :=
  (rows = [] ∧ number = 1) ∨
    ∃ highest ∈ rows, number = highest.number + 1 ∧ ∀ row ∈ rows, row.number ≤ highest.number

theorem follows_nextNumber (rows : List VersionRow) :
    Follows (nextNumber (rows.map VersionRow.version)) rows := by
  have numbers : (rows.map VersionRow.version).map (·.number) = rows.map (·.number) :=
    List.map_map
  unfold nextNumber
  rw [numbers]
  cases found : (rows.map (·.number)).max? with
  | none =>
      exact .inl ⟨List.map_eq_nil_iff.mp (List.max?_eq_none_iff.mp found), rfl⟩
  | some number =>
      obtain ⟨member, above⟩ := List.max?_eq_some_iff.mp found
      obtain ⟨highest, inside, rfl⟩ := List.mem_map.mp member
      exact .inr ⟨highest, inside, rfl, fun row present =>
        above row.number (List.mem_map_of_mem present)⟩

/-! ## Conversations with a commit -/

/-- A commit is sent. -/
def Commits (said : List (Exchange Statement DatabaseFault)) : Prop :=
  ∃ e ∈ said, IsCommit e

/-- The statements before the commit have added a record and its log. -/
def AdditionSent (content : Content) (said : List (Exchange Statement DatabaseFault)) : Prop :=
  ∃ reply ending, said = ⟨.begin, .ok ()⟩ :: ⟨.insertContent (.ofContent content), .ok ()⟩ ::
    (content.versions.map fun v => ⟨.insertVersion (.ofVersion content.id v), .ok ()⟩) ++
      ⟨.commit, reply⟩ :: ending

/-- The statements before the commit have changed a record: after its row was locked and then its
log read, one version was added to the log, and the row was updated to agree with it. -/
def ChangeSent (id : Uuid) (said : List (Exchange Statement DatabaseFault)) : Prop :=
  ∃ row rows v updated reply ending,
    said = ⟨.begin, .ok ()⟩ :: ⟨.lockContent id, .ok (some row)⟩ ::
      ⟨.selectVersionsOf id, .ok rows⟩ :: ⟨.insertVersion v, .ok ()⟩ ::
      ⟨.updateContent updated, .ok ()⟩ :: ⟨.commit, reply⟩ :: ending ∧
    v.contentId = id ∧ updated.id = id ∧
    updated.title = v.title ∧ updated.body = v.body ∧ updated.coverImageUrl = v.coverImageUrl ∧
    Follows v.number rows

/-- What keeps a change from being committed: there is no row, or its status is none, or the version
to restore is not in the log. -/
structure Guarded (id : Uuid) (change : Change) (said : List (Exchange Statement DatabaseFault)) :
    Prop where
  missing : ⟨.lockContent id, .ok none⟩ ∈ said → ¬ Commits said
  status : ∀ row, ⟨.lockContent id, .ok (some row)⟩ ∈ said → Status.read? row.status = none →
    ¬ Commits said
  version : ∀ number actor rows, change = .restore number actor →
    ⟨.selectVersionsOf id, .ok rows⟩ ∈ said → (∀ row ∈ rows, row.number ≠ number) → ¬ Commits said

theorem added_of_commits {content : Content} {result : Except Failure Unit}
    (runs : Runs (insertContent content) said result) (sent : Commits said) :
    AdditionSent content said := by
  obtain ⟨_, worked, reply, ending, works, rfl, -⟩ :=
    said_of_isCommit (contained_insertBody content) runs sent
  rw [said_of_insertBody works]
  exact ⟨reply, ending, rfl⟩

/-- What is said to commit a change, and what was found for it. -/
theorem said_of_commits {id : Uuid} {change : Change} {now : Instant}
    {result : Except Failure Content} (runs : Runs (applyChange id change now) said result)
    (sent : Commits said) :
    ∃ row rows content changed v reply ending,
      row.content (rows.map VersionRow.version) = .ok content ∧
      content.apply change now = .ok (changed, v) ∧
      (ending = [] ∨ ∃ undone, ending = [⟨.rollback, undone⟩]) ∧
      said = [⟨.begin, .ok ()⟩, ⟨.lockContent id, .ok (some row)⟩,
        ⟨.selectVersionsOf id, .ok rows⟩, ⟨.insertVersion (.ofVersion id v), .ok ()⟩,
        ⟨.updateContent { ContentRow.ofContent changed with id := id }, .ok ()⟩,
        ⟨.commit, reply⟩] ++ ending := by
  rw [applyChange_eq] at runs
  obtain ⟨changed, worked, reply, ending, works, rfl, last⟩ :=
    said_of_isCommit (contained_changing id change now) runs sent
  obtain ⟨row, rows, content, v, joined, applied, rfl⟩ := said_of_changing works
  exact ⟨row, rows, content, changed, v, reply, ending, joined, applied, last, rfl⟩

theorem changed_of_commits {id : Uuid} {change : Change} {now : Instant}
    {result : Except Failure Content} (runs : Runs (applyChange id change now) said result)
    (sent : Commits said) : ChangeSent id said := by
  obtain ⟨row, rows, content, changed, v, reply, ending, joined, applied, -, rfl⟩ :=
    said_of_commits runs sent
  obtain ⟨edition, -, rfl, rfl⟩ := Content.apply_eq_ok_iff.mp applied
  refine ⟨row, rows, _, _, reply, ending, rfl, rfl, rfl, rfl, rfl, rfl, ?_⟩
  change Follows (nextNumber content.versions) rows
  rw [(joined_of_content_eq_ok joined).2]
  exact follows_nextNumber rows

/-- The row that was found when it was to be locked. -/
def lockAnswer? : Exchange Statement DatabaseFault → Option (Option ContentRow)
  | ⟨.lockContent _, .ok found⟩ => some found
  | _ => none

/-- The log that was read. -/
def logAnswer? : Exchange Statement DatabaseFault → Option (List VersionRow)
  | ⟨.selectVersionsOf _, .ok rows⟩ => some rows
  | _ => none

/-- In a conversation with a commit, a row is locked once and a log read once. -/
theorem answers_of_commits {id : Uuid} {change : Change} {now : Instant}
    {result : Except Failure Content} (runs : Runs (applyChange id change now) said result)
    (sent : Commits said) :
    ∃ row rows content changed v, row.content (rows.map VersionRow.version) = .ok content ∧
      content.apply change now = .ok (changed, v) ∧
      said.filterMap lockAnswer? = [some row] ∧ said.filterMap logAnswer? = [rows] := by
  obtain ⟨row, rows, content, changed, v, reply, ending, joined, applied, last, rfl⟩ :=
    said_of_commits runs sent
  refine ⟨row, rows, content, changed, v, joined, applied, ?_⟩
  rcases last with rfl | ⟨undone, rfl⟩ <;> exact ⟨rfl, rfl⟩

theorem guarded_of_runs {id : Uuid} {change : Change} {now : Instant}
    {result : Except Failure Content} (runs : Runs (applyChange id change now) said result) :
    Guarded id change said := by
  constructor
  · intro member sent
    obtain ⟨row, rows, content, changed, v, -, -, locked, -⟩ := answers_of_commits runs sent
    have found : none ∈ said.filterMap lockAnswer? := List.mem_filterMap.mpr ⟨_, member, rfl⟩
    rw [locked] at found
    exact nomatch List.mem_singleton.mp found
  · intro row member unnamed sent
    obtain ⟨_, rows, content, changed, v, joined, -, locked, -⟩ := answers_of_commits runs sent
    have found : some row ∈ said.filterMap lockAnswer? := List.mem_filterMap.mpr ⟨_, member, rfl⟩
    rw [locked] at found
    cases List.mem_singleton.mp found
    exact (joined_of_content_eq_ok joined).1 unnamed
  · rintro number actor rows rfl member absent sent
    obtain ⟨row, _, content, changed, v, joined, applied, -, read⟩ := answers_of_commits runs sent
    have found : rows ∈ said.filterMap logAnswer? := List.mem_filterMap.mpr ⟨_, member, rfl⟩
    rw [read] at found
    cases List.mem_singleton.mp found
    obtain ⟨edition, asked, -⟩ := Content.apply_eq_ok_iff.mp applied
    obtain ⟨wanted, -⟩ := Content.editionOf_eq_ok_iff.mp asked
    obtain ⟨source, known, -⟩ := Content.wanted_restore_eq_ok_iff.mp wanted
    obtain ⟨inside, numbered⟩ := mem_and_key_of_find? known
    rw [(joined_of_content_eq_ok joined).2] at inside
    obtain ⟨origin, present, rfl⟩ := List.mem_map.mp inside
    exact absent origin present numbered

/-- **Whole changes.** Whatever the database answers to each statement, adding and changing a record
succeed exactly if a commit does, commit nothing after a statement that failed or when something is
missing, and end in a conflict exactly if a slug is refused. A commit follows the statements that
add or change the record and its log. -/
theorem converse_whole
    (answers : {β : Type} → List (Exchange Statement DatabaseFault) → Statement β →
      Except DatabaseFault β) :
    (∀ content : Content,
      let spoken := Program.converse answers (insertContent content)
      Whole spoken.2 spoken.1 ∧ (Commits spoken.2 → AdditionSent content spoken.2)) ∧
    ∀ (id : Uuid) (change : Change) (now : Instant),
      let spoken := Program.converse answers (applyChange id change now)
      Whole spoken.2 spoken.1 ∧ (Commits spoken.2 → ChangeSent id spoken.2) ∧
        Guarded id change spoken.2 := by
  constructor
  · intro content
    have runs := Program.runs_converse answers (insertContent content)
    exact ⟨whole_of_transaction (contained_insertBody content) runs, added_of_commits runs⟩
  · intro id change now
    have runs := Program.runs_converse answers (applyChange id change now)
    have whole := whole_of_transaction (contained_changing id change now) runs
    exact ⟨whole, changed_of_commits runs, guarded_of_runs runs⟩

end ContentService.Sql
