import ContentService.Content.Calls
import ContentService.Media.Calls
import ContentService.Proofs.Surroundings

/-! # Operations

What can be asked of the service, and what each operation asks of its surroundings in turn. An
operation that is to change records first asks requests that change nothing. It fails there, or goes
on to one write, after which it announces once that its collection is stale and succeeds. An upload
also stores bytes before its write, and removes them if the write fails.
-/

namespace ContentService

/-- An operation, by the type of its results. -/
inductive Operation : Type → Type
  | create (id : Uuid) (submission : Submission) (actor : String) : Operation Content
  | update (id : Uuid) (submission : Submission) (actor : String) : Operation Content
  | restore (id : Uuid) (number : Int) (actor : String) : Operation Content
  | delete (id : Uuid) : Operation Unit
  | get (id : Uuid) : Operation Content
  | versions (id : Uuid) : Operation (List Version)
  | version (id : Uuid) (number : Int) : Operation Version
  | slugExists (slug : String) : Operation Bool
  | query (maxPageSize : Nat) (page : Query.PageRequest) (request : Query.Request) :
    Operation (Query.Page Content)
  | upload (policy : UploadPolicy) (id : Uuid) (file : Upload) (actor : String) : Operation Media
  | deleteMedia (id : Uuid) : Operation Unit
  | queryMedia (maxPageSize : Nat) (page : Query.PageRequest) (request : Query.Request) :
    Operation (Query.Page Media)

namespace Operation

variable {α : Type}

/-- The call that carries an operation out. -/
def call (now : Instant) : Operation α → Call α
  | create id submission actor => Contents.create id now submission actor
  | update id submission actor => Contents.update id now submission actor
  | restore id number actor => Contents.restore id now number actor
  | delete id => Contents.delete id
  | get id => Contents.get id
  | versions id => Contents.versions id
  | version id number => Contents.version id number
  | slugExists slug => Contents.slugExists slug
  | query maxPageSize page request => Contents.query maxPageSize page request
  | upload policy id file actor => MediaLibrary.upload policy id now file actor
  | deleteMedia id => MediaLibrary.delete id
  | queryMedia maxPageSize page request => MediaLibrary.query maxPageSize page request

/-- The collection that an operation is to change. -/
def stale? : Operation α → Option Collection
  | create .. | update .. | restore .. | delete _ => some .contents
  | upload .. | deleteMedia _ => some .media
  | get _ | versions _ | version .. | slugExists _ | query .. | queryMedia .. => none

/-- The ids that an operation gives to new records. -/
def newIds : Operation α → List Uuid
  | create id .. | upload _ id .. => [id]
  | _ => []

/-- An operation that stores no bytes. -/
def Plain : Operation α → Prop
  | upload .. => False
  | _ => True

end Operation

open Program (Runs)

variable {α β : Type} {said : List (Exchange Action Failure)}

theorem exists_of_isSome {result : Except Failure α} (succeeds : result.toOption.isSome = true) :
    ∃ a, result = .ok a := by
  cases result with
  | ok a => exact ⟨a, rfl⟩
  | error failure => cases succeeds

/-! ## Requests of a call -/

theorem runs_perform {action : Action α} {result : Except Failure α}
    (runs : Runs (Call.perform action) said result) : said = [⟨action, result⟩] :=
  Runs.of_attempt runs

/-- A call that begins with a request ends with the failure of that, or goes on from the answer. -/
theorem runs_performBind {action : Action α} {next : α → Call β} {result : Except Failure β}
    (runs : Runs (Call.perform action >>= next : Call β) said result) :
    (∃ failure, said = [⟨action, .error failure⟩] ∧ result = .error failure) ∨
      ∃ a rest, said = ⟨action, .ok a⟩ :: rest ∧ Runs (next a) rest result := by
  rcases Runs.of_exceptBind runs with ⟨failure, head, same⟩ | ⟨a, early, rest, rfl, head, tail⟩
  · exact .inl ⟨failure, runs_perform head, same⟩
  · rw [runs_perform head]
    exact .inr ⟨a, rest, rfl, tail⟩

/-- A call that begins with a request goes on whether that fails or not. -/
theorem runs_attemptBind {action : Action α} {next : Except Failure α → Call β}
    {result : Except Failure β} (runs : Runs (Call.attempt action >>= next : Call β) said result) :
    ∃ reply rest, said = ⟨action, reply⟩ :: rest ∧ Runs (next reply) rest result := by
  obtain ⟨reply, rest, same, tail⟩ := Runs.of_ask runs
  exact ⟨reply, rest, same, tail⟩

theorem runs_announceBind {stale : Collection} {next : Unit → Call β} {result : Except Failure β}
    (runs : Runs (Call.announce stale >>= next : Call β) said result) :
    ∃ reply rest, said = ⟨.announce stale, reply⟩ :: rest ∧ Runs (next ()) rest result := by
  obtain ⟨reply, rest, same, tail⟩ := Runs.of_ask runs
  exact ⟨reply, rest, same, tail⟩

theorem runs_announce {stale : Collection} {result : Except Failure Unit}
    (runs : Runs (Call.announce stale) said result) :
    ∃ reply, said = [⟨.announce stale, reply⟩] ∧ result = .ok () := by
  obtain ⟨reply, rest, rfl, ended⟩ := Runs.of_ask runs
  cases ended
  exact ⟨reply, rfl, rfl⟩

/-! ## Calls that only read -/

/-- An action that only looks records up. -/
def Action.Reads : Action α → Prop
  | .content (.get _) | .content .list | .content (.slugOwner _) | .media .list => True
  | _ => False

theorem Action.Reads.quiet {action : Action α} (reads : action.Reads) (reply : Except Failure α) :
    action.Quiet reply := by
  cases action with
  | content request => cases request <;> first | exact reads.elim | trivial
  | media request => cases request <;> first | exact reads.elim | trivial
  | blob | announce => exact reads

/-- Whatever it is answered, a call only looks records up. -/
abbrev Call.Reads (call : Call α) : Prop :=
  call.Asks Action.Reads

theorem Call.Reads.quiet {call : Call α} (reads : call.Reads) {result : Except Failure α}
    (runs : Runs call said result) : ∀ e ∈ said, e.Quiet := fun e member =>
  (reads.program.of_runs runs e member).quiet e.reply

open Call (Reads)

theorem reads_get (id : Uuid) : Reads (Contents.get id) := by
  refine .bind (.perform trivial) fun found => ?_
  cases found with
  | none => exact .throw _
  | some content => exact .pure content

theorem reads_versions (id : Uuid) : Reads (Contents.versions id) :=
  .bind (reads_get id) fun _ => .pure _

theorem reads_version (id : Uuid) (number : Int) : Reads (Contents.version id number) := by
  refine .bind (reads_get id) fun content => ?_
  cases content.version? number with
  | none => exact .throw _
  | some v => exact .pure v

theorem reads_slugExists (slug : String) : Reads (Contents.slugExists slug) :=
  .bind (.perform trivial) fun _ => .pure _

theorem reads_query (maxPageSize : Nat) (page : Query.PageRequest) (request : Query.Request) :
    Reads (Contents.query maxPageSize page request) := by
  unfold Contents.query
  cases page.fault? maxPageSize with
  | some failure => exact .throw failure
  | none => exact .bind (.perform trivial) fun records => .ofExcept _

theorem reads_queryMedia (maxPageSize : Nat) (page : Query.PageRequest) (request : Query.Request) :
    Reads (MediaLibrary.query maxPageSize page request) := by
  unfold MediaLibrary.query
  cases page.fault? maxPageSize with
  | some failure => exact .throw failure
  | none => exact .bind (.perform trivial) fun records => .ofExcept _

/-- An operation that is to change no collection only reads. -/
theorem Operation.reads {operation : Operation α} (unchanging : operation.stale? = none)
    (now : Instant) : Reads (operation.call now) := by
  cases operation with
  | get id => exact reads_get id
  | versions id => exact reads_versions id
  | version id number => exact reads_version id number
  | slugExists slug => exact reads_slugExists slug
  | query maxPageSize page request => exact reads_query maxPageSize page request
  | queryMedia maxPageSize page request => exact reads_queryMedia maxPageSize page request
  | create | update | restore | delete | upload | deleteMedia => cases unchanging

/-! ## Calls that change records -/

/-- A call that fails while nothing is changed, or succeeds after one write, some removal of bytes,
and the announcement of the write. -/
inductive Tidy (stale : Collection) : List (Exchange Action Failure) → Except Failure α → Prop
  | failed {said : List (Exchange Action Failure)} (failure : Failure)
      (quiet : ∀ e ∈ said, e.Quiet) : Tidy stale said (.error failure)
  | done {early cleanup : List (Exchange Action Failure)} {write : Exchange Action Failure}
      (a : α) (reply : Except Failure Unit) (quiet : ∀ e ∈ early, e.Quiet)
      (writes : write.Writes stale) (cleans : ∀ e ∈ cleanup, e.Cleans) :
      Tidy stale (early ++ write :: (cleanup ++ [⟨.announce stale, reply⟩])) (.ok a)

theorem Tidy.once {stale : Collection} {write : Exchange Action Failure} (a : α)
    (reply : Except Failure Unit) (writes : write.Writes stale) :
    Tidy stale [write, ⟨.announce stale, reply⟩] (.ok a) :=
  @Tidy.done α stale [] [] write a reply (fun _ absent => nomatch absent) writes
    fun _ absent => nomatch absent

/-- Whatever it is answered, a call is tidy. -/
structure Call.Tidies (stale : Collection) (call : Call α) : Prop where
  tidy : ∀ {said result}, Runs call said result → Tidy stale said result

namespace Call.Tidies

variable {stale : Collection}

/-- A tidy call may read before. -/
theorem bind {call : Call α} {next : α → Call β} (reads : call.Reads)
    (rest : ∀ a, Tidies stale (next a)) : Tidies stale (call >>= next) where
  tidy runs := by
    rcases Runs.of_exceptBind runs with ⟨failure, head, rfl⟩ | ⟨a, early, late, rfl, head, tail⟩
    · exact .failed failure (reads.quiet head)
    have calm := reads.quiet head
    cases (rest a).tidy tail with
    | failed failure quiet =>
        refine .failed failure fun e member => ?_
        exact (List.mem_append.mp member).elim (calm e) (quiet e)
    | done b reply quiet writes cleans =>
        rw [← List.append_assoc]
        refine .done b reply (fun e member => ?_) writes cleans
        exact (List.mem_append.mp member).elim (calm e) (quiet e)

/-- A write that changes nothing if it fails, and is announced if it succeeds. -/
theorem write {action : Action α} (refused : ∀ failure, action.Quiet (.error failure))
    (writes : ∀ answer, Exchange.Writes stale ⟨action, .ok answer⟩) (f : α → β) :
    Tidies stale (do
      let a ← Call.perform action
      Call.announce stale
      return f a) where
  tidy runs := by
    rcases runs_performBind runs with ⟨failure, rfl, rfl⟩ | ⟨a, rest, rfl, tail⟩
    · refine .failed failure fun e member => ?_
      rw [List.mem_singleton.mp member]
      exact refused failure
    · obtain ⟨reply, rest, rfl, ended⟩ := runs_announceBind tail
      obtain ⟨rfl, rfl⟩ := Runs.of_pure ended
      exact .once (f a) reply (writes a)

end Call.Tidies

open Call (Tidies)

theorem reads_validate (submission : Submission) : Reads (Contents.validate submission) :=
  .ofExcept _

theorem reads_slugOwner (slug : String) : Reads (Call.perform (.content (.slugOwner slug))) :=
  .perform trivial

theorem tidies_create (id : Uuid) (now : Instant) (submission : Submission) (actor : String) :
    Tidies .contents (Contents.create id now submission actor) := by
  refine .bind (reads_validate submission) fun edition => ?_
  refine .bind (reads_slugOwner edition.slug) fun owner => ?_
  have inserts : Tidies .contents (do
      Call.perform (.content (.insert (.initial id edition actor now)))
      Call.announce .contents
      return Content.initial id edition actor now) := by
    refine .write (fun _ => ?_) (fun _ => ?_) fun _ => Content.initial id edition actor now
    · trivial
    · exact ⟨rfl, fun quiet => quiet⟩
  cases owner with
  | some holder => exact .bind (.throw _) fun _ => inserts
  | none => exact inserts

theorem tidies_update (id : Uuid) (now : Instant) (submission : Submission) (actor : String) :
    Tidies .contents (Contents.update id now submission actor) := by
  refine .bind (reads_validate submission) fun edition => ?_
  refine .bind (reads_get id) fun _ => ?_
  refine .bind (reads_slugOwner edition.slug) fun owner => ?_
  have applies : Tidies .contents (do
      let content ← Call.perform (.content (.apply id (.write edition actor) now))
      Call.announce .contents
      return content) := by
    refine .write (fun _ => ?_) (fun _ => ?_) fun content => content
    · trivial
    · exact ⟨rfl, fun quiet => quiet⟩
  cases owner with
  | none => exact applies
  | some holder =>
      by_cases other : holder ≠ id
      · simp only [if_pos other]
        exact .bind (.throw _) fun _ => applies
      · simp only [if_neg other]
        exact applies

theorem tidies_restore (id : Uuid) (now : Instant) (number : Int) (actor : String) :
    Tidies .contents (Contents.restore id now number actor) := by
  refine .write (fun _ => ?_) (fun _ => ?_) fun content => content
  · trivial
  · exact ⟨rfl, fun quiet => quiet⟩

theorem tidies_delete (id : Uuid) : Tidies .contents (Contents.delete id) where
  tidy runs := by
    rcases runs_performBind runs with ⟨failure, rfl, rfl⟩ | ⟨found, rest, rfl, tail⟩
    · refine .failed failure fun e member => ?_
      rw [List.mem_singleton.mp member]
      trivial
    cases found with
    | true =>
        obtain ⟨reply, rfl, rfl⟩ := runs_announce tail
        exact .once () reply ⟨rfl, fun quiet => nomatch quiet⟩
    | false =>
        obtain ⟨rfl, rfl⟩ := Runs.of_throw tail
        refine .failed _ fun e member => ?_
        rw [List.mem_singleton.mp member]
        rfl

theorem tidies_deleteMedia (id : Uuid) : Tidies .media (MediaLibrary.delete id) where
  tidy runs := by
    rcases runs_performBind runs with ⟨failure, rfl, rfl⟩ | ⟨found, rest, rfl, tail⟩
    · refine .failed failure fun e member => ?_
      rw [List.mem_singleton.mp member]
      trivial
    cases found with
    | none =>
        obtain ⟨rfl, rfl⟩ := Runs.of_throw tail
        refine .failed _ fun e member => ?_
        rw [List.mem_singleton.mp member]
        rfl
    | some media =>
        obtain ⟨outcome, rest, rfl, told⟩ := runs_attemptBind tail
        obtain ⟨reply, rfl, rfl⟩ := runs_announce told
        refine @Tidy.done Unit .media [] [_] _ () reply (fun e member => nomatch member)
          ⟨rfl, fun quiet => nomatch quiet⟩ fun e member => ?_
        rw [List.mem_singleton.mp member]
        trivial

theorem Operation.tidies {operation : Operation α} {stale : Collection} (plain : operation.Plain)
    (changing : operation.stale? = some stale) (now : Instant) :
    Tidies stale (operation.call now) := by
  cases operation with
  | create id submission actor => cases changing; exact tidies_create id now submission actor
  | update id submission actor => cases changing; exact tidies_update id now submission actor
  | restore id number actor => cases changing; exact tidies_restore id now number actor
  | delete id => cases changing; exact tidies_delete id
  | deleteMedia id => cases changing; exact tidies_deleteMedia id
  | upload policy id file actor => exact plain.elim
  | get | versions | version | slugExists | query | queryMedia => cases changing

/-! ## Uploads -/

/-- The request that stores the bytes of a file. -/
abbrev Upload.put (file : Upload) (policy : UploadPolicy) (id : Uuid) : Action String :=
  .blob (.put (blobKey id (FileName.clean file.fileName)) file.data
    (policy.typeOf file (FileName.clean file.fileName)))

/-- The request that removes them. -/
abbrev Upload.remove (file : Upload) (id : Uuid) : Action Unit :=
  .blob (.delete (blobKey id (FileName.clean file.fileName)))

/-- What an upload asks and is answered: the policy refuses the file at once; or its bytes are not
stored; or its record is not, and the bytes are to be removed again; or it succeeds. -/
inductive Uploading (policy : UploadPolicy) (id : Uuid) (now : Instant) (file : Upload)
    (actor : String) : List (Exchange Action Failure) → Except Failure Media → Prop
  | refused (failure : Failure) (told : policy.refusal? file = some failure) :
      Uploading policy id now file actor [] (.error failure)
  | unstored (failure : Failure) (fits : policy.refusal? file = none) :
      Uploading policy id now file actor [⟨file.put policy id, .error failure⟩] (.error failure)
  | unrecorded (uri : String) (failure : Failure) (reply : Except Failure Unit)
      (fits : policy.refusal? file = none) :
      Uploading policy id now file actor
        [⟨file.put policy id, .ok uri⟩,
          ⟨.media (.insert (file.record policy id uri actor now)), .error failure⟩,
          ⟨file.remove id, reply⟩]
        (.error failure)
  | done (uri : String) (reply : Except Failure Unit) (fits : policy.refusal? file = none) :
      Uploading policy id now file actor
        [⟨file.put policy id, .ok uri⟩,
          ⟨.media (.insert (file.record policy id uri actor now)), .ok ()⟩,
          ⟨.announce .media, reply⟩]
        (.ok (file.record policy id uri actor now))

theorem uploading_of_runs {policy : UploadPolicy} {id : Uuid} {now : Instant} {file : Upload}
    {actor : String} {result : Except Failure Media}
    (runs : Runs (MediaLibrary.upload policy id now file actor) said result) :
    Uploading policy id now file actor said result := by
  unfold MediaLibrary.upload at runs
  cases told : policy.refusal? file with
  | some reason =>
      simp only [told] at runs
      rcases Runs.of_exceptBind runs with ⟨failure, head, rfl⟩ | ⟨_, early, late, rfl, head, -⟩
      · obtain ⟨rfl, same⟩ := Runs.of_throw head
        cases same
        exact .refused reason told
      · exact nomatch (Runs.of_throw head).2
  | none =>
      simp only [told] at runs
      rcases runs_performBind runs with ⟨failure, rfl, rfl⟩ | ⟨uri, rest, rfl, stored⟩
      · exact .unstored failure told
      obtain ⟨outcome, rest, rfl, ends⟩ := runs_attemptBind stored
      cases outcome with
      | ok =>
          obtain ⟨reply, rest, rfl, ended⟩ := runs_announceBind ends
          obtain ⟨rfl, rfl⟩ := Runs.of_pure ended
          exact .done uri reply told
      | error failure =>
          obtain ⟨reply, rest, rfl, ended⟩ := runs_attemptBind ends
          obtain ⟨rfl, rfl⟩ := Runs.of_throw ended
          exact .unrecorded uri failure reply told

end ContentService
