import ContentService.Proofs.Operation
import ContentService.Proofs.Query.SortedAnswer
import ContentService.Proofs.Store.Twins

/-! # One answer from two stores

Operations on content records that are done one after another have the same answers in memory and in
the database, in whatever order its rows stand, as long as nothing goes wrong. After each of them
the two keep the same records.
-/

namespace ContentService

open Sql Memory

variable {α β : Type}

/-! ## Turns -/

/-- An operation on content records. -/
def Operation.OnContents : Operation α → Prop
  | .upload .. | .deleteMedia _ | .queryMedia .. => False
  | _ => True

/-- An operation on content records, and the time at which its turn comes. -/
structure Turn where
  {Result : Type}
  operation : Operation Result
  onContents : operation.OnContents
  now : Instant

/-- What an operation is answered. -/
structure Answer where
  {Result : Type}
  result : Except Failure Result

/-- The answers to operations in turn, given how a call is performed, and the state afterwards. -/
def serve {σ : Type} (perform : {α : Type} → Call α → σ → Except Failure α × σ) :
    List Turn → σ → List Answer × σ
  | [], s => ([], s)
  | turn :: rest, s =>
    let (result, s) := perform (turn.operation.call turn.now) s
    let (answers, s) := serve perform rest s
    (⟨result⟩ :: answers, s)

/-- The answers from memory. -/
def Memory.World.serve (turns : List Turn) (world : World) : List Answer × World :=
  ContentService.serve (World.perform []) turns world

namespace Sql.Connection

/-- What an action is answered by a connection whose rows are arranged before each statement. There
are no bytes, and nobody listens to announcements. -/
def answerIn (arrangements : Nat → Arrangement) (action : Action β) (s : Connection × Nat) :
    Except Failure β × Connection × Nat :=
  match action with
  | .content request => performIn arrangements (content request) s
  | .media request => performIn arrangements (media request) s
  | .blob _ => (.error (.storage "no bytes"), s)
  | .announce _ => (.ok (), s)

/-- A call to the database. -/
def callIn (arrangements : Nat → Arrangement) (call : Call α) (s : Connection × Nat) :
    Except Failure α × Connection × Nat :=
  Program.run (answerIn arrangements) call s

/-- The answers from the database. -/
def serveIn (arrangements : Nat → Arrangement) (turns : List Turn) (s : Connection × Nat) :
    List Answer × Connection × Nat :=
  ContentService.serve (callIn arrangements) turns s

end Sql.Connection

open Connection (callIn serveIn)

/-! ## Calls to both stores -/

/-- Both stores answer a call alike and hold the same records afterwards. -/
def Alike (arrangements : Nat → Arrangement) (call : Call α) (world : World)
    (s : Connection × Nat) : Prop :=
  (world.perform [] call).1 = (callIn arrangements call s).1 ∧
    Together (world.perform [] call).2.contents (callIn arrangements call s).2.1

namespace Alike

variable {arrangements : Nat → Arrangement} {world : World} {s : Connection × Nat}

section
variable (together : Together world.contents s.1)
include together

theorem pure (a : α) : Alike arrangements (pure a : Call α) world s :=
  ⟨rfl, together⟩

theorem throw (failure : Failure) : Alike arrangements (throw failure : Call α) world s :=
  ⟨rfl, together⟩

theorem throwBind (failure : Failure) (next : β → Call α) :
    Alike arrangements (MonadExcept.throw failure >>= next : Call α) world s :=
  ⟨rfl, together⟩

theorem ofExceptBind {result : Except Failure β} {next : β → Call α}
    (rest : ∀ b, Alike arrangements (next b) world s) :
    Alike arrangements (ofExcept result >>= next) world s := by
  cases result with
  | error failure => exact ⟨rfl, together⟩
  | ok b => exact rest b

theorem request {request : ContentRequest α} (fits : Fits world.contents request) :
    Alike arrangements (Call.perform (.content request)) world s := by
  change (world.answer [] (.content request)).1 = _ ∧
    Together (world.answer [] (.content request)).2.contents _
  rw [World.answer_content]
  obtain ⟨same, after⟩ := together.performIn arrangements s.2 fits
  exact ⟨same.symm, after⟩

end

/-- A call goes on from an answer. -/
theorem bind {call : Call α} {next : α → Call β} (first : Alike arrangements call world s)
    (rest : ∀ a later, (world.perform [] call).1 = .ok a →
      Together (world.perform [] call).2.contents later.1 →
        Alike arrangements (next a) (world.perform [] call).2 later) :
    Alike arrangements (call >>= next) world s := by
  obtain ⟨same, together⟩ := first
  unfold Alike World.perform callIn at *
  rw [Program.run_exceptBind, Program.run_exceptBind]
  generalize Program.run (World.answer []) call world = here at *
  generalize Program.run (Connection.answerIn arrangements) call s = there at *
  obtain ⟨reply, world⟩ := here
  obtain ⟨other, later⟩ := there
  cases same
  cases reply with
  | error failure => exact ⟨rfl, together⟩
  | ok a => exact rest a later rfl together

/-- A call that changes nothing in memory comes first. -/
theorem bindStill {call : Call α} {next : α → Call β} (first : Alike arrangements call world s)
    (still : (world.perform [] call).2 = world)
    (rest : ∀ a later, (world.perform [] call).1 = .ok a → Together world.contents later.1 →
      Alike arrangements (next a) world later) :
    Alike arrangements (call >>= next) world s := by
  refine first.bind fun a later answered together => ?_
  rw [still] at together ⊢
  exact rest a later answered together

/-- A write is announced once it has succeeded. -/
theorem write (together : Together world.contents s.1) {request : ContentRequest α}
    (fits : Fits world.contents request) (f : α → β) :
    Alike arrangements (do
      let a ← Call.perform (.content request)
      Call.announce .contents
      return f a) world s := by
  exact (Alike.request together fits).bind fun a later _ after => ⟨rfl, after⟩

end Alike

/-! ## Operations -/

/-- No other record holds a slug whose owner is the record with an id, or nobody. -/
theorem free_of_slugOwner {contents : List Content} (apart : contents.Pairwise Apart)
    {slug : String} {id : Uuid}
    (own : ∀ holder ∈ (contents.find? (·.live.slug == slug)).map (·.id), holder = id) :
    ∀ c ∈ contents, c.id ≠ id → c.live.slug ≠ slug := by
  intro c member differs held
  cases found : contents.find? (·.live.slug == slug) with
  | none => exact List.find?_eq_none.mp found c member (beq_iff_eq.mpr held)
  | some holder =>
      have owner : holder.id = id := own holder.id (by rw [found]; rfl)
      have unequal : c ≠ holder := fun same => differs (same ▸ owner)
      obtain ⟨present, same⟩ := mem_and_key_of_find? found
      have slugs := (apart.forall member present unequal).2
      exact slugs (held.trans same.symm)

section Operations

variable {arrangements : Nat → Arrangement} {world : World} {s : Connection × Nat}
  (together : Together world.contents s.1)

theorem perform_get_still (id : Uuid) : (world.perform [] (Contents.get id)).2 = world := by
  have asked : Program.run (World.answer []) (Call.perform (.content (.get id))) world =
      (.ok (world.contents.find? (·.id == id)), world) := rfl
  unfold World.perform Contents.get
  rw [Program.run_exceptBind, asked]
  dsimp only
  cases world.contents.find? (·.id == id) <;> rfl

include together

theorem alike_get (id : Uuid) : Alike arrangements (Contents.get id) world s := by
  have fits : Fits world.contents (.get id) := trivial
  refine (Alike.request together fits).bindStill rfl fun found later _ together => ?_
  cases found with
  | some content => exact .pure together content
  | none => exact .throw together _

theorem alike_versions (id : Uuid) : Alike arrangements (Contents.versions id) world s :=
  (alike_get together id).bindStill (perform_get_still id)
    fun _ _ _ together => .pure together _

theorem alike_version (id : Uuid) (number : Int) :
    Alike arrangements (Contents.version id number) world s := by
  refine (alike_get together id).bindStill (perform_get_still id)
    fun content _ _ together => ?_
  cases content.version? number with
  | some v => exact .pure together v
  | none => exact .throw together _

theorem alike_slugExists (slug : String) :
    Alike arrangements (Contents.slugExists slug) world s := by
  have fits : Fits world.contents (.slugOwner (Text.trim slug)) := trivial
  exact (Alike.request together fits).bindStill rfl fun _ _ _ together => .pure together _

theorem alike_create {id : Uuid} {now : Instant} (whole : now.stored = now)
    (fresh : ∀ c ∈ world.contents, c.id ≠ id) (submission : Submission) (actor : String) :
    Alike arrangements (Contents.create id now submission actor) world s := by
  unfold Contents.create Contents.validate
  refine .ofExceptBind together fun edition => ?_
  have fits : Fits world.contents (.slugOwner edition.slug) := trivial
  refine (Alike.request together fits).bindStill rfl fun owner later _ together => ?_
  have inserts : Alike arrangements (do
      Call.perform (.content (.insert (.initial id edition actor now)))
      Call.announce .contents
      return Content.initial id edition actor now) world later := by
    have fits : Fits world.contents (.insert (.initial id edition actor now)) :=
      ⟨id, edition, actor, now, rfl, whole, fresh⟩
    exact .write together fits fun _ => Content.initial id edition actor now
  cases owner with
  | some holder => exact .throwBind together _ fun _ => _
  | none => exact inserts

theorem alike_update {now : Instant} (whole : now.stored = now) (id : Uuid)
    (submission : Submission) (actor : String) :
    Alike arrangements (Contents.update id now submission actor) world s := by
  unfold Contents.update Contents.validate
  refine .ofExceptBind together fun edition => ?_
  refine (alike_get together id).bindStill (perform_get_still id)
    fun _ later _ together => ?_
  have fits : Fits world.contents (.slugOwner edition.slug) := trivial
  refine (Alike.request together fits).bindStill rfl fun owner last owned together => ?_
  have applies (free : ∀ c ∈ world.contents, c.id ≠ id → c.live.slug ≠ edition.slug) :
      Alike arrangements (do
        let content ← Call.perform (.content (.apply id (.write edition actor) now))
        Call.announce .contents
        return content) world last := by
    have fits : Fits world.contents (.apply id (.write edition actor) now) :=
      ⟨whole, fun slug wanted => Option.some.inj wanted ▸ free⟩
    exact .write together fits fun content => content
  have own : (world.contents.find? (·.live.slug == edition.slug)).map (·.id) = owner :=
    Except.ok.inj owned
  have apart := together.apart
  cases owner with
  | none => exact applies (free_of_slugOwner apart fun _ absent => by simp [own] at absent)
  | some holder =>
      by_cases other : holder ≠ id
      · simp only [if_pos other]
        exact .throwBind together _ fun _ => _
      · simp only [if_neg other]
        refine applies (free_of_slugOwner apart fun found member => ?_)
        rw [own] at member
        exact Option.some.inj member ▸ not_ne_iff.mp other

theorem alike_restore {now : Instant} (whole : now.stored = now) (id : Uuid) (number : Int)
    (actor : String) : Alike arrangements (Contents.restore id now number actor) world s := by
  have fits : Fits world.contents (.apply id (.restore number actor) now) :=
    ⟨whole, fun _ absent => nomatch absent⟩
  exact .write together fits fun content => content

theorem alike_delete (id : Uuid) : Alike arrangements (Contents.delete id) world s := by
  have fits : Fits world.contents (.delete id) := trivial
  refine (Alike.request together fits).bind fun removed later _ after => ?_
  cases removed with
  | true => exact ⟨rfl, after⟩
  | false => exact .throw after _

theorem alike_query (maxPageSize : Nat) (page : Query.PageRequest) (request : Query.Request) :
    Alike arrangements (Contents.query maxPageSize page request) world s := by
  unfold Contents.query
  cases page.fault? maxPageSize with
  | some failure => exact .throw together failure
  | none =>
      obtain ⟨listed, later, ran, same, after⟩ := together.performIn_list arrangements s.2
      have answered :
          Query.execute listed request page = Query.execute world.contents request page := by
        unfold Query.execute
        rw [Query.answer_eq_of_perm same together.distinct]
      -- The rows come in any order, and the answer does not depend on it.
      have there : callIn arrangements (Call.perform (.content .list)) s = (.ok listed, later) :=
        ran
      have here : world.perform [] (Call.perform (.content .list)) =
          (.ok world.contents, world) := rfl
      unfold Alike callIn World.perform at *
      rw [Program.run_exceptBind, Program.run_exceptBind, here, there]
      dsimp only
      rw [answered]
      cases Query.execute world.contents request page <;> exact ⟨rfl, after⟩

/-- Both stores answer each operation alike. -/
theorem alike_operation {operation : Operation α} (onContents : operation.OnContents)
    {now : Instant} (whole : now.stored = now)
    (fresh : ∀ id ∈ operation.newIds, ∀ c ∈ world.contents, c.id ≠ id) :
    Alike arrangements (operation.call now) world s := by
  cases operation with
  | create id submission actor =>
      have new := fresh id (List.mem_singleton_self id)
      exact alike_create together whole new submission actor
  | update id submission actor => exact alike_update together whole id submission actor
  | restore id number actor => exact alike_restore together whole id number actor
  | delete id => exact alike_delete together id
  | get id => exact alike_get together id
  | versions id => exact alike_versions together id
  | version id number => exact alike_version together id number
  | slugExists slug => exact alike_slugExists together slug
  | query maxPageSize page request => exact alike_query together maxPageSize page request
  | upload | deleteMedia | queryMedia => exact onContents.elim

end Operations

/-! ## Runs -/

/-- Both stores answer operations in turn alike, and hold the same records afterwards. -/
theorem serveIn_of_together (arrangements : Nat → Arrangement) (turns : List Turn) {world : World}
    {s : Connection × Nat} (together : Together world.contents s.1)
    (whole : ∀ turn ∈ turns, turn.now.stored = turn.now)
    (fresh : ∀ place (inside : place < turns.length), ∀ id ∈ turns[place].operation.newIds,
      ∀ c ∈ (world.serve (turns.take place)).2.contents, c.id ≠ id) :
    (world.serve turns).1 = (serveIn arrangements turns s).1 ∧
      Together (world.serve turns).2.contents (serveIn arrangements turns s).2.1 := by
  induction turns generalizing world s with
  | nil => exact ⟨rfl, together⟩
  | cons turn rest ih =>
      obtain ⟨same, onwards⟩ := alike_operation together turn.onContents
        (whole turn List.mem_cons_self) (fresh 0 (Nat.succ_pos _))
      obtain ⟨answers, ends⟩ := ih onwards
        (fun turn member => whole turn (List.mem_cons_of_mem _ member))
        fun place inside => fresh (place + 1) (Nat.succ_lt_succ inside)
      refine ⟨?_, ends⟩
      exact congrArg₂ (fun result answers => ⟨result⟩ :: answers) same answers

/-- **One answer from two stores.** Operations on content records that are done one after another
with whole times and fresh ids are each answered alike by the store in memory and by the database,
in whatever order its rows stand at each statement. -/
theorem answers_serve_eq (turns : List Turn) (arrangements : Nat → Arrangement)
    (whole : ∀ turn ∈ turns, turn.now.stored = turn.now)
    (fresh : ∀ place (inside : place < turns.length), ∀ id ∈ turns[place].operation.newIds,
      ∀ c ∈ (World.empty.serve (turns.take place)).2.contents, c.id ≠ id) :
    (World.empty.serve turns).1 = (serveIn arrangements turns (.idle .empty, 0)).1 :=
  (serveIn_of_together arrangements turns together_empty whole fresh).1

/-! ## Examples of runs -/

/-- A short text at an address. -/
def note (slug : String) : Submission :=
  { contentType := "note"
    title := "On " ++ slug
    slug := slug
    body := "Rows stand in no order."
    tags := some ["rows"]
    status := "Published"
    language := "en"
    coverImageUrl := none
    metaTitle := none
    metaDescription := none
    metaKeywords := none }

/-- The turn of an operation on a day in June. -/
def onDay (day : Nat) (operation : Operation α) (onContents : operation.OnContents) : Turn :=
  ⟨operation, onContents, june day⟩

/-- The rows of all tables in reverse order. -/
def reversed : Arrangement where
  arrange tables := ⟨tables.contents.reverse, tables.versions.reverse, tables.media.reverse⟩
  rearranges _ := ⟨List.reverse_perm _, List.reverse_perm _, List.reverse_perm _⟩

/-- Two records are added. The second is refused the slug of the first and then deleted, and the
first is restored. -/
def twoRecords : List Turn :=
  [onDay 0 (.create (.ofNat 1) (note "sets") "ada") trivial,
    onDay 1 (.create (.ofNat 2) (note "lists") "ben") trivial,
    onDay 2 (.update (.ofNat 2) (note "sets") "ben") trivial,
    onDay 3 (.query 10 ⟨0, 10⟩ .everything) trivial,
    onDay 4 (.restore (.ofNat 1) 1 "ben") trivial,
    onDay 5 (.delete (.ofNat 2)) trivial]

theorem answers_serve_eq_two_records :
    (∀ turn ∈ twoRecords, turn.now.stored = turn.now) ∧
      (∀ place (inside : place < twoRecords.length), ∀ id ∈ twoRecords[place].operation.newIds,
        ∀ c ∈ (World.empty.serve (twoRecords.take place)).2.contents, c.id ≠ id) ∧
      (World.empty.serve twoRecords).1.map (fun answer => answer.result.toOption.isSome) =
        [true, true, false, true, true, true] ∧
      (World.empty.serve twoRecords).1 =
        (serveIn (fun _ => reversed) twoRecords (.idle .empty, 0)).1 := by
  have whole : ∀ turn ∈ twoRecords, turn.now.stored = turn.now := by decide +kernel
  have fresh : ∀ place (inside : place < twoRecords.length),
      ∀ id ∈ twoRecords[place].operation.newIds,
        ∀ c ∈ (World.empty.serve (twoRecords.take place)).2.contents, c.id ≠ id := by
    decide +kernel
  exact ⟨whole, fresh, by decide +kernel,
    answers_serve_eq twoRecords (fun _ => reversed) whole fresh⟩

end ContentService
