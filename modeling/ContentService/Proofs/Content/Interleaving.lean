import ContentService.Proofs.Content.Calls
import ContentService.Proofs.Store.Backend
import Mathlib.Logic.Function.Basic

/-! # Interleaved calls

Any number of clients create, update, restore and delete records of one store. Their calls are taken
apart into the single requests that they make, which are answered in any order, with any faults. In
every state that is reached this way, each record accounts for the changes made to it, none lost and
none made twice, and no two records hold one slug.
-/

namespace ContentService.Interleaving

/-- What a client can have done to the records. -/
inductive Order
  | create (id : Uuid) (submission : Submission) (actor : String)
  | update (id : Uuid) (submission : Submission) (actor : String)
  | restore (id : Uuid) (number : Int) (actor : String)
  | delete (id : Uuid)

/-- A call as far as it has still to go. -/
structure Task where
  {Result : Type}
  rest : Program Action Failure Result

/-- Whatever it is answered, a call asks only for what is allowed. -/
structure Task.Asks (allowed : {γ : Type} → Action γ → Prop) (task : Task) : Prop where
  rest : task.rest.Asks allowed

theorem Task.asks_of {α : Type} {allowed : {γ : Type} → Action γ → Prop} {call : Call α}
    (asks : call.Asks allowed) : Task.Asks allowed ⟨call⟩ :=
  ⟨asks.program⟩

/-- A call that adds no records but new ones, whatever it is answered. -/
structure Task.InsertsNew (task : Task) : Prop where
  asks : task.rest.Asks Action.InsertsNew

theorem Task.insertsNew_of_asks {α : Type} {call : Call α}
    (asks : call.Asks Action.OnContents) : Task.InsertsNew ⟨call⟩ :=
  ⟨(asks.imp fun _ proper => proper.insertsNew).program⟩

/-- The call that does what is ordered. -/
def Order.task (now : Instant) : Order → Task
  | .create id submission actor => ⟨Contents.create id now submission actor⟩
  | .update id submission actor => ⟨Contents.update id now submission actor⟩
  | .restore id number actor => ⟨Contents.restore id now number actor⟩
  | .delete id => ⟨Contents.delete id⟩

theorem Order.insertsNew_task (now : Instant) (order : Order) : (order.task now).InsertsNew := by
  cases order with
  | create id submission actor =>
      exact Task.insertsNew_of_asks (Contents.asks_create id now submission actor)
  | update id submission actor =>
      exact Task.insertsNew_of_asks (Contents.asks_update id now submission actor)
  | restore id number actor =>
      exact Task.insertsNew_of_asks (Contents.asks_restore id now number actor)
  | delete id => exact Task.insertsNew_of_asks (Contents.asks_delete id)

variable {Client : Type} [DecidableEq Client]

/-- A store, the calls that are under way, and what has been done to the records, the latest
first. -/
structure State (Client : Type) where
  store : Store
  tasks : Client → Option Task
  history : List Effect

/-- One step of one client. -/
inductive Event (Client : Type)
  /-- A call begins, unless the client has one under way. -/
  | start (client : Client) (order : Order) (now : Instant)
  /-- The request that a call is at is answered, by the store or by the channel of announcements. -/
  | proceed (client : Client) (faults : Faults)
  /-- The owner of a slug is asked for, and the answer is out of date or wrong. -/
  | mislead (client : Client) (owner : Option Uuid)
  /-- A call has ended, or it is given up. -/
  | leave (client : Client)

namespace State

/-- The state in which a client has another call under way, or none. -/
def setTask (state : State Client) (client : Client) (task : Option Task) : State Client :=
  { state with tasks := Function.update state.tasks client task }

/-- The state in which the store has answered the request that a client's call is at. -/
def request {α β : Type} (state : State Client) (client : Client) (faults : Faults)
    (request : ContentRequest β) (next : Except Failure β → Program Action Failure α) :
    State Client :=
  let (reply, store) := state.store.answer faults request
  { store := store
    tasks := Function.update state.tasks client (some ⟨next reply⟩)
    history := request.effect reply :: state.history }

/-- The state after an event; an event that does not fit the client's call changes nothing. -/
def after (state : State Client) : Event Client → State Client
  | .start client order now =>
    match state.tasks client with
    | none => state.setTask client (order.task now)
    | some _ => state
  | .proceed client faults =>
    match state.tasks client with
    | some ⟨.ask (.content request) next⟩ => state.request client faults request next
    | some ⟨.ask (.announce _) next⟩ => state.setTask client (some ⟨next (.ok ())⟩)
    | _ => state
  | .mislead client owner =>
    match state.tasks client with
    | some ⟨.ask (.content (.slugOwner _)) next⟩ =>
      state.setTask client (some ⟨next (.ok owner)⟩)
    | _ => state
  | .leave client => state.setTask client none

/-- A store without records, to which no client has called. -/
def initial (Client : Type) (backend : Backend) : State Client :=
  ⟨.empty backend, fun _ => none, []⟩

end State

/-- The state after events, in this order. -/
def run (backend : Backend) (events : List (Event Client)) : State Client :=
  events.foldl State.after (.initial Client backend)

/-! ## What every state keeps -/

/-- What an event comes to: nothing, another call of one client, or the store's answer to the
request that a call is at. -/
inductive Step (state : State Client) : State Client → Prop
  | still : Step state state
  | begun (client : Client) (order : Order) (now : Instant) :
      Step state (state.setTask client (order.task now))
  | replied {client : Client} {α β : Type} {action : Action β}
      {next : Except Failure β → Program Action Failure α}
      (underWay : state.tasks client = some ⟨.ask action next⟩) (reply : Except Failure β) :
      Step state (state.setTask client (some ⟨next reply⟩))
  | answered {client : Client} {α β : Type} {request : ContentRequest β}
      {next : Except Failure β → Program Action Failure α}
      (underWay : state.tasks client = some ⟨.ask (.content request) next⟩) (faults : Faults) :
      Step state (state.request client faults request next)
  | left (client : Client) : Step state (state.setTask client none)

theorem State.step_after (state : State Client) (event : Event Client) :
    Step state (state.after event) := by
  cases event with
  | start client order now =>
      simp only [State.after]
      cases state.tasks client with
      | some task => exact .still
      | none => exact .begun client order now
  | proceed client faults =>
      simp only [State.after]
      cases underWay : state.tasks client with
      | none => exact .still
      | some task =>
          obtain ⟨rest⟩ := task
          cases rest with
          | done value => exact .still
          | ask action next =>
              cases action with
              | content request => exact .answered underWay faults
              | announce stale => exact .replied underWay (.ok ())
              | media request => exact .still
              | blob request => exact .still
  | mislead client owner =>
      simp only [State.after]
      cases underWay : state.tasks client with
      | none => exact .still
      | some task =>
          obtain ⟨rest⟩ := task
          cases rest with
          | done value => exact .still
          | ask action next =>
              cases action with
              | content request =>
                  cases request with
                  | slugOwner slug => exact .replied underWay (.ok owner)
                  | _ => exact .still
              | _ => exact .still
  | leave client => exact .left client

/-- The calls under way ask only for what is allowed, and the store keeps records that are, with
what has been done to them, as they should be. -/
structure Keeps (allowed : {γ : Type} → Action γ → Prop)
    (proper : List Content → List Effect → Prop) (state : State Client) : Prop where
  tasks : ∀ client task, state.tasks client = some task → task.rest.Asks allowed
  records : ∃ records, state.store.Holds records ∧ proper records state.history

section Keeps

variable {allowed : {γ : Type} → Action γ → Prop} {proper : List Content → List Effect → Prop}
  {state : State Client}

/-- Another call of one client leaves the others and the store. -/
theorem Keeps.setTask (keeps : Keeps allowed proper state) (client : Client) {task : Option Task}
    (asks : ∀ call ∈ task, call.rest.Asks allowed) :
    Keeps allowed proper (state.setTask client task) where
  tasks := by
    intro other found underWay
    simp only [State.setTask] at underWay
    by_cases same : other = client
    · subst same
      rw [Function.update_self] at underWay
      exact asks found underWay
    · rw [Function.update_of_ne same] at underWay
      exact keeps.tasks other found underWay
  records := keeps.records

theorem Keeps.step (asks : ∀ now order, (Order.task now order).Asks allowed)
    (adds : ∀ {β : Type} {request : ContentRequest β}, allowed (.content request) →
      request.InsertsNew)
    (turned : ∀ {β : Type} {request : ContentRequest β} {reply : Except Failure β}
      {records kept : List Content} {history : List Effect}, allowed (.content request) →
      (request.effect reply).Turns records kept → proper records history →
      proper kept (request.effect reply :: history))
    (keeps : Keeps allowed proper state) {after : State Client} (step : Step state after) :
    Keeps allowed proper after := by
  cases step with
  | still => exact keeps
  | begun client order now =>
      refine keeps.setTask client fun call single => ?_
      cases single
      exact (asks now order).rest
  | @replied client α β action next underWay reply =>
      refine keeps.setTask client fun call single => ?_
      cases single
      exact (keeps.tasks client _ underWay).2 reply
  | @answered client α β request next underWay faults =>
      have asked := keeps.tasks client _ underWay
      obtain ⟨records, holds, before⟩ := keeps.records
      obtain ⟨kept, held, turns⟩ := Store.answer_turns holds (adds asked.1) faults
      constructor
      case tasks =>
        refine (keeps.setTask client fun call single => ?_).tasks
        cases single
        exact asked.2 _
      case records => exact ⟨kept, held, turned asked.1 turns before⟩
  | left client => exact keeps.setTask client fun call absent => nomatch absent

/-- What holds of no records, and is kept by the effects of all that the calls may ask, holds in
every state. -/
theorem keeps_run (asks : ∀ now order, (Order.task now order).Asks allowed)
    (adds : ∀ {β : Type} {request : ContentRequest β}, allowed (.content request) →
      request.InsertsNew)
    (turned : ∀ {β : Type} {request : ContentRequest β} {reply : Except Failure β}
      {records kept : List Content} {history : List Effect}, allowed (.content request) →
      (request.effect reply).Turns records kept → proper records history →
      proper kept (request.effect reply :: history))
    (begins : proper [] []) (backend : Backend) (events : List (Event Client)) :
    Keeps allowed proper (run backend events) := by
  have fromState (state : State Client) (keeps : Keeps allowed proper state) :
      Keeps allowed proper (events.foldl State.after state) := by
    induction events generalizing state with
    | nil => exact keeps
    | cons event rest ih =>
        exact ih (state.after event) (keeps.step asks adds turned (state.step_after event))
  exact fromState _ ⟨fun _ _ absent => (nomatch absent), [], Store.holds_empty backend, begins⟩

end Keeps

/-- What holds in every state: the calls under way add no records but new ones, and the store
keeps records that are apart and that account for their changes. -/
structure Sound (state : State Client) : Prop where
  tasks : ∀ client task, state.tasks client = some task → task.InsertsNew
  records : ∃ records, state.store.Holds records ∧ records.Pairwise Apart ∧
    Accounted records state.history

theorem sound_run (backend : Backend) (events : List (Event Client)) :
    Sound (run backend events) := by
  have keeps : Keeps Action.InsertsNew
      (fun records history => records.Pairwise Apart ∧ Accounted records history)
      (run backend events) := by
    refine keeps_run (fun now order => ⟨(order.insertsNew_task now).asks⟩) (fun adds => adds)
      (fun _ turns before => ?_) ?_ backend events
    · exact ⟨turns.pairwise_apart before.1, turns.accounted before.2⟩
    · exact ⟨.nil, fun _ absent => nomatch absent⟩
  exact ⟨fun client task underWay => ⟨keeps.tasks client task underWay⟩, keeps.records⟩

/-- **Every change once.** In every state that clients' calls lead to, however they are
interleaved and whatever goes wrong, each record has one version for its creation and one for each
change made to it since, in their order. -/
theorem run_accounts (backend : Backend) (events : List (Event Client)) :
    ∃ records, (run backend events).store.listing = .ok records ∧
      ∀ c ∈ records, c.Accounts (changesOf c.id (run backend events).history) := by
  obtain ⟨records, holds, -, accounted⟩ := (sound_run backend events).records
  exact ⟨records, Store.listing_eq_ok holds, accounted⟩

/-- A short text on two writers. -/
def article (title : String) : Submission :=
  { contentType := "article"
    title := title
    slug := "two-writers"
    body := none
    tags := some ["news"]
    status := "Draft"
    language := "en"
    coverImageUrl := none
    metaTitle := none
    metaDescription := none
    metaKeywords := none }

/-- Two writers: the one creates a record and then updates it, and while the update has looked up
its slug and not yet been written, the other restores the first version. -/
def twoWriters : List (Event Bool) :=
  let id : Uuid := .ofNat 1
  let now : Instant := june 6
  let go (client : Bool) : Event Bool := .proceed client .none
  [.start true (.create id (article "First") "ada") now, go true, go true, go true, .leave true,
    .start true (.update id (article "Second") "ada") now, go true, go true,
    .start false (.restore id 1 "ben") now, go false, go true]

/-- Both changes have their version, the restoration before the update. -/
theorem run_accounts_two_writers :
    ((run .memory twoWriters).store.listing.toOption.map fun records =>
        records.map fun c => c.versions.map fun v => (v.number, v.title, v.modifiedBy)) =
          some [[(1, "First", "ada"), (2, "First", "ben"), (3, "Second", "ada")]] ∧
      ∃ records, (run .memory twoWriters).store.listing = .ok records ∧
        ∀ c ∈ records, c.Accounts (changesOf c.id (run .memory twoWriters).history) :=
  ⟨by decide +kernel, run_accounts .memory twoWriters⟩

/-- **Slugs apart.** In every state that clients' calls lead to, however they are interleaved,
whatever goes wrong and however outdated or wrong the early answers on the owners of slugs are, no
two records hold one slug. -/
theorem run_slugs_nodup (backend : Backend) (events : List (Event Client)) :
    ∃ records, (run backend events).store.listing = .ok records ∧
      (records.map (·.live.slug)).Nodup := by
  obtain ⟨records, holds, apart, -⟩ := (sound_run backend events).records
  refine ⟨records, Store.listing_eq_ok holds, ?_⟩
  exact List.pairwise_map.mpr (apart.imp fun both => both.2)

end ContentService.Interleaving
