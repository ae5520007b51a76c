import ContentService.Proofs.Content.Interleaving
import ContentService.Proofs.Media.Key
import ContentService.Proofs.Operation

/-! # The service at work

Any number of clients have operations under way in the same surroundings. Their calls are taken
apart into the single requests that they make, which are answered in any order and under any
conditions. Whatever has happened, the store keeps records, and bytes are stored only under the keys
of ids that were given out.
-/

namespace ContentService

variable {α β : Type} {ids : List Uuid}

/-! ## Proper calls -/

/-- An action that adds no content record but a new one, and stores bytes under keys of the ids. -/
def Action.Proper (ids : List Uuid) : Action β → Prop
  | .content request => request.InsertsNew
  | .blob (.put key _ _) => ∃ id ∈ ids, ∃ name, key = blobKey id name
  | _ => True

theorem Action.OnContents.proper {action : Action β} (onContents : action.OnContents) :
    action.Proper ids := by
  cases action with
  | content request => exact onContents
  | announce => trivial
  | media | blob => exact onContents.elim

theorem Action.Reads.proper {action : Action β} (reads : action.Reads) : action.Proper ids := by
  cases action with
  | content request => cases request <;> first | exact reads.elim | trivial
  | media => trivial
  | blob | announce => exact reads.elim

theorem Action.Proper.mono {more : List Uuid} {action : Action β} (proper : action.Proper ids)
    (given : ids ⊆ more) : action.Proper more := by
  cases action with
  | content | media | announce => exact proper
  | blob request =>
      cases request with
      | delete key => trivial
      | put key data type =>
          obtain ⟨id, member, name, same⟩ := proper
          exact ⟨id, given member, name, same⟩

theorem Action.Proper.insertsNew {action : Action β} (proper : action.Proper ids) :
    action.InsertsNew := by
  cases action with
  | content request => exact proper
  | media | blob | announce => trivial

open Call (Asks)

theorem asks_upload (policy : UploadPolicy) {id : Uuid} (given : id ∈ ids) (now : Instant)
    (file : Upload) (actor : String) :
    Asks (Action.Proper ids) (MediaLibrary.upload policy id now file actor) := by
  unfold MediaLibrary.upload
  cases policy.refusal? file with
  | some reason => exact .throwBind reason _
  | none =>
      refine .bind (.perform ⟨id, given, _, rfl⟩) fun uri => ?_
      refine .bind (.attempt trivial) fun outcome => ?_
      cases outcome with
      | ok => exact .bind (.announce trivial) fun _ => .pure _
      | error failure => exact .bind (.attempt trivial) fun _ => .throw failure

theorem asks_deleteMedia (id : Uuid) : Asks (Action.Proper ids) (MediaLibrary.delete id) := by
  refine .bind (.perform trivial) fun found => ?_
  cases found with
  | none => exact .throw _
  | some media => exact .bind (.attempt trivial) fun _ => .announce trivial

theorem Operation.asks {operation : Operation α} (given : operation.newIds ⊆ ids) (now : Instant) :
    Asks (Action.Proper ids) (operation.call now) := by
  have ofContents {call : Call α} (asks : call.Asks Action.OnContents) :
      call.Asks (Action.Proper ids) := asks.imp fun _ onContents => onContents.proper
  have ofReads (unchanging : operation.stale? = none) :
      (operation.call now).Asks (Action.Proper ids) :=
    (Operation.reads unchanging now).imp fun _ reads => reads.proper
  cases operation with
  | create id submission actor =>
      exact ofContents (Contents.asks_create id now submission actor)
  | update id submission actor =>
      exact ofContents (Contents.asks_update id now submission actor)
  | restore id number actor => exact ofContents (Contents.asks_restore id now number actor)
  | delete id => exact ofContents (Contents.asks_delete id)
  | upload policy id file actor =>
      exact asks_upload policy (given List.mem_cons_self) now file actor
  | deleteMedia id => exact asks_deleteMedia id
  | get | versions | version | slugExists | query | queryMedia => exact ofReads rfl

/-! ## Kept records -/

/-- An action that adds no content record but a new one leaves a store that keeps records, and they
are apart if they were. -/
theorem Surroundings.exists_holds_answer {s : Surroundings} {records : List Content}
    (holds : s.store.Holds records) {action : Action β} (proper : action.InsertsNew)
    (conditions : Conditions) :
    ∃ kept, (s.answer conditions action).2.store.Holds kept ∧
      (records.Pairwise Apart → kept.Pairwise Apart) := by
  obtain ⟨refusal, faults, server⟩ := conditions
  cases refusal with
  | some failure => cases action <;> exact ⟨records, holds, id⟩
  | none =>
      cases action with
      | announce | blob => exact ⟨records, holds, id⟩
      | content request =>
          obtain ⟨kept, held, turns⟩ := Store.answer_turns holds proper faults
          exact ⟨kept, held, turns.pairwise_apart⟩
      | media request => exact ⟨records, holds.answerMedia faults request, id⟩

namespace Surroundings

/-- An operation from its beginning to its end, with nothing going wrong: its result, and the
surroundings afterwards. -/
def carryOut (operation : Operation α) (now : Instant) (s : Surroundings) :
    Except Failure α × Surroundings :=
  Program.run (answer .fine) (operation.call now) s

variable {s : Surroundings} {records : List Content}

theorem exists_holds_carryOut (holds : s.store.Holds records) (operation : Operation α)
    (now : Instant) :
    ∃ kept, (s.carryOut operation now).2.store.Holds kept ∧
      (records.Pairwise Apart → kept.Pairwise Apart) := by
  let keeps (s : Surroundings) : Prop :=
    ∃ kept, s.store.Holds kept ∧ (records.Pairwise Apart → kept.Pairwise Apart)
  have asks : (operation.call now).Asks (Action.Proper operation.newIds) :=
    Operation.asks (List.Subset.refl _) now
  have request_keeps {γ : Type} (action : Action γ) (proper : action.Proper operation.newIds)
      {s : Surroundings} (before : keeps s) : keeps (s.answer .fine action).2 := by
    obtain ⟨kept, held, apart⟩ := before
    obtain ⟨after, holds, still⟩ := exists_holds_answer held proper.insertsNew .fine
    exact ⟨after, holds, still ∘ apart⟩
  have begins : keeps s := ⟨records, holds, id⟩
  exact asks.program.run_keeps request_keeps begins

theorem backend_carryOut (s : Surroundings) (operation : Operation α) (now : Instant) :
    (s.carryOut operation now).2.store.backend = s.store.backend := by
  let keeps (after : Surroundings) : Prop := after.store.backend = s.store.backend
  have all : Program.Asks (fun _ => True) (operation.call now) :=
    Program.Asks.of_all (fun _ => trivial) _
  have request_keeps {γ : Type} (action : Action γ) (_ : True) {t : Surroundings}
      (before : keeps t) : keeps (t.answer .fine action).2 :=
    (backend_answer .fine action t).trans before
  have begins : keeps s := rfl
  exact all.run_keeps request_keeps begins

end Surroundings

/-! ## Sound surroundings -/

/-- The store keeps records, and bytes are stored only under keys of the ids. -/
structure Surroundings.Sound (ids : List Uuid) (s : Surroundings) : Prop where
  records : ∃ records, s.store.Holds records
  keys : ∀ blob ∈ s.blobs, ∃ id ∈ ids, ∃ name, blob.1 = blobKey id name

namespace Surroundings.Sound

variable {s : Surroundings}

theorem initial (backend : Backend) : (Surroundings.initial backend).Sound [] where
  records := ⟨[], Store.holds_empty backend⟩
  keys := fun _ absent => nomatch absent

theorem mono {more : List Uuid} (sound : s.Sound ids) (given : ids ⊆ more) : s.Sound more where
  records := sound.records
  keys := by
    intro blob member
    obtain ⟨id, old, name, same⟩ := sound.keys blob member
    exact ⟨id, given old, name, same⟩

/-- No bytes are stored under the key of an id that was not given out. -/
theorem key_ne (sound : s.Sound ids) {id : Uuid} (fresh : id ∉ ids) (name : String) :
    ∀ blob ∈ s.blobs, blob.1 ≠ blobKey id name := by
  intro blob member same
  obtain ⟨owner, given, other, key⟩ := sound.keys blob member
  have equal : owner = id := blobKey_injective (key.symm.trans same)
  exact fresh (equal ▸ given)

theorem answer (sound : s.Sound ids) {action : Action β} (proper : action.Proper ids)
    (conditions : Conditions) : (s.answer conditions action).2.Sound ids := by
  constructor
  case records =>
    obtain ⟨records, holds⟩ := sound.records
    obtain ⟨kept, held, -⟩ := exists_holds_answer holds proper.insertsNew conditions
    exact ⟨kept, held⟩
  case keys =>
    obtain ⟨refusal, faults, server⟩ := conditions
    cases refusal with
    | some failure => cases action <;> exact sound.keys
    | none =>
        cases action with
        | announce | content | media => exact sound.keys
        | blob request =>
            intro blob member
            cases request with
            | delete key =>
                have old := (List.mem_filter.mp member).1
                exact sound.keys blob old
            | put key data type =>
                rcases List.mem_cons.mp member with rfl | other
                · exact proper
                · have old := (List.mem_filter.mp other).1
                  exact sound.keys blob old

end Surroundings.Sound

/-! ## Operations under way -/

namespace Service

open Interleaving (Task)

/-- An operation gives its new records ids that were not given out before. -/
abbrev Fresh (operation : Operation α) (ids : List Uuid) : Prop :=
  ∀ id ∈ operation.newIds, id ∉ ids

variable {Client : Type} [DecidableEq Client]

/-- The surroundings, the calls that are under way in them, and the ids that were given out. -/
structure State (Client : Type) where
  surroundings : Surroundings
  tasks : Client → Option Task
  ids : List Uuid

/-- One step of one client. -/
inductive Event (Client : Type)
  /-- An operation begins, unless the client has one under way or a new id is taken. -/
  | start {α : Type} (client : Client) (operation : Operation α) (now : Instant)
  /-- The request that a call is at is answered. -/
  | proceed (client : Client) (conditions : Conditions)
  /-- A call has ended, or it is given up. -/
  | leave (client : Client)

/-- The state after an event; an event that does not fit the client's call changes nothing. -/
def State.after (state : State Client) : Event Client → State Client
  | .start client operation now =>
    if (state.tasks client).isNone ∧ Fresh operation state.ids then
      { state with
        tasks := Function.update state.tasks client (some ⟨operation.call now⟩)
        ids := operation.newIds ++ state.ids }
    else state
  | .proceed client conditions =>
    match state.tasks client with
    | some ⟨.ask action next⟩ =>
      let (reply, surroundings) := state.surroundings.answer conditions action
      { state with surroundings, tasks := Function.update state.tasks client (some ⟨next reply⟩) }
    | _ => state
  | .leave client => { state with tasks := Function.update state.tasks client none }

/-- The state after events, in this order. -/
def run (backend : Backend) (events : List (Event Client)) : State Client :=
  events.foldl State.after ⟨.initial backend, fun _ => none, []⟩

/-- What holds in every state. -/
structure Sound (state : State Client) : Prop where
  tasks : ∀ client task, state.tasks client = some task → task.rest.Asks (Action.Proper state.ids)
  surroundings : state.surroundings.Sound state.ids

/-- Another call of one client leaves the others. -/
theorem asks_update {tasks : Client → Option Task} {allowed : {γ : Type} → Action γ → Prop}
    (asks : ∀ client task, tasks client = some task → task.rest.Asks allowed) (client : Client)
    {task : Option Task} (proper : ∀ call ∈ task, call.rest.Asks allowed) :
    ∀ other call, Function.update tasks client task other = some call → call.rest.Asks allowed := by
  intro other call underWay
  by_cases same : other = client
  · subst same
    rw [Function.update_self] at underWay
    exact proper call underWay
  · rw [Function.update_of_ne same] at underWay
    exact asks other call underWay

theorem Sound.after {state : State Client} (sound : Sound state) (event : Event Client) :
    Sound (state.after event) := by
  cases event with
  | start client operation now =>
      by_cases fits : (state.tasks client).isNone ∧ Fresh operation state.ids
      · simp only [State.after, if_pos fits]
        have given : state.ids ⊆ operation.newIds ++ state.ids := List.subset_append_right _ _
        have new : operation.newIds ⊆ operation.newIds ++ state.ids := List.subset_append_left _ _
        refine ⟨asks_update (fun other task underWay => ?_) client fun call single => ?_,
          sound.surroundings.mono given⟩
        · exact (sound.tasks other task underWay).imp fun _ proper => proper.mono given
        · cases single
          exact (Operation.asks new now).program
      · simp only [State.after, if_neg fits]
        exact sound
  | proceed client conditions =>
      simp only [State.after]
      cases underWay : state.tasks client with
      | none => exact sound
      | some task =>
          obtain ⟨rest⟩ := task
          cases rest with
          | done value => exact sound
          | ask action next =>
              have asks := sound.tasks client _ underWay
              refine ⟨asks_update sound.tasks client fun call single => ?_,
                sound.surroundings.answer asks.1 conditions⟩
              cases single
              exact asks.2 _
  | leave client =>
      have none : ∀ call ∈ (none : Option Task), call.rest.Asks (Action.Proper state.ids) :=
        fun call absent => nomatch absent
      exact ⟨asks_update sound.tasks client none, sound.surroundings⟩

theorem sound_run (backend : Backend) (events : List (Event Client)) :
    Sound (run backend events) := by
  have fromState (state : State Client) (sound : Sound state) :
      Sound (events.foldl State.after state) := by
    induction events generalizing state with
    | nil => exact sound
    | cons event rest ih => exact ih (state.after event) (sound.after event)
  have begins : Sound (⟨.initial backend, fun _ => none, []⟩ : State Client) :=
    ⟨fun _ _ absent => (nomatch absent), .initial backend⟩
  exact fromState _ begins

/-- What every answer keeps holds in the surroundings that clients bring about. -/
theorem surroundings_run_keeps {keeps : Surroundings → Prop} {backend : Backend}
    (begins : keeps (.initial backend))
    (answers : ∀ {β : Type} (action : Action β), action.InsertsNew → ∀ (conditions : Conditions)
      (s : Surroundings), keeps s → keeps (s.answer conditions action).2)
    (events : List (Event Client)) : keeps (run backend events).surroundings := by
  have step (state : State Client) (sound : Sound state) (event : Event Client)
      (before : keeps state.surroundings) : keeps (state.after event).surroundings := by
    cases event with
    | start client operation now =>
        simp only [State.after]
        split <;> exact before
    | proceed client conditions =>
        simp only [State.after]
        split
        next action next underWay =>
          have asks := sound.tasks client _ underWay
          exact answers action asks.1.insertsNew conditions _ before
        next => exact before
    | leave client => exact before
  have fromState (state : State Client) (sound : Sound state) (before : keeps state.surroundings) :
      keeps (events.foldl State.after state).surroundings := by
    induction events generalizing state with
    | nil => exact before
    | cons event rest ih =>
        exact ih (state.after event) (sound.after event) (step state sound event before)
  exact fromState _ ⟨fun _ _ absent => (nomatch absent), .initial backend⟩ begins

/-- The kind of store does not change. -/
theorem backend_run (backend : Backend) (events : List (Event Client)) :
    (run backend events).surroundings.store.backend = backend := by
  let keeps (s : Surroundings) : Prop := s.store.backend = backend
  have begins : keeps (.initial backend) := by cases backend <;> rfl
  have answers {β : Type} (action : Action β) (_ : action.InsertsNew) (conditions : Conditions)
      (s : Surroundings) (before : keeps s) : keeps (s.answer conditions action).2 :=
    (Surroundings.backend_answer conditions action s).trans before
  exact surroundings_run_keeps begins answers events

/-- The store keeps records that are apart. -/
theorem exists_apart_run (backend : Backend) (events : List (Event Client)) :
    ∃ records, (run backend events).surroundings.store.Holds records ∧
      records.Pairwise Apart := by
  let keeps (s : Surroundings) : Prop := ∃ records, s.store.Holds records ∧ records.Pairwise Apart
  have begins : keeps (.initial backend) := ⟨[], Store.holds_empty backend, .nil⟩
  have answers {β : Type} (action : Action β) (proper : action.InsertsNew)
      (conditions : Conditions) (s : Surroundings) (before : keeps s) :
      keeps (s.answer conditions action).2 := by
    obtain ⟨records, holds, apart⟩ := before
    obtain ⟨kept, held, still⟩ := Surroundings.exists_holds_answer holds proper conditions
    exact ⟨kept, held, still apart⟩
  exact surroundings_run_keeps begins answers events

end Service

end ContentService
