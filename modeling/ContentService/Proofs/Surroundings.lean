import ContentService.Proofs.Store.Quiet
import ContentService.Proofs.Transcript
import ContentService.Publisher

/-! # Surroundings

All that a call works on: a store of records, in memory or in the database, the files' bytes, and
the publisher of announcements with its message server. Each request of a call may be refused, may
go wrong inside the store, and may find the message server in any state. Requests with quiet answers
leave the surroundings as they were, and only announcements are ever published.
-/

namespace ContentService

/-- What a call works on, and the messages that the server has taken. -/
structure Surroundings where
  store : Store
  /-- The bytes of files by key. -/
  blobs : List (String × Bytes)
  publisher : Publisher
  published : List (String × String)

/-- How the surroundings fare at one request. -/
structure Conditions where
  /-- The request is not done at all. -/
  refusal : Option Failure
  /-- What goes wrong inside the store. -/
  faults : Faults
  server : ServerState

/-- Nothing goes wrong. -/
def Conditions.fine : Conditions := ⟨none, .none, .ok⟩

namespace Surroundings

/-- Surroundings in which nothing has happened. -/
def initial (backend : Backend) : Surroundings :=
  ⟨.empty backend, [], .idle, []⟩

variable {α β : Type}

/-- What an action is answered, and the surroundings afterwards. -/
def answer (conditions : Conditions) (action : Action β) (s : Surroundings) :
    Except Failure β × Surroundings :=
  match action, conditions.refusal with
  | .announce stale, _ =>
    let (publisher, messages) := s.publisher.announce conditions.server stale
    (.ok (), { s with publisher, published := s.published ++ messages })
  | _, some failure => (.error failure, s)
  | .content request, none =>
    let (reply, store) := s.store.answer conditions.faults request
    (reply, { s with store })
  | .media request, none =>
    let (reply, store) := s.store.answerMedia conditions.faults request
    (reply, { s with store })
  | .blob request, none =>
    let (reply, blobs) := Memory.answerBlob request s.blobs
    (reply, { s with blobs })

/-- What an action is answered under the conditions of its place among the requests of a call. -/
def answerInTurn (conditions : Nat → Conditions) (said : List (Exchange Action Failure))
    (action : Action β) (s : Surroundings) : Except Failure β × Surroundings :=
  s.answer (conditions said.length) action

/-- A call, given the conditions of each of its requests: its result, the surroundings afterwards,
and what was asked and answered. -/
def perform (conditions : Nat → Conditions) (call : Call α) (s : Surroundings) :
    Except Failure α × Surroundings × List (Exchange Action Failure) :=
  Program.record (answerInTurn conditions) call s

end Surroundings

/-! ## Kinds of exchanges -/

/-- The answer tells that no record was changed. -/
def Action.Quiet {β : Type} : Action β → Except Failure β → Prop
  | .content request, reply => request.Quiet reply
  | .media request, reply => request.Quiet reply
  | .blob _, _ | .announce _, _ => False

namespace Exchange

/-- A request for records whose answer tells that none was changed. -/
def Quiet (e : Exchange Action Failure) : Prop :=
  e.request.Quiet e.reply

/-- A request that has changed the records of a collection. -/
def Writes (stale : Collection) : Exchange Action Failure → Prop
  | ⟨.content request, reply⟩ => stale = .contents ∧ ¬ request.Quiet reply
  | ⟨.media request, reply⟩ => stale = .media ∧ ¬ request.Quiet reply
  | _ => False

/-- A request to remove bytes. -/
def Cleans : Exchange Action Failure → Prop
  | ⟨.blob (.delete _), _⟩ => True
  | _ => False

def Announces : Exchange Action Failure → Prop
  | ⟨.announce _, _⟩ => True
  | _ => False

variable {e : Exchange Action Failure}

theorem Quiet.not_announces (quiet : e.Quiet) : ¬ e.Announces := by
  obtain ⟨action, reply⟩ := e
  cases action with
  | announce => exact fun _ => quiet
  | content | media | blob => exact id

theorem Writes.not_announces {stale : Collection} (writes : e.Writes stale) : ¬ e.Announces := by
  obtain ⟨action, reply⟩ := e
  cases action with
  | announce => exact fun _ => writes
  | content | media | blob => exact id

theorem Cleans.not_announces (cleans : e.Cleans) : ¬ e.Announces := by
  obtain ⟨action, reply⟩ := e
  cases action with
  | announce => exact fun _ => cleans
  | content | media | blob => exact id

end Exchange

/-! ## What exchanges do to the surroundings -/

namespace Surroundings

variable {β : Type} {s after : Surroundings} {conditions : Nat → Conditions}
  {before said : List (Exchange Action Failure)} {records : List Content}

theorem backend_answer (conditions : Conditions) (action : Action β) (s : Surroundings) :
    (s.answer conditions action).2.store.backend = s.store.backend := by
  obtain ⟨refusal, faults, server⟩ := conditions
  obtain ⟨store, blobs, publisher, published⟩ := s
  cases action with
  | announce => rfl
  | content | media | blob => cases refusal <;> cases store <;> rfl

/-- If nothing goes wrong, the surroundings answer for content records as their store does. -/
theorem answer_fine {request : ContentRequest β} {reply : Except Failure β} {kept : Store}
    (answered : s.store.answer .none request = (reply, kept)) :
    s.answer .fine (.content request) = (reply, { s with store := kept }) := by
  change ((s.store.answer .none request).1,
    { s with store := (s.store.answer .none request).2 }) = _
  rw [answered]

theorem answer_of_quiet (holds : s.store.Holds records) {conditions : Conditions}
    {action : Action β} (quiet : action.Quiet (s.answer conditions action).1) :
    (s.answer conditions action).2 = s := by
  obtain ⟨refusal, faults, server⟩ := conditions
  cases action with
  | blob | announce => exact quiet.elim
  | content request =>
      cases refusal with
      | some failure => rfl
      | none => exact congrArg (fun store => { s with store }) (Store.answer_of_quiet holds quiet)
  | media request =>
      cases refusal with
      | some failure => rfl
      | none => exact congrArg (fun store => { s with store }) (Store.answerMedia_of_quiet quiet)

theorem eq_of_passes_of_quiet (holds : s.store.Holds records)
    (passes : Program.Passes (answerInTurn conditions) before s said after)
    (quiet : ∀ e ∈ said, e.Quiet) : after = s := by
  induction passes with
  | nil => rfl
  | cons rest ih =>
      have same := answer_of_quiet holds (quiet _ List.mem_cons_self)
      refine (ih ?_ fun e member => quiet e (List.mem_cons_of_mem _ member)).trans same
      rw [show (answerInTurn conditions _ _ _).2 = _ from same]
      exact holds

theorem answer_published (conditions : Conditions) {action : Action β} {reply : Except Failure β}
    (silent : ¬ (⟨action, reply⟩ : Exchange Action Failure).Announces) (s : Surroundings) :
    (s.answer conditions action).2.publisher = s.publisher ∧
      (s.answer conditions action).2.published = s.published := by
  obtain ⟨refusal, faults, server⟩ := conditions
  cases action with
  | announce => exact absurd trivial silent
  | content | media | blob => cases refusal <;> exact ⟨rfl, rfl⟩

/-- Only announcements are published. -/
theorem published_of_passes (passes : Program.Passes (answerInTurn conditions) before s said after)
    (silent : ∀ e ∈ said, ¬ e.Announces) :
    after.publisher = s.publisher ∧ after.published = s.published := by
  induction passes with
  | nil => exact ⟨rfl, rfl⟩
  | @cons _ before _ _ s _ rest ih =>
      have here := answer_published (conditions before.length)
        (silent _ List.mem_cons_self) s
      have later := ih fun e member => silent e (List.mem_cons_of_mem _ member)
      exact ⟨later.1.trans here.1, later.2.trans here.2⟩

end Surroundings

end ContentService
