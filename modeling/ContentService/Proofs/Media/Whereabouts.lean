import ContentService.Proofs.Media.Place
import ContentService.Proofs.Outcome

/-! # Whereabouts of files

While clients are at work, each file has its place, and a new file begins in the hands of the call
that uploads it. So no record is ever without its bytes. Once no call is under way and none was
given up, bytes are stored for the records and where a removal was refused, and nowhere else.
-/

namespace ContentService

namespace Service

open Files
open Interleaving (Task)

variable {α : Type} {Client : Type}

/-- The call has ended. -/
def ended (task : Task) : Bool :=
  match task.rest with
  | .done _ => true
  | .ask .. => false

/-- No call is under way. -/
abbrev State.Idle (state : State Client) : Prop :=
  ∀ client, (state.tasks client).all ended = true

/-- No call is given up before it has ended. -/
def State.waits (state : State Client) : Event Client → Bool
  | .leave client => (state.tasks client).all ended
  | _ => true

/-- The keys of bytes whose removal is refused. -/
def State.refusals (state : State Client) : Event Client → List String
  | .proceed client conditions =>
    match state.tasks client with
    | some ⟨.ask action _⟩ => action.refusal (state.surroundings.answer conditions action).1
    | _ => []
  | _ => []

/-- No call is given up in the course of the events. -/
def State.patient [DecidableEq Client] : State Client → List (Event Client) → Bool
  | _, [] => true
  | state, event :: events => state.waits event && (state.after event).patient events

/-- The keys of bytes whose removal is refused in the course of the events. -/
def State.unremoved [DecidableEq Client] : State Client → List (Event Client) → List String
  | _, [] => []
  | state, event :: events => (state.after event).unremoved events ++ state.refusals event

/-- Nothing has happened. -/
def State.initial (Client : Type) (backend : Backend) : State Client :=
  ⟨.initial backend, fun _ => none, []⟩

/-- A client has this in hand: what its call handles, or nothing if it has no call. -/
def Carries : Option Task → Option Load → Prop
  | none, load => load = none
  | some task, load => task.rest.Minds load

/-- Every file is at its place. -/
structure Kept (state : State Client) (left : List String) (patient : Bool)
    (places : Uuid → Place Client) : Prop where
  tallies : ∃ records, state.surroundings.store.HoldsMedia records ∧
    ∀ id, Tally records state.surroundings.keys left id (places id)
  keyed : ∀ key ∈ left, ∃ id name, key = blobKey id name
  given : ∀ id, id ∉ state.ids → places id = .nowhere
  loads : ∀ client, ∃ load, Carries (state.tasks client) load ∧ InHand places client load
  minded : patient = true → ∀ id name, places id ≠ .forsaken name

/-! ## Steps -/

variable {state : State Client} {client : Client} {left : List String} {patient : Bool}
  {places turned : Uuid → Place Client}

theorem light_of_ended {task : Option Task} {load : Option Load} (carries : Carries task load)
    (finished : task.all ended = true) : Light load := by
  cases task with
  | none =>
      obtain rfl : load = none := carries
      exact light_none
  | some task =>
      obtain ⟨rest⟩ := task
      cases rest with
      | done value => exact carries
      | ask action next => cases finished

/-- One client has another call, and something else in hand. -/
theorem carries_update [DecidableEq Client] {tasks : Client → Option Task} {task : Option Task}
    {load : Option Load} (carries : Carries task load) (inHand : InHand turned client load)
    (others : ∀ other, other ≠ client →
      ∃ load, Carries (tasks other) load ∧ InHand turned other load) :
    ∀ other, ∃ load, Carries (Function.update tasks client task other) load ∧
      InHand turned other load := by
  intro other
  by_cases same : other = client
  · subst same
    rw [Function.update_self]
    exact ⟨load, carries, inHand⟩
  · rw [Function.update_of_ne same]
    exact others other same

theorem refusal_keyed {β : Type} {action : Action β} {reply : Except Failure β}
    {load after : Option Load} (handles : Handles action reply load after) :
    ∀ key ∈ action.refusal reply, ∃ id name, key = blobKey id name := by
  intro key member
  cases handles with
  | cleaned id name reply =>
      cases reply with
      | ok => cases member
      | error failure => exact ⟨id, name, List.mem_singleton.mp member⟩
  | _ => cases member

theorem Operation.load?_mem_newIds {operation : Operation α} {file : Load}
    (uploads : operation.load? = some file) :
    file.id ∈ operation.newIds ∧ file.stored = false := by
  cases operation with
  | upload policy id file actor =>
      cases uploads
      exact ⟨List.mem_cons_self, rfl⟩
  | _ => cases uploads

namespace Kept

theorem initial (backend : Backend) :
    Kept (State.initial Client backend) [] true fun _ => .nowhere where
  tallies := by
    refine ⟨[], Store.holdsMedia_empty backend, fun id => ⟨fun name => ?_, fun name => ?_,
      fun name => ?_⟩⟩
    · exact iff_of_false (fun ⟨_, absent, _⟩ => nomatch absent) nofun
    · exact iff_of_false nofun nofun
    · exact iff_of_false nofun nofun
  keyed := nofun
  given _ _ := rfl
  loads _ := ⟨none, rfl, fun _ => iff_of_false nofun nofun⟩
  minded _ _ _ := nofun

/-- No call has stored bytes in hand and none were left behind. -/
theorem recorded_or_refused (kept : Kept state left true places) (idle : state.Idle) {id : Uuid}
    {name : String} (stored : (places id).bytes? = some name) :
    places id = .recorded name ∨ places id = .refused name := by
  cases place : places id with
  | nowhere =>
      rw [place] at stored
      cases stored
  | inHand client other bytes =>
      rw [place] at stored
      cases bytes with
      | false => cases stored
      | true =>
          obtain ⟨load, carries, inHand⟩ := kept.loads client
          have light := light_of_ended carries (idle client)
          exact nomatch light _ ((inHand ⟨id, other, true⟩).mp place)
  | recorded other =>
      rw [place] at stored
      exact .inl (congrArg Place.recorded (Option.some.inj stored))
  | refused other =>
      rw [place] at stored
      exact .inr (congrArg Place.refused (Option.some.inj stored))
  | forsaken other => exact absurd place (kept.minded rfl id other)

variable [DecidableEq Client]

/-- A client that has nothing in hand has another call, which begins with nothing in hand. -/
theorem call (kept : Kept state left patient places) (free : InHand places client none)
    (task : Option Task) (carries : Carries task none) {ids : List Uuid} (more : state.ids ⊆ ids) :
    Kept { state with tasks := Function.update state.tasks client task, ids } left patient
      places where
  tallies := kept.tallies
  keyed := kept.keyed
  given id new := kept.given id fun old => new (more old)
  loads := carries_update carries free fun other _ => kept.loads other
  minded := kept.minded

/-- A client has another call, and one file has another place, which differs only in whose hands it
is. -/
theorem pass (kept : Kept state left patient places) {load : Option Load}
    (inHand : InHand places client load) {id : Uuid} (place : Place Client)
    (concerns : ∀ file ∈ load, file.id = id)
    (was : ∀ other name stored, places id = .inHand other name stored → other = client)
    (own : ∀ other name stored, place = .inHand other name stored → other = client)
    (bytes : (places id).bytes? = place.bytes?)
    (plain : ∀ name, places id ≠ .recorded name ∧ place ≠ .recorded name ∧
      places id ≠ .refused name ∧ place ≠ .refused name)
    (task : Option Task) (carries : Carries task (place.load? id)) {ids : List Uuid}
    (more : state.ids ⊆ ids) (member : id ∈ ids) {still : Bool}
    (minded : still = true → patient = true ∧ ∀ name, place ≠ .forsaken name) :
    Kept { state with tasks := Function.update state.tasks client task, ids } left still
      (Function.update places id place) where
  tallies := by
    obtain ⟨records, holds, tallies⟩ := kept.tallies
    refine ⟨records, holds, forall_tally_update (fun other _ => tallies other) ?_⟩
    exact (tallies id).replace (fun name => iff_of_false (plain name).1 (plain name).2.1) bytes
      fun name => iff_of_false (plain name).2.2.1 (plain name).2.2.2
  keyed := kept.keyed
  given other new := by
    have differs : other ≠ id := fun same => new (same ▸ member)
    rw [Function.update_of_ne differs]
    exact kept.given other fun old => new (more old)
  loads := by
    refine carries_update carries (inHand.update concerns own) fun other differs => ?_
    obtain ⟨load, carried, held⟩ := kept.loads other
    exact ⟨load, carried, held.update_of_other differs was own⟩
  minded careful other name := by
    by_cases same : other = id
    · subst same
      rw [Function.update_self]
      exact (minded careful).2 name
    · rw [Function.update_of_ne same]
      exact kept.minded (minded careful).1 other name

theorem start (kept : Kept state left patient places) {operation : Operation α}
    (free : (state.tasks client).isNone) (fresh : Fresh operation state.ids) (now : Instant) :
    ∃ turned, Kept { state with
        tasks := Function.update state.tasks client (some ⟨operation.call now⟩)
        ids := operation.newIds ++ state.ids } left patient turned := by
  have more : state.ids ⊆ operation.newIds ++ state.ids := List.subset_append_right _ _
  have minds := (operation.minds now).program
  obtain ⟨load, carries, inHand⟩ := kept.loads client
  rw [Option.isNone_iff_eq_none.mp free] at carries
  obtain rfl : load = none := carries
  cases uploads : operation.load? with
  | none =>
      rw [uploads] at minds
      exact ⟨places, kept.call inHand (some ⟨_⟩) minds more⟩
  | some file =>
      rw [uploads] at minds
      obtain ⟨id, name, stored⟩ := file
      obtain ⟨new, unstored⟩ := Operation.load?_mem_newIds uploads
      obtain rfl : stored = false := unstored
      have nowhere : places id = .nowhere := kept.given id (fresh id new)
      refine ⟨_, kept.pass inHand (.inHand client name false) (fun _ absent => nomatch absent)
        (fun _ _ _ held => ?_) (fun _ _ _ held => ?_) ?_ (fun _ => ?_) (some ⟨_⟩) minds more
        (List.mem_append_left _ new) fun careful => ⟨careful, nofun⟩⟩
      · exact nomatch nowhere.symm.trans held
      · cases held
        rfl
      · rw [nowhere]
        rfl
      · rw [nowhere]
        exact ⟨nofun, nofun, nofun, nofun⟩

theorem leave (kept : Kept state left patient places) (client : Client) :
    ∃ turned, Kept { state with tasks := Function.update state.tasks client none } left
      (patient && (state.tasks client).all ended) turned := by
  have careful : (patient && (state.tasks client).all ended) = true →
      patient = true ∧ (state.tasks client).all ended = true := fun both => by
    simpa only [Bool.and_eq_true] using both
  obtain ⟨load, carries, inHand⟩ := kept.loads client
  cases load with
  | none =>
      have called := kept.call inHand none rfl (List.Subset.refl _)
      exact ⟨places, { called with minded := fun still => kept.minded (careful still).1 }⟩
  | some file =>
      obtain ⟨id, name, stored⟩ := file
      have here : places id = .inHand client name stored := (inHand ⟨id, name, stored⟩).mpr rfl
      have member : id ∈ state.ids := by
        by_contra new
        exact nomatch here.symm.trans (kept.given id new)
      have concerns : ∀ file ∈ some (Load.mk id name stored), file.id = id := by
        intro file single
        cases single
        rfl
      have was : ∀ other name stored, places id = .inHand other name stored → other = client :=
        fun other _ _ held => (Place.inHand.inj (held.symm.trans here)).1
      -- What the call was still to store is dropped with it; stored bytes stay behind.
      cases stored with
      | false =>
          refine ⟨_, kept.pass inHand .nowhere concerns was nofun ?_ (fun _ => ?_) none rfl
            (List.Subset.refl _) member fun still => ⟨(careful still).1, nofun⟩⟩
          · rw [here]
            rfl
          · rw [here]
            exact ⟨nofun, nofun, nofun, nofun⟩
      | true =>
          refine ⟨_, kept.pass inHand (.forsaken name) concerns was nofun ?_ (fun _ => ?_)
            none rfl (List.Subset.refl _) member fun still => ?_⟩
          · rw [here]
            rfl
          · rw [here]
            exact ⟨nofun, nofun, nofun, nofun⟩
          · have light := light_of_ended carries (careful still).2
            exact nomatch light _ rfl

theorem proceed {β : Type} {Result : Type} {action : Action β}
    {next : Except Failure β → Program Action Failure Result}
    (kept : Kept state left patient places)
    (underWay : state.tasks client = some ⟨.ask action next⟩) (conditions : Conditions) :
    let answered := state.surroundings.answer conditions action
    ∃ turned, Kept { state with
        surroundings := answered.2
        tasks := Function.update state.tasks client (some ⟨next answered.1⟩) }
      (action.refusal answered.1 ++ left) patient turned := by
  intro answered
  obtain ⟨records, holds, tallies⟩ := kept.tallies
  obtain ⟨load, carries, inHand⟩ := kept.loads client
  rw [underWay] at carries
  obtain ⟨after, handles, minds⟩ := carries answered.1
  obtain ⟨remaining, held, leaves⟩ := Surroundings.answer_leaves holds conditions action
  obtain ⟨turned, turns, tallied⟩ := exists_turned_of_handles handles inHand leaves tallies
  refine ⟨turned, ⟨remaining, held, tallied⟩, fun key member => ?_, fun id new => ?_, ?_,
    fun careful id name forsaken => ?_⟩
  · rcases List.mem_append.mp member with here | before
    · exact refusal_keyed handles key here
    · exact kept.keyed key before
  · exact turns.nowhere id (kept.given id new)
  · refine carries_update minds turns.inHand fun other differs => ?_
    obtain ⟨load, carried, held⟩ := kept.loads other
    exact ⟨load, carried, turns.others other differs load held⟩
  · exact kept.minded careful id name (turns.forsaken id name forsaken)

/-- Every event leaves every file at a place. -/
theorem after (kept : Kept state left patient places) (event : Event Client) :
    ∃ turned, Kept (state.after event) (state.refusals event ++ left)
      (patient && state.waits event) turned := by
  cases event with
  | start client operation now =>
      simp only [State.after, State.refusals, State.waits, List.nil_append, Bool.and_true]
      by_cases fits : (state.tasks client).isNone ∧ Fresh operation state.ids
      · rw [if_pos fits]
        exact kept.start fits.1 fits.2 now
      · rw [if_neg fits]
        exact ⟨places, kept⟩
  | proceed client conditions =>
      simp only [State.after, State.refusals, State.waits, Bool.and_true]
      cases underWay : state.tasks client with
      | none => exact ⟨places, kept⟩
      | some task =>
          obtain ⟨rest⟩ := task
          cases rest with
          | done value => exact ⟨places, kept⟩
          | ask action next => exact kept.proceed underWay conditions
  | leave client => exact kept.leave client

/-! ## Runs -/

theorem foldl (kept : Kept state left patient places) (events : List (Event Client)) :
    ∃ turned, Kept (events.foldl State.after state) (state.unremoved events ++ left)
      (patient && state.patient events) turned := by
  induction events generalizing state left patient places with
  | nil =>
      rw [State.patient, Bool.and_true]
      exact ⟨places, kept⟩
  | cons event events ih =>
      obtain ⟨turned, after⟩ := kept.after event
      rw [State.unremoved, State.patient, List.append_assoc, ← Bool.and_assoc]
      exact ih after

end Kept

variable [DecidableEq Client]

theorem exists_kept_run (backend : Backend) (events : List (Event Client)) :
    ∃ places, Kept (run backend events) ((State.initial Client backend).unremoved events)
      ((State.initial Client backend).patient events) places := by
  have begins : Kept (State.initial Client backend) [] true fun _ => .nowhere := .initial backend
  have kept := begins.foldl events
  rw [List.append_nil, Bool.true_and] at kept
  exact kept

/-- **No record without its bytes.** Whatever clients do, and whichever of their requests fail,
bytes are stored under the key of every media record. If no call was given up and none is under way,
bytes are stored under the keys of the records and under those whose removal was refused, and under
no others. -/
theorem run_keeps_files (backend : Backend) (events : List (Event Client)) :
    let state := run backend events
    ∃ records, state.surroundings.store.mediaListing = .ok records ∧
      (∀ m ∈ records, m.blobKey ∈ state.surroundings.keys) ∧
      ((State.initial Client backend).patient events = true → state.Idle → ∀ key,
        key ∈ state.surroundings.keys ↔ key ∈ records.map Media.blobKey ∨
          key ∈ (State.initial Client backend).unremoved events) := by
  intro state
  obtain ⟨places, kept⟩ := exists_kept_run backend events
  obtain ⟨records, holds, tallies⟩ := kept.tallies
  have dangles (m : Media) (member : m ∈ records) : m.blobKey ∈ state.surroundings.keys := by
    refine ((tallies m.id).present m.fileName).mpr ?_
    rw [((tallies m.id).recorded m.fileName).mp ⟨m, member, rfl, rfl⟩]
    rfl
  refine ⟨records, Store.mediaListing_eq_ok holds, dangles, fun patient idle key => ?_⟩
  rw [patient] at kept
  constructor
  · intro present
    obtain ⟨blob, member, rfl⟩ := List.mem_map.mp present
    obtain ⟨id, -, name, same⟩ := (sound_run backend events).surroundings.keys blob member
    rw [same] at present ⊢
    have stored := ((tallies id).present name).mp present
    rcases kept.recorded_or_refused idle stored with recorded | refused
    · obtain ⟨m, known, rfl, rfl⟩ := ((tallies id).recorded name).mpr recorded
      exact .inl (List.mem_map.mpr ⟨m, known, rfl⟩)
    · exact .inr (((tallies id).refused name).mpr refused)
  · rintro (recorded | refused)
    · obtain ⟨m, known, rfl⟩ := List.mem_map.mp recorded
      exact dangles m known
    · obtain ⟨id, name, rfl⟩ := kept.keyed key refused
      refine ((tallies id).present name).mpr ?_
      rw [((tallies id).refused name).mp refused]
      rfl

/-- Two pictures are uploaded, and the first of them is deleted, but its bytes cannot be removed. -/
def twoPictures : List (Event Bool) :=
  let gone : Conditions := { Conditions.fine with refusal := some (.storage "gone") }
  [.start true (picture 1) dawn, .proceed true .fine, .proceed true .fine, .proceed true .fine,
    .leave true, .start true (.deleteMedia (.ofNat 1)) dawn, .start false (picture 2) dawn,
    .proceed true .fine, .proceed false .fine, .proceed true gone, .proceed false .fine,
    .proceed true .fine, .proceed false .fine]

/-- The bytes of both pictures are stored, of which one has a record. -/
theorem run_keeps_files_two_pictures :
    let before := State.initial Bool .memory
    let state := run .memory twoPictures
    before.patient twoPictures = true ∧ state.Idle ∧ state.surroundings.keys.length = 2 ∧
      before.unremoved twoPictures = [blobKey (.ofNat 1) "sunset.png"] ∧
      ∃ records, state.surroundings.store.mediaListing = .ok records ∧
        ∀ key, key ∈ state.surroundings.keys ↔ key ∈ records.map Media.blobKey ∨
          key ∈ before.unremoved twoPictures := by
  intro before state
  have patient : before.patient twoPictures = true := by decide +kernel
  have idle : state.Idle := by decide +kernel
  obtain ⟨records, listed, -, complete⟩ := run_keeps_files .memory twoPictures
  refine ⟨patient, idle, by decide +kernel, by decide +kernel, records, listed, ?_⟩
  exact complete patient idle

end Service

end ContentService
