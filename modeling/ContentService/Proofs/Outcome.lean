import ContentService.Proofs.Service

/-! # Outcomes of operations

What an operation leaves behind in whatever surroundings clients have brought about, whichever of
its requests fail. One that fails has changed no record and announces nothing; its bytes are gone
again, unless they could not be removed. One that changes records and succeeds makes exactly one
announcement, after its write. How the announcement fares makes no difference to anything else.
-/

namespace ContentService

open Program (Passes)

variable {α β : Type} {before after : Surroundings} {conditions : Nat → Conditions}
  {said : List (Exchange Action Failure)} {stale : Collection}

/-- No record is changed and nothing announced. The bytes are as before, or some that were stored
could not be removed again. -/
structure Undone (before after : Surroundings) (said : List (Exchange Action Failure)) : Prop where
  store : after.store = before.store
  publisher : after.publisher = before.publisher
  published : after.published = before.published
  silent : ∀ e ∈ said, ¬ e.Announces
  blobs : after.blobs = before.blobs ∨ ∃ key data type uri failure,
    ⟨.blob (.put key data type), .ok uri⟩ ∈ said ∧
    ⟨.blob (.delete key), .error failure⟩ ∈ said ∧ after.blobs = (key, data) :: before.blobs

/-- Records of a collection were changed, and then this was announced, as the last thing. -/
def Announced (stale : Collection) (conditions : Nat → Conditions) (before after : Surroundings)
    (said : List (Exchange Action Failure)) : Prop :=
  ∃ earlier, said = earlier ++ [⟨.announce stale, .ok ()⟩] ∧ (∃ e ∈ earlier, e.Writes stale) ∧
    (∀ e ∈ earlier, ¬ e.Announces) ∧
    after.published = before.published ++
      (before.publisher.announce (conditions earlier.length).server stale).2

/-- How an operation has left the surroundings. -/
structure Outcome (operation : Operation α) (conditions : Nat → Conditions)
    (before after : Surroundings) (result : Except Failure α)
    (said : List (Exchange Action Failure)) : Prop where
  failed : ∀ failure, result = .error failure → Undone before after said
  changed : ∀ a stale, result = .ok a → operation.stale? = some stale →
    Announced stale conditions before after said
  unchanging : operation.stale? = none → after = before ∧ ∀ e ∈ said, ¬ e.Announces

theorem Undone.refl (silent : ∀ e ∈ said, ¬ e.Announces) : Undone before before said :=
  ⟨rfl, rfl, rfl, silent, .inl rfl⟩

/-- An announcement that follows a write to its collection. -/
theorem announced_of_passes {earlier : List (Exchange Action Failure)}
    {reply : Except Failure Unit} (writes : ∃ e ∈ earlier, e.Writes stale)
    (silent : ∀ e ∈ earlier, ¬ e.Announces)
    (passes : Passes (Surroundings.answerInTurn conditions) [] before
      (earlier ++ [⟨.announce stale, reply⟩]) after) :
    Announced stale conditions before after (earlier ++ [⟨.announce stale, reply⟩]) := by
  obtain ⟨middle, first, last⟩ := passes.of_append
  obtain ⟨answered, ended⟩ := last.of_cons
  obtain rfl : Except.ok () = reply := answered
  have quiet := Surroundings.published_of_passes first silent
  refine ⟨earlier, rfl, writes, silent, ?_⟩
  rw [← quiet.1, ← quiet.2]
  cases ended
  rfl

/-! ## Tidy calls -/

variable {records : List Content}

theorem undone_of_quiet (holds : before.store.Holds records) (quiet : ∀ e ∈ said, e.Quiet)
    (passes : Passes (Surroundings.answerInTurn conditions) [] before said after) :
    Undone before after said := by
  have same := Surroundings.eq_of_passes_of_quiet holds passes quiet
  rw [same]
  exact .refl fun e member => (quiet e member).not_announces

theorem announced_of_tidy {a : α} (tidy : Tidy stale said (.ok a))
    (passes : Passes (Surroundings.answerInTurn conditions) [] before said after) :
    Announced stale conditions before after said := by
  cases tidy with
  | @done early cleanup write _ reply quiet writes cleans =>
      have split : early ++ write :: (cleanup ++ [⟨.announce stale, reply⟩]) =
          (early ++ write :: cleanup) ++ [⟨.announce stale, reply⟩] := by
        simp only [List.append_assoc, List.cons_append]
      rw [split] at passes ⊢
      refine announced_of_passes ⟨write, ?_, writes⟩ (fun e member => ?_) passes
      · exact List.mem_append_right _ List.mem_cons_self
      · rcases List.mem_append.mp member with read | later
        · exact (quiet e read).not_announces
        · rcases List.mem_cons.mp later with rfl | removal
          · exact writes.not_announces
          · exact (cleans e removal).not_announces

theorem undone_of_tidy (holds : before.store.Holds records) {failure : Failure}
    (tidy : Tidy (α := α) stale said (.error failure))
    (passes : Passes (Surroundings.answerInTurn conditions) [] before said after) :
    Undone before after said := by
  cases tidy with
  | failed failure quiet => exact undone_of_quiet holds quiet passes

/-! ## Uploads -/

namespace Surroundings

variable {s : Surroundings} {here : Conditions} {key type uri : String} {data : Bytes}
  {failure : Failure}

theorem answer_put_error
    (refused : (s.answer here (.blob (.put key data type))).1 = .error failure) :
    (s.answer here (.blob (.put key data type))).2 = s := by
  obtain ⟨refusal, faults, server⟩ := here
  cases refusal with
  | some reason => rfl
  | none => cases refused

theorem answer_put_ok (free : ∀ blob ∈ s.blobs, blob.1 ≠ key)
    (stored : (s.answer here (.blob (.put key data type))).1 = .ok uri) :
    (s.answer here (.blob (.put key data type))).2 =
      { s with blobs := (key, data) :: s.blobs } := by
  obtain ⟨refusal, faults, server⟩ := here
  cases refusal with
  | some reason => cases stored
  | none =>
      have others : s.blobs.filter (·.1 ≠ key) = s.blobs :=
        List.filter_eq_self.mpr fun blob member => decide_eq_true (free blob member)
      simp only [answer, Memory.answerBlob, others]

/-- Bytes that were just stored are removed again, unless this is refused. -/
theorem answer_delete_stored (free : ∀ blob ∈ s.blobs, blob.1 ≠ key) :
    let stored := { s with blobs := (key, data) :: s.blobs }
    ((stored.answer here (.blob (.delete key))).2 = stored ∧
      ∃ failure, (stored.answer here (.blob (.delete key))).1 = .error failure) ∨
    (stored.answer here (.blob (.delete key))).2 = s := by
  obtain ⟨refusal, faults, server⟩ := here
  cases refusal with
  | some reason => exact .inl ⟨rfl, reason, rfl⟩
  | none =>
      have others : s.blobs.filter (·.1 ≠ key) = s.blobs :=
        List.filter_eq_self.mpr fun blob member => decide_eq_true (free blob member)
      have gone : ¬ decide ((key, data).1 ≠ key) = true := fun differs =>
        of_decide_eq_true differs rfl
      right
      simp only [answer, Memory.answerBlob, List.filter_cons, if_neg gone, others]

end Surroundings

variable {policy : UploadPolicy} {id : Uuid} {now : Instant} {file : Upload} {actor : String}

theorem Uploading.silent {failure : Failure}
    (uploading : Uploading policy id now file actor said (.error failure)) :
    ∀ e ∈ said, ¬ e.Announces := by
  intro e member
  cases uploading with
  | refused => cases member
  | unstored =>
      rw [List.mem_singleton.mp member]
      exact fun announces => announces
  | unrecorded =>
      simp only [List.mem_cons, List.not_mem_nil, or_false] at member
      rcases member with rfl | rfl | rfl <;> exact fun announces => announces

theorem undone_of_uploading (holds : before.store.Holds records)
    (free : ∀ name, ∀ blob ∈ before.blobs, blob.1 ≠ blobKey id name) {failure : Failure}
    (uploading : Uploading policy id now file actor said (.error failure))
    (passes : Passes (Surroundings.answerInTurn conditions) [] before said after) :
    Undone before after said := by
  have silent : ∀ e ∈ said, ¬ e.Announces := uploading.silent
  cases uploading with
  | refused =>
      cases passes
      exact .refl silent
  | unstored failure fits =>
      obtain ⟨answered, ended⟩ := passes.of_cons
      cases ended
      have same := Surroundings.answer_put_error answered
      change Undone before (before.answer _ _).2 _
      rw [same]
      exact .refl silent
  | unrecorded uri failure reply fits =>
      have unused := free (FileName.clean file.fileName)
      let key := blobKey id (FileName.clean file.fileName)
      obtain ⟨stored, later⟩ := passes.of_cons
      have first := Surroundings.answer_put_ok unused stored
      rw [show (Surroundings.answerInTurn _ _ _ before).2 = _ from first] at later
      obtain ⟨refused, last⟩ := later.of_cons
      have quiet : (Action.media (.insert (file.record policy id uri actor now))).Quiet
          (.error failure) := trivial
      rw [← refused] at quiet
      have held : { before with blobs := (key, file.data) :: before.blobs }.store.Holds records :=
        holds
      have second := Surroundings.answer_of_quiet held quiet
      rw [show (Surroundings.answerInTurn _ _ _ _).2 = _ from second] at last
      obtain ⟨answered, ended⟩ := last.of_cons
      cases ended
      -- The bytes were stored, and what is left of them depends on the clean-up alone.
      rcases Surroundings.answer_delete_stored unused with ⟨kept, reason, unremoved⟩ | removed
      · obtain rfl : Except.error reason = reply := unremoved.symm.trans answered
        change Undone before (Surroundings.answer _ _ _).2 _
        rw [kept]
        let type := policy.typeOf file (FileName.clean file.fileName)
        refine ⟨rfl, rfl, rfl, silent, .inr ⟨key, file.data, type, uri, reason, ?_, ?_, rfl⟩⟩
        · exact List.mem_cons_self
        · exact List.mem_cons_of_mem _ (List.mem_cons_of_mem _ List.mem_cons_self)
      · change Undone before (Surroundings.answer _ _ _).2 _
        rw [removed]
        exact .refl silent

theorem announced_of_uploading {media : Media}
    (uploading : Uploading policy id now file actor said (.ok media))
    (passes : Passes (Surroundings.answerInTurn conditions) [] before said after) :
    Announced .media conditions before after said := by
  cases uploading with
  | done uri reply fits =>
      have writes : Exchange.Writes .media
          ⟨.media (.insert (file.record policy id uri actor now)), .ok ()⟩ :=
        ⟨rfl, fun quiet => quiet⟩
      let earlier : List (Exchange Action Failure) :=
        [⟨file.put policy id, .ok uri⟩,
          ⟨.media (.insert (file.record policy id uri actor now)), .ok ()⟩]
      have silent : ∀ e ∈ earlier, ¬ e.Announces := by
        intro e member
        simp only [earlier, List.mem_cons, List.not_mem_nil, or_false] at member
        rcases member with rfl | rfl <;> exact fun announces => announces
      have written : ∃ e ∈ earlier, e.Writes .media :=
        ⟨_, List.mem_cons_of_mem _ List.mem_cons_self, writes⟩
      exact announced_of_passes written silent passes

/-! ## Operations -/

theorem outcome_of_reads (holds : before.store.Holds records) {operation : Operation α}
    (unchanging : operation.stale? = none) {result : Except Failure α}
    (runs : Program.Runs (operation.call now) said result)
    (passes : Passes (Surroundings.answerInTurn conditions) [] before said after) :
    Outcome operation conditions before after result said := by
  have quiet := (Operation.reads unchanging now).quiet runs
  have undone := undone_of_quiet holds quiet passes
  have same := Surroundings.eq_of_passes_of_quiet holds passes quiet
  refine ⟨fun _ _ => undone, fun a stale _ changing => ?_, fun _ => ⟨same, undone.silent⟩⟩
  rw [unchanging] at changing
  cases changing

theorem outcome_of_tidies (holds : before.store.Holds records) {operation : Operation α}
    (changing : operation.stale? = some stale) (tidies : (operation.call now).Tidies stale)
    {result : Except Failure α} (runs : Program.Runs (operation.call now) said result)
    (passes : Passes (Surroundings.answerInTurn conditions) [] before said after) :
    Outcome operation conditions before after result said := by
  have tidy := tidies.tidy runs
  refine ⟨fun failure same => ?_, fun a collection same named => ?_, fun none => ?_⟩
  · rw [same] at tidy
    exact undone_of_tidy holds tidy passes
  · obtain rfl : stale = collection := Option.some.inj (changing.symm.trans named)
    rw [same] at tidy
    exact announced_of_tidy tidy passes
  · rw [changing] at none
    cases none

theorem outcome_of_upload (holds : before.store.Holds records)
    (free : ∀ name, ∀ blob ∈ before.blobs, blob.1 ≠ blobKey id name)
    {result : Except Failure Media}
    (runs : Program.Runs ((Operation.upload policy id file actor).call now) said result)
    (passes : Passes (Surroundings.answerInTurn conditions) [] before said after) :
    Outcome (.upload policy id file actor) conditions before after result said := by
  have uploading : Uploading policy id now file actor said result := uploading_of_runs runs
  refine ⟨fun failure same => ?_, fun media collection same named => ?_, fun none => nomatch none⟩
  · rw [same] at uploading
    exact undone_of_uploading holds free uploading passes
  · obtain rfl : .media = collection := Option.some.inj named
    rw [same] at uploading
    exact announced_of_uploading uploading passes

theorem outcome_of_passes (holds : before.store.Holds records) {operation : Operation α}
    (free : ∀ id ∈ operation.newIds, ∀ name, ∀ blob ∈ before.blobs, blob.1 ≠ blobKey id name)
    {result : Except Failure α} (runs : Program.Runs (operation.call now) said result)
    (passes : Passes (Surroundings.answerInTurn conditions) [] before said after) :
    Outcome operation conditions before after result said := by
  cases changing : operation.stale? with
  | none => exact outcome_of_reads holds changing runs passes
  | some stale =>
      by_cases plain : operation.Plain
      · have tidies := Operation.tidies plain changing now
        exact outcome_of_tidies holds changing tidies runs passes
      · cases operation with
        | upload policy id file actor =>
            exact outcome_of_upload holds (free id List.mem_cons_self) runs passes
        | _ => exact absurd trivial plain

/-! ## How announcements fare -/

/-- Conditions that differ at most in how the message server behaves. -/
def Conditions.Agrees (here there : Conditions) : Prop :=
  here.refusal = there.refusal ∧ here.faults = there.faults

/-- Surroundings that differ at most in the publisher and in what was published. -/
def Surroundings.Agrees (s t : Surroundings) : Prop :=
  s.store = t.store ∧ s.blobs = t.blobs

theorem Surroundings.answer_agrees {here there : Conditions} (fare : here.Agrees there)
    {s t : Surroundings} (same : s.Agrees t) (action : Action β) :
    (s.answer here action).1 = (t.answer there action).1 ∧
      (s.answer here action).2.Agrees (t.answer there action).2 := by
  obtain ⟨refusal, faults, server⟩ := here
  obtain ⟨_, _, other⟩ := there
  obtain ⟨rfl, rfl⟩ := fare
  obtain ⟨store, blobs, publisher, published⟩ := s
  obtain ⟨_, _, publisher, messages⟩ := t
  obtain ⟨rfl, rfl⟩ := same
  cases action with
  | announce stale => exact ⟨rfl, rfl, rfl⟩
  | content | media | blob => cases refusal <;> exact ⟨rfl, rfl, rfl⟩

/-- A call does the same to records and bytes, and has the same result, however the message server
behaves. -/
theorem Surroundings.perform_agrees {others : Nat → Conditions}
    (fare : ∀ turn, (conditions turn).Agrees (others turn)) (call : Call α) (s : Surroundings) :
    (s.perform conditions call).1 = (s.perform others call).1 ∧
      (s.perform conditions call).2.1.Agrees (s.perform others call).2.1 := by
  have agree : s.Agrees s := ⟨rfl, rfl⟩
  have ends := Program.record_of_related Surroundings.Agrees
    (fun said action _ _ same => answer_agrees (fare said.length) same action) call agree
  exact ⟨ends.1, ends.2.1⟩

/-! ## In the service -/

namespace Service

variable {Client : Type} [DecidableEq Client]

/-- **Outcomes.** In whatever surroundings clients have brought about, and whichever of its requests
fail, an operation that fails leaves all records as they were and announces nothing, and leaves no
bytes that could be removed; an operation that changes records and succeeds announces this once and
last; one that only reads changes nothing. None of this depends on how an announcement fares. -/
theorem performed_outcome (backend : Backend) (events : List (Event Client))
    (operation : Operation α) (fresh : Fresh operation (run backend events).ids) (now : Instant)
    (conditions : Nat → Conditions) :
    let before := (run backend events).surroundings
    let performed := before.perform conditions (operation.call now)
    Outcome operation conditions before performed.2.1 performed.1 performed.2.2 ∧
      ∀ others : Nat → Conditions, (∀ turn, (conditions turn).Agrees (others turn)) →
        performed.1 = (before.perform others (operation.call now)).1 ∧
          performed.2.1.Agrees (before.perform others (operation.call now)).2.1 := by
  intro before performed
  have sound := (sound_run backend events).surroundings
  obtain ⟨records, holds⟩ := sound.records
  obtain ⟨runs, passes⟩ :=
    Program.record_passes (Surroundings.answerInTurn conditions) (operation.call now) before
  refine ⟨outcome_of_passes holds (fun id new => sound.key_ne (fresh id new)) runs passes, ?_⟩
  exact fun others fare => Surroundings.perform_agrees fare (operation.call now) before

/-- A small picture to upload under an id. -/
def picture (id : Nat) : Operation Media :=
  .upload ⟨1000, commonTypes⟩ (.ofNat id) ⟨"sunset.png", none, [137, 80, 78, 71]⟩ "ada"

def dawn : Instant := june 6

/-- One picture is uploaded. -/
def onePicture : List (Event Unit) :=
  [.start () (picture 1) dawn, .proceed () .fine, .proceed () .fine, .proceed () .fine, .leave ()]

/-- Bytes are stored, and everything after that is refused. -/
def onlyBytes (turn : Nat) : Conditions :=
  if turn = 0 then .fine else { Conditions.fine with refusal := some (.storage "gone") }

/-- A second picture fails and leaves bytes that could not be removed. -/
theorem performed_outcome_two_pictures :
    let before := (run .memory onePicture).surroundings
    let performed := before.perform onlyBytes ((picture 2).call dawn)
    Fresh (picture 2) (run .memory onePicture).ids ∧ performed.1 = .error (.storage "gone") ∧
      performed.2.1.blobs.length = 2 ∧ performed.2.1.published.length = 1 ∧
      Outcome (picture 2) onlyBytes before performed.2.1 performed.1 performed.2.2 := by
  have fresh : Fresh (picture 2) (run .memory onePicture).ids := by decide +kernel
  have outcome := performed_outcome .memory onePicture (picture 2) fresh dawn onlyBytes
  exact ⟨fresh, by decide +kernel, by decide +kernel, by decide +kernel, outcome.1⟩

end Service

end ContentService
