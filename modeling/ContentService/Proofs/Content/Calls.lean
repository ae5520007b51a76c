import ContentService.Content.Calls
import ContentService.Proofs.Content.Effect
import ContentService.Proofs.Program

/-! # What calls ask of the stores

Whatever they are answered, the calls that change content records add none but new records, each
with one version.
-/

namespace ContentService

/-- An action that adds no content record but a new one. -/
def Action.InsertsNew {β : Type} : Action β → Prop
  | .content request => request.InsertsNew
  | .media _ | .blob _ | .announce _ => True

/-- An action that adds no content record but a new one, and has nothing to do with media. -/
def Action.OnContents {β : Type} : Action β → Prop
  | .content request => request.InsertsNew
  | .announce _ => True
  | .media _ | .blob _ => False

theorem Action.OnContents.insertsNew {β : Type} {action : Action β} (proper : action.OnContents) :
    action.InsertsNew := by
  cases action with
  | content request => exact proper
  | announce => trivial
  | media | blob => exact proper.elim

namespace Contents

open Call (Asks)

variable {allowed : {γ : Type} → Action γ → Prop} {submission : Submission}

theorem edition_of_validate {result : Edition}
    (accepted : submission.validate.mapError Failure.validation = .ok result) :
    submission.validate = .ok result := by
  revert accepted
  cases submission.validate with
  | ok edition =>
      intro accepted
      cases accepted
      rfl
  | error problems => exact nofun

/-- A creation asks for the owner of its slug and inserts the edition that was submitted. -/
theorem asks_create_of (looks : ∀ slug, allowed (.content (.slugOwner slug)))
    (announces : allowed (.announce .contents)) {id : Uuid} {now : Instant} {actor : String}
    (inserts : ∀ edition, submission.validate = .ok edition →
      allowed (.content (.insert (.initial id edition actor now)))) :
    Asks allowed (create id now submission actor) := by
  unfold create validate
  refine .ofExceptBind fun edition accepted => ?_
  refine .bind (.perform (looks edition.slug)) fun owner => ?_
  have writes : Asks allowed (do
      Call.perform (.content (.insert (.initial id edition actor now)))
      Call.announce .contents
      return Content.initial id edition actor now) :=
    .bind (.perform (inserts edition (edition_of_validate accepted))) fun _ =>
      .bind (.announce announces) fun _ => .pure _
  cases owner with
  | some holder => exact .bind (.throw _) fun _ => writes
  | none => exact writes

/-- An update looks the record up, asks for the owner of its slug and writes the edition that was
submitted. -/
theorem asks_update_of {id : Uuid} (gets : allowed (.content (.get id)))
    (looks : ∀ slug, allowed (.content (.slugOwner slug)))
    (announces : allowed (.announce .contents)) {now : Instant} {actor : String}
    (writes : ∀ edition, submission.validate = .ok edition →
      allowed (.content (.apply id (.write edition actor) now))) :
    Asks allowed (update id now submission actor) := by
  unfold update get validate
  refine .ofExceptBind fun edition accepted => ?_
  refine .bind (.bind (.perform gets) fun found => ?_) fun content => ?_
  · cases found with
    | some content => exact .pure _
    | none => exact .throw _
  · refine .bind (.perform (looks edition.slug)) fun owner => ?_
    have applies : Asks allowed (do
        let content ← Call.perform (.content (.apply id (.write edition actor) now))
        Call.announce .contents
        return content) :=
      .bind (.perform (writes edition (edition_of_validate accepted))) fun _ =>
        .bind (.announce announces) fun _ => .pure _
    cases owner with
    | none => exact applies
    | some holder =>
        by_cases other : holder ≠ id
        · simp only [if_pos other]
          exact .bind (.throw _) fun _ => applies
        · simp only [if_neg other]
          exact applies

theorem asks_restore_of {id : Uuid} {now : Instant} {number : Int} {actor : String}
    (restores : allowed (.content (.apply id (.restore number actor) now)))
    (announces : allowed (.announce .contents)) :
    Asks allowed (restore id now number actor) := by
  unfold restore
  refine .bind (.perform restores) fun content => ?_
  exact .bind (.announce announces) fun _ => .pure _

theorem asks_delete_of {id : Uuid} (deletes : allowed (.content (.delete id)))
    (announces : allowed (.announce .contents)) : Asks allowed (delete id) := by
  unfold delete
  refine .bind (.perform deletes) fun removed => ?_
  cases removed with
  | true => exact .announce announces
  | false => exact .throw _

theorem asks_create (id : Uuid) (now : Instant) (submission : Submission) (actor : String) :
    Asks Action.OnContents (create id now submission actor) :=
  asks_create_of (fun _ => trivial) trivial fun edition _ => ⟨id, edition, actor, now, rfl⟩

theorem asks_update (id : Uuid) (now : Instant) (submission : Submission) (actor : String) :
    Asks Action.OnContents (update id now submission actor) :=
  asks_update_of trivial (fun _ => trivial) trivial fun _ _ => trivial

theorem asks_restore (id : Uuid) (now : Instant) (number : Int) (actor : String) :
    Asks Action.OnContents (restore id now number actor) :=
  asks_restore_of trivial trivial

theorem asks_delete (id : Uuid) : Asks Action.OnContents (delete id) :=
  asks_delete_of trivial trivial

end Contents

end ContentService
