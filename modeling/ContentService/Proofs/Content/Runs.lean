import ContentService.Content.Calls
import ContentService.Proofs.Program

/-! # Runs of calls

What each call that changes content records comes to, given what its requests are answered. Before
its write it only looks records up, and these answers decide whether it goes on to the write.
-/

namespace ContentService.Contents

universe v

variable {α β : Type} {σ : Type v} {answer : {γ : Type} → Action γ → σ → Except Failure γ × σ}
  {s : σ} {id : Uuid} {now : Instant} {submission : Submission} {actor : String}
  {edition : Edition}

/-- A write of content records, which is announced once it has succeeded. -/
def change (request : ContentRequest α) (result : α → β) : Call β := do
  let a ← Call.perform (.content request)
  Call.announce .contents
  return result a

theorem run_change (request : ContentRequest α) (result : α → β) :
    Program.run answer (change request result) s =
      match answer (.content request) s with
      | (.ok a, s) => (.ok (result a), (answer (.announce .contents) s).2)
      | (.error failure, s) => (.error failure, s) :=
  Call.run_performBind (fun {_} => answer) (.content request) _ s

theorem run_validateBind_invalid {problems : FieldErrors} {next : Edition → Call α}
    (refused : submission.validate = .error problems) :
    Program.run answer (validate submission >>= next : Call α) s =
      (.error (.validation problems), s) := by
  unfold validate
  rw [refused]
  rfl

theorem run_validateBind {next : Edition → Call α} (accepted : submission.validate = .ok edition) :
    Program.run answer (validate submission >>= next : Call α) s =
      Program.run answer (next edition) s := by
  unfold validate
  rw [accepted]
  rfl

/-! ## Creation -/

theorem run_create_invalid {problems : FieldErrors}
    (refused : submission.validate = .error problems) :
    Program.run answer (create id now submission actor) s = (.error (.validation problems), s) :=
  run_validateBind_invalid refused

theorem run_create_taken {holder : Uuid} (accepted : submission.validate = .ok edition)
    (looked : answer (.content (.slugOwner edition.slug)) s = (.ok (some holder), s)) :
    Program.run answer (create id now submission actor) s =
      (.error (.slugTaken edition.slug), s) := by
  unfold create
  rw [run_validateBind accepted, Call.run_performBind, looked]
  rfl

/-- A creation goes on to its write if its slug has no owner. -/
theorem run_create (accepted : submission.validate = .ok edition)
    (looked : answer (.content (.slugOwner edition.slug)) s = (.ok none, s)) :
    Program.run answer (create id now submission actor) s =
      Program.run answer (change (.insert (.initial id edition actor now))
        fun _ => Content.initial id edition actor now) s := by
  unfold create
  rw [run_validateBind accepted, Call.run_performBind, looked]
  rfl

/-! ## Updates -/

theorem run_get_missing (got : answer (.content (.get id)) s = (.ok none, s)) :
    Program.run answer (get id) s = (.error (.contentNotFound id), s) := by
  unfold get
  rw [Call.run_performBind, got]
  rfl

theorem run_get {c : Content} (got : answer (.content (.get id)) s = (.ok (some c), s)) :
    Program.run answer (get id) s = (.ok c, s) := by
  unfold get
  rw [Call.run_performBind, got]
  rfl

theorem run_update_invalid {problems : FieldErrors}
    (refused : submission.validate = .error problems) :
    Program.run answer (update id now submission actor) s = (.error (.validation problems), s) :=
  run_validateBind_invalid refused

theorem run_update_missing (accepted : submission.validate = .ok edition)
    (got : answer (.content (.get id)) s = (.ok none, s)) :
    Program.run answer (update id now submission actor) s =
      (.error (.contentNotFound id), s) := by
  unfold update
  rw [run_validateBind accepted, Program.run_exceptBind, run_get_missing got]

theorem run_update_taken {old : Content} {holder : Uuid}
    (accepted : submission.validate = .ok edition)
    (got : answer (.content (.get id)) s = (.ok (some old), s))
    (looked : answer (.content (.slugOwner edition.slug)) s = (.ok (some holder), s))
    (other : holder ≠ id) :
    Program.run answer (update id now submission actor) s =
      (.error (.slugTaken edition.slug), s) := by
  unfold update
  rw [run_validateBind accepted, Program.run_exceptBind, run_get got]
  dsimp only
  rw [Call.run_performBind, looked]
  simp only [if_pos other]
  rfl

/-- An update goes on to its write if its slug has no other owner. -/
theorem run_update {old : Content} {owner : Option Uuid}
    (accepted : submission.validate = .ok edition)
    (got : answer (.content (.get id)) s = (.ok (some old), s))
    (looked : answer (.content (.slugOwner edition.slug)) s = (.ok owner, s))
    (own : ∀ holder ∈ owner, holder = id) :
    Program.run answer (update id now submission actor) s =
      Program.run answer (change (.apply id (.write edition actor) now) fun c => c) s := by
  unfold update
  rw [run_validateBind accepted, Program.run_exceptBind, run_get got]
  dsimp only
  rw [Call.run_performBind, looked]
  cases owner with
  | none => rfl
  | some holder =>
      have same : ¬ holder ≠ id := not_not_intro (own holder rfl)
      simp only [if_neg same]
      rfl

/-! ## Restorations and deletions -/

theorem run_restore {number : Int} :
    Program.run answer (restore id now number actor) s =
      Program.run answer (change (.apply id (.restore number actor) now) fun c => c) s :=
  rfl

/-- A deletion is announced if there was something to delete. -/
theorem run_delete {removed : Bool} {after : σ}
    (deleted : answer (.content (.delete id)) s = (.ok removed, after)) :
    Program.run answer (delete id) s =
      if removed then (.ok (), (answer (.announce .contents) after).2)
      else (.error (.contentNotFound id), after) := by
  unfold delete
  rw [Call.run_performBind, deleted]
  cases removed <;> rfl

end ContentService.Contents
