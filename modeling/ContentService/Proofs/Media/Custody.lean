import ContentService.Proofs.Operation
import ContentService.Proofs.Content.Calls

/-! # Files in hand

An upload stores bytes before there is a record for them, and a deletion removes a record before its
bytes. In between the call has a file in hand. Whatever it is answered, no call ends with stored
bytes in hand that it has not tried to remove.
-/

namespace ContentService

variable {α β : Type}

/-- A file that a call has in hand. Its bytes are still to be stored, or they are stored and no
record has them. -/
structure Load where
  id : Uuid
  name : String
  stored : Bool

/-- An answered action takes a call from what it has in hand to what it then has in hand. -/
inductive Handles : {β : Type} → Action β → Except Failure β → Option Load → Option Load → Prop
  | content {β : Type} (request : ContentRequest β) (reply : Except Failure β)
      (load : Option Load) : Handles (.content request) reply load load
  | announce (stale : Collection) (reply : Except Failure Unit) (load : Option Load) :
      Handles (.announce stale) reply load load
  | list (reply : Except Failure (List Media)) (load : Option Load) :
      Handles (.media .list) reply load load
  | stored (id : Uuid) (name type uri : String) (data : Bytes) :
      Handles (.blob (.put (blobKey id name) data type)) (.ok uri)
        (some ⟨id, name, false⟩) (some ⟨id, name, true⟩)
  | unstored (id : Uuid) (name type : String) (data : Bytes) (failure : Failure) :
      Handles (.blob (.put (blobKey id name) data type)) (.error failure)
        (some ⟨id, name, false⟩) none
  | recorded (media : Media) :
      Handles (.media (.insert media)) (.ok ()) (some ⟨media.id, media.fileName, true⟩) none
  | unrecorded (media : Media) (failure : Failure) :
      Handles (.media (.insert media)) (.error failure)
        (some ⟨media.id, media.fileName, true⟩) (some ⟨media.id, media.fileName, true⟩)
  | withdrawn (id : Uuid) (media : Media) :
      Handles (.media (.delete id)) (.ok (some media)) none
        (some ⟨media.id, media.fileName, true⟩)
  | missing (id : Uuid) : Handles (.media (.delete id)) (.ok none) none none
  | retained (id : Uuid) (failure : Failure) :
      Handles (.media (.delete id)) (.error failure) none none
  /-- The call has tried to remove the bytes, which is all that it has to do. -/
  | cleaned (id : Uuid) (name : String) (reply : Except Failure Unit) :
      Handles (.blob (.delete (blobKey id name))) reply (some ⟨id, name, true⟩) none

/-- No stored bytes are in hand. -/
def Light (load : Option Load) : Prop :=
  ∀ file ∈ load, file.stored = false

theorem light_none : Light none := fun _ absent => nomatch absent

theorem light_promise (id : Uuid) (name : String) : Light (some ⟨id, name, false⟩) := by
  intro file single
  cases single
  rfl

/-- Whatever it is answered, a program handles what it has in hand, and ends with no stored bytes in
hand. -/
def Program.Minds : Program Action Failure α → Option Load → Prop
  | .done _, load => Light load
  | .ask action next, load =>
    ∀ reply, ∃ after, Handles action reply load after ∧ (next reply).Minds after

/-- An action that neither stores nor removes bytes, nor changes media records. -/
def Action.SparesFiles : Action β → Prop
  | .content _ | .announce _ | .media .list => True
  | _ => False

theorem Action.SparesFiles.handles {action : Action β} (spares : action.SparesFiles)
    (reply : Except Failure β) (load : Option Load) : Handles action reply load load := by
  cases action with
  | content request => exact .content request reply load
  | announce stale => exact .announce stale reply load
  | blob request => exact spares.elim
  | media request =>
      cases request with
      | list => exact .list reply load
      | insert | delete => exact spares.elim

theorem Program.Asks.minds {program : Program Action Failure α}
    (asks : program.Asks Action.SparesFiles) : program.Minds none := by
  induction program with
  | done value => exact light_none
  | ask action next ih =>
      intro reply
      exact ⟨none, asks.1.handles reply none, ih reply (asks.2 reply)⟩

namespace Call

/-- Whatever it is answered, a call handles what it has in hand. -/
structure Minds (load : Option Load) (call : Call α) : Prop where
  program : Program.Minds call load

namespace Minds

variable {load : Option Load}

theorem throw (light : Light load) (failure : Failure) : Minds load (throw failure : Call α) :=
  ⟨light⟩

theorem throwBind (light : Light load) (failure : Failure) (next : β → Call α) :
    Minds load (MonadExcept.throw failure >>= next : Call α) :=
  ⟨light⟩

/-- A request whose failure ends the call. -/
theorem performBind {action : Action β} {next : β → Call α}
    (failed : ∀ failure, ∃ after, Handles action (.error failure) load after ∧ Light after)
    (onwards : ∀ b, ∃ after, Handles action (.ok b) load after ∧ (next b).Minds after) :
    Minds load (perform action >>= next) := by
  refine ⟨fun reply => ?_⟩
  cases reply with
  | error failure => exact failed failure
  | ok b =>
      obtain ⟨after, handles, rest⟩ := onwards b
      exact ⟨after, handles, rest.program⟩

/-- A request that the call goes on from, whether it fails or not. -/
theorem attemptBind {action : Action β} {next : Except Failure β → Call α}
    (onwards : ∀ reply, ∃ after, Handles action reply load after ∧ (next reply).Minds after) :
    Minds load (attempt action >>= next) := by
  refine ⟨fun reply => ?_⟩
  obtain ⟨after, handles, rest⟩ := onwards reply
  exact ⟨after, handles, rest.program⟩

theorem of_asks {call : Call α} (asks : call.Asks Action.SparesFiles) : call.Minds none :=
  ⟨asks.program.minds⟩

end Minds

end Call

/-! ## Calls -/

namespace MediaLibrary

open Call (Minds)

theorem spares_announce : (Call.announce .media).Asks Action.SparesFiles :=
  .announce trivial

/-- An upload begins with a file to store, under its id and its cleaned name. -/
theorem minds_upload (policy : UploadPolicy) (id : Uuid) (now : Instant) (file : Upload)
    (actor : String) :
    Minds (some ⟨id, FileName.clean file.fileName, false⟩)
      (upload policy id now file actor) := by
  unfold upload
  cases policy.refusal? file with
  | some reason => exact .throwBind (light_promise _ _) reason _
  | none =>
      refine .performBind (fun failure => ?_) fun uri => ?_
      · exact ⟨none, .unstored _ _ _ _ failure, light_none⟩
      refine ⟨_, .stored _ _ _ uri _, .attemptBind fun outcome => ?_⟩
      cases outcome with
      | ok recorded =>
          refine ⟨none, .recorded _, .of_asks ?_⟩
          exact .bind spares_announce fun _ => .pure _
      | error failure =>
          refine ⟨_, .unrecorded _ failure, .attemptBind fun reply => ?_⟩
          exact ⟨none, .cleaned _ _ reply, .throw light_none failure⟩

theorem minds_delete (id : Uuid) : Minds none (delete id) := by
  unfold delete
  refine .performBind (fun failure => ⟨none, .retained id failure, light_none⟩) fun found => ?_
  cases found with
  | none => exact ⟨none, .missing id, .throw light_none _⟩
  | some media =>
      refine ⟨_, .withdrawn id media, .attemptBind fun reply => ?_⟩
      exact ⟨none, .cleaned _ _ reply, .of_asks spares_announce⟩

end MediaLibrary

namespace Operation

/-- The file that an operation has to store. -/
def load? : Operation α → Option Load
  | upload _ id file _ => some ⟨id, FileName.clean file.fileName, false⟩
  | _ => none

theorem minds (operation : Operation α) (now : Instant) :
    (operation.call now).Minds operation.load? := by
  have ofContents {call : Call α} (asks : call.Asks Action.OnContents) : call.Minds none := by
    refine .of_asks (asks.imp fun action onContents => ?_)
    cases action with
    | content | announce => trivial
    | media | blob => exact onContents.elim
  have ofReads (unchanging : operation.stale? = none) : (operation.call now).Minds none := by
    refine .of_asks ((Operation.reads unchanging now).imp fun action reads => ?_)
    cases action with
    | content | announce => trivial
    | media request => cases request <;> first | exact reads.elim | trivial
    | blob => exact reads.elim
  cases operation with
  | create id submission actor =>
      exact ofContents (Contents.asks_create id now submission actor)
  | update id submission actor =>
      exact ofContents (Contents.asks_update id now submission actor)
  | restore id number actor => exact ofContents (Contents.asks_restore id now number actor)
  | delete id => exact ofContents (Contents.asks_delete id)
  | upload policy id file actor => exact MediaLibrary.minds_upload policy id now file actor
  | deleteMedia id => exact MediaLibrary.minds_delete id
  | get | versions | version | slugExists | query | queryMedia => exact ofReads rfl

end Operation

end ContentService
