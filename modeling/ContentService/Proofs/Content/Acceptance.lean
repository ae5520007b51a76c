import ContentService.Proofs.Content.Interleaving
import ContentService.Proofs.Content.Valid

/-! # Accepted records

Clients submit whatever they like, but only what is accepted is written, and a restoration copies
what was accepted before. So every record is valid in every state, with its whole log, and its live
fields would be accepted again.
-/

namespace ContentService

variable {β : Type}

/-! ## What calls write -/

/-- A request that adds no record but a new one, and writes only valid editions. -/
def ContentRequest.WritesValid : ContentRequest β → Prop
  | .insert content =>
    ∃ id edition actor now, content = Content.initial id edition actor now ∧ edition.Valid
  | .apply _ (.write edition _) _ => edition.Valid
  | _ => True

/-- An action that adds no content record but a new one, and writes only valid editions. -/
def Action.WritesValid : Action β → Prop
  | .content request => request.WritesValid
  | _ => True

theorem ContentRequest.WritesValid.insertsNew {request : ContentRequest β}
    (valid : request.WritesValid) : request.InsertsNew := by
  cases request with
  | insert content =>
      obtain ⟨id, edition, actor, now, same, -⟩ := valid
      exact ⟨id, edition, actor, now, same⟩
  | _ => trivial

/-- A call writes only what was submitted to it and accepted, or what it restores. -/
theorem Interleaving.Order.writesValid (now : Instant) (order : Order) :
    (order.task now).Asks Action.WritesValid := by
  cases order with
  | create id submission actor =>
      refine Task.asks_of (Contents.asks_create_of (fun _ => trivial) trivial ?_)
      intro edition accepted
      exact ⟨id, edition, actor, now, rfl, Edition.valid_of_validate accepted⟩
  | update id submission actor =>
      refine Task.asks_of (Contents.asks_update_of trivial (fun _ => trivial) trivial ?_)
      intro edition accepted
      exact Edition.valid_of_validate accepted
  | restore id number actor => exact Task.asks_of (Contents.asks_restore_of trivial trivial)
  | delete id => exact Task.asks_of (Contents.asks_delete_of trivial trivial)

/-! ## What effects leave -/

/-- Records that were valid, and a request that writes only valid editions, leave valid records. -/
theorem Effect.Turns.valid {request : ContentRequest β} {reply : Except Failure β}
    {records kept : List Content} (turns : (request.effect reply).Turns records kept)
    (writes : request.WritesValid) (valid : ∀ c ∈ records, c.Valid) : ∀ c ∈ kept, c.Valid := by
  intro c member
  rcases turns.mem_cases member with ⟨present, -⟩ | ⟨id, edition, actor, now, inserted, rfl⟩ |
    ⟨old, present, change, edition, now, changed, asked, rfl⟩
  · exact valid c present
  · cases request with
    | insert content =>
        cases reply <;> cases inserted
        obtain ⟨_, written, _, _, rfl, accepted⟩ := writes
        exact .initial accepted _ _ now
    | _ => cases reply <;> cases inserted
  · have accepted : edition.Valid := by
      refine (valid old present).editionOf (fun written actor same => ?_) asked
      subst same
      cases request with
      | apply id other time =>
          cases reply <;> cases changed
          exact writes
      | _ => cases reply <;> cases changed
    exact (valid old present).write accepted _ now

/-! ## In the service -/

namespace Interleaving

variable {Client : Type} [DecidableEq Client]

/-- **Records are valid.** In every state that clients' calls lead to, whatever they submit, however
they are interleaved and whatever goes wrong, every record is valid with its whole log. A
restoration of any of its versions leaves it valid, and its live fields are accepted again as they
are. -/
theorem run_records_valid (backend : Backend) (events : List (Event Client)) :
    ∃ records, (run backend events).store.listing = .ok records ∧
      ∀ c ∈ records, c.Valid ∧
        (∀ number actor now changed v,
          c.apply (.restore number actor) now = .ok (changed, v) → changed.Valid) ∧
        c.live.submission.validate = .ok c.live := by
  have keeps : Keeps Action.WritesValid (fun records _ => ∀ c ∈ records, c.Valid)
      (run backend events) :=
    keeps_run Order.writesValid (fun writes => writes.insertsNew)
      (fun writes turns valid => turns.valid writes valid) (fun _ absent => nomatch absent)
      backend events
  obtain ⟨records, holds, valid⟩ := keeps.records
  refine ⟨records, Store.listing_eq_ok holds, fun c member => ⟨valid c member, ?_, ?_⟩⟩
  · intro number actor now changed v restored
    obtain ⟨edition, asked, rfl, -⟩ := Content.apply_eq_ok_iff.mp restored
    have accepted : edition.Valid := by
      refine (valid c member).editionOf (fun written actor same => ?_) asked
      cases same
    exact (valid c member).write accepted actor now
  · exact (valid c member).live.validate_submission

end Interleaving

end ContentService
