import ContentService.Proofs.Media.Custody
import ContentService.Proofs.Media.Key
import ContentService.Proofs.Store.Media
import Mathlib.Logic.Function.Basic

/-! # Places of files

Every file is in one place: in the hands of a call, with its record, or left behind by a removal
that was refused or by a call that was given up. The records, the keys of stored bytes and the keys
that could not be removed are as the places of the files say. Each answered action of a call takes
one file from one place to another.
-/

namespace ContentService

/-! ## What actions leave -/

/-- The keys under which bytes are stored. -/
def Surroundings.keys (s : Surroundings) : List String :=
  s.blobs.map (·.1)

variable {β : Type} {records kept : List Media} {keys left : List String}

/-- The media records and keys that an action may leave if it is answered so. -/
def Action.Leaves (action : Action β) (reply : Except Failure β) (records kept : List Media)
    (keys left : List String) : Prop :=
  match action, reply with
  | .media request, reply => request.Turns reply records kept ∧ left = keys
  | .blob (.put key _ _), .ok _ => kept = records ∧ left = key :: keys.filter (· ≠ key)
  | .blob (.delete key), .ok _ => kept = records ∧ left = keys.filter (· ≠ key)
  | _, _ => kept = records ∧ left = keys

/-- The key of bytes that an action was refused to remove. -/
def Action.refusal : Action β → Except Failure β → List String
  | .blob (.delete key), .error _ => [key]
  | _, _ => []

theorem Surroundings.answer_leaves {s : Surroundings} (holds : s.store.HoldsMedia records)
    (conditions : Conditions) (action : Action β) :
    ∃ kept, (s.answer conditions action).2.store.HoldsMedia kept ∧
      action.Leaves (s.answer conditions action).1 records kept s.keys
        (s.answer conditions action).2.keys := by
  obtain ⟨refusal, faults, server⟩ := conditions
  have keys_filter (key : String) : (s.blobs.filter (·.1 ≠ key)).map (·.1) =
      s.keys.filter (· ≠ key) := by
    rw [keys, List.filter_map]
    rfl
  cases refusal with
  | some failure =>
      cases action with
      | announce | content => exact ⟨records, holds, rfl, rfl⟩
      | media request => cases request <;> exact ⟨records, holds, rfl, rfl⟩
      | blob request => cases request <;> exact ⟨records, holds, rfl, rfl⟩
  | none =>
      cases action with
      | announce => exact ⟨records, holds, rfl, rfl⟩
      | content request => exact ⟨records, holds.answer faults request, rfl, rfl⟩
      | media request =>
          obtain ⟨kept, held, turns⟩ := Store.answerMedia_turns holds faults request
          exact ⟨kept, held, turns, rfl⟩
      | blob request =>
          cases request with
          | put key data type =>
              exact ⟨records, holds, rfl, congrArg (key :: ·) (keys_filter key)⟩
          | delete key => exact ⟨records, holds, rfl, keys_filter key⟩

/-! ## Places -/

namespace Files

/-- Where a file is, by its id. -/
inductive Place (Client : Type)
  /-- There is no such file, or nothing is left of it. -/
  | nowhere
  | inHand (client : Client) (name : String) (stored : Bool)
  | recorded (name : String)
  /-- The removal of its bytes was refused. -/
  | refused (name : String)
  /-- The call that had it in hand was given up. -/
  | forsaken (name : String)

/-- The name under which bytes of a file are stored. -/
def Place.bytes? {Client : Type} : Place Client → Option String
  | nowhere | inHand _ _ false => none
  | inHand _ name true | recorded name | refused name | forsaken name => some name

variable {Client : Type} {client : Client} {id : Uuid} {place : Place Client}
  {places turned : Uuid → Place Client} {refused more : List String} {load after : Option Load}

/-- Records, keys of stored bytes and keys of bytes that could not be removed are as the place of a
file says. -/
structure Tally (records : List Media) (keys refused : List String) (id : Uuid)
    (place : Place Client) : Prop where
  recorded : ∀ name, (∃ m ∈ records, m.id = id ∧ m.fileName = name) ↔ place = .recorded name
  present : ∀ name, blobKey id name ∈ keys ↔ place.bytes? = some name
  refused : ∀ name, blobKey id name ∈ refused ↔ place = .refused name

/-- The file that is in somebody's hands at a place. -/
def Place.load? (id : Uuid) : Place Client → Option Load
  | inHand _ name stored => some ⟨id, name, stored⟩
  | _ => none

/-- What a client's call has in hand is at a place of that kind, and nothing else is. -/
def InHand (places : Uuid → Place Client) (client : Client) (load : Option Load) : Prop :=
  ∀ file : Load, places file.id = .inHand client file.name file.stored ↔ load = some file

/-- Files that were somewhere have other places, none of them in the hands of other clients or
forsaken, and then a client's call has this in hand. -/
structure Turned (places turned : Uuid → Place Client) (client : Client) (after : Option Load) :
    Prop where
  inHand : InHand turned client after
  others : ∀ other, other ≠ client → ∀ load, InHand places other load → InHand turned other load
  nowhere : ∀ id, places id = .nowhere → turned id = .nowhere
  forsaken : ∀ id name, turned id = .forsaken name → places id = .forsaken name

/-! ### One file -/

namespace Tally

/-- Places of which there is nothing different to be seen. -/
theorem replace (tally : Tally records keys refused id place) {other : Place Client}
    (recorded : ∀ name, place = .recorded name ↔ other = .recorded name)
    (bytes : place.bytes? = other.bytes?)
    (refusals : ∀ name, place = .refused name ↔ other = .refused name) :
    Tally records keys refused id other where
  recorded name := (tally.recorded name).trans (recorded name)
  present name := bytes ▸ tally.present name
  refused name := (tally.refused name).trans (refusals name)

/-- Files with other ids are not concerned by what is done to one file. -/
theorem of_others {other : Uuid} (tally : Tally records keys refused other place)
    (differs : other ≠ id)
    (sameRecords : ∀ m : Media, m.id ≠ id → (m ∈ kept ↔ m ∈ records))
    (sameKeys : ∀ key, (∀ name, key ≠ blobKey id name) → (key ∈ left ↔ key ∈ keys))
    (sameRefused : ∀ key, (∀ name, key ≠ blobKey id name) → (key ∈ more ↔ key ∈ refused)) :
    Tally kept left more other place := by
  have unlike (name otherName : String) : blobKey other name ≠ blobKey id otherName :=
    fun same => differs (blobKey_injective same)
  refine ⟨fun name => ?_, fun name => ?_, fun name => ?_⟩
  · rw [← tally.recorded name]
    constructor
    · rintro ⟨m, member, rfl, named⟩
      exact ⟨m, (sameRecords m differs).mp member, rfl, named⟩
    · rintro ⟨m, member, rfl, named⟩
      exact ⟨m, (sameRecords m differs).mpr member, rfl, named⟩
  · rw [← tally.present name]
    exact sameKeys _ (unlike name)
  · rw [← tally.refused name]
    exact sameRefused _ (unlike name)

/-- Bytes are stored. -/
theorem store {name : String} (tally : Tally records keys refused id (.inHand client name false)) :
    Tally records (blobKey id name :: keys.filter (· ≠ blobKey id name)) refused id
      (.inHand client name true) where
  recorded other := (tally.recorded other).trans (iff_of_false nofun nofun)
  present other := by
    have absent : blobKey id other ∉ keys := fun member => nomatch (tally.present other).mp member
    simp only [List.mem_cons, List.mem_filter, absent, false_and, or_false, blobKey_inj, true_and,
      Place.bytes?, Option.some.injEq]
    exact eq_comm
  refused other := (tally.refused other).trans (iff_of_false nofun nofun)

/-- A record is added for stored bytes. -/
theorem record {media : Media} {time : Instant}
    (tally : Tally records keys refused media.id (.inHand client media.fileName true))
    (added : kept.Perm ({ media with uploadedAt := time } :: records.filter (·.id ≠ media.id))) :
    Tally kept keys refused media.id (.recorded media.fileName : Place Client) where
  recorded name := by
    constructor
    · rintro ⟨m, member, own, rfl⟩
      rcases List.mem_cons.mp (added.mem_iff.mp member) with rfl | old
      · rfl
      · exact absurd own (of_decide_eq_true (List.mem_filter.mp old).2)
    · intro same
      cases same
      exact ⟨_, added.mem_iff.mpr List.mem_cons_self, rfl, rfl⟩
  present name := tally.present name
  refused name := (tally.refused name).trans (iff_of_false nofun nofun)

/-- A record is removed while its bytes are still stored. -/
theorem withdraw {media : Media}
    (tally : Tally records keys refused media.id (.recorded media.fileName : Place Client)) :
    Tally (records.filter (·.id ≠ media.id)) keys refused media.id
      (.inHand client media.fileName true) where
  recorded name := by
    refine iff_of_false ?_ nofun
    rintro ⟨m, member, own, -⟩
    exact of_decide_eq_true (List.mem_filter.mp member).2 own
  present name := tally.present name
  refused name := (tally.refused name).trans (iff_of_false nofun nofun)

/-- Bytes without a record are removed. -/
theorem remove {name : String} (tally : Tally records keys refused id (.inHand client name true)) :
    Tally records (keys.filter (· ≠ blobKey id name)) refused id (.nowhere : Place Client) where
  recorded other := (tally.recorded other).trans (iff_of_false nofun nofun)
  present other := by
    refine iff_of_false (fun member => ?_) nofun
    obtain ⟨stored, differs⟩ := List.mem_filter.mp member
    have same : name = other := Option.some.inj ((tally.present other).mp stored)
    exact of_decide_eq_true differs (same ▸ rfl)
  refused other := (tally.refused other).trans (iff_of_false nofun nofun)

/-- Bytes without a record cannot be removed. -/
theorem refuse {name : String} (tally : Tally records keys refused id (.inHand client name true)) :
    Tally records keys (blobKey id name :: refused) id (.refused name : Place Client) where
  recorded other := (tally.recorded other).trans (iff_of_false nofun nofun)
  present other := tally.present other
  refused other := by
    have absent : blobKey id other ∉ refused :=
      fun member => nomatch (tally.refused other).mp member
    simp only [List.mem_cons, absent, or_false, blobKey_inj, true_and, Place.refused.injEq]
    exact eq_comm

end Tally

/-! ### One file among others -/

/-- A file of the call, or one that is in nobody's hands, has another place, and the call then has
in hand what is there. -/
theorem InHand.update (inHand : InHand places client load)
    (concerns : ∀ file ∈ load, file.id = id)
    (own : ∀ other name stored, place = .inHand other name stored → other = client) :
    InHand (Function.update places id place) client (place.load? id) := by
  intro file
  by_cases same : file.id = id
  · subst same
    rw [Function.update_self]
    cases place with
    | inHand other name stored =>
        obtain rfl := own other name stored rfl
        obtain ⟨id, fileName, fileStored⟩ := file
        simp only [Place.load?, Place.inHand.injEq, true_and, Option.some.injEq, Load.mk.injEq]
    | _ => exact iff_of_false nofun nofun
  · rw [Function.update_of_ne same, inHand file]
    refine iff_of_false (fun held => same (concerns file held)) fun held => same ?_
    cases place <;> cases held
    rfl

/-- A file that is in nobody else's hands has another place, in nobody else's hands. -/
theorem InHand.update_of_other {other : Client} (inHand : InHand places other load)
    (differs : other ≠ client)
    (was : ∀ other name stored, places id = .inHand other name stored → other = client)
    (own : ∀ other name stored, place = .inHand other name stored → other = client) :
    InHand (Function.update places id place) other load := by
  intro file
  by_cases same : file.id = id
  · subst same
    rw [Function.update_self, ← inHand file]
    exact iff_of_false (fun now => differs (own other _ _ now)) fun before =>
      differs (was other _ _ before)
  · rw [Function.update_of_ne same]
    exact inHand file

/-- A file of the call, or one with a record, has another place, which is in nobody else's hands. -/
theorem InHand.turned_update (inHand : InHand places client load)
    (concerns : ∀ file ∈ load, file.id = id)
    (was : (∃ name, places id = .recorded name) ∨
      ∃ name stored, places id = .inHand client name stored)
    (own : ∀ other name stored, place = .inHand other name stored → other = client)
    (minded : ∀ name, place ≠ .forsaken name) :
    Turned places (Function.update places id place) client (place.load? id) := by
  refine ⟨inHand.update concerns own, fun other differs load held => ?_, fun other before => ?_,
    fun other name now => ?_⟩
  · refine held.update_of_other differs (fun holder name stored before => ?_) own
    rcases was with ⟨name, recorded⟩ | ⟨name, stored, mine⟩
    · exact nomatch recorded.symm.trans before
    · exact (Place.inHand.inj (before.symm.trans mine)).1
  · have differs : other ≠ id := by
      rintro rfl
      rcases was with ⟨name, recorded⟩ | ⟨name, stored, mine⟩
      · exact nomatch recorded.symm.trans before
      · exact nomatch mine.symm.trans before
    rw [Function.update_of_ne differs, before]
  · by_cases same : other = id
    · subst same
      rw [Function.update_self] at now
      exact absurd now (minded name)
    · rwa [Function.update_of_ne same] at now

theorem InHand.turned_self (inHand : InHand places client load) :
    Turned places places client load :=
  ⟨inHand, fun _ _ _ held => held, fun _ nowhere => nowhere, fun _ _ forsaken => forsaken⟩

/-- A file that the call has in hand has another place. -/
theorem InHand.turned_of_hand {name : String} {stored : Bool}
    (inHand : InHand places client (some ⟨id, name, stored⟩))
    (own : ∀ other name stored, place = .inHand other name stored → other = client)
    (minded : ∀ name, place ≠ .forsaken name) :
    Turned places (Function.update places id place) client (place.load? id) := by
  have here : places id = .inHand client name stored := (inHand ⟨id, name, stored⟩).mpr rfl
  refine inHand.turned_update (fun file single => ?_) (.inr ⟨name, stored, here⟩) own minded
  cases single
  rfl

theorem forall_tally_update
    (others : ∀ other, other ≠ id → Tally kept left more other (places other))
    (here : Tally kept left more id place) :
    ∀ other, Tally kept left more other (Function.update places id place other) := by
  intro other
  by_cases same : other = id
  · subst same
    rwa [Function.update_self]
  · rw [Function.update_of_ne same]
    exact others other same

/-- **One file at a time.** An answered action of a call takes the file that the call has in hand,
if any, to another place, and everything else stays where it is. -/
theorem exists_turned_of_handles {action : Action β} {reply : Except Failure β}
    (handles : Handles action reply load after) (inHand : InHand places client load)
    (leaves : action.Leaves reply records kept keys left)
    (tallies : ∀ id, Tally records keys refused id (places id)) :
    ∃ turned, Turned places turned client after ∧
      ∀ id, Tally kept left (action.refusal reply ++ refused) id (turned id) := by
  cases handles with
  | content | announce | list | unrecorded | retained =>
      obtain ⟨rfl, rfl⟩ := leaves
      exact ⟨places, inHand.turned_self, tallies⟩
  | missing id =>
      obtain ⟨⟨missing, rfl⟩, rfl⟩ := leaves
      have others : records.filter (·.id ≠ id) = records := by
        refine List.filter_eq_self.mpr fun m member => decide_eq_true fun same => ?_
        exact List.find?_eq_none.mp missing.symm m member (beq_iff_eq.mpr same)
      rw [others]
      exact ⟨places, inHand.turned_self, tallies⟩
  | unstored id name =>
      obtain ⟨rfl, rfl⟩ := leaves
      have turned : Turned places (Function.update places id .nowhere) client none :=
        inHand.turned_of_hand nofun nofun
      refine ⟨_, turned, forall_tally_update (fun other _ => tallies other) ?_⟩
      have tally := tallies id
      rw [(inHand ⟨id, name, false⟩).mpr rfl] at tally
      exact tally.replace (fun _ => iff_of_false nofun nofun) rfl fun _ => iff_of_false nofun nofun
  | stored id name =>
      obtain ⟨rfl, rfl⟩ := leaves
      have turned : Turned places (Function.update places id (.inHand client name true)) client
          (some ⟨id, name, true⟩) := by
        refine inHand.turned_of_hand (fun other name stored same => ?_) nofun
        cases same
        rfl
      have tally := tallies id
      rw [(inHand ⟨id, name, false⟩).mpr rfl] at tally
      refine ⟨_, turned, forall_tally_update (fun other differs => ?_) tally.store⟩
      refine (tallies other).of_others differs (fun _ _ => .rfl) (fun key unlike => ?_)
        fun _ _ => .rfl
      simp only [List.mem_cons, List.mem_filter, unlike name, false_or, ne_eq, not_false_eq_true,
        decide_true, and_true]
  | recorded media =>
      obtain ⟨⟨time, added⟩, rfl⟩ := leaves
      have turned : Turned places
          (Function.update places media.id (.recorded media.fileName)) client none :=
        inHand.turned_of_hand nofun nofun
      have tally := tallies media.id
      rw [(inHand ⟨media.id, media.fileName, true⟩).mpr rfl] at tally
      refine ⟨_, turned, forall_tally_update (fun other differs => ?_) (tally.record added)⟩
      refine (tallies other).of_others differs (fun m elsewhere => ?_) (fun _ _ => .rfl)
        fun _ _ => .rfl
      have new : m ≠ { media with uploadedAt := time } := fun same => elsewhere (same ▸ rfl)
      simp only [added.mem_iff, List.mem_cons, new, false_or, List.mem_filter, ne_eq, elsewhere,
        not_false_eq_true, decide_true, and_true]
  | withdrawn id media =>
      obtain ⟨⟨found, rfl⟩, rfl⟩ := leaves
      obtain ⟨member, rfl⟩ := mem_and_key_of_find? found.symm
      have here : places media.id = .recorded media.fileName :=
        ((tallies media.id).recorded media.fileName).mp
          ⟨media, member, rfl, rfl⟩
      have turned : Turned places
          (Function.update places media.id (.inHand client media.fileName true)) client
          (some ⟨media.id, media.fileName, true⟩) := by
        refine inHand.turned_update (fun _ absent => nomatch absent) (.inl ⟨_, here⟩)
          (fun other name stored same => ?_) nofun
        cases same
        rfl
      have tally := tallies media.id
      rw [here] at tally
      refine ⟨_, turned, forall_tally_update (fun other differs => ?_) tally.withdraw⟩
      refine (tallies other).of_others differs (fun m elsewhere => ?_) (fun _ _ => .rfl)
        fun _ _ => .rfl
      simp only [List.mem_filter, ne_eq, elsewhere, not_false_eq_true, decide_true, and_true]
  | cleaned id name reply =>
      have tally := tallies id
      rw [(inHand ⟨id, name, true⟩).mpr rfl] at tally
      cases reply with
      | ok =>
          obtain ⟨rfl, rfl⟩ := leaves
          have turned : Turned places (Function.update places id .nowhere) client none :=
            inHand.turned_of_hand nofun nofun
          refine ⟨_, turned, forall_tally_update (fun other differs => ?_) tally.remove⟩
          refine (tallies other).of_others differs (fun _ _ => .rfl) (fun key unlike => ?_)
            fun _ _ => .rfl
          simp only [List.mem_filter, ne_eq, unlike name, not_false_eq_true, decide_true, and_true]
      | error failure =>
          obtain ⟨rfl, rfl⟩ := leaves
          have turned : Turned places (Function.update places id (.refused name)) client none :=
            inHand.turned_of_hand nofun nofun
          refine ⟨_, turned, forall_tally_update (fun other differs => ?_) tally.refuse⟩
          refine (tallies other).of_others differs (fun _ _ => .rfl) (fun _ _ => .rfl)
            fun key unlike => ?_
          simp only [Action.refusal, List.cons_append, List.nil_append, List.mem_cons, unlike name,
            false_or]

end Files

end ContentService
