import ContentService.Proofs.Media.Names
import ContentService.Proofs.Operation

/-! # Uploads

A file is examined before anything is asked of the stores, in a fixed order, and it is refused for
the first thing that it lacks. A file that lacks nothing is taken in if its bytes and its record can
be stored, and then the record tells what was stored and where
(`ContentService.MediaLibrary.upload_takes_what_lacks_nothing`).
-/

namespace ContentService

variable {policy : UploadPolicy} {file : Upload}

/-! ## Types -/

/-- The type that is told of a file: by what comes with it, or else by the extension of its name. -/
inductive UploadPolicy.Tells (policy : UploadPolicy) (declared : Option String) (name : String) :
    String → Prop
  /-- White space around the declared type does not count, nor does the case of its letters. -/
  | declared {raw : String} (comes : declared = some raw) (filled : Text.trim raw ≠ "") :
      Tells policy declared name (Text.asciiLower (Text.trim raw))
  /-- Nothing but white space is declared, and the extension is a known one. -/
  | guessed {stem extension type : String} (bare : ∀ raw ∈ declared, Text.trim raw = "")
      (filled : stem ≠ "") (plain : '.' ∉ extension.toList)
      (parts : name = stem ++ "." ++ extension)
      (known : policy.types.lookup (Text.asciiLower extension) = some type) :
      Tells policy declared name type
  | unknown (bare : ∀ raw ∈ declared, Text.trim raw = "")
      (unknown : ∀ stem extension : String, stem ≠ "" → '.' ∉ extension.toList →
        name = stem ++ "." ++ extension →
        policy.types.lookup (Text.asciiLower extension) = none) :
      Tells policy declared name unknownType

namespace UploadPolicy

theorem typeOf_of_declared {raw : String} (comes : file.contentType = some raw)
    (filled : Text.trim raw ≠ "") (name : String) :
    policy.typeOf file name = Text.asciiLower (Text.trim raw) := by
  simp only [typeOf, comes, Option.getD_some, if_neg filled]

theorem typeOf_of_bare (bare : ∀ raw ∈ file.contentType, Text.trim raw = "") (name : String) :
    policy.typeOf file name = policy.guess name := by
  have blank : Text.trim (file.contentType.getD "") = "" := by
    cases comes : file.contentType with
    | none => rfl
    | some raw => exact bare raw comes
  simp only [typeOf, blank, if_true]

theorem tells_iff {name type : String} :
    policy.Tells file.contentType name type ↔ policy.typeOf file name = type := by
  constructor
  · rintro (⟨comes, filled⟩ | ⟨bare, filled, plain, parts, known⟩ | ⟨bare, unknown⟩)
    · exact typeOf_of_declared comes filled name
    · rw [typeOf_of_bare bare, guess, FileName.extension?_eq_some_iff.mpr
        ⟨_, _, filled, plain, parts, rfl⟩, Option.bind_some, known, Option.getD_some]
    · rw [typeOf_of_bare bare, guess]
      cases has : FileName.extension? name with
      | none => rfl
      | some found =>
          obtain ⟨stem, extension, filled, plain, parts, rfl⟩ :=
            FileName.extension?_eq_some_iff.mp has
          rw [Option.bind_some, unknown stem extension filled plain parts, Option.getD_none]
  · rintro rfl
    by_cases declares : ∃ raw ∈ file.contentType, Text.trim raw ≠ ""
    · obtain ⟨raw, comes, filled⟩ := declares
      rw [typeOf_of_declared comes filled]
      exact .declared comes filled
    · have bare : ∀ raw ∈ file.contentType, Text.trim raw = "" := fun raw comes =>
        Classical.not_not.mp fun filled => declares ⟨raw, comes, filled⟩
      rw [typeOf_of_bare bare, guess]
      cases found : (FileName.extension? name).bind fun e => policy.types.lookup e with
      | some type =>
          obtain ⟨e, has, known⟩ := Option.bind_eq_some_iff.mp found
          obtain ⟨stem, extension, filled, plain, parts, rfl⟩ :=
            FileName.extension?_eq_some_iff.mp has
          exact .guessed bare filled plain parts known
      | none =>
          refine .unknown bare fun stem extension filled plain parts => ?_
          rwa [FileName.extension?_eq_some_iff.mpr ⟨_, _, filled, plain, parts, rfl⟩,
            Option.bind_some] at found

end UploadPolicy

/-- A type of images or of videos: the type goes on after the kind. -/
def Visual (type : String) : Prop :=
  ∃ rest : String, rest ≠ "" ∧ (type = "image/" ++ rest ∨ type = "video/" ++ rest)

theorem isAllowedType_iff {type : String} : isAllowedType type = true ↔ Visual type := by
  have extends_iff (kind : String) : (kind.toList.isPrefixOf type.toList &&
      decide (kind.toList.length < type.toList.length)) = true ↔
        ∃ rest : String, rest ≠ "" ∧ type = kind ++ rest := by
    rw [Bool.and_eq_true, List.isPrefixOf_iff_prefix, decide_eq_true_eq]
    constructor
    · rintro ⟨⟨rest, parts⟩, longer⟩
      refine ⟨.ofList rest, ?_, String.toList_injective ?_⟩
      · rintro empty
        rw [← String.ofList_toList (s := ""), String.ofList_inj] at empty
        rw [← parts, empty, String.toList_empty, List.append_nil] at longer
        exact absurd longer (lt_irrefl _)
      · rw [String.toList_append, String.toList_ofList, parts]
    · rintro ⟨rest, filled, rfl⟩
      rw [String.toList_append, List.length_append]
      refine ⟨List.prefix_append .., Nat.lt_add_of_pos_right (List.length_pos_iff.mpr ?_)⟩
      exact fun empty => filled (String.toList_eq_nil_iff.mp empty)
  simp only [isAllowedType, allowedTypes, List.any_cons, List.any_nil, Bool.or_false,
    Bool.or_eq_true, extends_iff, Visual, ← exists_or, and_or_left]

/-! ## Requirements -/

/-- What a file must have to be taken in. -/
inductive Requirement
  /-- Something of its name is left when it is cleaned. -/
  | named
  /-- There are bytes. -/
  | filled
  /-- There are not too many. -/
  | small
  /-- It is an image or a video. -/
  | visual
  deriving DecidableEq, Repr

namespace Requirement

/-- The order in which a file is examined. -/
def inOrder : List Requirement :=
  [named, filled, small, visual]

/-- A file has what is required. -/
def Met (policy : UploadPolicy) (file : Upload) : Requirement → Prop
  | named => FileName.clean file.fileName ≠ ""
  | filled => 1 ≤ file.data.length
  | small => file.data.length ≤ policy.maxBytes
  | visual => Visual (policy.typeOf file (FileName.clean file.fileName))

/-- The failure for a file that lacks what is required. -/
def failure (policy : UploadPolicy) (file : Upload) : Requirement → Failure
  | named => .validation (.single "file" "File name is required")
  | filled => .validation (.single "file" "File is empty")
  | small =>
    .payloadTooLarge ("File too large: " ++ String.ofList (Text.writeNat file.data.length) ++
      " bytes (max " ++ String.ofList (Text.writeNat policy.maxBytes) ++ " bytes)")
  | visual =>
    .invalidFileType ("File type not allowed: " ++
      policy.typeOf file (FileName.clean file.fileName))

instance (policy : UploadPolicy) (file : Upload) : (r : Requirement) → Decidable (r.Met policy file)
  | named => inferInstanceAs (Decidable (FileName.clean file.fileName ≠ ""))
  | filled => inferInstanceAs (Decidable (1 ≤ file.data.length))
  | small => inferInstanceAs (Decidable (file.data.length ≤ policy.maxBytes))
  | visual => decidable_of_iff _ isAllowedType_iff

/-- This is the first that a file lacks. -/
def Lacked (policy : UploadPolicy) (file : Upload) (r : Requirement) : Prop :=
  ¬ r.Met policy file ∧
    ∃ before after, inOrder = before ++ r :: after ∧ ∀ e ∈ before, e.Met policy file

theorem mem_inOrder (r : Requirement) : r ∈ inOrder := by
  cases r <;> decide

/-- What the examination of one requirement finds, which is nothing if it is met. -/
theorem found_eq_none_iff {r : Requirement} :
    (if r.Met policy file then none else some (r.failure policy file)) = none ↔
      r.Met policy file := by
  by_cases met : r.Met policy file
  · exact iff_of_true (if_pos met) met
  · rw [if_neg met]
    exact iff_of_false (Option.some_ne_none _) met

end Requirement

open Requirement (inOrder)

/-- The requirements are examined in order. -/
theorem UploadPolicy.refusal?_eq_findSome? (policy : UploadPolicy) (file : Upload) :
    policy.refusal? file = inOrder.findSome? fun r =>
      if r.Met policy file then none else some (r.failure policy file) := by
  unfold refusal? inOrder
  simp only [List.findSome?_cons, List.findSome?_nil]
  by_cases named : Requirement.named.Met policy file
  case neg =>
    rw [if_neg named, if_pos (Classical.not_not.mp named)]
    rfl
  rw [if_pos named, if_neg named]
  by_cases filled : Requirement.filled.Met policy file
  case neg =>
    rw [if_neg filled, if_pos (Nat.lt_one_iff.mp (Nat.lt_of_not_le filled))]
    rfl
  rw [if_pos filled, if_neg (Nat.ne_of_gt filled)]
  by_cases small : Requirement.small.Met policy file
  case neg =>
    rw [if_neg small, if_pos (Nat.lt_of_not_le small)]
    rfl
  rw [if_pos small, if_neg (Nat.not_lt_of_le small)]
  by_cases visual : Requirement.visual.Met policy file
  case neg =>
    have other := Bool.eq_false_iff.mpr fun allowed => visual (isAllowedType_iff.mp allowed)
    rw [if_neg visual, other]
    rfl
  rw [if_pos visual, isAllowedType_iff.mpr visual]
  rfl

theorem UploadPolicy.refusal?_eq_none_iff :
    policy.refusal? file = none ↔ ∀ r, Requirement.Met policy file r := by
  rw [refusal?_eq_findSome?, List.findSome?_eq_none_iff]
  constructor
  · exact fun nothing r => Requirement.found_eq_none_iff.mp (nothing r r.mem_inOrder)
  · exact fun met r _ => Requirement.found_eq_none_iff.mpr (met r)

theorem UploadPolicy.refusal?_eq_some_iff {failure : Failure} :
    policy.refusal? file = some failure ↔
      ∃ r, Requirement.Lacked policy file r ∧ failure = r.failure policy file := by
  rw [refusal?_eq_findSome?, List.findSome?_eq_some_iff]
  constructor
  · rintro ⟨before, r, after, order, told, earlier⟩
    obtain ⟨unmet, same⟩ := Option.ite_none_left_eq_some.mp told
    refine ⟨r, ⟨unmet, before, after, order, fun e member => ?_⟩, (Option.some.inj same).symm⟩
    exact Requirement.found_eq_none_iff.mp (earlier e member)
  · rintro ⟨r, ⟨unmet, before, after, order, earlier⟩, rfl⟩
    exact ⟨before, r, after, order, if_neg unmet, fun e member => if_pos (earlier e member)⟩

/-! ## Uploads -/

theorem Upload.contentType_record (file : Upload) (policy : UploadPolicy) (id : Uuid)
    (uri actor : String) (now : Instant) : (file.record policy id uri actor now).contentType =
      policy.typeOf file (FileName.clean file.fileName) := by
  simp only [record]

theorem Upload.blobKey_record (file : Upload) (policy : UploadPolicy) (id : Uuid)
    (uri actor : String) (now : Instant) : (file.record policy id uri actor now).blobKey =
      blobKey id (FileName.clean file.fileName) := by
  simp only [Media.blobKey, record]

/-- The record that the store is asked to add, and the answer. -/
def Exchange.recording? : Exchange Action Failure → Option (Media × Except Failure Unit)
  | ⟨.media (.insert media), reply⟩ => some (media, reply)
  | _ => none

/-- The answer to a request to store bytes. -/
def Exchange.storing? : Exchange Action Failure → Option (Except Failure String)
  | ⟨.blob (.put _ _ _), reply⟩ => some reply
  | _ => none

namespace Uploading

variable {id : Uuid} {now : Instant} {actor : String} {said : List (Exchange Action Failure)}
  {result : Except Failure Media}

/-- The answer for the record decides about the upload. -/
theorem of_recording (uploading : Uploading policy id now file actor said result) {media : Media}
    {reply : Except Failure Unit} (asked : ⟨.media (.insert media), reply⟩ ∈ said) :
    policy.refusal? file = none ∧ result = reply.map (fun _ => media) ∧
      ∃ uri, media = file.record policy id uri actor now ∧
        ⟨file.put policy id, .ok uri⟩ ∈ said := by
  have recording : (media, reply) ∈ said.filterMap Exchange.recording? :=
    List.mem_filterMap.mpr ⟨_, asked, rfl⟩
  cases uploading with
  | refused | unstored => cases recording
  | unrecorded uri failure _ fits =>
      cases List.mem_singleton.mp recording
      exact ⟨fits, rfl, uri, rfl, List.mem_cons_self⟩
  | done uri _ fits =>
      cases List.mem_singleton.mp recording
      exact ⟨fits, rfl, uri, rfl, List.mem_cons_self⟩

/-- If the bytes are not stored, the failure of that is the upload's. -/
theorem of_unstored (uploading : Uploading policy id now file actor said result) {failure : Failure}
    (asked : ⟨file.put policy id, .error failure⟩ ∈ said) : result = .error failure := by
  have storing : .error failure ∈ said.filterMap Exchange.storing? :=
    List.mem_filterMap.mpr ⟨_, asked, rfl⟩
  cases uploading with
  | refused => cases storing
  | unstored => cases List.mem_singleton.mp storing; rfl
  | unrecorded | done => cases List.mem_singleton.mp storing

theorem of_ok {media : Media} (uploading : Uploading policy id now file actor said (.ok media)) :
    policy.refusal? file = none ∧ (∃ uri, ⟨file.put policy id, .ok uri⟩ ∈ said) ∧
      ⟨.media (.insert media), .ok ()⟩ ∈ said := by
  cases uploading with
  | done uri reply fits =>
      exact ⟨fits, ⟨uri, List.mem_cons_self⟩, List.mem_cons_of_mem _ List.mem_cons_self⟩

theorem of_error {failure : Failure} (fits : policy.refusal? file = none)
    (uploading : Uploading policy id now file actor said (.error failure)) :
    ⟨file.put policy id, .error failure⟩ ∈ said ∨
      ∃ media, ⟨.media (.insert media), .error failure⟩ ∈ said := by
  cases uploading with
  | refused failure told =>
      rw [fits] at told
      cases told
  | unstored => exact .inl List.mem_cons_self
  | unrecorded uri failure reply =>
      exact .inr ⟨_, List.mem_cons_of_mem _ List.mem_cons_self⟩

theorem of_refused (uploading : Uploading policy id now file actor said result) {failure : Failure}
    (told : policy.refusal? file = some failure) : result = .error failure ∧ said = [] := by
  cases uploading with
  | refused reason same =>
      rw [told] at same
      cases same
      exact ⟨rfl, rfl⟩
  | unstored _ fits | unrecorded _ _ _ fits | done _ _ fits =>
      rw [told] at fits
      cases fits

end Uploading

namespace MediaLibrary

/-- **What uploads take in.** Whatever the stores are, in whatever state, and however they answer,
an upload succeeds exactly if the file has all that is required and its bytes and its record are
stored. A file that lacks something is refused for what it lacks first, and nothing is asked of the
stores; if it lacks nothing, a failure is that of the store which refused. A record that is stored
has the cleaned name, the number of bytes, which is at least one and not above the limit, the type
of the file, which is one of images or videos, and the address under which the bytes were stored by
the key of the record. -/
theorem upload_takes_what_lacks_nothing {σ : Type}
    (answer : {β : Type} → List (Exchange Action Failure) → Action β → σ → Except Failure β × σ)
    (s : σ) (policy : UploadPolicy) (id : Uuid) (now : Instant) (file : Upload) (actor : String) :
    let ended := Program.record answer (upload policy id now file actor) s
    let result := ended.1
    let said := ended.2.2
    let name := FileName.clean file.fileName
    let type := policy.typeOf file name
    let put : Action String := .blob (.put (blobKey id name) file.data type)
    policy.Tells file.contentType name type ∧
    ((∃ media, result = .ok media) ↔
      (∀ r, Requirement.Met policy file r) ∧ (∃ uri, ⟨put, .ok uri⟩ ∈ said) ∧
        ∃ media, ⟨.media (.insert media), .ok ()⟩ ∈ said) ∧
    (∀ r, Requirement.Lacked policy file r → ended = (.error (r.failure policy file), s, [])) ∧
    ((∀ r, Requirement.Met policy file r) → ∀ failure, result = .error failure ↔
      ⟨put, .error failure⟩ ∈ said ∨ ∃ media, ⟨.media (.insert media), .error failure⟩ ∈ said) ∧
    ∀ media, ⟨.media (.insert media), .ok ()⟩ ∈ said →
      result = .ok media ∧ media.fileName = name ∧ media.size = file.data.length ∧
        1 ≤ media.size ∧ media.size ≤ policy.maxBytes ∧ media.contentType = type ∧ Visual type ∧
        ⟨.blob (.put media.blobKey file.data media.contentType), .ok media.blobUri⟩ ∈ said := by
  obtain ⟨runs, passes⟩ := Program.record_passes answer (upload policy id now file actor) s
  generalize Program.record answer (upload policy id now file actor) s = ended at runs passes ⊢
  obtain ⟨result, after, said⟩ := ended
  have uploading : Uploading policy id now file actor said result := uploading_of_runs runs
  dsimp only
  refine ⟨UploadPolicy.tells_iff.mpr rfl, ⟨?_, ?_⟩, ?_, fun met failure => ⟨?_, ?_⟩, ?_⟩
  · rintro ⟨media, succeeded⟩
    rw [succeeded] at uploading
    obtain ⟨fits, stored, recorded⟩ := uploading.of_ok
    exact ⟨UploadPolicy.refusal?_eq_none_iff.mp fits, stored, media, recorded⟩
  · rintro ⟨-, -, media, recorded⟩
    exact ⟨media, (uploading.of_recording recorded).2.1⟩
  · intro r lacked
    obtain ⟨rfl, rfl⟩ :=
      uploading.of_refused (UploadPolicy.refusal?_eq_some_iff.mpr ⟨r, lacked, rfl⟩)
    cases passes
    rfl
  · intro failed
    rw [failed] at uploading
    exact uploading.of_error (UploadPolicy.refusal?_eq_none_iff.mpr met)
  · rintro (unstored | ⟨media, unrecorded⟩)
    · exact uploading.of_unstored unstored
    · exact (uploading.of_recording unrecorded).2.1
  · intro media recorded
    obtain ⟨fits, succeeded, uri, rfl, stored⟩ := uploading.of_recording recorded
    have met := UploadPolicy.refusal?_eq_none_iff.mp fits
    have typed := file.contentType_record policy id uri actor now
    rw [typed, Upload.blobKey_record]
    exact ⟨succeeded, rfl, rfl, Int.ofNat_le.mpr (met .filled), Int.ofNat_le.mpr (met .small), rfl,
      met .visual, stored⟩

/-- A file with a declared type, under a name with folders, a space and a point in front. -/
def holiday (data : Bytes) : Upload :=
  ⟨"..\\home/ada/.our holiday.JPG ", some " IMAGE/jpeg", data⟩

theorem upload_takes_what_lacks_nothing_holiday :
    let policy : UploadPolicy := ⟨3, commonTypes⟩
    let call (data : Bytes) := upload policy (.ofNat 1) (june 1) (holiday data) "ada"
    let before := Surroundings.initial .memory
    let ended := before.perform (fun _ => .fine) (call [1, 2, 3])
    (∀ r, Requirement.Met policy (holiday [1, 2, 3]) r) ∧
      (∃ media, ended.1 = .ok media ∧ media.fileName = "our_holiday.JPG" ∧
        media.contentType = "image/jpeg" ∧ media.size = 3 ∧
        ⟨.blob (.put media.blobKey [1, 2, 3] media.contentType), .ok media.blobUri⟩ ∈ ended.2.2) ∧
      Requirement.Lacked policy (holiday []) .filled ∧
      before.perform (fun _ => .fine) (call []) =
        (.error (Requirement.failure policy (holiday []) .filled), before, []) := by
  intro policy call before ended
  have lacked : Requirement.Lacked policy (holiday []) .filled :=
    ⟨by decide, [.named], [.small, .visual], rfl, by decide +kernel⟩
  have succeeds : ended.1.toOption.isSome := by decide +kernel
  obtain ⟨-, accepts, -, -, told⟩ := upload_takes_what_lacks_nothing
    (Surroundings.answerInTurn fun _ => .fine) before policy (.ofNat 1) (june 1)
    (holiday [1, 2, 3]) "ada"
  obtain ⟨-, -, refuses, -⟩ := upload_takes_what_lacks_nothing
    (Surroundings.answerInTurn fun _ => .fine) before policy (.ofNat 1) (june 1) (holiday []) "ada"
  obtain ⟨met, -, media, recorded⟩ := accepts.mp (exists_of_isSome succeeds)
  obtain ⟨succeeded, named, sized, -, -, typed, -, stored⟩ := told media recorded
  refine ⟨met, ⟨media, succeeded, named.trans ?_, typed.trans ?_, sized, stored⟩, lacked,
    refuses .filled lacked⟩
  · decide +kernel
  · decide +kernel

end MediaLibrary

end ContentService
