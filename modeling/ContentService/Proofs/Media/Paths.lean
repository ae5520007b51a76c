import ContentService.ObjectStorage
import ContentService.Proofs.Media.Uploads
import ContentService.Proofs.Text.Ids

/-! # Keys as paths

The key of a file is a path with the id and the kept name of the file as its last two segments.
However the file was named, the path leads nowhere else, and no two files have one key or one
address (`ContentService.FileName.names_safe_keys_apart`).
-/

namespace ContentService

/-! ## Segments -/

/-- The segments of a key, which slashes divide. -/
def segments (key : String) : List String :=
  (key.toList.splitOn '/').map String.ofList

/-- A path with three segments, each of which is the name of a place. -/
structure Direct (key : String) : Prop where
  three : (segments key).length = 3
  places : ∀ segment ∈ segments key, segment ≠ "" ∧ segment ≠ "." ∧ segment ≠ ".."

theorem slash_notMem_writeChars (id : Uuid) : '/' ∉ id.writeChars := by
  intro slash
  rcases Uuid.mem_writeChars slash with hyphen | ⟨v, small, digit⟩
  · cases hyphen
  · have others : ∀ v < 16, '/' ≠ v.digitChar := by decide
    exact others v small digit

theorem segments_blobKey (id : Uuid) {name : String} (whole : '/' ∉ name.toList) :
    segments (blobKey id name) = ["media", id.write, name] := by
  have parts : (blobKey id name).toList =
      ['/'].intercalate ["media".toList, id.writeChars, name.toList] := by
    have front : "media/".toList = "media".toList ++ ['/'] := by decide
    have slash : "/".toList = ['/'] := by decide
    simp only [blobKey, Uuid.write, String.toList_append, String.toList_ofList, front, slash,
      List.append_assoc, List.intercalate_cons_cons, List.intercalate_singleton]
  have plain : ∀ part ∈ ["media".toList, id.writeChars, name.toList], '/' ∉ part := by
    intro part member
    simp only [List.mem_cons, List.not_mem_nil, or_false] at member
    rcases member with rfl | rfl | rfl
    · decide
    · exact slash_notMem_writeChars id
    · exact whole
  rw [segments, parts, List.splitOn_intercalate '/' plain (List.cons_ne_nil _ _)]
  simp only [List.map_cons, List.map_nil, String.ofList_toList, Uuid.write]

theorem write_ne {id : Uuid} {text : String} (short : text.toList.length < 36) :
    id.write ≠ text := by
  rintro rfl
  rw [Uuid.write, String.toList_ofList, Uuid.length_writeChars] at short
  exact absurd short (lt_irrefl _)

/-- The key of a file with a safe name is direct. -/
theorem direct_blobKey (id : Uuid) {name : String} (safe : FileName.Safe name)
    (filled : name ≠ "") : Direct (blobKey id name) := by
  have whole : '/' ∉ name.toList := fun slash =>
    Bool.false_ne_true ((safe.plain '/' slash).not_separator.symm.trans rfl)
  have parts := segments_blobKey id whole
  constructor
  case three =>
    rw [parts]
    rfl
  case places =>
    rw [parts]
    intro segment member
    simp only [List.mem_cons, List.not_mem_nil, or_false] at member
    rcases member with rfl | rfl | rfl
    · decide
    · exact ⟨write_ne (by decide), write_ne (by decide), write_ne (by decide)⟩
    · refine ⟨filled, ?_, ?_⟩
      · rintro rfl
        exact safe.front rfl
      · rintro rfl
        exact safe.front rfl

/-! ## Keys of uploads -/

/-- The key that a request is about. -/
def Exchange.key? : Exchange Action Failure → Option String
  | ⟨.blob (.put key _ _), _⟩ => some key
  | ⟨.blob (.delete key), _⟩ => some key
  | _ => none

theorem Uploading.key_eq {policy : UploadPolicy} {id : Uuid} {now : Instant} {file : Upload}
    {actor : String} {said : List (Exchange Action Failure)} {result : Except Failure Media}
    (uploading : Uploading policy id now file actor said result) {e : Exchange Action Failure}
    (member : e ∈ said) {key : String} (about : e.key? = some key) :
    policy.refusal? file = none ∧ key = blobKey id (FileName.clean file.fileName) := by
  have listed : key ∈ said.filterMap Exchange.key? := List.mem_filterMap.mpr ⟨e, member, about⟩
  cases uploading with
  | refused => cases listed
  | unstored failure fits => exact ⟨fits, List.mem_singleton.mp listed⟩
  | unrecorded uri failure reply fits =>
      refine ⟨fits, ?_⟩
      rcases List.mem_cons.mp listed with same | again
      · exact same
      · exact List.mem_singleton.mp again
  | done uri reply fits => exact ⟨fits, List.mem_singleton.mp listed⟩

theorem ObjectStorage.uri_inj {storage : ObjectStorage} {key other : String} :
    storage.uri key = storage.uri other ↔ key = other := by
  rw [uri, uri, String.append_right_inj]

namespace FileName

open MediaLibrary (upload)

/-- **Safe names and distinct keys.** Whatever a file is called, the name under which it is kept is
safe, is itself kept as it is, and depends on nothing in front of the last slash or backslash.
However the stores answer, all keys that an upload uses are direct paths, that of the record that it
stores included. Keys tell the id and the name, and the addresses in a bucket tell the key. -/
theorem names_safe_keys_apart :
    (∀ name, Safe (clean name) ∧ clean (clean name) = clean name) ∧
    (∀ (front last : String) (separator : Char), separator = '/' ∨ separator = '\\' →
      '/' ∉ last.toList → '\\' ∉ last.toList →
      clean (front ++ separator.toString ++ last) = clean last) ∧
    (∀ (policy : UploadPolicy) (id : Uuid) (now : Instant) (file : Upload) (actor : String)
      (σ : Type) (s : σ)
      (answer : {β : Type} → List (Exchange Action Failure) → Action β → σ → Except Failure β × σ),
      let ended := Program.record answer (upload policy id now file actor) s
      (∀ e ∈ ended.2.2, ∀ key ∈ e.key?, Direct key) ∧
        ∀ media, ended.1 = .ok media → Direct media.blobKey) ∧
    (∀ (a b : Uuid) (name other : String),
      blobKey a name = blobKey b other ↔ a = b ∧ name = other) ∧
    ∀ endpoint bucket base key other : String,
      let storage := ObjectStorage.ofBucket endpoint bucket base
      storage.uri key = storage.uri other ↔ key = other := by
  refine ⟨fun name => ⟨safe_clean name, clean_eq_self_iff.mpr (safe_clean name)⟩, ?_, ?_,
    fun _ _ _ _ => blobKey_inj, fun _ _ _ _ _ => ObjectStorage.uri_inj⟩
  · intro front last separator divides slash backslash
    refine clean_append ?_ fun c member => ?_
    · rw [isSeparator, Bool.or_eq_true, decide_eq_true_eq, decide_eq_true_eq]
      exact divides
    · rw [isSeparator, Bool.or_eq_false_iff, decide_eq_false_iff_not, decide_eq_false_iff_not]
      exact ⟨fun same => slash (same ▸ member), fun same => backslash (same ▸ member)⟩
  · intro policy id now file actor σ s answer
    obtain ⟨runs, -⟩ := Program.record_passes answer (upload policy id now file actor) s
    generalize Program.record answer (upload policy id now file actor) s = ended at runs ⊢
    obtain ⟨result, after, said⟩ := ended
    have uploading : Uploading policy id now file actor said result := uploading_of_runs runs
    have direct (fits : policy.refusal? file = none) : Direct (blobKey id (clean file.fileName)) :=
      direct_blobKey id (safe_clean _) (UploadPolicy.refusal?_eq_none_iff.mp fits .named)
    constructor
    · intro e member key about
      obtain ⟨fits, rfl⟩ := uploading.key_eq member about
      exact direct fits
    · rintro media rfl
      obtain ⟨-, -, recorded⟩ := uploading.of_ok
      obtain ⟨fits, -, uri, rfl, -⟩ := uploading.of_recording recorded
      rw [Upload.blobKey_record]
      exact direct fits

theorem names_safe_keys_apart_holiday :
    let file := MediaLibrary.holiday [1, 2, 3]
    let last := ".our holiday.JPG "
    let ended := (Surroundings.initial .memory).perform (fun _ => .fine)
      (upload ⟨3, commonTypes⟩ (.ofNat 1) (june 1) file "ada")
    '/' ∉ last.toList ∧ '\\' ∉ last.toList ∧ clean file.fileName = clean last ∧
      clean last = "our_holiday.JPG" ∧ (∃ media, ended.1 = .ok media ∧ Direct media.blobKey) ∧
      blobKey (.ofNat 1) last ≠ blobKey (.ofNat 2) last ∧
      (ObjectStorage.ofBucket "" "files" "/files//").uri "a" ≠
        (ObjectStorage.ofBucket "" "files" "/files//").uri "b" := by
  intro file last ended
  obtain ⟨-, segment, uploads, keys, addresses⟩ := names_safe_keys_apart
  have slash : '/' ∉ last.toList := by decide
  have backslash : '\\' ∉ last.toList := by decide
  have succeeds : ended.1.toOption.isSome := by decide +kernel
  obtain ⟨media, succeeded⟩ := exists_of_isSome succeeds
  refine ⟨slash, backslash, segment "..\\home/ada" last '/' (.inl rfl) slash backslash,
    by decide +kernel, ⟨media, succeeded, (uploads ..).2 media succeeded⟩, ?_, ?_⟩
  · exact fun same => absurd ((keys ..).mp same).1 (by decide)
  · exact fun same => absurd ((addresses ..).mp same) (by decide)

end FileName

end ContentService
