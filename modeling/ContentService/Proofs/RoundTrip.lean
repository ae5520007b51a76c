import ContentService.Media.Codec
import ContentService.Proofs.Json.Values
import ContentService.Query.Codec

/-! # Texts keep values

The text that is written for a record, a version, a media record, a submission or a query is decoded
as what it was written for, so writing and reading may be repeated without end
(`ContentService.texts_keep_values`). What is asked of a value is only that its whole numbers have
32 or 64 bits, and those of a value that was decoded have.
-/

namespace ContentService

open Json Json.Schema

/-- The values that are held are decoded from their text, and any text that is decoded at all may be
replaced by the text of its value. -/
structure KeptByText {α : Type} (encode : α → Json) (decode : Decoder α) (Held : α → Prop) :
    Prop where
  read_back : ∀ a, Held a → decode (Json.read (encode a).write) = .ok a
  rewritten : ∀ (text : String) (a : α),
    decode (Json.read text) = .ok a → decode (Json.read (encode a).write) = .ok a

/-- It is enough that documents are decoded as what they were made from, and that only values which
are held are decoded. -/
theorem keptByText {α : Type} {encode : α → Json} {decode : Decoder α} {Held : α → Prop}
    (written : ∀ a, Written (encode a)) (back : ∀ a, Held a → decode (encode a) = .ok a)
    (held : ∀ j a, decode j = .ok a → Held a) : KeptByText encode decode Held := by
  have read_back : ∀ a, Held a → decode (Json.read (encode a).write) = .ok a := by
    intro a held
    rw [(written a).read_write]
    exact back a held
  exact ⟨read_back, fun text a decoded => read_back a (held _ a decoded)⟩

/-! ## Versions -/

namespace Version

/-- The number of a version has 32 bits. -/
def Held (v : Version) : Prop :=
  -2 ^ 31 ≤ v.number ∧ v.number ≤ 2 ^ 31 - 1

instance (v : Version) : Decidable v.Held :=
  inferInstanceAs (Decidable (_ ∧ _))

theorem written_encode (v : Version) : Written v.encode :=
  written_record ⟨.number _, .string _, .string _, written_ofOption _, .string _, .string _⟩

theorem decode_encode {v : Version} (held : v.Held) : Version.decode v.encode = .ok v := by
  have reads := Reads.pure Version.mk
    |>.and (.required "versionNumber" (integer_ofInt held.1 held.2))
    |>.and (.text "title" v.title)
    |>.and (.text "body" v.body)
    |>.and (.optional "coverImageUrl" (nullable_ofOption v.coverImageUrl))
    |>.and (.required "modifiedAt" (decode_time v.modifiedAt))
    |>.and (.text "modifiedBy" v.modifiedBy)
  exact Reads.decode reads (by decide)

theorem held_of_decode {j : Json} {v : Version} (decoded : Version.decode j = .ok v) : v.Held := by
  have number : (Schema.required "versionNumber" decodeNumber).Yields
      fun n => -2 ^ 31 ≤ n ∧ n ≤ 2 ^ 31 - 1 := .required fun _ _ => bounds_of_integer
  have yields : Version.schema.Yields Held := by
    iterate 5 refine .any ?_
    exact .and (.pure fun _ bounds _ _ _ _ _ => bounds) number
  exact yields.of_decode decoded

end Version

/-! ## Content -/

theorem Status.ofName?_name (status : Status) : ofName? status.name = some status := by
  cases status <;> decide

namespace Content

/-- The numbers of a record's versions have 32 bits. -/
def Held (c : Content) : Prop :=
  ∀ v ∈ c.versions, v.Held

instance (c : Content) : Decidable c.Held :=
  inferInstanceAs (Decidable (∀ v ∈ c.versions, v.Held))

theorem written_encode (c : Content) : Written c.encode :=
  written_record ⟨.string _, .string _, .string _, .string _, .string _, written_texts _, .string _,
    .string _, written_ofOption _, .string _, .string _, written_texts _, .string _, .string _,
    .string _, .string _, written_map fun v _ => v.written_encode⟩

theorem decode_encode {c : Content} (held : c.Held) : Content.decode c.encode = .ok c := by
  have versions : Decode.listOf Version.decode (.list (c.versions.map Version.encode)) =
      .ok c.versions := listOf_list fun v inside => Version.decode_encode (held v inside)
  have reads := Reads.pure
      (fun id contentType title slug body tags status language coverImageUrl metaTitle
          metaDescription metaKeywords createdAt updatedAt createdBy updatedBy versions =>
        Content.mk id ⟨contentType, title, slug, body, tags, status, language, coverImageUrl,
          metaTitle, metaDescription, metaKeywords⟩
          createdAt updatedAt createdBy updatedBy versions)
    |>.and (.required "id" (decode_id c.id))
    |>.and (.text "contentType" c.live.contentType)
    |>.and (.text "title" c.live.title)
    |>.and (.text "slug" c.live.slug)
    |>.and (.text "body" c.live.body)
    |>.and (.required "tags" (listOf_texts c.live.tags))
    |>.and (.required "status" ((Names.plain c.live.status.name).decode (Status.ofName?_name _)))
    |>.and (.text "language" c.live.language)
    |>.and (.optional "coverImageUrl" (nullable_ofOption c.live.coverImageUrl))
    |>.and (.text "metaTitle" c.live.metaTitle)
    |>.and (.text "metaDescription" c.live.metaDescription)
    |>.and (.required "metaKeywords" (listOf_texts c.live.metaKeywords))
    |>.and (.required "createdAt" (decode_time c.createdAt))
    |>.and (.required "updatedAt" (decode_time c.updatedAt))
    |>.and (.text "createdBy" c.createdBy)
    |>.and (.text "updatedBy" c.updatedBy)
    |>.and (.required "versions" versions)
  simp only [List.nil_append, List.cons_append] at reads
  exact Reads.decode reads (by decide)

theorem held_of_decode {j : Json} {c : Content} (decoded : Content.decode j = .ok c) : c.Held := by
  have versions : (Schema.required "versions" (Decode.listOf Version.decode)).Yields
      fun versions => ∀ v ∈ versions, v.Held := by
    refine .required fun j versions decoded v inside => ?_
    obtain ⟨element, decoded⟩ := exists_of_mem_listOf decoded inside
    exact Version.held_of_decode decoded
  -- Only the last of the seventeen members matters.
  have yields : Content.schema.Yields Held := by
    refine .and ?_ versions
    iterate 16 refine .any ?_
    exact .pure fun _ _ _ _ _ _ _ _ _ _ _ _ _ _ _ _ _ held => held
  exact yields.of_decode decoded

end Content

/-! ## Media -/

namespace Media

/-- The size of a file has 64 bits. -/
def Held (m : Media) : Prop :=
  -2 ^ 63 ≤ m.size ∧ m.size ≤ 2 ^ 63 - 1

instance (m : Media) : Decidable m.Held :=
  inferInstanceAs (Decidable (_ ∧ _))

theorem written_encode (m : Media) : Written m.encode :=
  written_record ⟨.string _, .string _, .string _, .string _, .number _, .string _, .string _⟩

theorem decode_encode {m : Media} (held : m.Held) : Media.decode m.encode = .ok m := by
  have reads := Reads.pure Media.mk
    |>.and (.required "id" (decode_id m.id))
    |>.and (.text "fileName" m.fileName)
    |>.and (.text "blobUri" m.blobUri)
    |>.and (.text "contentType" m.contentType)
    |>.and (.required "size" (integer_ofInt held.1 held.2))
    |>.and (.required "uploadedAt" (decode_time m.uploadedAt))
    |>.and (.text "uploadedBy" m.uploadedBy)
  exact Reads.decode reads (by decide)

theorem held_of_decode {j : Json} {m : Media} (decoded : Media.decode j = .ok m) : m.Held := by
  have size : (Schema.required "size" (Decode.integer (-2 ^ 63) (2 ^ 63 - 1))).Yields
      fun n => -2 ^ 63 ≤ n ∧ n ≤ 2 ^ 63 - 1 := .required fun _ _ => bounds_of_integer
  have yields : Media.schema.Yields Held := by
    iterate 2 refine .any ?_
    refine .and ?_ size
    iterate 4 refine .any ?_
    exact .pure fun _ _ _ _ _ bounds _ _ => bounds
  exact yields.of_decode decoded

end Media

/-! ## Submissions -/

namespace Submission

/-- A list of texts as Json, with null for none. -/
def textsOrNull (values : Option (List String)) : Json :=
  match values with
  | some values => .texts values
  | none => .null

theorem written_textsOrNull (values : Option (List String)) : Written (textsOrNull values) := by
  cases values with
  | none => exact .null
  | some values => exact written_texts values

theorem nullable_textsOrNull (values : Option (List String)) :
    Decode.nullable (Decode.listOf Decode.text) (textsOrNull values) = .ok values := by
  cases values with
  | none => rfl
  | some values => exact congrArg (Except.map some) (listOf_texts values)

theorem written_encode (s : Submission) : Written s.encode :=
  written_record ⟨written_ofOption _, written_ofOption _, written_ofOption _, written_ofOption _,
    written_textsOrNull s.tags, written_ofOption _, written_ofOption _, written_ofOption _,
    written_ofOption _, written_ofOption _, written_textsOrNull s.metaKeywords⟩

theorem decode_encode (s : Submission) : Submission.decode s.encode = .ok s := by
  have reads := Reads.pure Submission.mk
    |>.and (.omissible "contentType" (nullable_ofOption s.contentType))
    |>.and (.omissible "title" (nullable_ofOption s.title))
    |>.and (.omissible "slug" (nullable_ofOption s.slug))
    |>.and (.omissible "body" (nullable_ofOption s.body))
    |>.and (.omissible "tags" (nullable_textsOrNull s.tags))
    |>.and (.omissible "status" (nullable_ofOption s.status))
    |>.and (.omissible "language" (nullable_ofOption s.language))
    |>.and (.omissible "coverImageUrl" (nullable_ofOption s.coverImageUrl))
    |>.and (.omissible "metaTitle" (nullable_ofOption s.metaTitle))
    |>.and (.omissible "metaDescription" (nullable_ofOption s.metaDescription))
    |>.and (.omissible "metaKeywords" (nullable_textsOrNull s.metaKeywords))
  simp only [List.nil_append, List.cons_append] at reads
  exact Reads.decode reads (by decide)

end Submission

/-! ## Queries -/

namespace Query

/-- A name that no operator has but the one that matches nothing. -/
def Operator.Unknown (name : String) : Prop :=
  ∀ operator : Operator, operator ≠ .unsupported → operator.name ≠ name

/-- A name that no logic has but the one that matches nothing. -/
def Logic.Unknown (name : String) : Prop :=
  ∀ logic : Logic, logic ≠ .unsupported → logic.name ≠ name

theorem Operator.ofName_name (operator : Operator) : ofName operator.name = operator := by
  cases operator <;> decide

theorem Logic.ofName_name (logic : Logic) : ofName logic.name = logic := by
  cases logic <;> decide

theorem Direction.ofName?_name (direction : Direction) :
    ofName? direction.name = some direction := by
  cases direction <;> decide

theorem Operator.Unknown.ofName {name : String} (unknown : Operator.Unknown name) :
    Operator.ofName name = .unsupported := by
  rw [Operator.ofName, List.find?_eq_none.mpr, Option.getD_none]
  intro operator known same
  refine unknown operator ?_ (beq_iff_eq.mp same)
  rintro rfl
  exact absurd known (by decide)

theorem Logic.Unknown.ofName {name : String} (unknown : Logic.Unknown name) :
    Logic.ofName name = .unsupported := by
  rw [Logic.ofName, List.find?_eq_none.mpr, Option.getD_none]
  intro logic known same
  refine unknown logic ?_ (beq_iff_eq.mp same)
  rintro rfl
  exact absurd known (by decide)

theorem SortKey.decode_encode (key : SortKey) :
    Decode.record SortKey.schema key.encode = .ok key := by
  have reads := Reads.pure SortKey.mk
    |>.and (.text "field" key.field)
    |>.and (.defaulted "dir" .ascending
      ((Names.plain key.direction.name).decode (Direction.ofName?_name _)))
  exact Reads.decode reads (by decide)

theorem SortKey.written_encode (key : SortKey) : Written key.encode :=
  written_record ⟨.string _, .string _⟩

/-- A filter as Json, given the documents that name its operator and its logic. -/
def Filter.naming (operator logic : Json) (filter : Filter) : Json :=
  .record
    [("field", .string filter.field),
      ("operator", operator),
      ("value", .string filter.value),
      ("logic", logic),
      ("isCaseSensitive", .bool filter.caseSensitive)]

/-- A filter with the operator and the logic that two names mean. -/
def Filter.named (operator logic : String) (filter : Filter) : Filter :=
  { filter with operator := .ofName operator, logic := .ofName logic }

theorem Filter.decode_naming {operator logic : Json} {operatorName logicName : String}
    (namesOperator : Names operator operatorName) (namesLogic : Names logic logicName)
    (filter : Filter) :
    Decode.record Filter.schema (filter.naming operator logic) =
      .ok (filter.named operatorName logicName) := by
  have operator_decoded : Decode.name (fun name => some (Operator.ofName name)) operator =
      .ok (.ofName operatorName) := namesOperator.decode rfl
  have logic_decoded : Decode.name (fun name => some (Logic.ofName name)) logic =
      .ok (.ofName logicName) := namesLogic.decode rfl
  have case_decoded : Decode.bool (.bool filter.caseSensitive) = .ok filter.caseSensitive := rfl
  have reads := Reads.pure Filter.mk
    |>.and (.text "field" filter.field)
    |>.and (.required "operator" operator_decoded)
    |>.and (.text "value" filter.value)
    |>.and (.required "logic" logic_decoded)
    |>.and (.defaulted "isCaseSensitive" false case_decoded)
  exact Reads.decode reads (by decide)

theorem Filter.written_naming {operator logic : Json} (writtenOperator : Written operator)
    (writtenLogic : Written logic) (filter : Filter) : Written (filter.naming operator logic) :=
  written_record ⟨.string _, writtenOperator, .string _, writtenLogic, .bool _⟩

theorem Filter.decode_encode (filter : Filter) :
    Decode.record Filter.schema filter.encode = .ok filter := by
  have named : filter.named filter.operator.name filter.logic.name = filter := by
    rw [Filter.named, Operator.ofName_name, Logic.ofName_name]
  have decoded := filter.decode_naming (.plain filter.operator.name) (.plain filter.logic.name)
  rwa [named] at decoded

namespace Request

/-- A request as Json, given its filter's document. -/
def withFilter (filter : Json) (sort : List SortKey) : Json :=
  .record [("filter", filter), ("sort", .list (sort.map SortKey.encode))]

theorem written_withFilter {filter : Json} (written : Written filter) (sort : List SortKey) :
    Written (withFilter filter sort) :=
  written_record ⟨written, written_map fun key _ => key.written_encode⟩

theorem decode_withFilter {document : Json} {filter : Option Filter}
    (decoded : Decode.nullable (Decode.record Filter.schema) document = .ok filter)
    (sort : List SortKey) : Request.decode (withFilter document sort) = .ok ⟨filter, sort⟩ := by
  have keys : Decode.listOf (Decode.record SortKey.schema) (.list (sort.map SortKey.encode)) =
      .ok sort := listOf_list fun key _ => key.decode_encode
  have reads := Reads.pure Request.mk
    |>.and (.omissible "filter" decoded)
    |>.and (.defaulted "sort" [] keys)
  exact Reads.decode reads (by decide)

theorem encode_eq (request : Request) :
    request.encode = withFilter (request.filter.elim .null Filter.encode) request.sort := by
  obtain ⟨filter | filter, sort⟩ := request <;> rfl

theorem written_encode (request : Request) : Written request.encode := by
  rw [encode_eq]
  refine written_withFilter ?_ request.sort
  cases request.filter with
  | none => exact .null
  | some filter => exact filter.written_naming (.string _) (.string _)

theorem decode_encode (request : Request) : Request.decode request.encode = .ok request := by
  rw [encode_eq]
  refine decode_withFilter ?_ request.sort
  cases request.filter with
  | none => rfl
  | some filter => exact nullable_some filter.decode_encode fun same => nomatch same

/-- A request may name its filter's operator and logic in any way. -/
theorem decode_naming {operator logic : Json} {operatorName logicName : String}
    (namesOperator : Names operator operatorName) (namesLogic : Names logic logicName)
    (filter : Filter) (sort : List SortKey) :
    Request.decode (Json.read (withFilter (filter.naming operator logic) sort).write) =
      .ok ⟨some (filter.named operatorName logicName), sort⟩ := by
  have written := filter.written_naming namesOperator.written namesLogic.written
  rw [(written_withFilter written sort).read_write]
  have decoded := filter.decode_naming namesOperator namesLogic
  exact decode_withFilter (nullable_some decoded fun same => nomatch same) sort

end Request

end Query

/-! ## All values -/

/-- **Texts keep values.** What is written for a version, a record, a media record, a submission or
a query is decoded as that value, and whatever text is decoded, writing its value and decoding again
changes nothing. A query may name its operator and its logic in any way: a name that is not known
gives one that matches nothing, and it is still that one after writing and decoding. -/
theorem texts_keep_values :
    KeptByText Version.encode Version.decode Version.Held ∧
      KeptByText Content.encode Content.decode Content.Held ∧
      KeptByText Media.encode Media.decode Media.Held ∧
      KeptByText Submission.encode Submission.decode (fun _ => True) ∧
      KeptByText Query.Request.encode Query.Request.decode (fun _ => True) ∧
      ∀ (operator logic : Json) (operatorName logicName : String) (filter : Query.Filter)
        (sort : List Query.SortKey), Names operator operatorName → Names logic logicName →
        let named := filter.named operatorName logicName
        let document := Query.Request.withFilter (filter.naming operator logic) sort
        Query.Request.decode (Json.read document.write) = .ok ⟨some named, sort⟩ ∧
          Query.Request.decode (Json.read (Query.Request.encode ⟨some named, sort⟩).write) =
            .ok ⟨some named, sort⟩ ∧
          (Query.Operator.Unknown operatorName → named.operator = .unsupported) ∧
          (Query.Logic.Unknown logicName → named.logic = .unsupported) := by
  have requests : KeptByText Query.Request.encode Query.Request.decode (fun _ => True) :=
    keptByText Query.Request.written_encode (fun request _ => request.decode_encode)
      fun _ _ _ => True.intro
  refine ⟨keptByText Version.written_encode (fun _ => Version.decode_encode)
      fun _ _ => Version.held_of_decode,
    keptByText Content.written_encode (fun _ => Content.decode_encode)
      fun _ _ => Content.held_of_decode,
    keptByText Media.written_encode (fun _ => Media.decode_encode)
      fun _ _ => Media.held_of_decode,
    keptByText Submission.written_encode (fun s _ => s.decode_encode) fun _ _ _ => True.intro,
    requests, ?_⟩
  intro operator logic operatorName logicName filter sort namesOperator namesLogic
  exact ⟨Query.Request.decode_naming namesOperator namesLogic filter sort,
    requests.read_back _ True.intro, Query.Operator.Unknown.ofName, Query.Logic.Unknown.ofName⟩

/-- A record at the edges of its types: control characters, quotation marks and a character beyond
16 bits in its texts, the least number of 32 bits, and a leap second in the first year. -/
def edge : Content where
  id := .ofNat (2 ^ 128 - 1)
  live := ⟨"", "\"\\/", "\n\x00\x7f", "", [String.singleton (Char.ofNat 0x1F600)], .archived, "",
    none, "", "", []⟩
  createdAt := ⟨⟨firstYear, 1, 1, by decide, by decide, by decide, by decide⟩, 86399, 1999999999,
    by decide, by decide, by decide⟩
  updatedAt := .startOfDay ⟨lastYear, 12, 31, by decide, by decide, by decide, by decide⟩
  createdBy := ""
  updatedBy := ""
  versions := [⟨-2 ^ 31, "", "", some "",
    .startOfDay ⟨0, 2, 29, by decide, by decide, by decide, by decide⟩, ""⟩]

/-- The media record of a file of the greatest size. -/
def edgeFile : Media :=
  ⟨.ofNat 0, "\t", "", "", 2 ^ 63 - 1, edge.createdAt, ""⟩

theorem texts_keep_values_edge :
    edge.Held ∧ Content.decode (Json.read edge.encode.write) = .ok edge ∧
      edgeFile.Held ∧ Media.decode (Json.read edgeFile.encode.write) = .ok edgeFile ∧
      Names (.record [("between", .null)]) "between" ∧ Query.Operator.Unknown "between" ∧
      (Query.Filter.named "between" "date" ⟨"title", .eq, "a", .date, true⟩).operator =
        .unsupported := by
  have held : edge.Held := by decide
  have fileHeld : edgeFile.Held := by decide
  have unknown : Query.Operator.Unknown "between" := by
    intro operator _
    cases operator <;> decide
  obtain ⟨-, content, media, -, -, queries⟩ := texts_keep_values
  obtain ⟨-, -, operator, -⟩ := queries _ _ _ _ ⟨"title", .eq, "a", .date, true⟩ []
    (.tagged "between") (.plain "date")
  exact ⟨held, content.read_back edge held, fileHeld, media.read_back edgeFile fileHeld,
    .tagged "between", unknown, operator unknown⟩

end ContentService
