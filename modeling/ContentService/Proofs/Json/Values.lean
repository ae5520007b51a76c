import ContentService.Content.Codec
import ContentService.Proofs.Calendar.ReadBack
import ContentService.Proofs.Json.Records

/-! # Values are decoded

What is written for a value of one of the simple kinds (a text or its absence, a number in range, a
list, a name, an id, a time) is decoded as that value; and numbers that were decoded are in range.
-/

namespace ContentService.Json

open Text

theorem nullable_ofOption (value : Option String) :
    Decode.nullable Decode.text (.ofOption value) = .ok value := by
  cases value <;> rfl

/-- A value that may be absent is decoded where it is not null. -/
theorem nullable_some {decode : Decoder α} {j : Json} {a : α} (decoded : decode j = .ok a)
    (something : j ≠ .null) : Decode.nullable decode j = .ok (some a) := by
  rw [Decode.nullable, decoded]
  · rfl
  · exact something

/-- A number in range is decoded: it is not spelled as a negative zero. -/
theorem integer_ofInt {least most n : Int} (above : least ≤ n) (below : n ≤ most) :
    Decode.integer least most (.ofInt n) = .ok n := by
  have plain : writeInt n ≠ ['-', '0'] := by
    unfold writeInt
    split
    · intro same
      have zero := eq_zero_of_writeNat (List.cons.inj same).2
      omega
    · intro same
      obtain ⟨c, rest, digits, digit⟩ := exists_cons_writeNat n.natAbs
      rw [(List.cons.inj (digits.symm.trans same)).1] at digit
      exact absurd digit (by decide)
  rw [ofInt, Decode.integer, if_neg plain, readSigned_writeInt above below]

/-- A number that was decoded is in range. -/
theorem bounds_of_integer {least most n : Int} {j : Json}
    (decoded : Decode.integer least most j = .ok n) : least ≤ n ∧ n ≤ most := by
  cases j with
  | number spelling =>
      rw [Decode.integer] at decoded
      split at decoded
      · exact nomatch decoded
      cases read : readSigned least most spelling with
      | error fault => rw [read] at decoded; exact nomatch decoded
      | ok number =>
          rw [read] at decoded
          cases decoded
          exact bounds_of_readSigned read
  | _ => exact nomatch decoded

/-! ## Lists -/

theorem all_map {encode : α → Json} {decode : Decoder α} {values : List α}
    (back : ∀ a ∈ values, decode (encode a) = .ok a) :
    Decode.all decode (values.map encode) = .ok values := by
  induction values with
  | nil => rfl
  | cons a rest ih =>
      rw [List.map_cons, Decode.all, back a List.mem_cons_self,
        ih fun a inside => back a (List.mem_cons_of_mem _ inside)]
      rfl

/-- A list is decoded if its elements are. -/
theorem listOf_list {encode : α → Json} {decode : Decoder α} {values : List α}
    (back : ∀ a ∈ values, decode (encode a) = .ok a) :
    Decode.listOf decode (.list (values.map encode)) = .ok values := by
  rw [list, Decode.listOf, all_map back]
  rfl

theorem listOf_texts (values : List String) :
    Decode.listOf Decode.text (.texts values) = .ok values :=
  listOf_list fun _ _ => rfl

theorem exists_of_mem_all {decode : Decoder α} {elements : List Json} {values : List α}
    (decoded : Decode.all decode elements = .ok values) {a : α} (inside : a ∈ values) :
    ∃ j, decode j = .ok a := by
  induction elements generalizing values with
  | nil =>
      cases decoded
      exact absurd inside List.not_mem_nil
  | cons j rest ih =>
      obtain ⟨head, first, decoded⟩ := exists_of_bind_eq_ok decoded
      obtain ⟨tail, others, decoded⟩ := exists_of_bind_eq_ok decoded
      cases decoded
      rcases List.mem_cons.mp inside with rfl | inside
      · exact ⟨j, first⟩
      · exact ih others inside

/-- Each element of a list that was decoded was decoded itself. -/
theorem exists_of_mem_listOf {decode : Decoder α} {j : Json} {values : List α}
    (decoded : Decode.listOf decode j = .ok values) {a : α} (inside : a ∈ values) :
    ∃ element, decode element = .ok a := by
  cases j with
  | array elements closed =>
      obtain ⟨found, all, decoded⟩ := exists_of_bind_eq_ok decoded
      cases closed with
      | false => exact nomatch decoded
      | true =>
          cases decoded
          exact exists_of_mem_all all inside
  | _ => exact nomatch decoded

/-! ## Names -/

/-- Documents that give a name: its text, or an object whose only member has it and is null. -/
inductive Names : Json → String → Prop
  | plain (name : String) : Names (.string name) name
  | tagged (name : String) : Names (.record [(name, .null)]) name

theorem Names.written {j : Json} {name : String} (names : Names j name) : Written j := by
  cases names with
  | plain => exact .string name
  | tagged =>
      refine .record fun member inside => ?_
      rw [List.mem_singleton.mp inside]
      exact .null

/-- A name is decoded as what it means. -/
theorem Names.decode {meaning : String → Option α} {j : Json} {name : String} {a : α}
    (names : Names j name) (means : meaning name = some a) : Decode.name meaning j = .ok a := by
  cases names with
  | plain => simp only [Decode.name, means]
  | tagged =>
      simp only [record, List.map_cons, List.map_nil, Decode.name, means, Decode.onlyNull]
      rfl

/-! ## Ids and times -/

theorem textual_string {read? : String → Option α} {s : String} {a : α} (reads : read? s = some a) :
    Decode.textual read? (.string s) = .ok a := by
  simp only [Decode.textual, Decode.text, reads]

theorem decode_id (id : Uuid) : Uuid.decode (.string id.write) = .ok id :=
  textual_string id.read?_write

theorem decode_time (t : Instant) : Instant.decode (.string t.write) = .ok t :=
  textual_string (by rw [Instant.write, String.toList_ofList, t.readLoose?_writeChars])

end ContentService.Json
