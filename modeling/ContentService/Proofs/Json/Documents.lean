import ContentService.Proofs.Json.Strings
import ContentService.Proofs.Text.Numerals

/-! # Documents are read back

The documents that are written hold whole numbers, and texts as names and strings, and are Json to
their end (`Written`). The text of such a document is read as that document, at the beginning of
any text that does not go on with a number, and so by itself. The reader's bound on nested steps is
never reached: each step goes with at least half of a character.
-/

namespace ContentService.Json

open Text

/-- Documents as they are written. -/
inductive Written : Json → Prop
  | null : Written .null
  | bool (value : Bool) : Written (.bool value)
  | number (n : Int) : Written (.ofInt n)
  | string (text : String) : Written (.string text)
  | list {elements : List Json} :
      (∀ element ∈ elements, Written element) → Written (.list elements)
  | record {members : List (String × Json)} :
      (∀ member ∈ members, Written member.2) → Written (.record members)

theorem written_ofOption (value : Option String) : Written (.ofOption value) := by
  cases value with
  | none => exact .null
  | some text => exact .string text

theorem written_map {α : Type} {encode : α → Json} {values : List α}
    (all : ∀ a ∈ values, Written (encode a)) : Written (.list (values.map encode)) := by
  refine .list fun element inside => ?_
  obtain ⟨a, member, rfl⟩ := List.mem_map.mp inside
  exact all a member

theorem written_texts (values : List String) : Written (.texts values) :=
  written_map fun text _ => .string text

/-- A record is written if the values of its members are. -/
theorem written_record {members : List (String × Json)}
    (all : members.Forall fun member => Written member.2) : Written (.record members) :=
  .record (List.forall_iff_forall_mem.mp all)

/-! ## Numbers -/

/-- What follows does not go on with a number. -/
def EndsNumber (rest : List Char) : Prop :=
  ∀ c ∈ rest.head?, isDigit c = false ∧ c ≠ '.' ∧ c ≠ 'e' ∧ c ≠ 'E'

theorem endsNumber_nil : EndsNumber [] :=
  fun _ absent => nomatch absent

theorem endsNumber_cons {c : Char} {rest : List Char}
    (ends : isDigit c = false ∧ c ≠ '.' ∧ c ≠ 'e' ∧ c ≠ 'E') : EndsNumber (c :: rest) :=
  fun _ same => Option.some.inj same ▸ ends

theorem EndsNumber.noDigit {rest : List Char} (ends : EndsNumber rest) : NoDigit rest :=
  fun c first => (ends c first).1

theorem scanFraction_of_ends {rest : List Char} (ends : EndsNumber rest) :
    scanFraction rest = some ([], rest) := by
  rw [scanFraction.eq_def]
  split
  · exact absurd rfl (ends '.' rfl).2.1
  · rfl

theorem scanExponent_of_ends {rest : List Char} (ends : EndsNumber rest) :
    scanExponent rest = some ([], rest) := by
  cases rest with
  | nil => rfl
  | cons c rest =>
      have letter := (ends c rfl).2.2
      rw [scanExponent.eq_def]
      dsimp only
      rw [if_neg (not_or.mpr letter)]

theorem scanDigits_writeNat (n : Nat) {rest : List Char} (ends : NoDigit rest) :
    scanDigits (writeNat n ++ rest) = some (writeNat n, rest) := by
  have all : ∀ c ∈ writeNat n, isDigit c = true := fun c => isDigit_of_mem_writeNat
  have nonempty : (writeNat n).isEmpty = false := List.isEmpty_eq_false_iff.mpr (writeNat_ne_nil n)
  simp only [scanDigits, takeWhile_isDigit_append all ends, dropWhile_isDigit_append all ends,
    nonempty, Bool.false_eq_true, if_false]

/-- A number is written without a superfluous zero, so all its digits are scanned. -/
theorem scanWhole_writeNat (n : Nat) {rest : List Char} (ends : NoDigit rest) :
    scanWhole (writeNat n ++ rest) = some (writeNat n, rest) := by
  rw [scanWhole.eq_def]
  split
  · rename_i others begins
    obtain ⟨c, digits, written, -⟩ := exists_cons_writeNat n
    rw [written, List.cons_append] at begins
    obtain rfl : c = '0' := (List.cons.inj begins).1
    obtain rfl : n = 0 := eq_zero_of_writeNat written
    obtain rfl : digits = [] := (List.cons.inj written).2.symm
    obtain rfl : rest = others := (List.cons.inj begins).2
    cases rest with
    | nil => rfl
    | cons next rest =>
        dsimp only
        rw [ends next rfl]
        rfl
  · exact scanDigits_writeNat n ends

theorem readUnsigned_writeNat (sign : List Char) (n : Nat) {rest : List Char}
    (ends : EndsNumber rest) :
    readUnsigned sign (writeNat n ++ rest) = (.number (sign ++ writeNat n), rest) := by
  simp only [readUnsigned, scanWhole_writeNat n ends.noDigit, scanFraction_of_ends ends,
    scanExponent_of_ends ends, Option.bind_eq_bind, Option.bind_some, List.append_nil]

/-- A value that begins with a digit is a number without a sign. -/
theorem readAtom_of_digit {c : Char} (digit : isDigit c = true) (rest : List Char) :
    readAtom (c :: rest) = readUnsigned [] (c :: rest) := by
  rw [readAtom]
  all_goals
    rintro more begins
    rw [(List.cons.inj begins).1] at digit
    exact absurd digit (by decide)

/-- A whole number is read back, unless more of a number follows. -/
theorem readAtom_writeInt (n : Int) {rest : List Char} (ends : EndsNumber rest) :
    readAtom (writeInt n ++ rest) = (.ofInt n, rest) := by
  unfold ofInt writeInt
  split
  · exact readUnsigned_writeNat ['-'] n.natAbs ends
  · obtain ⟨c, digits, written, digit⟩ := exists_cons_writeNat n.natAbs
    have unsigned := readUnsigned_writeNat [] n.natAbs ends
    rw [written, List.cons_append] at unsigned ⊢
    rw [readAtom_of_digit digit, unsigned, List.nil_append]

/-! ## Values -/

theorem skipSpace_cons {c : Char} (solid : isSpace c = false) (cs : List Char) :
    skipSpace (c :: cs) = c :: cs :=
  List.dropWhile_cons_of_neg (Bool.eq_false_iff.mp solid)

theorem isSpace_of_digit {c : Char} (digit : isDigit c = true) : isSpace c = false := by
  refine Bool.eq_false_iff.mpr fun space => ?_
  simp only [isSpace, Bool.or_eq_true, decide_eq_true_eq] at space
  rcases space with ((rfl | rfl) | rfl) | rfl <;> exact absurd digit (by decide)

/-- A value that is not a string, an array or an object is an atom. -/
theorem readValue_of_atom {c : Char} (solid : isSpace c = false)
    (other : c ≠ '"' ∧ c ≠ '[' ∧ c ≠ '\x7b') (depth : Nat) (cs : List Char) :
    readValue (depth + 1) (c :: cs) = readAtom (c :: cs) := by
  rw [readValue, skipSpace_cons solid]
  split
  · rename_i begins
    exact absurd (List.cons.inj begins).1 other.1
  · rename_i begins
    exact absurd (List.cons.inj begins).1 other.2.1
  · rename_i begins
    exact absurd (List.cons.inj begins).1 other.2.2
  · rfl

/-- The text of a document does not begin like white space or the end of an array. -/
theorem Written.exists_cons {j : Json} (written : Written j) :
    ∃ c cs, j.writeChars = c :: cs ∧ isSpace c = false ∧ c ≠ ']' := by
  cases written with
  | null => exact ⟨_, _, rfl, by decide, by decide⟩
  | bool value => cases value <;> exact ⟨_, _, rfl, by decide, by decide⟩
  | number n =>
      obtain ⟨c, cs, text, digit | rfl⟩ := exists_cons_writeInt n
      · refine ⟨c, cs, text, isSpace_of_digit digit, ?_⟩
        rintro rfl
        exact absurd digit (by decide)
      · exact ⟨'-', cs, text, by decide, by decide⟩
  | string text => exact ⟨_, _, rfl, by decide, by decide⟩
  | list all => exact ⟨_, _, rfl, by decide, by decide⟩
  | record all => exact ⟨_, _, rfl, by decide, by decide⟩

/-- A document whose text is read as that document, with a bound on the nested steps of two for
each of its characters. -/
def ReadBack (j : Json) : Prop :=
  ∀ (depth : Nat) (rest : List Char), 2 * j.writeChars.length ≤ depth → EndsNumber rest →
    readValue depth (j.writeChars ++ rest) = (j, rest)

theorem readElements_writeElements {elements : List Json}
    (all : ∀ element ∈ elements, ReadBack element) (nonempty : elements ≠ []) {depth : Nat}
    (deep : 2 * (writeElements elements).length < depth) (rest : List Char) :
    readElements depth (writeElements elements ++ ']' :: rest) = (elements, true, rest) := by
  induction elements generalizing depth with
  | nil => exact absurd rfl nonempty
  | cons element others ih =>
      obtain ⟨depth, rfl⟩ : ∃ less, depth = less + 1 := ⟨depth - 1, by omega⟩
      have element_back := all element List.mem_cons_self
      cases others with
      | nil =>
          rw [writeElements] at deep ⊢
          have first := element_back depth (']' :: rest) (by omega) (endsNumber_cons (by decide))
          simp only [readElements, first, skipSpace_cons (c := ']') (by decide)]
      | cons next others =>
          -- The comma pays for the two steps that reading the further elements is deeper.
          rw [writeElements, List.length_append, List.length_cons] at deep
          have first := element_back depth (',' :: (writeElements (next :: others) ++ ']' :: rest))
            (by omega) (endsNumber_cons (by decide))
          have further : readElements depth (writeElements (next :: others) ++ ']' :: rest) =
              (next :: others, true, rest) :=
            ih (fun _ member => all _ (List.mem_cons_of_mem _ member)) (List.cons_ne_nil _ _)
              (by omega)
          rw [writeElements, List.append_assoc, List.cons_append]
          simp only [readElements, first, skipSpace_cons (c := ',') (by decide), further]

/-- The last member of an object. -/
theorem readMembers_last (name : String) {value : Json} {depth : Nat} {rest left : List Char}
    (last : readValue depth rest = (value, '\x7d' :: left)) :
    readMembers (depth + 1) (writeName (.text name) ++ ':' :: rest) =
      ([(.text name, value)], true, left) := by
  have scanned := readName?_writeString name (':' :: rest)
  rw [writeName, writeString, List.cons_append, List.cons_append, List.append_assoc]
  simp only [readMembers, skipSpace_cons (c := '"') (by decide), List.singleton_append, scanned,
    skipSpace_cons (c := ':') (by decide), last, skipSpace_cons (c := '\x7d') (by decide)]

/-- A member of an object with more members behind it. -/
theorem readMembers_more (name : String) {value : Json} {depth : Nat} {rest more left : List Char}
    {members : List (Name × Json)} {closed : Bool}
    (first : readValue depth rest = (value, ',' :: more))
    (further : readMembers depth more = (members, closed, left)) :
    readMembers (depth + 1) (writeName (.text name) ++ ':' :: rest) =
      ((.text name, value) :: members, closed, left) := by
  have scanned := readName?_writeString name (':' :: rest)
  rw [writeName, writeString, List.cons_append, List.cons_append, List.append_assoc]
  simp only [readMembers, skipSpace_cons (c := '"') (by decide), List.singleton_append, scanned,
    skipSpace_cons (c := ':') (by decide), first, skipSpace_cons (c := ',') (by decide), further]

/-- Members with texts for names. -/
def named (members : List (String × Json)) : List (Name × Json) :=
  members.map fun (name, value) => (.text name, value)

theorem writeMembers_named_cons (name : String) (value : Json) (next : String × Json)
    (others : List (String × Json)) :
    writeMembers (named ((name, value) :: next :: others)) =
      writeName (.text name) ++ ':' :: value.writeChars ++
        ',' :: writeMembers (named (next :: others)) := by
  simp only [named, List.map_cons, writeMembers]

theorem readMembers_writeMembers {members : List (String × Json)}
    (all : ∀ member ∈ members, ReadBack member.2) (nonempty : members ≠ []) {depth : Nat}
    (deep : 2 * (writeMembers (named members)).length < depth) (rest : List Char) :
    readMembers depth (writeMembers (named members) ++ '\x7d' :: rest) =
      (named members, true, rest) := by
  induction members generalizing depth with
  | nil => exact absurd rfl nonempty
  | cons member others ih =>
      obtain ⟨name, value⟩ := member
      obtain ⟨depth, rfl⟩ : ∃ less, depth = less + 1 := ⟨depth - 1, by omega⟩
      have value_back : ReadBack value := all _ List.mem_cons_self
      cases others with
      | nil =>
          simp only [named, List.map_cons, List.map_nil, writeMembers, List.length_append,
            List.length_cons] at deep ⊢
          rw [List.append_assoc, List.cons_append]
          exact readMembers_last name
            (value_back depth ('\x7d' :: rest) (by omega) (endsNumber_cons (by decide)))
      | cons next others =>
          rw [writeMembers_named_cons] at deep ⊢
          simp only [List.length_append, List.length_cons] at deep
          simp only [List.append_assoc, List.cons_append]
          exact readMembers_more name (value_back depth _ (by omega) (endsNumber_cons (by decide)))
            (ih (fun _ member => all _ (List.mem_cons_of_mem _ member)) (List.cons_ne_nil _ _)
              (by omega))

/-- It is enough that a text which is not empty is read with one step at least. -/
theorem readBack_of_succ {j : Json} (nonempty : j.writeChars ≠ [])
    (succ : ∀ depth rest, 2 * j.writeChars.length ≤ depth + 1 → EndsNumber rest →
      readValue (depth + 1) (j.writeChars ++ rest) = (j, rest)) : ReadBack j := by
  intro depth rest deep ends
  have length := List.length_pos_iff.mpr nonempty
  obtain ⟨depth, rfl⟩ : ∃ less, depth = less + 1 := ⟨depth - 1, by omega⟩
  exact succ depth rest deep ends

theorem readBack_ofInt (n : Int) : ReadBack (.ofInt n) := by
  obtain ⟨c, cs, text, first⟩ := exists_cons_writeInt n
  have solid : isSpace c = false := by
    rcases first with digit | rfl
    · exact isSpace_of_digit digit
    · decide
  have other : c ≠ '"' ∧ c ≠ '[' ∧ c ≠ '\x7b' := by
    refine ⟨?_, ?_, ?_⟩ <;> rintro rfl <;> exact absurd first (by decide)
  refine readBack_of_succ (fun empty => nomatch empty.symm.trans text) fun depth rest _ ends => ?_
  have atom := readAtom_writeInt n ends
  change readValue _ (writeInt n ++ rest) = _
  rw [text, List.cons_append] at atom ⊢
  exact (readValue_of_atom solid other depth _).trans atom

theorem readBack_list {elements : List Json} (written : ∀ element ∈ elements, Written element)
    (all : ∀ element ∈ elements, ReadBack element) : ReadBack (.list elements) := by
  refine readBack_of_succ (List.cons_ne_nil _ _) fun depth rest deep _ => ?_
  rw [list, writeChars, List.length_append, List.length_cons] at deep
  rw [list, writeChars, List.append_assoc, List.cons_append, List.singleton_append]
  -- An empty array is told from others by what follows its bracket.
  cases elements with
  | nil =>
      simp only [writeElements, readValue, List.nil_append, skipSpace_cons (c := '[') (by decide),
        skipSpace_cons (c := ']') (by decide)]
  | cons element others =>
      have back : readElements depth (writeElements (element :: others) ++ ']' :: rest) = _ :=
        readElements_writeElements all (List.cons_ne_nil _ _) (by omega) rest
      obtain ⟨c, cs, text, solid, inside⟩ : ∃ c cs,
          writeElements (element :: others) = c :: cs ∧ isSpace c = false ∧ c ≠ ']' := by
        obtain ⟨c, cs, text, first⟩ := (written element List.mem_cons_self).exists_cons
        cases others with
        | nil => exact ⟨c, cs, text, first⟩
        | cons next others =>
            exact ⟨c, _, by rw [writeElements, text, List.cons_append], first⟩
      rw [text, List.cons_append] at back ⊢
      simp only [readValue, skipSpace_cons (c := '[') (by decide), skipSpace_cons solid]
      split
      · rename_i closes
        exact absurd (List.cons.inj closes).1 inside
      · simp only [back]

theorem readBack_record {members : List (String × Json)}
    (all : ∀ member ∈ members, ReadBack member.2) : ReadBack (.record members) := by
  refine readBack_of_succ (List.cons_ne_nil _ _) fun depth rest deep _ => ?_
  change 2 * ('\x7b' :: writeMembers (named members) ++ ['\x7d']).length ≤ _ at deep
  change readValue _ ('\x7b' :: writeMembers (named members) ++ ['\x7d'] ++ rest) =
    (.object (named members) true, rest)
  rw [List.length_append, List.length_cons] at deep
  rw [List.append_assoc, List.cons_append, List.singleton_append]
  cases members with
  | nil =>
      simp only [named, List.map_nil, writeMembers, readValue, List.nil_append,
        skipSpace_cons (c := '\x7b') (by decide), skipSpace_cons (c := '\x7d') (by decide)]
  | cons member others =>
      have back : readMembers depth
          (writeMembers (named (member :: others)) ++ '\x7d' :: rest) = _ :=
        readMembers_writeMembers all (List.cons_ne_nil _ _) (by omega) rest
      obtain ⟨cs, text⟩ : ∃ cs, writeMembers (named (member :: others)) = '"' :: cs := by
        cases others <;> exact ⟨_, rfl⟩
      rw [text, List.cons_append] at back ⊢
      simp only [readValue, skipSpace_cons (c := '\x7b') (by decide),
        skipSpace_cons (c := '"') (by decide)]
      split
      · rename_i closes
        exact absurd (List.cons.inj closes).1 (by decide)
      · simp only [back]

/-- Every document that is written is read back. -/
theorem Written.readBack {j : Json} (written : Written j) : ReadBack j := by
  induction written with
  | null =>
      refine readBack_of_succ (List.cons_ne_nil _ _) fun depth rest _ _ => ?_
      exact readValue_of_atom (by decide) (by decide) depth _
  | bool value =>
      cases value <;> refine readBack_of_succ (List.cons_ne_nil _ _) fun depth rest _ _ => ?_ <;>
        exact readValue_of_atom (by decide) (by decide) depth _
  | number n => exact readBack_ofInt n
  | string text =>
      refine readBack_of_succ (List.cons_ne_nil _ _) fun depth rest _ _ => ?_
      have back := readString_writeString text rest
      rw [writeChars, writeString, List.cons_append, List.cons_append, List.append_assoc]
      simp only [readValue, skipSpace_cons (c := '"') (by decide), List.singleton_append, back]
  | list written all => exact readBack_list written all
  | record _ all => exact readBack_record all

/-- Reading undoes writing. -/
theorem Written.read_write {j : Json} (written : Written j) : read j.write = j := by
  have back : readFirst j.writeChars = (j, []) := by
    have whole := written.readBack (2 * j.writeChars.length + 2) [] (by omega) endsNumber_nil
    rwa [List.append_nil] at whole
  rw [read, write, String.toList_ofList, back]
  rfl

end ContentService.Json
