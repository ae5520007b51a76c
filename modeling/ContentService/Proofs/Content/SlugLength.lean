import ContentService.Proofs.Content.Slugs
import Mathlib.Data.String.Basic

/-! # The length of slugs

A slug has at most as many bytes as its text (`ContentService.Slug.utf8ByteSize_ofText_le`). A
character that decomposes gives at most one letter for each of its bytes, once its accents are left
out. Neither the order of marks nor lower case makes more letters of them, and a hyphen stands for
at least one character between two words.
-/

namespace ContentService

/-! ## Letters of a text -/

namespace Text

theorem insertMark_perm (mark : Char) (marks : List Char) :
    (insertMark mark marks).Perm (mark :: marks) := by
  induction marks with
  | nil => exact .refl _
  | cons other rest ih =>
      rw [insertMark]
      split
      · exact .refl _
      · exact (ih.cons other).trans (.swap mark other rest)

/-- Putting marks in order neither adds nor drops any. -/
theorem orderMarksFrom_perm (marks cs : List Char) :
    (orderMarksFrom marks cs).Perm (marks ++ cs) := by
  induction cs generalizing marks with
  | nil =>
      rw [orderMarksFrom, List.append_nil]
  | cons c rest ih =>
      rw [orderMarksFrom]
      split
      · exact ((ih []).cons c).append_left marks
      · exact (ih _).trans (((insertMark_perm c marks).append_right rest).trans
          List.perm_middle.symm)

theorem decomposeChars_perm (cs : List Char) :
    (decomposeChars cs).Perm (cs.flatMap decomposeChar) :=
  orderMarksFrom_perm [] _

/-- The capital I with a dot is the only character of which lower case makes two. -/
theorem length_lowerChar {c : Char} (undotted : c.toNat ≠ 0x130) : (lowerChar c).length = 1 := by
  unfold lowerChar
  rw [if_neg undotted]
  split
  · rfl
  · split <;> rfl

theorem length_lowerChar_le_two (c : Char) : (lowerChar c).length ≤ 2 := by
  unfold lowerChar
  split
  · exact Nat.le_succ 1
  · split
    · exact le_rfl
    · split <;> exact Nat.le_succ 1

theorem length_lowerChar_le (c : Char) : (lowerChar c).length ≤ c.utf8Size := by
  by_cases dotted : c.toNat = 0x130
  · have same : c = Char.ofNat 0x130 := by rw [← dotted, Char.ofNat_toNat]
    rw [same]
    decide
  · rw [length_lowerChar dotted]
    exact c.utf8Size_pos

/-- The place of a character does not matter for how many characters lower case makes of it. -/
theorem length_lowerFrom (before cs : List Char) :
    (lowerFrom before cs).length = (cs.flatMap lowerChar).length := by
  induction cs generalizing before with
  | nil => rfl
  | cons c rest ih =>
      rw [lowerFrom, List.flatMap_cons, List.length_append, List.length_append, ih]
      split
      · rename_i sigma
        rw [sigma, length_lowerChar (by decide), List.length_singleton]
      · rfl

/-- Characters from here on have three bytes or more. -/
theorem three_le_utf8Size {c : Char} (high : 0x800 ≤ c.toNat) : 3 ≤ c.utf8Size := by
  have beyond : ¬c.val ≤ 0x7FF := by
    rw [UInt32.le_iff_toNat_le]
    exact Nat.not_le.mpr high
  have notOne : c.utf8Size ≠ 1 := fun one =>
    beyond (UInt32.le_trans (Char.utf8Size_eq_one_iff.mp one) (by decide))
  have notTwo : c.utf8Size ≠ 2 := fun two => beyond (Char.utf8Size_eq_two_iff.mp two).2
  have := c.utf8Size_pos
  omega

/-- A character is its own decomposition, or a syllable, or a compatibility ideograph, which
decomposes to one other character, or its decomposition is listed. -/
theorem decomposeChar_cases (c : Char) :
    decomposeChar c = [c] ∨
      (0x800 ≤ c.toNat ∧ ∃ index, decomposeChar c = decomposeSyllable index) ∨
      (0x800 ≤ c.toNat ∧ ∃ d, decomposeChar c = [d]) ∨
      ∃ points, (c.toNat, points) ∈ decompositions ∧ decomposeChar c = points.map Char.ofNat := by
  unfold decomposeChar
  by_cases low : c.toNat < 0xC0
  · exact .inl (if_pos low)
  by_cases syllable : 0xAC00 ≤ c.toNat ∧ c.toNat < 0xAC00 + 11172
  · refine .inr (.inl ⟨by omega, c.toNat - 0xAC00, ?_⟩)
    rw [if_neg low, if_pos syllable]
  by_cases compatible : 0xF900 ≤ c.toNat ∧ c.toNat < 0xFB00
  · refine .inr (.inr (.inl ⟨by omega, ?_⟩))
    rw [if_neg low, if_neg syllable, if_pos compatible]
    exact ⟨_, rfl⟩
  by_cases supplementary : 0x2F800 ≤ c.toNat
  · refine .inr (.inr (.inl ⟨by omega, ?_⟩))
    rw [if_neg low, if_neg syllable, if_neg compatible, if_pos supplementary]
    exact ⟨_, rfl⟩
  simp only [if_neg low, if_neg syllable, if_neg compatible, if_neg supplementary]
  cases found : decompositions.lookup c.toNat with
  | none => exact .inl rfl
  | some points =>
      obtain ⟨before, after, entries, -⟩ := List.lookup_eq_some_iff.mp found
      refine .inr (.inr (.inr ⟨points, ?_, rfl⟩))
      rw [entries]
      exact List.mem_append_right before List.mem_cons_self

end Text

namespace Slug

/-- What a character alone gives to the letters of a text. -/
def lettersOf (c : Char) : List Char :=
  ((Text.decomposeChar c).filter fun d => !isAccent d).flatMap Text.lowerChar

theorem length_letters (cs : List Char) :
    (letters cs).length = (cs.flatMap lettersOf).length := by
  have kept := ((Text.decomposeChars_perm cs).filter fun c => !isAccent c).flatMap_right
    Text.lowerChar
  rw [List.filter_flatMap, List.flatMap_assoc] at kept
  rw [letters, Text.lowerChars, Text.length_lowerFrom]
  exact kept.length_eq

/-- Without capital I with a dot, lower case changes no numbers. -/
theorem length_flatMap_lowerChar {cs : List Char} (undotted : ∀ c ∈ cs, c.toNat ≠ 0x130) :
    (cs.flatMap Text.lowerChar).length = cs.length := by
  induction cs with
  | nil => rfl
  | cons c rest ih =>
      obtain ⟨first, later⟩ := List.forall_mem_cons.mp undotted
      rw [List.flatMap_cons, List.length_append, Text.length_lowerChar first, ih later,
        List.length_cons, Nat.add_comm]

/-- A character that decomposes to a single one, which may be itself. -/
theorem length_lettersOf_of_single {c d : Char} (alone : Text.decomposeChar c = [d]) :
    (lettersOf c).length ≤ (Text.lowerChar d).length := by
  rw [lettersOf, alone]
  cases kept : !isAccent d with
  | false =>
      rw [List.filter_cons_of_neg (by simp [kept]), List.filter_nil, List.flatMap_nil]
      exact Nat.zero_le _
  | true =>
      rw [List.filter_cons_of_pos (p := fun d => !isAccent d) kept, List.filter_nil,
        List.flatMap_singleton]

/-- A character that decomposes to several, of which those count that are no accents. -/
theorem length_lettersOf_of_undotted {c : Char} {ds : List Char}
    (parts : Text.decomposeChar c = ds) (undotted : ∀ d ∈ ds, d.toNat ≠ 0x130) :
    (lettersOf c).length = (ds.filter fun d => !isAccent d).length := by
  rw [lettersOf, parts, length_flatMap_lowerChar fun d member =>
    undotted d (List.mem_filter.mp member).1]

/-- The decompositions that are listed: there is no capital I with a dot among them, and without
the accents they have at most as many characters as the character has bytes. -/
theorem listed_decompositions : ∀ entry ∈ Text.decompositions,
    (∀ point ∈ entry.2, (Char.ofNat point).toNat ≠ 0x130) ∧
      ((entry.2.map Char.ofNat).filter fun d => !isAccent d).length ≤
        (Char.ofNat entry.1).utf8Size := by
  decide +kernel

theorem syllable_undotted {index : Nat} :
    ∀ d ∈ Text.decomposeSyllable index, d.toNat ≠ 0x130 := by
  have jamo (n : Nat) (high : 0x1100 ≤ n) : (Char.ofNat n).toNat ≠ 0x130 := by
    rcases Text.toNat_ofNat_cases n with same | null <;> omega
  intro d member
  unfold Text.decomposeSyllable at member
  split at member
  · simp only [List.mem_cons, List.not_mem_nil, or_false] at member
    rcases member with rfl | rfl <;> exact jamo _ (by omega)
  · simp only [List.mem_cons, List.not_mem_nil, or_false] at member
    rcases member with rfl | rfl | rfl <;> exact jamo _ (by omega)

theorem length_decomposeSyllable_le (index : Nat) : (Text.decomposeSyllable index).length ≤ 3 := by
  unfold Text.decomposeSyllable
  split
  · exact Nat.le_succ 2
  · exact le_rfl

/-- A character gives at most as many letters as it has bytes. -/
theorem length_lettersOf_le (c : Char) : (lettersOf c).length ≤ c.utf8Size := by
  rcases Text.decomposeChar_cases c with
    itself | ⟨high, index, parts⟩ | ⟨high, d, alone⟩ | ⟨points, member, parts⟩
  · exact (length_lettersOf_of_single itself).trans (Text.length_lowerChar_le c)
  · rw [length_lettersOf_of_undotted parts syllable_undotted]
    exact (List.length_filter_le _ _).trans <| (length_decomposeSyllable_le _).trans <|
      Text.three_le_utf8Size high
  · exact (length_lettersOf_of_single alone).trans <| (Text.length_lowerChar_le_two d).trans <|
      (Nat.le_succ 2).trans (Text.three_le_utf8Size high)
  · obtain ⟨undotted, few⟩ := listed_decompositions _ member
    rw [Char.ofNat_toNat] at few
    rw [length_lettersOf_of_undotted parts (List.forall_mem_map.mpr undotted)]
    exact few

/-- A text has at most as many letters as it has bytes. -/
theorem length_letters_le (s : String) : (letters s.toList).length ≤ s.utf8ByteSize := by
  have each (cs : List Char) : (cs.flatMap lettersOf).length ≤ String.utf8Len cs := by
    induction cs with
    | nil => exact le_rfl
    | cons c rest ih =>
        rw [List.flatMap_cons, List.length_append, String.utf8Len_cons, Nat.add_comm]
        exact Nat.add_le_add ih (length_lettersOf_le c)
  rw [length_letters, ← String.ofList_toList (s := s), String.utf8ByteSize_ofList,
    String.toList_ofList]
  exact each s.toList

/-! ## Words with hyphens -/

/-- The characters of words and one more for each. -/
def room : List (List Char) → Nat
  | [] => 0
  | word :: others => word.length + 1 + room others

theorem length_intercalate (word : List Char) (others : List (List Char)) :
    (['-'].intercalate (word :: others)).length = word.length + room others := by
  induction others generalizing word with
  | nil => rw [List.intercalate_singleton, room, Nat.add_zero]
  | cons next later ih =>
      rw [List.intercalate_cons_cons, List.length_append, List.length_append, ih, room,
        List.length_singleton]
      omega

theorem room_consWord_le (word : List Char) (others : List (List Char)) :
    room (consWord word others) ≤ word.length + 1 + room others := by
  unfold consWord
  split
  · exact Nat.le_add_left ..
  · exact le_rfl

/-- In front of every word but the first there is a character that belongs to none. -/
theorem length_splitWord_add_room_le (cs : List Char) :
    (splitWord cs).1.length + room (splitWord cs).2 ≤ cs.length := by
  induction cs with
  | nil => exact le_rfl
  | cons c rest ih =>
      by_cases alphanumeric : Text.isAsciiAlphanumeric c = true
      · rw [splitWord_cons_of_alphanumeric alphanumeric]
        simp only [List.length_cons]
        omega
      · have spare : room (words rest) ≤ _ :=
          room_consWord_le (splitWord rest).1 (splitWord rest).2
        rw [splitWord_cons_of_other (Bool.eq_false_iff.mpr alphanumeric)]
        simp only [List.length_nil, List.length_cons]
        omega

theorem length_intercalate_words_le (cs : List Char) :
    (['-'].intercalate (words cs)).length ≤ cs.length := by
  have bound := length_splitWord_add_room_le cs
  unfold words
  generalize splitWord cs = split at bound ⊢
  obtain ⟨word, others⟩ := split
  cases word with
  | cons c more => exact (length_intercalate (c :: more) others).le.trans bound
  | nil =>
      cases others with
      | nil => exact Nat.zero_le _
      | cons next later =>
          refine (length_intercalate next later).le.trans (le_trans ?_ bound)
          simp only [room]
          omega

/-! ## Slugs -/

/-- The characters of a slug have one byte each. -/
theorem utf8Len_of_slug {cs : List Char} (plain : ∀ c ∈ cs, IsLetter c ∨ c = '-') :
    String.utf8Len cs = cs.length := by
  induction cs with
  | nil => rfl
  | cons c rest ih =>
      obtain ⟨first, later⟩ := List.forall_mem_cons.mp plain
      have one : c.utf8Size = 1 := by
        rw [Char.utf8Size_eq_one_iff, UInt32.le_iff_toNat_le]
        rcases first with letter | rfl
        · have := isLetter_iff_toNat.mp letter
          change c.toNat ≤ 127
          omega
        · decide
      rw [String.utf8Len_cons, ih later, one, List.length_cons]

/-- **The length of slugs.** A slug has at most as many bytes as the text it is made of. -/
theorem utf8ByteSize_ofText_le (s : String) : (ofText s).utf8ByteSize ≤ s.utf8ByteSize := by
  have plain : ∀ c ∈ ofChars s.toList, IsLetter c ∨ c = '-' := by
    rcases ofChars_eq_nil_or_hyphenated s.toList with empty | hyphenated
    · rw [empty]
      exact fun c member => absurd member List.not_mem_nil
    · exact hyphenated.mem
  calc (ofText s).utf8ByteSize
      = (ofChars s.toList).length := by
        rw [ofText, String.utf8ByteSize_ofList, utf8Len_of_slug plain]
    _ ≤ (letters s.toList).length := length_intercalate_words_le _
    _ ≤ s.utf8ByteSize := length_letters_le s

end Slug

end ContentService
