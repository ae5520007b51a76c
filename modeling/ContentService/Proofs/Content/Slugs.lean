import ContentService.Content.Slug
import ContentService.Proofs.Text.Lowering

/-! # The form of slugs

The slug of a text is empty, or it consists of words of small letters and digits with single hyphens
between them. A text of this form is its own slug, so the canonical texts are those of this form
(`ContentService.Slug.slugs_are_hyphenated`).
-/

namespace ContentService

/-! ## Plain characters -/

namespace Text

theorem combiningClass_of_lt {c : Char} (low : c.toNat < 0x300) : combiningClass c = 0 := by
  have above : ∀ r ∈ combiningRanges, 0x300 ≤ r.1 := by decide +kernel
  have none : combiningRanges.find? (fun r => r.1 ≤ c.toNat && c.toNat ≤ r.2.1) = none := by
    rw [List.find?_eq_none]
    intro r member
    have := above r member
    simp only [Bool.and_eq_true, decide_eq_true_eq, not_and]
    omega
  rw [combiningClass, none]

/-- Without marks there is nothing to put in order. -/
theorem orderMarksFrom_of_base {cs : List Char} (base : ∀ c ∈ cs, combiningClass c = 0) :
    orderMarksFrom [] cs = cs := by
  induction cs with
  | nil => rfl
  | cons c rest ih =>
      obtain ⟨first, later⟩ := List.forall_mem_cons.mp base
      rw [orderMarksFrom, if_pos first, ih later, List.nil_append]

/-- Characters in front of the first that falls apart are their own decomposition. -/
theorem decomposeChars_of_lt {cs : List Char} (low : ∀ c ∈ cs, c.toNat < 0xC0) :
    decomposeChars cs = cs := by
  have alone : cs.map decomposeChar = cs.map fun c => [c] := by
    refine List.map_congr_left fun c member => ?_
    rw [decomposeChar, if_pos (low c member)]
  rw [decomposeChars, List.flatMap_def, alone, ← List.flatMap_def, List.flatMap_singleton']
  refine orderMarksFrom_of_base fun c member => combiningClass_of_lt ?_
  have := low c member
  omega

end Text

namespace Slug

/-! ## The form -/

/-- A small letter of ASCII, or a digit. -/
def IsLetter (c : Char) : Prop :=
  'a' ≤ c ∧ c ≤ 'z' ∨ '0' ≤ c ∧ c ≤ '9'

/-- A word of a slug. -/
structure IsWord (word : List Char) : Prop where
  not_empty : word ≠ []
  letters : ∀ c ∈ word, IsLetter c

/-- One word, or several with single hyphens between them. -/
inductive Hyphenated : List Char → Prop
  | word {word : List Char} (isWord : IsWord word) : Hyphenated word
  | hyphen {word rest : List Char} (isWord : IsWord word) (others : Hyphenated rest) :
    Hyphenated (word ++ '-' :: rest)

theorem isLetter_iff_toNat {c : Char} :
    IsLetter c ↔ 0x61 ≤ c.toNat ∧ c.toNat ≤ 0x7A ∨ 0x30 ≤ c.toNat ∧ c.toNat ≤ 0x39 := by
  simp only [IsLetter, Char.le_def, UInt32.le_iff_toNat_le]
  rfl

/-- The ASCII letters and digits are those of slugs and the capitals. -/
theorem isAsciiAlphanumeric_iff {c : Char} :
    Text.isAsciiAlphanumeric c = true ↔ IsLetter c ∨ c.isUpper = true := by
  have kinds : Text.isAsciiAlphanumeric c = (c.isUpper || c.isLower || c.isDigit) := rfl
  have small : c.isLower = true ↔ 'a' ≤ c ∧ c ≤ 'z' := Bool.and_eq_true_iff.trans
    (and_congr decide_eq_true_iff decide_eq_true_iff)
  have digit : c.isDigit = true ↔ '0' ≤ c ∧ c ≤ '9' := Bool.and_eq_true_iff.trans
    (and_congr decide_eq_true_iff decide_eq_true_iff)
  rw [kinds, Bool.or_eq_true, Bool.or_eq_true, small, digit, or_assoc, or_comm]
  rfl

namespace Hyphenated

variable {cs : List Char}

theorem ne_nil (hyphenated : Hyphenated cs) : cs ≠ [] := by
  cases hyphenated with
  | word isWord => exact isWord.not_empty
  | hyphen isWord others => exact List.append_ne_nil_of_right_ne_nil _ (List.cons_ne_nil _ _)

theorem mem (hyphenated : Hyphenated cs) : ∀ c ∈ cs, IsLetter c ∨ c = '-' := by
  induction hyphenated with
  | word isWord => exact fun c member => .inl (isWord.letters c member)
  | hyphen isWord others ih =>
      intro c member
      rcases List.mem_append.mp member with inside | behind
      · exact .inl (isWord.letters c inside)
      · rcases List.mem_cons.mp behind with hyphen | later
        · exact .inr hyphen
        · exact ih c later

end Hyphenated

/-! ## Words -/

theorem mem_consWord {word other : List Char} {others : List (List Char)} :
    other ∈ consWord word others ↔ other = word ∧ word ≠ [] ∨ other ∈ others := by
  unfold consWord
  cases word with
  | nil => simp
  | cons c rest => simp

/-- Characters of a list that belong to words. -/
def OfWords (cs word : List Char) : Prop :=
  ∀ c ∈ word, c ∈ cs ∧ Text.isAsciiAlphanumeric c = true

theorem splitWord_cons_of_alphanumeric {c : Char} (alphanumeric : Text.isAsciiAlphanumeric c = true)
    (rest : List Char) :
    splitWord (c :: rest) = (c :: (splitWord rest).1, (splitWord rest).2) := by
  simp only [splitWord, alphanumeric, if_true]

/-- A character that belongs to no word ends the word in front of it. -/
theorem splitWord_cons_of_other {c : Char} (other : Text.isAsciiAlphanumeric c = false)
    (rest : List Char) : splitWord (c :: rest) = ([], words rest) := by
  simp only [splitWord, other, Bool.false_eq_true, if_false, words]

theorem splitWord_ofWords (cs : List Char) :
    OfWords cs (splitWord cs).1 ∧ ∀ word ∈ (splitWord cs).2, word ≠ [] ∧ OfWords cs word := by
  induction cs with
  | nil =>
      constructor
      · intro c member
        exact nomatch member
      · intro word member
        exact nomatch member
  | cons c rest ih =>
      obtain ⟨first, others⟩ := ih
      have grow {word : List Char} (inside : OfWords rest word) : OfWords (c :: rest) word :=
        fun d member => ⟨List.mem_cons_of_mem c (inside d member).1, (inside d member).2⟩
      by_cases alphanumeric : Text.isAsciiAlphanumeric c = true
      · rw [splitWord_cons_of_alphanumeric alphanumeric]
        refine ⟨?_, fun word member => ⟨(others word member).1, grow (others word member).2⟩⟩
        intro d member
        rcases List.mem_cons.mp member with rfl | later
        · exact ⟨List.mem_cons_self, alphanumeric⟩
        · exact grow first d later
      · rw [splitWord_cons_of_other (Bool.eq_false_iff.mpr alphanumeric)]
        refine ⟨fun c member => absurd member List.not_mem_nil, fun word member => ?_⟩
        rcases mem_consWord.mp member with ⟨rfl, given⟩ | later
        · exact ⟨given, grow first⟩
        · exact ⟨(others word later).1, grow (others word later).2⟩

theorem ofWords_of_mem_words {cs word : List Char} (member : word ∈ words cs) :
    word ≠ [] ∧ OfWords cs word := by
  obtain ⟨first, others⟩ := splitWord_ofWords cs
  rcases mem_consWord.mp member with ⟨rfl, given⟩ | later
  · exact ⟨given, first⟩
  · exact others word later

/-- Letters in front of a list belong to its first word. -/
theorem splitWord_append {word : List Char} (letters : ∀ c ∈ word, IsLetter c) (cs : List Char) :
    splitWord (word ++ cs) = (word ++ (splitWord cs).1, (splitWord cs).2) := by
  induction word with
  | nil => rfl
  | cons c rest ih =>
      obtain ⟨letter, letters⟩ := List.forall_mem_cons.mp letters
      rw [List.cons_append, splitWord_cons_of_alphanumeric
        (isAsciiAlphanumeric_iff.mpr (.inl letter)), ih letters]
      rfl

theorem consWord_of_isWord {word : List Char} (isWord : IsWord word) (others : List (List Char)) :
    consWord word others = word :: others := by
  rw [consWord, if_neg (by rw [List.isEmpty_iff]; exact isWord.not_empty)]

theorem words_of_isWord {word : List Char} (isWord : IsWord word) : words word = [word] := by
  have whole := splitWord_append isWord.letters []
  rw [splitWord, List.append_nil] at whole
  rw [words, whole]
  exact consWord_of_isWord isWord []

theorem words_hyphen {word : List Char} (isWord : IsWord word) (rest : List Char) :
    words (word ++ '-' :: rest) = word :: words rest := by
  rw [words, splitWord_append isWord.letters, splitWord_cons_of_other (by decide), List.append_nil]
  exact consWord_of_isWord isWord (words rest)

/-- Words that are joined have the form of a slug. -/
theorem hyphenated_intercalate {words : List (List Char)} (given : words ≠ [])
    (all : ∀ word ∈ words, IsWord word) : Hyphenated (['-'].intercalate words) := by
  induction words with
  | nil => exact absurd rfl given
  | cons word others ih =>
      obtain ⟨isWord, all⟩ := List.forall_mem_cons.mp all
      cases others with
      | nil =>
          rw [List.intercalate_singleton]
          exact .word isWord
      | cons next later =>
          rw [List.intercalate_cons_cons, List.append_assoc, List.singleton_append]
          exact .hyphen isWord (ih (List.cons_ne_nil next later) all)

/-- The words of a text that has the form of a slug give the text when they are joined. -/
theorem Hyphenated.intercalate_words {cs : List Char} (hyphenated : Hyphenated cs) :
    ['-'].intercalate (words cs) = cs := by
  induction hyphenated with
  | word isWord => rw [words_of_isWord isWord, List.intercalate_singleton]
  | @hyphen word rest isWord others ih =>
      rw [words_hyphen isWord]
      cases split : words rest with
      | nil =>
          rw [split] at ih
          exact absurd ih.symm others.ne_nil
      | cons next later =>
          rw [List.intercalate_cons_cons, ← split, ih, List.append_assoc, List.singleton_append]

/-! ## Slugs -/

/-- What is written in the characters of slugs is not changed by decomposition, accents and case. -/
theorem letters_of_plain {cs : List Char} (plain : ∀ c ∈ cs, IsLetter c ∨ c = '-') :
    letters cs = cs := by
  have ascii : ∀ c ∈ cs, c.toNat < 0x80 ∧ c.toLower = c := by
    intro c member
    have bounds : c.toNat < 0x80 ∧ c.isUpper = false := by
      rw [Bool.eq_false_iff, ne_eq, Text.isUpper_iff_toNat]
      rcases plain c member with letter | rfl
      · have := isLetter_iff_toNat.mp letter
        omega
      · decide
    exact ⟨bounds.1, Text.toLower_of_not_upper bounds.2⟩
  have low : ∀ c ∈ cs, c.toNat < 0xC0 := fun c member =>
    Nat.lt_trans (ascii c member).1 (by decide)
  have noAccents : cs.filter (fun c => !isAccent c) = cs := by
    refine List.filter_eq_self.mpr fun c member => ?_
    have := (ascii c member).1
    simp only [isAccent, Bool.not_eq_true', Bool.and_eq_false_iff, decide_eq_false_iff_not]
    omega
  rw [letters, Text.decomposeChars_of_lt low, noAccents, Text.lowerChars,
    Text.lowerFrom_of_ascii ascii]

/-- A text of the form of slugs is its own slug. -/
theorem Hyphenated.ofChars_eq {cs : List Char} (hyphenated : Hyphenated cs) : ofChars cs = cs := by
  rw [ofChars, letters_of_plain hyphenated.mem, hyphenated.intercalate_words]

theorem isWord_of_mem_words_letters {cs word : List Char} (member : word ∈ words (letters cs)) :
    IsWord word := by
  obtain ⟨given, inside⟩ := ofWords_of_mem_words member
  refine ⟨given, fun c inWord => ?_⟩
  obtain ⟨lower, alphanumeric⟩ := inside c inWord
  have small : c.isUpper = false := Text.isUpper_of_mem_lowerFrom lower
  exact (isAsciiAlphanumeric_iff.mp alphanumeric).resolve_right (by rw [small]; decide)

/-- A slug is empty or has the form of slugs. -/
theorem ofChars_eq_nil_or_hyphenated (cs : List Char) :
    ofChars cs = [] ∨ Hyphenated (ofChars cs) := by
  by_cases none : words (letters cs) = []
  · left
    rw [ofChars, none]
    rfl
  · right
    exact hyphenated_intercalate none fun word member => isWord_of_mem_words_letters member

theorem ofChars_ofChars (cs : List Char) : ofChars (ofChars cs) = ofChars cs := by
  rcases ofChars_eq_nil_or_hyphenated cs with empty | hyphenated
  · rw [empty]
    rfl
  · exact hyphenated.ofChars_eq

theorem toList_ofText (s : String) : (ofText s).toList = ofChars s.toList :=
  String.toList_ofList

theorem isCanonical_iff {s : String} : isCanonical s = true ↔ Hyphenated s.toList := by
  have own : ofText s = s ↔ ofChars s.toList = s.toList := by
    rw [← String.toList_inj, toList_ofText]
  simp only [isCanonical, Bool.and_eq_true, decide_eq_true_eq, beq_iff_eq, own]
  constructor
  · rintro ⟨given, same⟩
    rcases ofChars_eq_nil_or_hyphenated s.toList with empty | hyphenated
    · rw [same] at empty
      exact absurd (String.toList_eq_nil_iff.mp empty) given
    · rwa [same] at hyphenated
  · intro hyphenated
    exact ⟨fun empty => hyphenated.ne_nil (by rw [empty]; rfl), hyphenated.ofChars_eq⟩

/-- **The form of slugs.** The slug of any text is empty or consists of words of small letters and
digits with single hyphens between them. It is its own slug. The canonical texts are the texts of
this form, which is never empty. -/
theorem slugs_are_hyphenated (s : String) :
    (ofText s = "" ∨ Hyphenated (ofText s).toList) ∧ ofText (ofText s) = ofText s ∧
      (isCanonical s = true ↔ Hyphenated s.toList) ∧ ¬Hyphenated [] := by
  refine ⟨?_, ?_, isCanonical_iff, fun hyphenated => hyphenated.ne_nil rfl⟩
  · rw [← String.toList_eq_nil_iff, toList_ofText]
    exact ofChars_eq_nil_or_hyphenated s.toList
  · rw [← String.toList_inj, toList_ofText, toList_ofText, ofChars_ofChars]

end Slug

end ContentService
