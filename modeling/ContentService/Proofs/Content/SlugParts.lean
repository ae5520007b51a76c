import ContentService.Proofs.Content.Slugs

/-! # Slugs part by part

A separator is an ASCII character that belongs to no word. It keeps what is in front of it apart
from what is behind it: no mark is moved across it, and what lower-casing sees across it decides
only between two forms of sigma, of which neither belongs to a word. So the slug of a text is made
of the slugs of its parts, and it does not matter which separators are between these, how many there
are, or whether there are more around them (`ContentService.Slug.slugs_join_at_separators`).
-/

namespace ContentService

/-! ## Decomposition and case -/

namespace Text

/-- Marks are not put in order across a base character. -/
theorem orderMarksFrom_append_base {c : Char} (base : combiningClass c = 0)
    (marks front back : List Char) :
    orderMarksFrom marks (front ++ c :: back) =
      orderMarksFrom marks front ++ c :: orderMarksFrom [] back := by
  induction front generalizing marks with
  | nil => simp only [List.nil_append, orderMarksFrom, if_pos base]
  | cons d rest ih =>
      rw [List.cons_append, orderMarksFrom, orderMarksFrom]
      split
      · rw [ih, List.append_assoc, List.cons_append]
      · exact ih (insertMark d marks)

/-- A character that decomposes to a single base character divides the text for decomposition. -/
theorem decomposeChars_append {c d : Char} (alone : decomposeChar c = [d])
    (base : combiningClass d = 0) (front back : List Char) :
    decomposeChars (front ++ c :: back) = decomposeChars front ++ d :: decomposeChars back := by
  rw [decomposeChars, List.flatMap_append, List.flatMap_cons, alone, List.singleton_append,
    orderMarksFrom_append_base base]
  rfl

end Text

namespace Slug

/-- A character keeps words apart, and this is what is left of it among the letters. -/
structure Divides (c left : Char) : Prop where
  alone : Text.decomposeChar c = [left]
  base : Text.combiningClass left = 0
  not_accent : isAccent left = false
  not_sigma : left ≠ Text.capitalSigma
  lower : Text.lowerChar left = [left]
  other : Text.isAsciiAlphanumeric left = false

instance (c left : Char) : Decidable (Divides c left) :=
  decidable_of_iff (Text.decomposeChar c = [left] ∧ Text.combiningClass left = 0 ∧
      isAccent left = false ∧ left ≠ Text.capitalSigma ∧ Text.lowerChar left = [left] ∧
      Text.isAsciiAlphanumeric left = false)
    ⟨fun ⟨alone, base, not_accent, not_sigma, lower, other⟩ =>
      ⟨alone, base, not_accent, not_sigma, lower, other⟩,
    fun divides => ⟨divides.alone, divides.base, divides.not_accent, divides.not_sigma,
      divides.lower, divides.other⟩⟩

/-- What is left of it is the same in lower case, wherever it stands. -/
theorem Divides.lowerBetween {c left : Char} (divides : Divides c left) (front back : List Char) :
    Text.lowerBetween front [left] back = [left] := by
  rw [Text.lowerBetween, Text.lowerAt, if_neg divides.not_sigma, divides.lower]
  rfl

/-- An ASCII character that is neither a letter nor a digit. -/
def IsSeparator (c : Char) : Prop :=
  c.toNat < 0x80 ∧ Text.isAsciiAlphanumeric c = false

instance (c : Char) : Decidable (IsSeparator c) :=
  inferInstanceAs (Decidable (_ ∧ _))

theorem IsSeparator.divides {c : Char} (separator : IsSeparator c) : Divides c c := by
  obtain ⟨ascii, other⟩ := separator
  refine ⟨?_, Text.combiningClass_of_lt (Nat.lt_trans ascii (by decide)), ?_, ?_, ?_, other⟩
  · rw [Text.decomposeChar, if_pos (Nat.lt_trans ascii (by decide))]
  · simp only [isAccent, Bool.and_eq_false_iff, decide_eq_false_iff_not]
    omega
  · rintro rfl
    exact absurd ascii (by decide)
  · have small : c.isUpper = false := by
      rw [Bool.eq_false_iff] at other ⊢
      exact fun upper => other (isAsciiAlphanumeric_iff.mpr (.inr upper))
    rw [Text.lowerChar, if_pos ascii, Text.toLower_of_not_upper small]

/-! ## Words -/

/-- A character as far as words are concerned: those that belong to none are all alike. -/
def mask (c : Char) : Char :=
  if Text.isAsciiAlphanumeric c then c else '-'

theorem splitWord_map_mask (cs : List Char) : splitWord (cs.map mask) = splitWord cs := by
  induction cs with
  | nil => rfl
  | cons c rest ih =>
      rw [List.map_cons, mask]
      split
      · rename_i alphanumeric
        rw [splitWord_cons_of_alphanumeric alphanumeric,
          splitWord_cons_of_alphanumeric alphanumeric, ih]
      · rename_i other
        rw [splitWord_cons_of_other (by decide),
          splitWord_cons_of_other (Bool.eq_false_iff.mpr other), words, words, ih]

theorem words_map_mask (cs : List Char) : words (cs.map mask) = words cs := by
  rw [words, splitWord_map_mask, words]

/-- As far as words are concerned the lower case of a part does not depend on its place. -/
theorem map_mask_lowerBetween (front cs back others more : List Char) :
    (Text.lowerBetween front cs back).map mask = (Text.lowerBetween others cs more).map mask := by
  induction cs generalizing front others with
  | nil => rfl
  | cons c rest ih =>
      have sigma (final : Bool) :
          [if final then Text.finalSigma else Text.smallSigma].map mask = ['-'] := by
        cases final <;> decide
      have first : (Text.lowerAt front c (rest ++ back)).map mask =
          (Text.lowerAt others c (rest ++ more)).map mask := by
        unfold Text.lowerAt
        split
        · rw [sigma, sigma]
        · rfl
      rw [Text.lowerBetween, Text.lowerBetween, List.map_append, List.map_append, first,
        ih (front ++ [c]) (others ++ [c])]

theorem words_lowerBetween (front cs back : List Char) :
    words (Text.lowerBetween front cs back) = words (Text.lowerChars cs) := by
  have alone : Text.lowerChars cs = Text.lowerBetween [] cs [] :=
    Text.lowerFrom_eq_lowerBetween [] cs
  rw [alone, ← words_map_mask, map_mask_lowerBetween front cs back [] [], words_map_mask]

theorem words_eq_consWord (cs : List Char) :
    words cs = consWord (splitWord cs).1 (splitWord cs).2 :=
  rfl

theorem consWord_append (word : List Char) (front back : List (List Char)) :
    consWord word (front ++ back) = consWord word front ++ back := by
  unfold consWord
  split <;> rfl

theorem splitWord_append_other {c : Char} (other : Text.isAsciiAlphanumeric c = false)
    (front back : List Char) :
    splitWord (front ++ c :: back) = ((splitWord front).1, (splitWord front).2 ++ words back) := by
  induction front with
  | nil => exact splitWord_cons_of_other other back
  | cons d rest ih =>
      rw [List.cons_append]
      by_cases alphanumeric : Text.isAsciiAlphanumeric d = true
      · rw [splitWord_cons_of_alphanumeric alphanumeric,
          splitWord_cons_of_alphanumeric alphanumeric, ih]
      · rw [splitWord_cons_of_other (Bool.eq_false_iff.mpr alphanumeric),
          splitWord_cons_of_other (Bool.eq_false_iff.mpr alphanumeric), words_eq_consWord, ih,
          consWord_append, ← words_eq_consWord]

/-- Words end at a character that belongs to none. -/
theorem words_append_other {c : Char} (other : Text.isAsciiAlphanumeric c = false)
    (front back : List Char) : words (front ++ c :: back) = words front ++ words back := by
  rw [words_eq_consWord, splitWord_append_other other, consWord_append, ← words_eq_consWord]

/-- The words of a text are those of its parts around a character that keeps words apart. -/
theorem words_letters_append {c left : Char} (divides : Divides c left) (front back : List Char) :
    words (letters (front ++ c :: back)) = words (letters front) ++ words (letters back) := by
  have kept : (!isAccent left) = true := by rw [divides.not_accent, Bool.not_false]
  let before := (Text.decomposeChars front).filter fun c => !isAccent c
  let behind := (Text.decomposeChars back).filter fun c => !isAccent c
  have divided : letters (front ++ c :: back) =
      Text.lowerBetween [] before ([left] ++ behind) ++
        left :: Text.lowerBetween (before ++ [left]) behind [] := by
    rw [letters, Text.decomposeChars_append divides.alone divides.base, List.filter_append,
      List.filter_cons_of_pos (p := fun c => !isAccent c) kept, ← List.singleton_append,
      ← List.append_assoc, Text.lowerChars_append, divides.lowerBetween, List.append_assoc,
      List.singleton_append]
    rfl
  rw [divided, words_append_other divides.other, words_lowerBetween, words_lowerBetween]
  rfl

/-! ## Slugs -/

/-- Two slugs in one, with a hyphen between them if neither is empty. -/
def join (front back : String) : String :=
  if front = "" then back else if back = "" then front else front ++ "-" ++ back

theorem join_empty (front : String) : join front "" = front := by
  unfold join
  split
  · exact Eq.symm ‹_›
  · rfl

/-- Only a text without words has an empty slug. -/
theorem ofText_eq_empty_iff {s : String} : ofText s = "" ↔ words (letters s.toList) = [] := by
  rw [← String.toList_eq_nil_iff, toList_ofText, ofChars]
  constructor
  · intro empty
    by_contra given
    exact (hyphenated_intercalate given fun word member =>
      isWord_of_mem_words_letters member).ne_nil empty
  · intro none
    rw [none]
    rfl

theorem intercalate_append {front back : List (List Char)} (first : front ≠ [])
    (second : back ≠ []) :
    ['-'].intercalate (front ++ back) =
      ['-'].intercalate front ++ '-' :: ['-'].intercalate back := by
  induction front with
  | nil => exact absurd rfl first
  | cons word rest ih =>
      cases rest with
      | nil =>
          obtain ⟨next, later, rfl⟩ := List.exists_cons_of_ne_nil second
          rw [List.singleton_append, List.intercalate_cons_cons, List.intercalate_singleton,
            List.append_assoc, List.singleton_append]
      | cons next later =>
          have others := ih (List.cons_ne_nil next later)
          rw [List.cons_append] at others
          rw [List.cons_append, List.cons_append, List.intercalate_cons_cons, others,
            List.intercalate_cons_cons]
          simp only [List.append_assoc]

/-- The slug of a text with a separator is that of its two parts. -/
theorem ofText_append {c : Char} (separator : IsSeparator c) (front back : String) :
    ofText (front ++ String.singleton c ++ back) = join (ofText front) (ofText back) := by
  have divided : words (letters (front ++ String.singleton c ++ back).toList) =
      words (letters front.toList) ++ words (letters back.toList) := by
    rw [String.toList_append, String.toList_append, String.toList_singleton, List.append_assoc,
      List.singleton_append, words_letters_append separator.divides]
  rw [← String.toList_inj, toList_ofText, ofChars, divided, join]
  by_cases noFront : ofText front = ""
  · rw [if_pos noFront, ofText_eq_empty_iff.mp noFront, List.nil_append, toList_ofText, ofChars]
  · by_cases noBack : ofText back = ""
    · rw [if_neg noFront, if_pos noBack, ofText_eq_empty_iff.mp noBack, List.append_nil,
        toList_ofText, ofChars]
    · rw [if_neg noFront, if_neg noBack,
        intercalate_append (mt ofText_eq_empty_iff.mpr noFront) (mt ofText_eq_empty_iff.mpr noBack),
        String.toList_append, String.toList_append, toList_ofText, toList_ofText, ofChars, ofChars,
        List.append_assoc]
      rfl

theorem ofText_empty : ofText "" = "" :=
  rfl

/-- Separators in front of a text do not change its slug. -/
theorem ofText_separators_append {seps : List Char} (separators : ∀ c ∈ seps, IsSeparator c)
    (s : String) : ofText (String.ofList seps ++ s) = ofText s := by
  induction seps with
  | nil => rw [String.ofList_nil, String.empty_append]
  | cons c rest ih =>
      obtain ⟨separator, separators⟩ := List.forall_mem_cons.mp separators
      have first := ofText_append separator "" (String.ofList rest ++ s)
      rw [String.empty_append, ofText_empty, join, if_pos rfl, ih separators] at first
      rw [String.ofList_cons, String.append_assoc, first]

/-- Of separators in a row the first is enough. -/
theorem ofText_append_separators {seps : List Char} (separators : ∀ c ∈ seps, IsSeparator c)
    (given : seps ≠ []) (front back : String) :
    ofText (front ++ String.ofList seps ++ back) = join (ofText front) (ofText back) := by
  obtain ⟨c, rest, rfl⟩ := List.exists_cons_of_ne_nil given
  obtain ⟨separator, separators⟩ := List.forall_mem_cons.mp separators
  rw [String.ofList_cons, ← String.append_assoc, String.append_assoc, ofText_append separator,
    ofText_separators_append separators]

/-- **Slugs are joined at separators.** If an ASCII character that is neither a letter nor a digit
stands between two texts, the slug of the whole is the slugs of the two, joined by a hyphen, or the
one of them that is not empty. So separators in front of a text or behind it do not change its slug,
and several in a row do what a single one does. -/
theorem slugs_join_at_separators {c : Char} (separator : IsSeparator c) (front back : String)
    {seps : List Char} (separators : ∀ c ∈ seps, IsSeparator c) :
    ofText (front ++ String.singleton c ++ back) = join (ofText front) (ofText back) ∧
      ofText (String.ofList seps ++ front) = ofText front ∧
      ofText (front ++ String.ofList seps) = ofText front ∧
      (seps ≠ [] → ofText (front ++ String.ofList seps ++ back) =
        ofText (front ++ String.singleton c ++ back)) := by
  refine ⟨ofText_append separator front back, ofText_separators_append separators front, ?_, ?_⟩
  · by_cases none : seps = []
    · rw [none, String.ofList_nil, String.append_empty]
    · have behind := ofText_append_separators separators none front ""
      rwa [String.append_empty, ofText_empty, join_empty] at behind
  · intro given
    rw [ofText_append_separators separators given, ofText_append separator]

/-- A point between two sigmas: the first ends a word in its own part, but not in the whole. -/
theorem slugs_join_at_separators_sigmas :
    IsSeparator '.' ∧ (∀ c ∈ [' ', '-', '-'], IsSeparator c) ∧
      ofText "Café ΛΟΓΟΣ" = "cafe" ∧ ofText "Σ 42" = "42" ∧
      Text.lowercase "ΛΟΓΟΣ" = "λογος" ∧ Text.lowercase "ΛΟΓΟΣ.Σ" = "λογοσ.ς" ∧
      ofText ("Café ΛΟΓΟΣ" ++ String.singleton '.' ++ "Σ 42") = "cafe-42" ∧
      ofText (String.ofList [' ', '-', '-'] ++ "Café ΛΟΓΟΣ") = "cafe" ∧
      ofText ("Café ΛΟΓΟΣ" ++ String.ofList [' ', '-', '-']) = "cafe" ∧
      ofText ("Café ΛΟΓΟΣ" ++ String.ofList [' ', '-', '-'] ++ "Σ 42") = "cafe-42" := by
  have separator : IsSeparator '.' := by decide
  have separators : ∀ c ∈ [' ', '-', '-'], IsSeparator c := by
    simp only [List.forall_mem_cons]
    exact ⟨by decide, by decide, by decide, nofun⟩
  have front : ofText "Café ΛΟΓΟΣ" = "cafe" := by decide +kernel
  have back : ofText "Σ 42" = "42" := by decide +kernel
  obtain ⟨whole, before, behind, between⟩ :=
    slugs_join_at_separators separator "Café ΛΟΓΟΣ" "Σ 42" separators
  have joined : join (ofText "Café ΛΟΓΟΣ") (ofText "Σ 42") = "cafe-42" := by
    rw [front, back]
    decide
  exact ⟨separator, separators, front, back, by decide +kernel, by decide +kernel,
    whole.trans joined, before.trans front, behind.trans front,
    (between (List.cons_ne_nil _ _)).trans (whole.trans joined)⟩

end Slug

end ContentService
