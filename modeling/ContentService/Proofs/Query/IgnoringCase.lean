import ContentService.Proofs.Query.Comparisons
import ContentService.Proofs.Text.Lowering

/-! # Filters that ignore case

A filter on texts ignores case by comparing the lower case of its value with the lower case of a
text. A capital sigma has two of these, one for the end of a word, and a value that is found inside
a word may end there with another sigma than in the text. But for that, what a filter finds when
case matters it finds when case is ignored (`ContentService.Query.ignoring_case_keeps_matches`).
-/

namespace ContentService

/-! ## Search -/

theorem Text.occursIn_iff_infix {needle haystack : List Char} :
    occursIn needle haystack = true ↔ needle <:+: haystack := by
  induction haystack with
  | nil => rw [occursIn, List.isEmpty_iff, List.infix_nil]
  | cons c rest ih =>
      rw [occursIn, Bool.or_eq_true, List.isPrefixOf_iff_prefix, ih, List.infix_cons_iff]

namespace Query

open Text (lowerChars lowerBetween SigmasAlike capitalSigma)

namespace Operator

/-- The operators that look for the filter's value in a text. -/
def searches : List Operator := [.contains, .startsWith, .endsWith, .eq]

/-- Whether an operator accepts the filter's value between two parts of a text. -/
def Accepts : Operator → List Char → List Char → Prop
  | .contains, _, _ => True
  | .startsWith, front, _ => front = []
  | .endsWith, _, back => back = []
  | .eq, front, back => front = [] ∧ back = []
  | _, _, _ => False

/-- The needle is in a text, at a place that the operator accepts. -/
def Finds (operator : Operator) (needle text : List Char) : Prop :=
  ∃ front back, text = front ++ needle ++ back ∧ operator.Accepts front back

variable {operator : Operator} {needle front back : List Char}

/-- A place in a text is accepted as the same place in the text's lower case. -/
theorem Accepts.lower (accepts : operator.Accepts front back) (others more : List Char) :
    operator.Accepts (lowerBetween [] front more) (lowerBetween others back []) := by
  cases operator with
  | contains => trivial
  | startsWith =>
      obtain rfl : front = [] := accepts
      exact rfl
  | endsWith =>
      obtain rfl : back = [] := accepts
      exact rfl
  | eq =>
      obtain ⟨rfl, rfl⟩ : front = [] ∧ back = [] := accepts
      exact ⟨rfl, rfl⟩
  | _ => exact accepts

/-- What is found is found in lower case if its sigmas are as they are when it is alone. -/
theorem finds_lower (accepts : operator.Accepts front back)
    (alike : SigmasAlike front needle back) :
    operator.Finds (lowerChars needle) (lowerChars (front ++ needle ++ back)) := by
  refine ⟨_, _, ?_, accepts.lower (front ++ needle) (needle ++ back)⟩
  rw [Text.lowerChars_append, Text.lowerBetween_eq_iff.mpr alike]

/-- At the beginning or the end of a text only what has its sigmas as they are when it is alone is
found in lower case. -/
theorem sigmasAlike_of_finds_lower (fixed : operator = .startsWith ∨ operator = .endsWith)
    (accepts : operator.Accepts front back)
    (finds : operator.Finds (lowerChars needle) (lowerChars (front ++ needle ++ back))) :
    SigmasAlike front needle back := by
  obtain ⟨before, behind, same, lower⟩ := finds
  have lengths : (lowerBetween front needle back).length = (lowerChars needle).length := by
    rw [lowerChars, ← List.reverse_nil, Text.lowerFrom_eq_lowerBetween]
    exact Text.length_lowerBetween ..
  rw [Text.lowerChars_append] at same
  refine Text.lowerBetween_eq_iff.mp ?_
  rcases fixed with rfl | rfl
  · obtain rfl : front = [] := accepts
    obtain rfl : before = [] := lower
    exact (List.append_inj same lengths).1
  · obtain rfl : back = [] := accepts
    obtain rfl : behind = [] := lower
    simp only [lowerBetween, List.append_nil] at same
    exact (List.append_inj' same lengths).2

end Operator

/-- An operator that searches finds the needle in a text or, if case does not matter, in its lower
case. -/
theorem testText_iff_finds {operator : Operator} (searches : operator ∈ Operator.searches)
    (needle : String) (caseSensitive : Bool) (s : String) :
    testText operator needle caseSensitive s = true ↔
      operator.Finds needle.toList (if caseSensitive then s else Text.lowercase s).toList := by
  generalize shown : (if caseSensitive then s else Text.lowercase s) = text
  simp only [Operator.searches, List.mem_cons, List.not_mem_nil, or_false] at searches
  rcases searches with rfl | rfl | rfl | rfl
  · have infixed : testText .contains needle caseSensitive s = true ↔
        needle.toList <:+: text.toList := by
      rw [← shown]
      exact Text.occursIn_iff_infix
    rw [infixed]
    exact exists₂_congr fun front back => ⟨fun same => ⟨same.symm, trivial⟩, fun h => h.1.symm⟩
  · have first : testText .startsWith needle caseSensitive s = true ↔
        needle.toList <+: text.toList := by
      rw [← shown]
      exact List.isPrefixOf_iff_prefix
    rw [first]
    exact ⟨fun ⟨back, same⟩ => ⟨[], back, same.symm, rfl⟩,
      fun ⟨_, back, same, (begins : _ = [])⟩ => ⟨back, by rw [same, begins, List.nil_append]⟩⟩
  · have last : testText .endsWith needle caseSensitive s = true ↔
        needle.toList <:+ text.toList := by
      rw [← shown]
      exact List.isSuffixOf_iff_suffix
    rw [last]
    exact ⟨fun ⟨front, same⟩ => ⟨front, [], by rw [List.append_nil, same], rfl⟩,
      fun ⟨front, _, same, (ends : _ = [])⟩ => ⟨front, by rw [same, ends, List.append_nil]⟩⟩
  · have equal : testText .eq needle caseSensitive s = true ↔ text = needle := by
      rw [← shown]
      exact beq_iff_eq
    rw [equal]
    refine ⟨fun same => ⟨[], [], ?_, rfl, rfl⟩, ?_⟩
    · rw [same, List.append_nil, List.nil_append]
    · rintro ⟨_, _, same, rfl, rfl⟩
      rw [List.append_nil, List.nil_append] at same
      exact String.toList_inj.mp same

/-! ## Values -/

/-- The texts of a value: the elements of a list, or the text as which the value is written. -/
def Value.texts : Value → List String
  | .list items => items
  | v => v.toText?.toList

/-- A value passes a filter on texts if one of its texts does. -/
theorem Filter.passes_string_iff (filter : Filter) (logic : filter.logic = .string)
    {operator : Operator} (searches : operator ∈ Operator.searches) (v : Value) :
    filter.passes operator v = true ↔ ∃ s ∈ v.texts,
      testText operator (if filter.caseSensitive then filter.value else Text.lowercase filter.value)
        filter.caseSensitive s = true := by
  have notNeq : operator ≠ .neq := by
    rintro rfl
    exact absurd searches (by decide)
  rw [filter.passes_string logic]
  cases v with
  | list items => simp only [Condition.test, notNeq, if_false, List.any_eq_true, Value.texts]
  | null => simp [Condition.test, Value.texts, Value.toText?]
  | _ => simp [Condition.test, Value.texts, Value.toText?]

namespace Filter

variable {filter : Filter} {operator : Operator} {v : Value}

/-- The filter's value is in a text of a value, between two parts that the operator accepts. -/
structure FoundAt (filter : Filter) (operator : Operator) (v : Value) (front back : List Char) :
    Prop where
  member : String.ofList (front ++ filter.value.toList ++ back) ∈ v.texts
  accepts : operator.Accepts front back

/-- A value passes if it has the filter's value at an accepted place. -/
theorem passes_minding_case_iff (logic : filter.logic = .string)
    (searches : operator ∈ Operator.searches) :
    { filter with caseSensitive := true }.passes operator v = true ↔
      ∃ front back, filter.FoundAt operator v front back := by
  rw [passes_string_iff { filter with caseSensitive := true } logic searches]
  simp only [if_true, testText_iff_finds searches]
  constructor
  · rintro ⟨s, member, front, back, same, accepts⟩
    exact ⟨front, back, by rwa [← same, String.ofList_toList], accepts⟩
  · rintro ⟨front, back, member, accepts⟩
    exact ⟨_, member, front, back, String.toList_ofList, accepts⟩

/-- A value passes a filter that ignores case if the lower case of one of its texts has the lower
case of the filter's value at an accepted place. -/
theorem passes_ignoring_case_iff (logic : filter.logic = .string)
    (searches : operator ∈ Operator.searches) :
    { filter with caseSensitive := false }.passes operator v = true ↔ ∃ s ∈ v.texts,
      operator.Finds (lowerChars filter.value.toList) (lowerChars s.toList) := by
  rw [passes_string_iff { filter with caseSensitive := false } logic searches]
  simp only [Bool.false_eq_true, if_false, testText_iff_finds searches, Text.lowercase,
    String.toList_ofList]

/-- What is found with its sigmas as they are when the filter's value is alone is found when case is
ignored. -/
theorem FoundAt.passes_in_lower_case {front back : List Char}
    (found : filter.FoundAt operator v front back) (logic : filter.logic = .string)
    (searches : operator ∈ Operator.searches)
    (alike : SigmasAlike front filter.value.toList back) :
    { filter with caseSensitive := false }.passes operator v = true := by
  refine (passes_ignoring_case_iff logic searches).mpr ⟨_, found.member, ?_⟩
  rw [String.toList_ofList]
  exact Operator.finds_lower found.accepts alike

/-- A place where a value is equal to the filter's is the whole of its text. -/
theorem FoundAt.sigmasAlike_of_eq {front back : List Char}
    (found : filter.FoundAt .eq v front back) : SigmasAlike front filter.value.toList back := by
  obtain ⟨rfl, rfl⟩ : front = [] ∧ back = [] := found.accepts
  exact Text.sigmasAlike_whole _

end Filter

/-- **Ignoring case loses a match to a sigma only.** Let a value of any kind pass a filter that
looks for a text when case matters. It passes when case is ignored, if the operator is `eq`, if
there is no capital sigma in the filter's value, or if somewhere the filter's value is found with
sigmas that end words exactly where they do when it is alone. A single text that begins or ends with
the filter's value passes in no other case. -/
theorem ignoring_case_keeps_matches {filter : Filter} (logic : filter.logic = .string)
    {operator : Operator} (searches : operator ∈ Operator.searches) {v : Value}
    (passes : { filter with caseSensitive := true }.passes operator v = true) :
    ((operator = .eq ∨ capitalSigma ∉ filter.value.toList ∨
        ∃ front back, filter.FoundAt operator v front back ∧
          SigmasAlike front filter.value.toList back) →
      { filter with caseSensitive := false }.passes operator v = true) ∧
    ∀ s, v.texts = [s] → operator = .startsWith ∨ operator = .endsWith →
      ({ filter with caseSensitive := false }.passes operator v = true ↔
        ∃ front back, filter.FoundAt operator v front back ∧
          SigmasAlike front filter.value.toList back) := by
  obtain ⟨front, back, found⟩ := (Filter.passes_minding_case_iff logic searches).mp passes
  constructor
  · rintro (rfl | none | ⟨front, back, found, alike⟩)
    · exact found.passes_in_lower_case logic searches found.sigmasAlike_of_eq
    · exact found.passes_in_lower_case logic searches (Text.sigmasAlike_of_notMem none front back)
    · exact found.passes_in_lower_case logic searches alike
  · intro s single fixed
    constructor
    · intro ignoring
      obtain ⟨t, member, finds⟩ := (Filter.passes_ignoring_case_iff logic searches).mp ignoring
      have whole := found.member
      rw [single, List.mem_singleton] at member whole
      rw [member, ← whole, String.toList_ofList] at finds
      exact ⟨front, back, found, Operator.sigmasAlike_of_finds_lower fixed found.accepts finds⟩
    · rintro ⟨front, back, found, alike⟩
      exact found.passes_in_lower_case logic searches alike

/-- A text with a word that ends as the filter's value does, and a word that goes on behind it. -/
theorem ignoring_case_keeps_matches_logos :
    let filter : Filter := ⟨"title", .contains, "ΟΣ", .string, true⟩
    let v := Value.list ["ΘΑΛΑΣΣΑ", "ΜΥΘΟΣ ΚΑΙ ΛΟΓΟΣ"]
    let word : Filter := ⟨"title", .startsWith, "ΘΑΛΑΣ", .string, true⟩
    let longer := Value.text "ΘΑΛΑΣΣΑ"
    filter.logic = .string ∧ Operator.contains ∈ Operator.searches ∧
      { filter with caseSensitive := true }.passes .contains v = true ∧
      (∃ front back, filter.FoundAt .contains v front back ∧
        SigmasAlike front filter.value.toList back) ∧
      { filter with caseSensitive := false }.passes .contains v = true ∧
      word.logic = .string ∧ Operator.startsWith ∈ Operator.searches ∧
      { word with caseSensitive := true }.passes .startsWith longer = true ∧
      longer.texts = ["ΘΑΛΑΣΣΑ"] ∧
      ({ word with caseSensitive := false }.passes .startsWith longer = true ↔
        ∃ front back, word.FoundAt .startsWith longer front back ∧
          SigmasAlike front word.value.toList back) := by
  intro filter v word longer
  have looks : Operator.contains ∈ Operator.searches := by decide
  have begins : Operator.startsWith ∈ Operator.searches := by decide
  have passes : { filter with caseSensitive := true }.passes .contains v = true := by decide +kernel
  have passesWord : { word with caseSensitive := true }.passes .startsWith longer = true := by
    decide +kernel
  have place : filter.FoundAt .contains v "ΜΥΘ".toList " ΚΑΙ ΛΟΓΟΣ".toList :=
    ⟨by decide +kernel, trivial⟩
  have alike : SigmasAlike "ΜΥΘ".toList filter.value.toList " ΚΑΙ ΛΟΓΟΣ".toList := by
    decide +kernel
  have found : ∃ front back, filter.FoundAt .contains v front back ∧
      SigmasAlike front filter.value.toList back := ⟨_, _, place, alike⟩
  exact ⟨rfl, looks, passes, found,
    (ignoring_case_keeps_matches rfl looks passes).1 (.inr (.inr found)),
    rfl, begins, passesWord, rfl,
    (ignoring_case_keeps_matches rfl begins passesWord).2 _ rfl (.inl rfl)⟩

/-- A word is not found by its first letters: the last of them ends a word only in the filter. -/
theorem not_forall_ignoring_case_keeps_matches :
    ¬∀ (filter : Filter) (operator : Operator) (v : Value), filter.logic = .string →
      operator ∈ Operator.searches →
      { filter with caseSensitive := true }.passes operator v = true →
      { filter with caseSensitive := false }.passes operator v = true := by
  intro keeps
  let filter : Filter := ⟨"title", .contains, "ΘΑΛΑΣ", .string, true⟩
  have minding : filter.passes .contains (.text "ΘΑΛΑΣΣΑ") = true := by decide +kernel
  have ignoring :
      { filter with caseSensitive := false }.passes .contains (.text "ΘΑΛΑΣΣΑ") = false := by
    decide +kernel
  have kept := keeps filter .contains (.text "ΘΑΛΑΣΣΑ") rfl (by decide) minding
  exact nomatch ignoring.symm.trans kept

end Query

end ContentService
