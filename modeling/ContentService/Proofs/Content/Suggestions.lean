import ContentService.Proofs.Content.Refusals
import ContentService.Proofs.Content.SlugLength
import ContentService.Proofs.Content.SlugParts

/-! # Suggested slugs

The refusal of a slug that is not canonical suggests the slug of the refused text. Whoever follows
the suggestion is not refused again, since a slug is canonical and not longer than its text. But a
text without an ASCII letter or digit has an empty slug, and where that is suggested it does not
help (`ContentService.Submission.suggestions_accepted`).
-/

namespace ContentService

namespace Slug

/-! ## White space around texts -/

/-- The characters of white space, each with what is left of it among the letters. -/
def blanks : List (Nat × Nat) :=
  [(9, 9), (10, 10), (11, 11), (12, 12), (13, 13), (0x20, 0x20), (0x85, 0x85), (0xA0, 0xA0),
    (0x1680, 0x1680), (0x2000, 0x2002), (0x2001, 0x2003), (0x2002, 0x2002), (0x2003, 0x2003),
    (0x2004, 0x2004), (0x2005, 0x2005), (0x2006, 0x2006), (0x2007, 0x2007), (0x2008, 0x2008),
    (0x2009, 0x2009), (0x200A, 0x200A), (0x2028, 0x2028), (0x2029, 0x2029), (0x202F, 0x202F),
    (0x205F, 0x205F), (0x3000, 0x3000)]

theorem exists_left_of_isBlank {c : Char} (blank : Text.isBlank c = true) :
    ∃ left, (c.toNat, left) ∈ blanks := by
  have points : c.toNat ∈ blanks.map (·.1) := by
    simp only [Text.isBlank, Bool.or_eq_true, Bool.and_eq_true, decide_eq_true_eq, beq_iff_eq]
      at blank
    simp only [blanks, List.map_cons, List.map_nil, List.mem_cons, List.not_mem_nil, or_false]
    omega
  obtain ⟨⟨point, left⟩, member, rfl⟩ := List.mem_map.mp points
  exact ⟨left, member⟩

theorem divides_of_isBlank {c : Char} (blank : Text.isBlank c = true) :
    ∃ left, Divides c left := by
  have all : ∀ entry ∈ blanks, Divides (Char.ofNat entry.1) (Char.ofNat entry.2) := by
    decide +kernel
  obtain ⟨left, member⟩ := exists_left_of_isBlank blank
  have divides := all _ member
  rw [Char.ofNat_toNat] at divides
  exact ⟨_, divides⟩

theorem words_letters_nil : words (letters []) = [] :=
  rfl

theorem words_letters_blanks_append {front : List Char}
    (blank : ∀ c ∈ front, Text.isBlank c = true) (cs : List Char) :
    words (letters (front ++ cs)) = words (letters cs) := by
  induction front with
  | nil => rfl
  | cons c rest ih =>
      obtain ⟨first, later⟩ := List.forall_mem_cons.mp blank
      obtain ⟨left, divides⟩ := divides_of_isBlank first
      have apart := words_letters_append divides [] (rest ++ cs)
      rwa [List.nil_append, words_letters_nil, List.nil_append, ih later] at apart

theorem words_letters_append_blanks {back : List Char}
    (blank : ∀ c ∈ back, Text.isBlank c = true) (cs : List Char) :
    words (letters (cs ++ back)) = words (letters cs) := by
  cases back with
  | nil => rw [List.append_nil]
  | cons c rest =>
      obtain ⟨first, later⟩ := List.forall_mem_cons.mp blank
      obtain ⟨left, divides⟩ := divides_of_isBlank first
      have none := words_letters_blanks_append later []
      rw [List.append_nil] at none
      rw [words_letters_append divides, none, words_letters_nil, List.append_nil]

/-- White space around a text does not change its slug. -/
theorem ofText_trim (s : String) : ofText (Text.trim s) = ofText s := by
  obtain ⟨front, back, parts, blank⟩ := (Text.trims_trim s).around
  obtain ⟨blankFront, blankBack⟩ := List.forall_mem_append.mp blank
  have same : words (letters s.toList) = words (letters (Text.trim s).toList) := by
    rw [parts, words_letters_append_blanks blankBack, words_letters_blanks_append blankFront]
  rw [ofText, ofText, ofChars, ofChars, same]

/-! ## Slugs of slugs -/

theorem words_eq_nil_iff {cs : List Char} :
    words cs = [] ↔ ∀ c ∈ cs, Text.isAsciiAlphanumeric c = false := by
  induction cs with
  | nil => exact iff_of_true rfl fun c member => absurd member List.not_mem_nil
  | cons c rest ih =>
      rw [List.forall_mem_cons, ← ih, words_eq_consWord]
      cases alphanumeric : Text.isAsciiAlphanumeric c with
      | true =>
          rw [splitWord_cons_of_alphanumeric alphanumeric]
          exact iff_of_false (List.cons_ne_nil _ _) fun none => nomatch none.1
      | false =>
          rw [splitWord_cons_of_other alphanumeric]
          exact (and_iff_right rfl).symm

/-- Nothing is trimmed off what has the form of slugs. -/
theorem Hyphenated.trimChars_eq {cs : List Char} (hyphenated : Hyphenated cs) :
    Text.trimChars cs = cs := by
  have dark : ∀ c ∈ cs, Text.isBlank c = false := by
    intro c member
    rcases hyphenated.mem c member with letter | rfl
    · have := isLetter_iff_toNat.mp letter
      exact Text.isBlank_of_visible (by omega) (by omega)
    · decide
  exact Text.trimChars_eq_self (fun c head => dark c (List.mem_of_mem_head? head))
    fun c last => dark c (List.mem_of_mem_getLast? last)

/-- A slug that is not empty is canonical, and there is no white space around it. -/
theorem canonical_ofText {s : String} (given : ofText s ≠ "") :
    isCanonical (ofText s) = true ∧ Text.trim (ofText s) = ofText s := by
  have hyphenated : Hyphenated (ofText s).toList := by
    rw [toList_ofText]
    refine (ofChars_eq_nil_or_hyphenated s.toList).resolve_left fun empty => given ?_
    rw [ofText, empty]
  refine ⟨isCanonical_iff.mpr hyphenated, ?_⟩
  rw [Text.trim, hyphenated.trimChars_eq, String.ofList_toList]

end Slug

namespace Submission

variable {s : Submission} {hint : String}

/-! ## Submissions refused for their slug -/

/-- What is said in front of a suggested slug. -/
def beforeHint : String :=
  "Slug may only use lowercase letters, digits and single hyphens (e.g. '"

/-- What is said of a slug that is not canonical, and a slug is suggested. -/
def suggesting (hint : String) : String :=
  beforeHint ++ hint ++ "')"

theorem suggesting_inj {other : String} (same : suggesting hint = suggesting other) :
    hint = other := by
  unfold suggesting at same
  exact (String.append_right_inj _).mp ((String.append_left_inj _).mp same)

/-- A message that begins otherwise suggests nothing. -/
theorem ne_suggesting {message : String}
    (otherwise : message.toList.take 7 ≠ beforeHint.toList.take 7) (hint : String) :
    message ≠ suggesting hint := by
  have long : 7 ≤ beforeHint.toList.length := by decide +kernel
  rintro rfl
  rw [suggesting, String.toList_append, String.toList_append, List.append_assoc,
    List.take_append_of_le_length long] at otherwise
  exact otherwise rfl

/-- Nothing is wrong with a submission but the form of its slug. -/
structure Misspelled (s : Submission) : Prop where
  given : ¬Missing s.slug
  form : Slug.isCanonical (trimmed s.slug) = false
  short : (trimmed s.slug).utf8ByteSize ≤ 128
  others : ∀ member, s.Breaks member → member = .slug

theorem breaks_slug_of_complaints {message : String} (said : s.complaints .slug = [message]) :
    s.Breaks .slug := by
  rw [← complaints_ne_nil_iff, said]
  exact List.cons_ne_nil _ _

/-- The members that break their rules, if only the slug does. -/
theorem filter_breaks_eq_slug_iff :
    (Checked.all.filter fun member => s.Breaks member) = [.slug] ↔
      ∀ member, s.Breaks member ↔ member = .slug := by
  constructor
  · intro only member
    have listed : member ∈ Checked.all.filter (fun member => s.Breaks member) ↔ s.Breaks member :=
      List.mem_filter.trans ((and_iff_right member.mem_all).trans decide_eq_true_iff)
    rw [← listed, only, List.mem_singleton]
  · intro only
    simp only [only]
    decide

/-- A refusal for the slug alone tells what is to be said of it. -/
theorem validate_eq_error_single_iff {message : String} :
    s.validate = .error (.single "slug" message) ↔
      (∀ member, s.Breaks member → member = .slug) ∧ s.complaints .slug = [message] := by
  have single (errors : FieldErrors) :
      .single "slug" message = errors ↔ errors.entries = [("slug", [message])] := by
    cases errors
    rw [eq_comm]
    exact FieldErrors.mk.injEq .. ▸ Iff.rfl
  rw [validate_eq_error_iff, single, entries_ofList_problems, problems_ne_nil_iff]
  constructor
  · rintro ⟨-, entries⟩
    obtain ⟨member, only, entry⟩ := List.map_eq_singleton_iff.mp entries
    obtain ⟨name, said⟩ := Prod.mk.inj entry
    obtain rfl : member = .slug := Checked.name_injective name
    exact ⟨fun other => (filter_breaks_eq_slug_iff.mp only other).mp, said⟩
  · rintro ⟨others, said⟩
    have broken := breaks_slug_of_complaints said
    have only : ∀ member, s.Breaks member ↔ member = .slug := fun member =>
      ⟨others member, fun slug => slug ▸ broken⟩
    rw [filter_breaks_eq_slug_iff.mpr only, List.map_singleton, said]
    exact ⟨⟨.slug, broken⟩, rfl⟩

/-- Of two messages only the first is said. -/
theorem said_append_said_eq_iff {first second : Prop} [Decidable first] [Decidable second]
    {one two message : String} (apart : two ≠ message) :
    said first one ++ said second two = [message] ↔ first ∧ ¬second ∧ one = message := by
  unfold said
  by_cases holds : first <;> by_cases also : second <;> simp [holds, also, apart]

theorem complaints_slug (given : ¬Missing s.slug) :
    s.complaints .slug =
      said (Slug.isCanonical (trimmed s.slug) = false)
          (suggesting (Slug.ofText (trimmed s.slug))) ++
        said (128 < (trimmed s.slug).utf8ByteSize) "Slug must be at most 128 characters" := by
  rw [complaints, if_neg given, suggesting, beforeHint]

/-- A slug is suggested, and nothing else is said of the slug, if it is given and short but has not
the form of slugs. -/
theorem complaints_slug_eq_iff :
    s.complaints .slug = [suggesting hint] ↔
      ¬Missing s.slug ∧ Slug.isCanonical (trimmed s.slug) = false ∧
        (trimmed s.slug).utf8ByteSize ≤ 128 ∧ Slug.ofText (trimmed s.slug) = hint := by
  have required : "Slug is required" ≠ suggesting hint := ne_suggesting (by decide +kernel) hint
  have tooLong : "Slug must be at most 128 characters" ≠ suggesting hint :=
    ne_suggesting (by decide +kernel) hint
  by_cases missing : Missing s.slug
  · rw [complaints, if_pos missing, List.singleton_inj]
    exact iff_of_false required fun fine => fine.1 missing
  · rw [complaints_slug missing, said_append_said_eq_iff tooLong, Nat.not_lt]
    constructor
    · rintro ⟨form, short, same⟩
      exact ⟨missing, form, short, suggesting_inj same⟩
    · rintro ⟨-, form, short, same⟩
      exact ⟨form, short, congrArg suggesting same⟩

/-- A refusal suggests a slug and says nothing else if only the form of the slug is wrong. -/
theorem validate_eq_suggesting_iff :
    s.validate = .error (.single "slug" (suggesting hint)) ↔
      s.Misspelled ∧ hint = Slug.ofText (trimmed s.slug) := by
  rw [validate_eq_error_single_iff, complaints_slug_eq_iff]
  constructor
  · rintro ⟨others, given, form, short, same⟩
    exact ⟨⟨given, form, short, others⟩, same.symm⟩
  · rintro ⟨⟨given, form, short, others⟩, same⟩
    exact ⟨others, given, form, short, same.symm⟩

/-! ## Suggestions that are followed -/

/-- The rules of the other members do not look at the slug. -/
theorem breaks_with_slug_iff {slug : Option String} {member : Checked} (other : member ≠ .slug) :
    { s with slug := slug }.Breaks member ↔ s.Breaks member := by
  cases member with
  | slug => exact absurd rfl other
  | contentType | language | status | tags | title => exact Iff.rfl

/-- A submission without broken rules is accepted with its own slug. -/
theorem accepted_of_not_breaks (fine : ∀ member, ¬s.Breaks member) :
    ∃ e, s.validate = .ok e ∧ e.slug = trimmed s.slug := by
  have none : s.problems = [] := by
    by_contra wrong
    obtain ⟨member, broken⟩ := problems_ne_nil_iff.mp wrong
    exact fine member broken
  have named : s.NamesStatus := by
    by_contra unknown
    exact fine .status (.inr unknown)
  obtain ⟨status, read⟩ := Option.isSome_iff_exists.mp (namesStatus_iff.mp named)
  exact ⟨s.edition status, validate_eq_ok_iff.mpr ⟨none, status, read, rfl⟩, rfl⟩

/-- The suggested slug of a submission is accepted unless it is empty. -/
theorem Misspelled.accepted (misspelled : s.Misspelled)
    (given : Slug.ofText (trimmed s.slug) ≠ "") :
    ∃ e, { s with slug := some (Slug.ofText (trimmed s.slug)) }.validate = .ok e ∧
      e.slug = Slug.ofText (trimmed s.slug) := by
  obtain ⟨canonical, alone⟩ := Slug.canonical_ofText given
  have itself : trimmed (some (Slug.ofText (trimmed s.slug))) = Slug.ofText (trimmed s.slug) :=
    alone
  have short : (Slug.ofText (trimmed s.slug)).utf8ByteSize ≤ 128 :=
    (Slug.utf8ByteSize_ofText_le _).trans misspelled.short
  have fine : ∀ member,
      ¬{ s with slug := some (Slug.ofText (trimmed s.slug)) }.Breaks member := by
    intro member broken
    by_cases slug : member = .slug
    · subst slug
      rcases broken with missing | malformed | long
      · exact given (itself.symm.trans (trimmed_eq_empty_iff.mpr missing))
      · rw [itself, canonical] at malformed
        exact nomatch malformed
      · rw [itself] at long
        exact absurd long (Nat.not_lt.mpr short)
    · exact slug (misspelled.others member ((breaks_with_slug_iff slug).mp broken))
  obtain ⟨e, accepted, same⟩ := accepted_of_not_breaks fine
  exact ⟨e, accepted, same.trans itself⟩

/-- An empty suggestion is refused as a missing slug. -/
theorem Misspelled.refused (misspelled : s.Misspelled)
    (empty : Slug.ofText (trimmed s.slug) = "") :
    { s with slug := some (Slug.ofText (trimmed s.slug)) }.validate =
      .error (.single "slug" "Slug is required") := by
  have missing : Missing (some "") := fun c member => absurd member List.not_mem_nil
  rw [empty, validate_eq_error_single_iff]
  constructor
  · intro member broken
    by_contra other
    exact other (misspelled.others member ((breaks_with_slug_iff other).mp broken))
  · rw [complaints]
    exact if_pos missing

/-- **Suggested slugs.** If a submission is refused with a suggested slug and nothing else, then
only the form of its slug is wrong, and the slug of that text is suggested, to which white space
around the text makes no difference and which is not longer in bytes. If a letter or digit of ASCII
is among the letters of the text, the submission is accepted with the suggested slug in place of its
own. If there is none, the suggested slug is empty, and the submission would be refused for want of
a slug. -/
theorem suggestions_accepted
    (refused : s.validate = .error (.single "slug" (suggesting hint))) :
    s.Misspelled ∧ hint = Slug.ofText (trimmed s.slug) ∧ hint = Slug.ofText (s.slug.getD "") ∧
      hint.utf8ByteSize ≤ (trimmed s.slug).utf8ByteSize ∧
      ((∃ c ∈ Slug.letters (trimmed s.slug).toList, Text.isAsciiAlphanumeric c = true) →
        hint ≠ "" ∧ ∃ e, { s with slug := some hint }.validate = .ok e ∧ e.slug = hint) ∧
      ((∀ c ∈ Slug.letters (trimmed s.slug).toList, Text.isAsciiAlphanumeric c = false) →
        hint = "" ∧ { s with slug := some hint }.validate =
          .error (.single "slug" "Slug is required")) := by
  obtain ⟨misspelled, rfl⟩ := validate_eq_suggesting_iff.mp refused
  have empty_iff : Slug.ofText (trimmed s.slug) = "" ↔
      ∀ c ∈ Slug.letters (trimmed s.slug).toList, Text.isAsciiAlphanumeric c = false :=
    Slug.ofText_eq_empty_iff.trans Slug.words_eq_nil_iff
  refine ⟨misspelled, rfl, Slug.ofText_trim _, Slug.utf8ByteSize_ofText_le _, ?_, fun none => ?_⟩
  · rintro ⟨c, member, letter⟩
    have given : Slug.ofText (trimmed s.slug) ≠ "" := by
      intro empty
      rw [empty_iff.mp empty c member] at letter
      exact nomatch letter
    exact ⟨given, misspelled.accepted given⟩
  · have empty := empty_iff.mpr none
    exact ⟨empty, misspelled.refused empty⟩

/-- A submission that is fine but for its slug. -/
def titled (slug : String) : Submission :=
  { contentType := some "article"
    title := some "Desserts"
    slug := some slug
    body := none
    tags := some ["food"]
    status := some "Draft"
    language := some "fr"
    coverImageUrl := none
    metaTitle := none
    metaDescription := none
    metaKeywords := none }

/-- Two words with accents and capitals, and two characters without a letter of ASCII. -/
theorem suggestions_accepted_dessert :
    (titled " Crème Brûlée").validate = .error (.single "slug" (suggesting "creme-brulee")) ∧
      (∃ e, (titled "creme-brulee").validate = .ok e ∧ e.slug = "creme-brulee") ∧
      (titled "東京").validate = .error (.single "slug" (suggesting "")) ∧
      (titled "").validate = .error (.single "slug" "Slug is required") := by
  have first : (titled " Crème Brûlée").validate =
      .error (.single "slug" (suggesting "creme-brulee")) := by decide +kernel
  have second : (titled "東京").validate = .error (.single "slug" (suggesting "")) := by
    decide +kernel
  obtain ⟨-, -, -, -, accepted, -⟩ := suggestions_accepted first
  obtain ⟨-, -, -, -, -, refused⟩ := suggestions_accepted second
  exact ⟨first, (accepted ⟨'c', by decide +kernel, by decide⟩).2, second,
    (refused (Slug.words_eq_nil_iff.mp (Slug.ofText_eq_empty_iff.mp (by decide +kernel)))).2⟩

/-- **An empty suggestion.** Not every suggested slug is accepted. -/
theorem not_forall_suggestions_accepted :
    ¬∀ (s : Submission) (hint : String),
      s.validate = .error (.single "slug" (suggesting hint)) →
        ∃ e, { s with slug := some hint }.validate = .ok e := by
  intro all
  have refused : (titled "東京").validate = .error (.single "slug" (suggesting "")) := by
    decide +kernel
  obtain ⟨e, accepted⟩ := all (titled "東京") "" refused
  have again : { titled "東京" with slug := some "" }.validate =
      .error (.single "slug" "Slug is required") := by decide +kernel
  rw [again] at accepted
  exact nomatch accepted

end Submission

end ContentService
