import ContentService.Content.Validation
import ContentService.Proofs.Content.Log
import ContentService.Proofs.Text.Trimming
import Mathlib.Data.List.Nodup

/-! # Valid editions

What a submission is accepted as is valid: its texts are trimmed, those that are required are not
empty, and its lists are clean. A valid edition that is submitted again, as it is, is accepted as
itself.
-/

namespace ContentService

/-! ## Texts -/

namespace Text

/-- A text without white space around it that is not empty. -/
structure Filled (s : String) : Prop where
  trimmed : trim s = s
  not_empty : s ≠ ""

theorem filled_trim {s : String} (given : trim s ≠ "") : Filled (trim s) :=
  ⟨trim_trim s, given⟩

/-- Filled texts, none of them twice. -/
structure Clean (texts : List String) : Prop where
  filled : ∀ s ∈ texts, Filled s
  nodup : texts.Nodup

end Text

open Text (Filled Clean)

/-! ## Lists -/

theorem mem_firstOccurrences {texts : List String} {s : String} :
    s ∈ firstOccurrences texts ↔ s ∈ texts := by
  induction texts with
  | nil => rfl
  | cons first rest ih =>
      by_cases same : s = first
      · subst same
        simp only [firstOccurrences, List.mem_cons, true_or]
      · simp only [firstOccurrences, List.mem_cons, same, false_or, List.mem_filter, ih, ne_eq,
          not_false_eq_true, decide_true, and_true]

theorem nodup_firstOccurrences (texts : List String) : (firstOccurrences texts).Nodup := by
  induction texts with
  | nil => exact List.nodup_nil
  | cons first rest ih =>
      refine List.nodup_cons.mpr ⟨fun again => ?_, ih.filter _⟩
      exact of_decide_eq_true (List.mem_filter.mp again).2 rfl

theorem firstOccurrences_of_nodup {texts : List String} (nodup : texts.Nodup) :
    firstOccurrences texts = texts := by
  induction texts with
  | nil => rfl
  | cons first rest ih =>
      obtain ⟨new, nodup⟩ := List.nodup_cons.mp nodup
      rw [firstOccurrences, ih nodup]
      refine congrArg (first :: ·) (List.filter_eq_self.mpr fun s member => ?_)
      exact decide_eq_true fun same => new (same ▸ member)

theorem clean_cleanList (values : Option (List String)) : Clean (cleanList values) where
  filled s member := by
    obtain ⟨given, kept⟩ := List.mem_filter.mp (mem_firstOccurrences.mp member)
    obtain ⟨raw, -, rfl⟩ := List.mem_map.mp given
    exact Text.filled_trim (of_decide_eq_true kept)
  nodup := nodup_firstOccurrences _

theorem cleanList_of_clean {texts : List String} (clean : Clean texts) :
    cleanList (some texts) = texts := by
  have same : texts.map Text.trim = texts :=
    (List.map_congr_left fun s member => (clean.filled s member).trimmed).trans (List.map_id texts)
  have kept : texts.filter (· ≠ "") = texts :=
    List.filter_eq_self.mpr fun s member => decide_eq_true (clean.filled s member).not_empty
  rw [cleanList, Option.getD_some, same, kept, firstOccurrences_of_nodup clean.nodup]

/-! ## Editions -/

/-- A cover image that is named is named by a filled text. -/
structure CoverValid (cover : Option String) : Prop where
  filled : ∀ url ∈ cover, Filled url

/-- An edition as an accepted submission describes it. -/
structure Edition.Valid (e : Edition) : Prop where
  title : Filled e.title
  contentType : Filled e.contentType
  language : Filled e.language
  slug : Filled e.slug
  slug_canonical : Slug.isCanonical e.slug = true
  slug_short : e.slug.utf8ByteSize ≤ Slug.maxLength
  tags : Clean e.tags
  tags_not_empty : e.tags ≠ []
  metaKeywords : Clean e.metaKeywords
  cover : CoverValid e.coverImageUrl
  metaTitle : Text.trim e.metaTitle = e.metaTitle
  metaDescription : Text.trim e.metaDescription = e.metaDescription

theorem coverValid_trimmed (value : Option String) :
    CoverValid (if trimmed value = "" then none else some (trimmed value)) := by
  by_cases blank : trimmed value = ""
  · rw [if_pos blank]
    exact ⟨fun _ absent => nomatch absent⟩
  · rw [if_neg blank]
    refine ⟨fun url member => ?_⟩
    obtain rfl : trimmed value = url := Option.some.inj member
    exact Text.filled_trim blank

theorem filled_of_requiredProblems {field label : String} {value : Option String}
    (fine : requiredProblems field label value = []) : Filled (trimmed value) := by
  by_cases blank : trimmed value = ""
  · rw [requiredProblems, if_pos blank] at fine
    cases fine
  · exact Text.filled_trim blank

theorem requiredProblems_of_filled {text : String} (filled : Filled text) (field label : String) :
    requiredProblems field label (some text) = [] := by
  refine if_neg fun blank => filled.not_empty ?_
  exact filled.trimmed.symm.trans blank

theorem slugProblems_eq_nil_iff {value : Option String} :
    slugProblems value = [] ↔ trimmed value ≠ "" ∧ Slug.isCanonical (trimmed value) = true ∧
      (trimmed value).utf8ByteSize ≤ Slug.maxLength := by
  by_cases blank : trimmed value = ""
  · simp only [slugProblems, blank, if_true, ne_eq, not_true_eq_false, false_and, iff_false]
    exact List.cons_ne_nil _ _
  · simp only [slugProblems, blank, if_false, List.append_eq_nil_iff, ne_eq, not_false_eq_true,
      true_and]
    constructor
    · intro fine
      refine ⟨?_, ?_⟩
      · by_contra other
        exact List.cons_ne_nil _ _ ((if_neg other).symm.trans fine.1)
      · by_contra long
        exact List.cons_ne_nil _ _ ((if_neg long).symm.trans fine.2)
    · rintro ⟨canonical, short⟩
      exact ⟨if_pos canonical, if_pos short⟩

theorem Submission.validate_eq_ok_iff {submission : Submission} {e : Edition} :
    submission.validate = .ok e ↔ submission.problems = [] ∧
      ∃ status, Status.read? (trimmed submission.status) = some status ∧
        submission.edition status = e := by
  unfold validate
  generalize Status.read? (trimmed submission.status) = read
  generalize submission.problems = problems
  cases read with
  | none => simp only [reduceCtorEq, false_and, exists_false, and_false]
  | some status =>
      cases problems with
      | nil => simp only [Except.ok.injEq, true_and, Option.some.injEq, exists_eq_left']
      | cons problem more => simp only [reduceCtorEq, false_and]

/-- What is accepted is valid. -/
theorem Edition.valid_of_validate {submission : Submission} {e : Edition}
    (accepted : submission.validate = .ok e) : e.Valid := by
  obtain ⟨fine, status, -, rfl⟩ := Submission.validate_eq_ok_iff.mp accepted
  simp only [Submission.problems, List.append_eq_nil_iff] at fine
  obtain ⟨⟨⟨⟨⟨title, contentType⟩, language⟩, slug⟩, tags⟩, -⟩ := fine
  obtain ⟨given, canonical, short⟩ := slugProblems_eq_nil_iff.mp slug
  constructor
  case title => exact filled_of_requiredProblems title
  case contentType => exact filled_of_requiredProblems contentType
  case language => exact filled_of_requiredProblems language
  case slug => exact Text.filled_trim given
  case slug_canonical => exact canonical
  case slug_short => exact short
  case tags => exact clean_cleanList submission.tags
  case tags_not_empty =>
    intro (none : cleanList submission.tags = [])
    exact List.cons_ne_nil _ _ ((if_pos none).symm.trans tags)
  case metaKeywords => exact clean_cleanList submission.metaKeywords
  case cover =>
    simp only [Submission.edition]
    exact coverValid_trimmed submission.coverImageUrl
  case metaTitle => exact Text.trim_trim _
  case metaDescription => exact Text.trim_trim _

/-! ## Submitting again -/

/-- An edition as it is submitted again. -/
def Edition.submission (e : Edition) : Submission :=
  { contentType := some e.contentType
    title := some e.title
    slug := some e.slug
    body := some e.body
    tags := some e.tags
    status := some e.status.name
    language := some e.language
    coverImageUrl := e.coverImageUrl
    metaTitle := some e.metaTitle
    metaDescription := some e.metaDescription
    metaKeywords := some e.metaKeywords }

theorem Status.read?_trimmed_name (status : Status) :
    Status.read? (trimmed (some status.name)) = some status := by
  cases status <;> decide +kernel

theorem CoverValid.trimmed_eq {cover : Option String} (valid : CoverValid cover) :
    (if trimmed cover = "" then none else some (trimmed cover)) = cover := by
  cases cover with
  | none => exact if_pos rfl
  | some url =>
      have filled : Filled url := valid.filled url rfl
      have same : trimmed (some url) = url := filled.trimmed
      rw [same, if_neg filled.not_empty]

theorem Edition.Valid.problems_submission {e : Edition} (valid : e.Valid) :
    e.submission.problems = [] := by
  have slug : trimmed (some e.slug) = e.slug := valid.slug.trimmed
  have status : statusProblems (some e.status.name) = [] := by
    cases e.status <;> decide +kernel
  simp only [Submission.problems, submission, List.append_eq_nil_iff, status, and_true,
    requiredProblems_of_filled valid.title, requiredProblems_of_filled valid.contentType,
    requiredProblems_of_filled valid.language, true_and, slugProblems_eq_nil_iff, slug,
    cleanList_of_clean valid.tags]
  exact ⟨⟨valid.slug.not_empty, valid.slug_canonical, valid.slug_short⟩,
    if_neg valid.tags_not_empty⟩

/-- **Submitting again.** A valid edition is accepted as it is. -/
theorem Edition.Valid.validate_submission {e : Edition} (valid : e.Valid) :
    e.submission.validate = .ok e := by
  refine Submission.validate_eq_ok_iff.mpr
    ⟨valid.problems_submission, e.status, Status.read?_trimmed_name e.status, ?_⟩
  have text {s : String} (trimmed_s : Text.trim s = s) : trimmed (some s) = s := trimmed_s
  simp only [Submission.edition, submission, text valid.title.trimmed,
    text valid.contentType.trimmed, text valid.language.trimmed, text valid.slug.trimmed,
    text valid.metaTitle, text valid.metaDescription, cleanList_of_clean valid.tags,
    cleanList_of_clean valid.metaKeywords, Option.getD_some]
  exact congrArg (fun cover => { e with coverImageUrl := cover }) valid.cover.trimmed_eq

/-! ## Records -/

/-- A version with a title and a cover image as they are accepted. -/
structure Version.Valid (v : Version) : Prop where
  title : Filled v.title
  cover : CoverValid v.coverImageUrl

/-- A record whose live fields and versions are valid. -/
structure Content.Valid (c : Content) : Prop where
  live : c.live.Valid
  versions : ∀ v ∈ c.versions, v.Valid

theorem Edition.Valid.version {e : Edition} (valid : e.Valid) (number : Int) (actor : String)
    (now : Instant) : (e.version number actor now).Valid :=
  ⟨valid.title, valid.cover⟩

namespace Content.Valid

variable {c : Content} {edition : Edition}

theorem initial (valid : edition.Valid) (id : Uuid) (actor : String) (now : Instant) :
    (Content.initial id edition actor now).Valid where
  live := valid
  versions v member := by
    rw [List.mem_singleton.mp member]
    exact valid.version 1 actor now

theorem write (valid : c.Valid) (written : edition.Valid) (actor : String) (now : Instant) :
    (c.write edition actor now).Valid where
  live := written
  versions v member := by
    rcases List.mem_append.mp member with earlier | new
    · exact valid.versions v earlier
    · rw [List.mem_singleton.mp new]
      exact written.version _ actor now

/-- The live fields with title, body and cover image of an old version are valid. -/
theorem restored (valid : c.Valid) {v : Version} (old : v.Valid) : (c.restored v).Valid :=
  { valid.live with title := old.title, cover := old.cover }

/-- A change writes a valid edition, if it is one that restores a version or writes a valid
edition. -/
theorem editionOf (valid : c.Valid) {change : Change}
    (submitted : ∀ written actor, change = .write written actor → written.Valid)
    (asked : c.editionOf change = .ok edition) : edition.Valid := by
  obtain ⟨wanted, -⟩ := Content.editionOf_eq_ok_iff.mp asked
  cases change with
  | write written actor =>
      cases wanted
      exact submitted edition actor rfl
  | restore number actor =>
      obtain ⟨source, found, rfl⟩ := Content.wanted_restore_eq_ok_iff.mp wanted
      exact valid.restored (valid.versions source (List.mem_of_find?_eq_some found))

end Content.Valid

end ContentService
