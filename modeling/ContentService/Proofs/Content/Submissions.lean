import ContentService.Proofs.Content.Valid

/-! # Accepted submissions

An accepted submission says what its edition says: texts are what was submitted without the white
space around it, and lists hold each text once, in the order in which the texts first came. What was
accepted is accepted again, as the same edition (`ContentService.Submission.accepted_as_submitted`).
-/

namespace ContentService

/-! ## White space around texts -/

namespace Text

/-- A text is another without the white space around it. -/
structure Trims (raw text : String) : Prop where
  around : ∃ front back, raw.toList = front ++ text.toList ++ back ∧
    ∀ c ∈ front ++ back, isBlank c = true
  first : ∀ c ∈ text.toList.head?, isBlank c = false
  last : ∀ c ∈ text.toList.getLast?, isBlank c = false

/-- What is trimmed off is white space, and all of it that is around the text. -/
theorem trims_trim (raw : String) : Trims raw (trim raw) := by
  constructor
  case around =>
    refine ⟨raw.toList.takeWhile isBlank, (raw.toList.dropWhile isBlank).rtakeWhile isBlank, ?_, ?_⟩
    · calc raw.toList
          = raw.toList.takeWhile isBlank ++ raw.toList.dropWhile isBlank :=
            List.takeWhile_append_dropWhile.symm
        _ = _ := by
            rw [trim, String.toList_ofList, List.append_assoc]
            exact congrArg _ (List.rdropWhile_append_rtakeWhile ..).symm
    · intro c member
      rcases List.mem_append.mp member with front | back
      · exact List.mem_takeWhile_imp front
      · exact List.mem_rtakeWhile_imp back
  case first =>
    rw [trim, String.toList_ofList, ← dropWhile_trimChars]
    exact isBlank_head_dropWhile _
  case last =>
    rw [trim, String.toList_ofList, trimChars, trimEndChars, List.getLast?_reverse]
    exact isBlank_head_dropWhile _

theorem trimChars_eq_nil_iff {cs : List Char} :
    trimChars cs = [] ↔ ∀ c ∈ cs, isBlank c = true := by
  have ends : trimChars cs = [] ↔ ∀ c ∈ cs.dropWhile isBlank, isBlank c = true :=
    List.rdropWhile_eq_nil_iff
  rw [ends]
  constructor
  · intro blank c member
    rw [← List.takeWhile_append_dropWhile (p := isBlank) (l := cs)] at member
    rcases List.mem_append.mp member with front | back
    · exact List.mem_takeWhile_imp front
    · exact blank c back
  · intro blank c member
    exact blank c ((List.dropWhile_suffix isBlank).mem member)

/-- There is one way to trim a text. -/
theorem trims_iff {raw text : String} : Trims raw text ↔ text = trim raw := by
  constructor
  · intro trims
    obtain ⟨front, back, same, blank⟩ := trims.around
    obtain ⟨blankFront, blankBack⟩ := List.forall_mem_append.mp blank
    rw [← String.toList_inj, trim, String.toList_ofList, same]
    cases begins : text.toList with
    | nil =>
        rw [List.append_nil]
        exact (trimChars_eq_nil_iff.mpr blank).symm
    | cons c rest =>
        have first : ∀ d ∈ (c :: rest ++ back).head?, isBlank d = false := by
          intro d head
          exact trims.first d (begins ▸ head)
        have last : ∀ d ∈ (c :: rest).reverse.head?, isBlank d = false := by
          intro d head
          rw [List.head?_reverse] at head
          exact trims.last d (begins ▸ head)
        have blankEnd : ∀ d ∈ back.reverse, isBlank d = true := fun d member =>
          blankBack d (List.mem_reverse.mp member)
        rw [trimChars, trimStartChars, List.append_assoc, List.dropWhile_append_of_pos blankFront,
          dropWhile_of_head first, trimEndChars, List.reverse_append,
          List.dropWhile_append_of_pos blankEnd, dropWhile_of_head last, List.reverse_reverse]
  · rintro rfl
    exact trims_trim raw

end Text

open Text (Trims Filled)

/-! ## Lists -/

theorem firstOccurrences_filter (kind : String → Bool) (texts : List String) :
    firstOccurrences (texts.filter kind) = (firstOccurrences texts).filter kind := by
  induction texts with
  | nil => rfl
  | cons first rest ih =>
      by_cases kept : kind first = true
      · rw [List.filter_cons_of_pos kept, firstOccurrences, firstOccurrences,
          List.filter_cons_of_pos kept, ih, List.filter_comm]
      · have apart : ∀ s ∈ (firstOccurrences rest).filter kind, decide (s ≠ first) = true := by
          intro s member
          refine decide_eq_true ?_
          rintro rfl
          exact kept (List.mem_filter.mp member).2
        rw [List.filter_cons_of_neg kept, firstOccurrences, List.filter_cons_of_neg kept, ih,
          List.filter_comm, List.filter_eq_self.mpr apart]

/-- First occurrences come in the order of the texts. -/
theorem firstOccurrences_pairwise (texts : List String) :
    (firstOccurrences texts).Pairwise fun s t => texts.idxOf s < texts.idxOf t := by
  induction texts with
  | nil => exact List.Pairwise.nil
  | cons first rest ih =>
      have later {s : String} (member : s ∈ (firstOccurrences rest).filter (· ≠ first)) :
          (first :: rest).idxOf s = rest.idxOf s + 1 :=
        List.idxOf_cons_ne rest fun same =>
          of_decide_eq_true (List.mem_filter.mp member).2 same.symm
      refine List.pairwise_cons.mpr ⟨fun s member => ?_, ?_⟩
      · rw [later member, List.idxOf_cons_self]
        exact Nat.succ_pos _
      · refine (ih.filter _).imp_of_mem fun {s t} first second ordered => ?_
        rw [later first, later second]
        exact Nat.succ_lt_succ ordered

/-- A cleaned list holds the trimmed texts that are not empty, each once, in the order in which they
first came. -/
structure Cleans (given cleaned : List String) : Prop where
  mem_iff : ∀ s, s ∈ cleaned ↔ s ≠ "" ∧ ∃ raw ∈ given, Trims raw s
  nodup : cleaned.Nodup
  in_order : cleaned.Pairwise fun s t =>
    (given.map Text.trim).idxOf s < (given.map Text.trim).idxOf t

theorem cleans_cleanList (values : Option (List String)) :
    Cleans (values.getD []) (cleanList values) where
  mem_iff s := by
    rw [cleanList, mem_firstOccurrences, List.mem_filter, List.mem_map, decide_eq_true_eq, and_comm]
    exact and_congr_right fun _ => exists_congr fun raw => and_congr_right fun _ => by
      rw [Text.trims_iff, eq_comm]
  nodup := nodup_firstOccurrences _
  in_order := by
    rw [cleanList, firstOccurrences_filter]
    exact (firstOccurrences_pairwise _).filter _

/-! ## Statuses -/

theorem Text.asciiLower_eq_iff {a b : String} :
    asciiLower a = asciiLower b ↔ equalIgnoringAsciiCase a b = true := by
  rw [asciiLower, asciiLower, String.ofList_inj, equalIgnoringAsciiCase, beq_iff_eq]

theorem Status.read?_eq_some_iff {s : String} {status : Status} :
    Status.read? s = some status ↔
      Text.equalIgnoringAsciiCase (Text.trim s) status.name = true := by
  rw [← Text.asciiLower_eq_iff]
  constructor
  · intro read
    have named := List.find?_some read
    simp only [fold, beq_iff_eq] at named
    exact named.symm
  · intro same
    rw [read?, fold, same]
    cases status <;> decide +kernel

/-! ## Editions -/

/-- A text as it was submitted: without the white space around it, and not empty. -/
structure Submitted (value : Option String) (text : String) : Prop where
  trims : ∃ raw, value = some raw ∧ Trims raw text
  not_empty : text ≠ ""

theorem submitted_iff {value : Option String} {text : String} :
    Submitted value text ↔ text = trimmed value ∧ text ≠ "" := by
  constructor
  · rintro ⟨⟨raw, rfl, trims⟩, given⟩
    exact ⟨Text.trims_iff.mp trims, given⟩
  · rintro ⟨rfl, given⟩
    refine ⟨?_, given⟩
    cases value with
    | none => exact absurd rfl given
    | some raw => exact ⟨raw, rfl, Text.trims_trim raw⟩

theorem submitted_trimmed {value : Option String} (filled : Filled (trimmed value)) :
    Submitted value (trimmed value) :=
  submitted_iff.mpr ⟨rfl, filled.not_empty⟩

namespace Submission

/-- What an accepted submission says of the members of its edition. -/
structure Describes (s : Submission) (e : Edition) : Prop where
  title : Submitted s.title e.title
  contentType : Submitted s.contentType e.contentType
  language : Submitted s.language e.language
  slug : Submitted s.slug e.slug
  slug_canonical : Slug.isCanonical e.slug = true
  slug_short : e.slug.utf8ByteSize ≤ 128
  body : e.body = s.body.getD ""
  status : ∃ raw, s.status = some raw ∧
    Text.equalIgnoringAsciiCase (Text.trim raw) e.status.name = true
  tags : Cleans (s.tags.getD []) e.tags
  tags_not_empty : e.tags ≠ []
  metaKeywords : Cleans (s.metaKeywords.getD []) e.metaKeywords
  cover : ∀ url, e.coverImageUrl = some url ↔ Submitted s.coverImageUrl url
  metaTitle : Trims (s.metaTitle.getD "") e.metaTitle
  metaDescription : Trims (s.metaDescription.getD "") e.metaDescription

/-- A cover image is named if something other than white space names it. -/
theorem cover_eq_some_iff {s : Submission} {status : Status} {url : String} :
    (s.edition status).coverImageUrl = some url ↔ Submitted s.coverImageUrl url := by
  rw [submitted_iff, edition]
  by_cases blank : trimmed s.coverImageUrl = ""
  · simp only [blank, if_true, reduceCtorEq, false_iff, not_and, not_not, imp_self]
  · simp only [blank, if_false, Option.some.injEq]
    constructor
    · rintro rfl
      exact ⟨rfl, blank⟩
    · exact fun same => same.1.symm

/-- A status that is read was submitted. -/
theorem exists_of_read {value : Option String} {status : Status}
    (read : Status.read? (trimmed value) = some status) :
    ∃ raw, value = some raw ∧
      Text.equalIgnoringAsciiCase (Text.trim raw) status.name = true := by
  have named := Status.read?_eq_some_iff.mp read
  cases value with
  | none => cases status <;> exact absurd named (by decide +kernel)
  | some raw =>
      refine ⟨raw, rfl, ?_⟩
      rwa [trimmed, Option.getD_some, Text.trim_trim] at named

/-- **What is accepted.** The edition of an accepted submission holds the submitted texts, all but
the body without the white space around them. Title, content type, language and slug are not empty,
the slug is canonical and has at most 128 bytes. Tags and keywords are the submitted ones that are
not blank, each once and in the order in which they first came, and there is a tag. A blank cover
image is absent. Submitted again, with the name of its status, the edition is accepted as itself. -/
theorem accepted_as_submitted {s : Submission} {e : Edition} (accepted : s.validate = .ok e) :
    s.Describes e ∧ e.submission.validate = .ok e := by
  have valid := Edition.valid_of_validate accepted
  refine ⟨?_, valid.validate_submission⟩
  obtain ⟨-, status, read, rfl⟩ := validate_eq_ok_iff.mp accepted
  constructor
  case title => exact submitted_trimmed valid.title
  case contentType => exact submitted_trimmed valid.contentType
  case language => exact submitted_trimmed valid.language
  case slug => exact submitted_trimmed valid.slug
  case slug_canonical => exact valid.slug_canonical
  case slug_short => exact valid.slug_short
  case body => rfl
  case status => exact exists_of_read read
  case tags => exact cleans_cleanList s.tags
  case tags_not_empty => exact valid.tags_not_empty
  case metaKeywords => exact cleans_cleanList s.metaKeywords
  case cover => exact fun url => cover_eq_some_iff
  case metaTitle => exact Text.trims_trim _
  case metaDescription => exact Text.trims_trim _

/-- A submission with white space of several kinds, a status in capitals and tags that repeat. -/
theorem accepted_as_submitted_spaced :
    let s : Submission :=
      { contentType := some " article"
        title := some "\u00a0On sets\u2003"
        slug := some "on-sets\n"
        body := some " as it is "
        tags := some [" news", "sets ", "", "news", "SETS"]
        status := some " PUBLISHED "
        language := some "en"
        coverImageUrl := some "  "
        metaTitle := none
        metaDescription := some " sets "
        metaKeywords := none }
    let e : Edition :=
      { contentType := "article"
        title := "On sets"
        slug := "on-sets"
        body := " as it is "
        tags := ["news", "sets", "SETS"]
        status := .published
        language := "en"
        coverImageUrl := none
        metaTitle := ""
        metaDescription := "sets"
        metaKeywords := [] }
    s.validate = .ok e ∧ s.Describes e ∧ e.submission.validate = .ok e := by
  intro s e
  have accepted : s.validate = .ok e := by decide +kernel
  exact ⟨accepted, accepted_as_submitted accepted⟩

end Submission

end ContentService
