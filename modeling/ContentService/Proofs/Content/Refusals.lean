import ContentService.Content.Calls
import ContentService.Proofs.Content.Submissions
import ContentService.Proofs.FieldErrors

/-! # Refused submissions

A submission is refused if a member that is checked breaks its rule, and the refusal reports every
such member, and no other, with all that is wrong with it
(`ContentService.Submission.refused_for_what_is_broken`).
-/

namespace ContentService

/-! ## Rules -/

/-- A text that is missing or consists of white space. -/
def Missing (value : Option String) : Prop :=
  ∀ c ∈ (value.getD "").toList, Text.isBlank c = true

instance (value : Option String) : Decidable (Missing value) :=
  inferInstanceAs (Decidable (∀ c ∈ (value.getD "").toList, Text.isBlank c = true))

theorem trimmed_eq_empty_iff {value : Option String} : trimmed value = "" ↔ Missing value := by
  rw [← String.toList_eq_nil_iff, trimmed, Text.trim, String.toList_ofList,
    Text.trimChars_eq_nil_iff]
  rfl

/-- The members of a submission that are checked. -/
inductive Checked
  | contentType
  | language
  | slug
  | status
  | tags
  | title
  deriving DecidableEq, Repr

namespace Checked

/-- The checked members in the order of their names. -/
def all : List Checked := [.contentType, .language, .slug, .status, .tags, .title]

/-- The name of a member. -/
def name : Checked → String
  | .contentType => "contentType"
  | .language => "language"
  | .slug => "slug"
  | .status => "status"
  | .tags => "tags"
  | .title => "title"

theorem mem_all (member : Checked) : member ∈ all := by
  cases member <;> decide

theorem name_injective {first second : Checked} (same : first.name = second.name) :
    first = second := by
  revert same
  cases first <;> cases second <;> decide

theorem ascending_names :
    (all.map name).Pairwise fun a b => Text.order a b = .lt := by
  decide +kernel

end Checked

namespace Submission

/-- A status that is named in some ASCII case, with or without white space around it. -/
def NamesStatus (s : Submission) : Prop :=
  ∃ status ∈ ([.draft, .published, .archived] : List Status),
    Text.equalIgnoringAsciiCase (trimmed s.status) status.name = true

instance (s : Submission) : Decidable s.NamesStatus :=
  inferInstanceAs (Decidable (∃ status ∈ ([.draft, .published, .archived] : List Status),
    Text.equalIgnoringAsciiCase (trimmed s.status) status.name = true))

/-- Whether a submission breaks the rule of a member. -/
def Breaks (s : Submission) : Checked → Prop
  | .contentType => Missing s.contentType
  | .language => Missing s.language
  | .slug =>
    Missing s.slug ∨ Slug.isCanonical (trimmed s.slug) = false ∨
      128 < (trimmed s.slug).utf8ByteSize
  | .status => Missing s.status ∨ ¬s.NamesStatus
  | .tags => ∀ tag ∈ s.tags.getD [], Missing (some tag)
  | .title => Missing s.title

/-- A message, if what it says is so. -/
def said (fact : Prop) [Decidable fact] (message : String) : List String :=
  if fact then [message] else []

theorem said_eq_nil_iff {fact : Prop} [Decidable fact] {message : String} :
    said fact message = [] ↔ ¬fact := by
  by_cases holds : fact <;> simp [said, holds]

/-- What is said of a member. -/
def complaints (s : Submission) : Checked → List String
  | .contentType => said (Missing s.contentType) "Content type is required"
  | .language => said (Missing s.language) "Language is required"
  | .slug =>
    if Missing s.slug then ["Slug is required"]
    else
      said (Slug.isCanonical (trimmed s.slug) = false)
          ("Slug may only use lowercase letters, digits and single hyphens (e.g. '" ++
            Slug.ofText (trimmed s.slug) ++ "')") ++
        said (128 < (trimmed s.slug).utf8ByteSize) "Slug must be at most 128 characters"
  | .status =>
    if Missing s.status then ["Status is required"]
    else said (¬s.NamesStatus) "Status must be one of Draft, Published, Archived"
  | .tags => said (∀ tag ∈ s.tags.getD [], Missing (some tag)) "At least one tag is required"
  | .title => said (Missing s.title) "Title is required"

/-- Something is said of the members that break their rules. -/
theorem complaints_ne_nil_iff {s : Submission} {member : Checked} :
    s.complaints member ≠ [] ↔ s.Breaks member := by
  cases member with
  | contentType | language | tags | title =>
      simp only [complaints, Breaks, ne_eq, said_eq_nil_iff, not_not]
  | slug =>
      simp only [complaints, Breaks, ne_eq]
      by_cases missing : Missing s.slug
      · simp only [missing, if_true, List.cons_ne_nil, not_false_eq_true, true_or]
      · simp only [missing, if_false, List.append_eq_nil_iff, said_eq_nil_iff, false_or]
        rw [not_and_or, not_not, not_not]
  | status =>
      simp only [complaints, Breaks, ne_eq]
      by_cases missing : Missing s.status
      · simp only [missing, if_true, List.cons_ne_nil, not_false_eq_true, true_or]
      · simp only [missing, if_false, said_eq_nil_iff, not_not, false_or]

instance (s : Submission) (member : Checked) : Decidable (s.Breaks member) :=
  decidable_of_iff _ complaints_ne_nil_iff

/-! ## Problems -/

theorem namesStatus_iff {s : Submission} :
    s.NamesStatus ↔ (Status.read? (trimmed s.status)).isSome = true := by
  have twice : Text.trim (trimmed s.status) = trimmed s.status := Text.trim_trim _
  rw [Option.isSome_iff_exists]
  simp only [Status.read?_eq_some_iff, twice, NamesStatus]
  constructor
  · rintro ⟨status, -, named⟩
    exact ⟨status, named⟩
  · rintro ⟨status, named⟩
    exact ⟨status, by cases status <;> decide, named⟩

theorem cleanList_eq_nil_iff {values : Option (List String)} :
    cleanList values = [] ↔ ∀ text ∈ values.getD [], Missing (some text) := by
  have cleans := cleans_cleanList values
  simp only [List.eq_nil_iff_forall_not_mem, cleans.mem_iff, Text.trims_iff, ← trimmed_eq_empty_iff]
  constructor
  · intro none text member
    by_contra given
    exact none _ ⟨given, text, member, rfl⟩
  · rintro all s ⟨given, text, member, rfl⟩
    exact given (all text member)

/-- The problems of a member. -/
def problemsOf (s : Submission) : Checked → List (String × String)
  | .contentType => requiredProblems "contentType" "Content type" s.contentType
  | .language => requiredProblems "language" "Language" s.language
  | .slug => slugProblems s.slug
  | .status => statusProblems s.status
  | .tags => if cleanList s.tags = [] then [("tags", "At least one tag is required")] else []
  | .title => requiredProblems "title" "Title" s.title

/-- The members in the order in which they are checked. -/
def inTurn : List Checked := [.title, .contentType, .language, .slug, .tags, .status]

theorem problems_eq (s : Submission) : s.problems = inTurn.flatMap s.problemsOf := by
  simp only [problems, inTurn, problemsOf, List.flatMap_cons, List.flatMap_nil, List.append_nil,
    List.append_assoc]

theorem messages_requiredProblems (field label : String) (value : Option String) :
    (requiredProblems field label value).map (·.2) =
      said (Missing value) (label ++ " is required") := by
  simp only [requiredProblems, trimmed_eq_empty_iff, said]
  split <;> rfl

theorem messages_slugProblems (value : Option String) (given : ¬Missing value) :
    (slugProblems value).map (·.2) =
      said (Slug.isCanonical (trimmed value) = false)
          ("Slug may only use lowercase letters, digits and single hyphens (e.g. '" ++
            Slug.ofText (trimmed value) ++ "')") ++
        said (128 < (trimmed value).utf8ByteSize) "Slug must be at most 128 characters" := by
  rw [← trimmed_eq_empty_iff] at given
  simp only [slugProblems, given, if_false, List.map_append, said]
  refine congrArg₂ (· ++ ·) ?_ ?_
  · cases Slug.isCanonical (trimmed value) <;> rfl
  · by_cases long : 128 < (trimmed value).utf8ByteSize
    · have beyond : ¬(trimmed value).utf8ByteSize ≤ Slug.maxLength := Nat.not_le.mpr long
      rw [if_pos long, if_neg beyond]
      rfl
    · have within : (trimmed value).utf8ByteSize ≤ Slug.maxLength := Nat.not_lt.mp long
      rw [if_neg long, if_pos within]
      rfl

/-- The problems of a member say what is to be said of it. -/
theorem messages_problemsOf (s : Submission) (member : Checked) :
    (s.problemsOf member).map (·.2) = s.complaints member := by
  cases member with
  | contentType => exact messages_requiredProblems ..
  | language => exact messages_requiredProblems ..
  | title => exact messages_requiredProblems ..
  | slug =>
      rw [problemsOf, complaints]
      by_cases missing : Missing s.slug
      · rw [slugProblems, if_pos missing, if_pos (trimmed_eq_empty_iff.mpr missing)]
        rfl
      · rw [messages_slugProblems _ missing, if_neg missing]
  | status =>
      simp only [problemsOf, statusProblems, complaints, said, trimmed_eq_empty_iff,
        ← namesStatus_iff]
      by_cases missing : Missing s.status <;> by_cases named : s.NamesStatus <;>
        simp [missing, named]
  | tags =>
      simp only [problemsOf, complaints, said, cleanList_eq_nil_iff]
      split <;> rfl

/-- The problems of a member are found for its name. -/
theorem field_problemsOf {s : Submission} {member : Checked} :
    ∀ problem ∈ s.problemsOf member, problem.1 = member.name := by
  cases member <;> simp only [problemsOf, requiredProblems, slugProblems, statusProblems]
  all_goals
    repeat' split
    all_goals simp [Checked.name]

open FieldErrors (messagesIn)

theorem messagesIn_problemsOf (s : Submission) (member other : Checked) :
    messagesIn (s.problemsOf member) other.name =
      if member = other then s.complaints other else [] := by
  split
  · rename_i same
    rw [← same, FieldErrors.messagesIn_of_eq field_problemsOf, messages_problemsOf]
  · rename_i apart
    refine FieldErrors.messagesIn_of_ne fun problem found same => apart ?_
    exact Checked.name_injective ((field_problemsOf problem found).symm.trans same)

theorem messagesIn_flatMap {s : Submission} {members : List Checked} (once : members.Nodup)
    (other : Checked) :
    messagesIn (members.flatMap s.problemsOf) other.name =
      if other ∈ members then s.complaints other else [] := by
  induction members with
  | nil => rfl
  | cons member rest ih =>
      obtain ⟨apart, once⟩ := List.nodup_cons.mp once
      rw [List.flatMap_cons, FieldErrors.messagesIn_append, messagesIn_problemsOf, ih once]
      by_cases same : member = other
      · subst same
        rw [if_pos rfl, if_neg apart, if_pos List.mem_cons_self, List.append_nil]
      · have among : other ∈ member :: rest ↔ other ∈ rest :=
          List.mem_cons.trans (or_iff_right fun equal => same equal.symm)
        simp only [same, if_false, List.nil_append, among]

/-- What is found wrong with a submission is found for its members, each under its name. -/
theorem messagesIn_problems (s : Submission) (member : Checked) :
    messagesIn s.problems member.name = s.complaints member := by
  have checked : member ∈ inTurn := by cases member <;> decide
  rw [problems_eq, messagesIn_flatMap (by decide), if_pos checked]

theorem exists_name_of_mem_problems {s : Submission} {problem : String × String}
    (found : problem ∈ s.problems) : ∃ member : Checked, problem.1 = member.name := by
  rw [problems_eq] at found
  obtain ⟨member, -, found⟩ := List.mem_flatMap.mp found
  exact ⟨member, field_problemsOf problem found⟩

/-- Something is wrong with a submission if a member breaks its rule. -/
theorem problems_ne_nil_iff {s : Submission} : s.problems ≠ [] ↔ ∃ member, s.Breaks member := by
  simp only [← complaints_ne_nil_iff, ← messagesIn_problems, FieldErrors.messagesIn_ne_nil_iff]
  constructor
  · intro wrong
    obtain ⟨problem, found⟩ := List.exists_mem_of_ne_nil _ wrong
    obtain ⟨member, same⟩ := exists_name_of_mem_problems found
    exact ⟨member, problem, found, same⟩
  · rintro ⟨_, problem, found, _⟩
    exact List.ne_nil_of_mem found

/-! ## Refusals -/

/-- A submission is refused with its problems. -/
theorem validate_eq_error_iff {s : Submission} {errors : FieldErrors} :
    s.validate = .error errors ↔ s.problems ≠ [] ∧ errors = .ofList s.problems := by
  have unread : Status.read? (trimmed s.status) = none → s.problems ≠ [] := by
    intro none
    refine problems_ne_nil_iff.mpr ⟨.status, .inr fun named => ?_⟩
    rw [namesStatus_iff, none] at named
    exact nomatch named
  revert unread
  unfold validate
  generalize Status.read? (trimmed s.status) = read
  generalize s.problems = problems
  intro unread
  cases read with
  | none => simp only [Except.error.injEq, unread rfl, ne_eq, not_false_eq_true, true_and, eq_comm]
  | some status =>
      cases problems with
      | nil => simp only [reduceCtorEq, ne_eq, not_true_eq_false, false_and]
      | cons problem more =>
          simp only [Except.error.injEq, ne_eq, reduceCtorEq, not_false_eq_true, true_and, eq_comm]

/-- A refusal lists the members that break their rules, with what is said of them. -/
theorem entries_ofList_problems (s : Submission) :
    (FieldErrors.ofList s.problems).entries =
      (Checked.all.filter fun member => s.Breaks member).map fun member =>
        (member.name, s.complaints member) := by
  have known : ∀ problem ∈ s.problems, problem.1 ∈ Checked.all.map Checked.name := by
    intro problem found
    obtain ⟨member, same⟩ := exists_name_of_mem_problems found
    exact List.mem_map.mpr ⟨member, member.mem_all, same.symm⟩
  rw [FieldErrors.entries_ofList Checked.ascending_names known, FieldErrors.table, List.filter_map,
    List.map_map]
  simp only [Function.comp_def, messagesIn_problems, complaints_ne_nil_iff]

/-- **Refusals.** A submission is refused if and only if a member breaks its rule. The call fails
with a validation failure that is not empty and lists the members that break their rules, in the
order of their names, each with everything that is said of it. The members that are not checked have
no part in this. -/
theorem refused_for_what_is_broken (s : Submission) :
    ((∃ errors, s.validate = .error errors) ↔ ∃ member, s.Breaks member) ∧
      (∀ member, s.Breaks member ↔ s.complaints member ≠ []) ∧
      (∀ errors, s.validate = .error errors →
        Contents.validate s = throw (.validation errors) ∧ errors.isEmpty = false ∧
          errors.entries = (Checked.all.filter fun member => s.Breaks member).map fun member =>
            (member.name, s.complaints member)) ∧
      ∀ (body cover title description : Option String) (keywords : Option (List String))
        (errors : FieldErrors),
        { s with
          body := body
          coverImageUrl := cover
          metaTitle := title
          metaDescription := description
          metaKeywords := keywords }.validate = .error errors ↔ s.validate = .error errors := by
  refine ⟨?_, fun _ => complaints_ne_nil_iff.symm, ?_, ?_⟩
  · simp only [validate_eq_error_iff, exists_and_left, exists_eq, and_true, problems_ne_nil_iff]
  · intro errors refused
    obtain ⟨wrong, same⟩ := validate_eq_error_iff.mp refused
    have entries : errors.entries = _ := same ▸ entries_ofList_problems s
    refine ⟨?_, ?_, entries⟩
    · rw [Contents.validate, refused]
      rfl
    · obtain ⟨member, broken⟩ := problems_ne_nil_iff.mp wrong
      rw [FieldErrors.isEmpty, List.isEmpty_eq_false_iff, entries]
      refine List.ne_nil_of_mem (List.mem_map_of_mem (List.mem_filter.mpr ⟨member.mem_all, ?_⟩))
      exact decide_eq_true broken
  · intro body cover title description keywords errors
    rw [validate_eq_error_iff, validate_eq_error_iff]
    rfl

/-- A submission in which every checked member breaks its rule. -/
theorem refused_for_what_is_broken_throughout :
    let s : Submission :=
      { contentType := none
        title := some " \u2003"
        slug := some "On Sets"
        body := none
        tags := some [" ", ""]
        status := some "Live"
        language := some ""
        coverImageUrl := none
        metaTitle := none
        metaDescription := none
        metaKeywords := none }
    let errors : FieldErrors :=
      ⟨[("contentType", ["Content type is required"]),
        ("language", ["Language is required"]),
        ("slug",
          ["Slug may only use lowercase letters, digits and single hyphens (e.g. 'on-sets')"]),
        ("status", ["Status must be one of Draft, Published, Archived"]),
        ("tags", ["At least one tag is required"]),
        ("title", ["Title is required"])]⟩
    s.validate = .error errors ∧ Contents.validate s = throw (.validation errors) ∧
      errors.isEmpty = false ∧ ∃ member, s.Breaks member := by
  intro s errors
  have refused : s.validate = .error errors := by decide +kernel
  obtain ⟨broken, -, failure, -⟩ := refused_for_what_is_broken s
  obtain ⟨call, given, -⟩ := failure errors refused
  exact ⟨refused, call, given, broken.mp ⟨errors, refused⟩⟩

end Submission

end ContentService
