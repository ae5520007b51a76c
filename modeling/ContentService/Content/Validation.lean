import ContentService.Content.Record
import ContentService.Content.Slug
import ContentService.FieldErrors
import ContentService.Text.Digits

/-!
# Validation

What an editor submits is checked as a whole: a submission is accepted with its texts trimmed and
its lists cleaned, or refused with every problem that it has.
-/

namespace ContentService

/-- What an editor submits; every member may be missing. -/
structure Submission where
  contentType : Option String
  title : Option String
  slug : Option String
  body : Option String
  tags : Option (List String)
  status : Option String
  language : Option String
  coverImageUrl : Option String
  metaTitle : Option String
  metaDescription : Option String
  metaKeywords : Option (List String)
  deriving DecidableEq, Repr

/-- The texts of a list, each at its first occurrence. -/
def firstOccurrences : List String → List String
  | [] => []
  | s :: rest => s :: (firstOccurrences rest).filter (· ≠ s)

/-- The trimmed texts of a list that are not blank, each at its first occurrence. -/
def cleanList (values : Option (List String)) : List String :=
  firstOccurrences (((values.getD []).map Text.trim).filter (· ≠ ""))

/-- A trimmed text, empty if it is missing. -/
def trimmed (value : Option String) : String :=
  Text.trim (value.getD "")

/-- The problem of a text that must not be blank. -/
def requiredProblems (field label : String) (value : Option String) : List (String × String) :=
  if trimmed value = "" then [(field, label ++ " is required")] else []

/-- The problems of a slug. -/
def slugProblems (value : Option String) : List (String × String) :=
  let slug := trimmed value
  if slug = "" then [("slug", "Slug is required")]
  else
    (if Slug.isCanonical slug then []
      else
        [("slug", "Slug may only use lowercase letters, digits and single hyphens (e.g. '" ++
          Slug.ofText slug ++ "')")]) ++
    (if slug.utf8ByteSize ≤ Slug.maxLength then []
      else
        [("slug", "Slug must be at most " ++ String.ofList (Text.writeNat Slug.maxLength) ++
          " characters")])

/-- The problem of a status. -/
def statusProblems (value : Option String) : List (String × String) :=
  if trimmed value = "" then [("status", "Status is required")]
  else if (Status.read? (trimmed value)).isSome then []
  else [("status", "Status must be one of Draft, Published, Archived")]

namespace Submission

/-- The problems of a submission as pairs of field and message, in the order in which they are
found. -/
def problems (s : Submission) : List (String × String) :=
  requiredProblems "title" "Title" s.title ++
    requiredProblems "contentType" "Content type" s.contentType ++
    requiredProblems "language" "Language" s.language ++
    slugProblems s.slug ++
    (if cleanList s.tags = [] then [("tags", "At least one tag is required")] else []) ++
    statusProblems s.status

/-- The edition that a submission describes, with a given status. -/
def edition (s : Submission) (status : Status) : Edition :=
  { contentType := trimmed s.contentType
    title := trimmed s.title
    slug := trimmed s.slug
    body := s.body.getD ""
    tags := cleanList s.tags
    status := status
    language := trimmed s.language
    coverImageUrl := if trimmed s.coverImageUrl = "" then none else some (trimmed s.coverImageUrl)
    metaTitle := trimmed s.metaTitle
    metaDescription := trimmed s.metaDescription
    metaKeywords := cleanList s.metaKeywords }

/-- The edition that a submission describes, or everything that is wrong with it. -/
def validate (s : Submission) : Except FieldErrors Edition :=
  match Status.read? (trimmed s.status), s.problems with
  | some status, [] => .ok (s.edition status)
  | _, problems => .error (.ofList problems)

end Submission

end ContentService
