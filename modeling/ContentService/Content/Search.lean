import ContentService.Content.Record
import ContentService.Query.Searchable

/-!
# Searching content

The fields by which content records are filtered and sorted. Without sort keys the record that
changed last comes first.
-/

namespace ContentService

/-- The searchable fields of a content record. -/
inductive ContentField
  | id
  | contentType
  | title
  | slug
  | body
  | tags
  | status
  | language
  | coverImageUrl
  | metaTitle
  | metaDescription
  | metaKeywords
  | createdAt
  | updatedAt
  | createdBy
  | updatedBy
  | latestVersion
  deriving DecidableEq, Repr

/-- The value of a field. -/
def Content.value (c : Content) : ContentField → Query.Value
  | .id => .uuid c.id
  | .contentType => .text c.live.contentType
  | .title => .text c.live.title
  | .slug => .text c.live.slug
  | .body => .text c.live.body
  | .tags => .list c.live.tags
  | .status => .text c.live.status.name
  | .language => .text c.live.language
  | .coverImageUrl =>
    match c.live.coverImageUrl with
    | some url => .text url
    | none => .null
  | .metaTitle => .text c.live.metaTitle
  | .metaDescription => .text c.live.metaDescription
  | .metaKeywords => .list c.live.metaKeywords
  | .createdAt => .date c.createdAt
  | .updatedAt => .date c.updatedAt
  | .createdBy => .text c.createdBy
  | .updatedBy => .text c.updatedBy
  | .latestVersion =>
    match c.latestVersion? with
    | some v => .number (.ofInt v.number)
    | none => .null

/-- The names of the fields. -/
def contentFields : List (String × ContentField) :=
  [("id", .id), ("contentType", .contentType), ("title", .title), ("slug", .slug), ("body", .body),
    ("tags", .tags), ("status", .status), ("language", .language),
    ("coverImageUrl", .coverImageUrl), ("metaTitle", .metaTitle),
    ("metaDescription", .metaDescription), ("metaKeywords", .metaKeywords),
    ("createdAt", .createdAt), ("updatedAt", .updatedAt), ("createdBy", .createdBy),
    ("updatedBy", .updatedBy), ("latestVersion", .latestVersion)]

instance : Query.Searchable Content where
  Field := ContentField
  fields := contentFields
  id := Content.id
  value := Content.value
  defaultSort := [⟨"updatedAt", .descending⟩]

end ContentService
