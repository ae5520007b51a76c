import ContentService.Content.Search
import ContentService.Proofs.Query.SortedAnswer
import ContentService.Proofs.Query.Spans
import ContentService.Proofs.Text.Ids

/-! # Range filters follow the sort order

A collection that is sorted by a field lists the records without a value first. Behind them a filter
on the same field cuts the listing into three blocks: those below the filter's value, those at it
and those above it. This holds of texts and ids when case is ignored, and of times
(`ContentService.Query.ranges_follow_order`).
-/

namespace ContentService.Query

open Std

/-! ## Kinds of fields -/

/-- The kinds of fields whose order range filters follow. -/
inductive FieldKind
  | texts
  | ids
  | times
  deriving DecidableEq

/-- Whether a value is of a kind; it may be absent. -/
def FieldKind.Holds : FieldKind → Value → Prop
  | _, .null => True
  | .texts, .text _ => True
  | .ids, .uuid _ => True
  | .times, .date _ => True
  | _, _ => False

/-- Whether a filter compares values of a kind in the order in which they are sorted: texts and ids
as texts without case, times with a time that can be read. -/
def FieldKind.Pairs : FieldKind → Filter → Prop
  | .texts, filter | .ids, filter => filter.logic = .string ∧ filter.caseSensitive = false
  | .times, filter => filter.logic = .date ∧ (Span.read? filter.value).isSome

/-- Records whose fields hold values of known kinds. -/
class FieldKinds (Record : Type) [Searchable Record] where
  kind? : Searchable.Field Record → Option FieldKind
  holds : ∀ (record : Record) (field : Searchable.Field Record) (kind : FieldKind),
    kind? field = some kind → kind.Holds (Searchable.value record field)

instance : FieldKinds Content where
  kind?
    | .id => some .ids
    | .contentType | .title | .slug | .body | .status | .language | .coverImageUrl | .metaTitle
    | .metaDescription | .createdBy | .updatedBy => some .texts
    | .createdAt | .updatedAt => some .times
    | .tags | .metaKeywords | .latestVersion => none
  holds c field kind given := by
    cases field
    case coverImageUrl =>
      cases given
      change FieldKind.texts.Holds (match c.live.coverImageUrl with | some url => _ | none => _)
      cases c.live.coverImageUrl <;> trivial
    all_goals first | cases given; done | cases given; trivial

instance : FieldKinds Media where
  kind?
    | .id => some .ids
    | .fileName | .blobUri | .contentType | .uploadedBy => some .texts
    | .uploadedAt => some .times
    | .size => none
  holds m field kind given := by cases field <;> cases given <;> trivial

/-! ## Places of values -/

/-- The operators that ask for a place in an order. -/
def Operator.ranges : List Operator := [.lt, .lte, .eq, .gte, .gt]

/-- Whether a thing that stands somewhere to a value is what an operator asks for. -/
def Operator.wants : Operator → Ordering → Bool
  | .lt, place => place == .lt
  | .lte, place => place != .gt
  | .eq, place => place == .eq
  | .gte, place => place != .lt
  | .gt, place => place == .gt
  | _, _ => false

/-- The number of the block to which a place belongs; an absent value has no place. -/
def blockOf : Option Ordering → Nat
  | none => 0
  | some .lt => 1
  | some .eq => 2
  | some .gt => 3

/-- The blocks that an operator asks for: the first of them, and the one behind the last. -/
def Operator.blocks : Operator → Nat × Nat
  | .lt => (1, 2)
  | .lte => (1, 3)
  | .eq => (2, 3)
  | .gte => (2, 4)
  | .gt => (3, 4)
  | _ => (0, 0)

theorem any_wants_eq (operator : Operator) (stand : Option Ordering) :
    stand.any operator.wants =
      (operator.blocks.1 ≤ blockOf stand && blockOf stand < operator.blocks.2) := by
  cases operator <;> rcases stand with _ | _ | _ | _ <;> rfl

theorem blockOf_lt (stand : Option Ordering) : blockOf stand < 4 := by
  rcases stand with _ | _ | _ | _ <;> decide

/-- A filter tells the place of each value of a kind, and later values have later places. -/
structure Filter.Places (filter : Filter) (kind : FieldKind) (place : Value → Option Ordering) :
    Prop where
  absent : ∀ v, kind.Holds v → (place v = none ↔ v = .null)
  tests : ∀ operator ∈ Operator.ranges, ∃ condition,
    Condition.ofFilter? { filter with operator := operator } = some condition ∧
      ∀ v, kind.Holds v → condition.test v = (place v).any operator.wants
  rising : ∀ v w, kind.Holds v → kind.Holds w → (v.order w).isLE →
    blockOf (place v) ≤ blockOf (place w)

/-- Among what is compared with one thing, what comes later does not stand before. -/
theorem blockOf_le_of_isLE {α : Type} (order : α → α → Ordering) [TransCmp order] {a b : α}
    (ordered : (order a b).isLE) (needle : α) :
    blockOf (some (order a needle)) ≤ blockOf (some (order b needle)) := by
  cases place : order b needle with
  | lt => rw [TransCmp.lt_of_isLE_of_lt ordered place]
  | eq =>
      have below : (order a needle).isLE :=
        TransCmp.isLE_trans ordered (by rw [place]; rfl)
      revert below
      cases order a needle <;> decide
  | gt => cases order a needle <;> decide

/-- A text is tested by its place to the needle, in lower case unless case matters. -/
theorem testText_eq_wants {operator : Operator} (ranges : operator ∈ Operator.ranges)
    (needle : String) (caseSensitive : Bool) (s : String) :
    testText operator needle caseSensitive s =
      operator.wants (Text.order (if caseSensitive then s else Text.lowercase s) needle) := by
  have same (haystack : String) : (haystack == needle) = (Text.order haystack needle == .eq) := by
    rw [Bool.eq_iff_iff, beq_iff_eq, beq_iff_eq, Text.order,
      LawfulEqCmp.compare_eq_iff_eq]
    exact String.toList_inj.symm
  simp only [Operator.ranges, List.mem_cons, List.not_mem_nil, or_false] at ranges
  rcases ranges with rfl | rfl | rfl | rfl | rfl
  case inr.inr.inl => exact same _
  all_goals rfl

/-- A time is tested by its place to a span that runs forward. -/
theorem testSpan_eq_wants {operator : Operator} (ranges : operator ∈ Operator.ranges) {span : Span}
    (forward : span.Forward) (t : Instant) :
    span.test operator t = operator.wants (span.place t) := by
  have apart : span.isBefore t = true → span.isAfter t = false := forward.isAfter_eq_false
  simp only [Operator.ranges, List.mem_cons, List.not_mem_nil, or_false] at ranges
  revert apart
  rcases ranges with rfl | rfl | rfl | rfl | rfl <;>
    simp only [Span.test, Span.contains_eq, Span.place, Operator.wants] <;>
    cases span.isAfter t <;> cases span.isBefore t <;> decide

/-- It is enough to place the values that are there. -/
theorem places_of {kind : FieldKind} {filter : Filter} {α : Type} (make : α → Value)
    (read? : Value → Option α) (stand : α → Ordering)
    (kinds : ∀ v, kind.Holds v → v = .null ∨ ∃ a, v = make a)
    (absent : read? .null = none) (present : ∀ a, read? (make a) = some a)
    (behind : ∀ a, (make a).order .null = .gt)
    (tests : ∀ operator ∈ Operator.ranges, ∃ condition,
      Condition.ofFilter? { filter with operator := operator } = some condition ∧
        ∀ a, condition.test (make a) = operator.wants (stand a))
    (rising : ∀ a b, ((make a).order (make b)).isLE →
      blockOf (some (stand a)) ≤ blockOf (some (stand b))) :
    filter.Places kind fun v => (read? v).map stand where
  absent v holds := by
    rcases kinds v holds with rfl | ⟨a, rfl⟩
    · simp only [absent, Option.map_none]
    · have other : make a ≠ .null := fun same => by
        have turned := behind a
        rw [same] at turned
        exact nomatch turned
      simp only [present, Option.map_some, reduceCtorEq, other]
  tests operator ranges := by
    obtain ⟨condition, compiled, tested⟩ := tests operator ranges
    refine ⟨condition, compiled, fun v holds => ?_⟩
    rcases kinds v holds with rfl | ⟨a, rfl⟩
    · simp only [absent, Option.map_none, Option.any_none]
      cases condition <;> rfl
    · simp only [present, Option.map_some, Option.any_some, tested]
  rising v w first second ordered := by
    rcases kinds v first with rfl | ⟨a, rfl⟩
    · simp only [absent, Option.map_none]
      exact Nat.zero_le _
    · rcases kinds w second with rfl | ⟨b, rfl⟩
      · rw [behind] at ordered
        exact nomatch ordered
      · simp only [present, Option.map_some]
        exact rising a b ordered

theorem FieldKind.Holds.of_texts {v : Value} (holds : FieldKind.texts.Holds v) :
    v = .null ∨ ∃ s, v = .text s := by
  cases v with
  | null => exact Or.inl rfl
  | text s => exact Or.inr ⟨s, rfl⟩
  | _ => exact holds.elim

theorem FieldKind.Holds.of_ids {v : Value} (holds : FieldKind.ids.Holds v) :
    v = .null ∨ ∃ id, v = .uuid id := by
  cases v with
  | null => exact Or.inl rfl
  | uuid id => exact Or.inr ⟨id, rfl⟩
  | _ => exact holds.elim

/-- The id that a value is, if it is one. -/
def Value.id? : Value → Option Uuid
  | .uuid id => some id
  | _ => none

theorem FieldKind.Holds.of_times {v : Value} (holds : FieldKind.times.Holds v) :
    v = .null ∨ ∃ t, v = .date t := by
  cases v with
  | null => exact Or.inl rfl
  | date t => exact Or.inr ⟨t, rfl⟩
  | _ => exact holds.elim

/-- A filter that ignores case compares with its value in lower case. -/
theorem ofFilter?_text {filter : Filter} (logic : filter.logic = .string)
    (ignores : filter.caseSensitive = false) (operator : Operator) :
    Condition.ofFilter? { filter with operator := operator } =
      some (.text operator (Text.lowercase filter.value) false) := by
  simp only [Condition.ofFilter?, logic, ignores, Bool.false_eq_true, if_false]

/-- Texts in order have lower-case forms in order. -/
theorem isLE_lowercase_of_isLE {s t : String} (ordered : (textOrder s t).isLE) :
    (Text.order (Text.lowercase s) (Text.lowercase t)).isLE := by
  unfold textOrder at ordered
  revert ordered
  generalize Text.order (Text.lowercase s) (Text.lowercase t) = folded
  generalize Text.order s t = raw
  cases folded <;> cases raw <;> decide

/-- Times in order stand in order to a span. -/
theorem blockOf_place_le {span : Span} {s t : Instant} (ordered : (s.order t).isLE) :
    blockOf (some (span.place s)) ≤ blockOf (some (span.place t)) := by
  have before : span.isAfter t = true → span.isAfter s = true := Span.isAfter_of_isLE ordered
  have behind : span.isBefore s = true → span.isBefore t = true := Span.isBefore_of_isLE ordered
  revert before behind
  unfold Span.place
  cases span.isAfter s <;> cases span.isAfter t <;> cases span.isBefore s <;>
    cases span.isBefore t <;> decide

/-- A filter that pairs with a kind tells the places of its values. -/
theorem FieldKind.Pairs.exists_places {kind : FieldKind} {filter : Filter}
    (pairs : kind.Pairs filter) : ∃ place, filter.Places kind place := by
  cases kind with
  | texts =>
      refine ⟨_, places_of .text Value.toText?
        (fun s => Text.order (Text.lowercase s) (Text.lowercase filter.value))
        (fun _ holds => holds.of_texts) rfl (fun _ => rfl) (fun _ => rfl) ?_ ?_⟩
      · exact fun operator ranges => ⟨_, ofFilter?_text pairs.1 pairs.2 operator,
          fun s => testText_eq_wants ranges _ false s⟩
      · exact fun s t ordered => blockOf_le_of_isLE Text.order (isLE_lowercase_of_isLE ordered) _
  | ids =>
      refine ⟨_, places_of .uuid Value.id?
        (fun id => Text.order (Text.lowercase id.write) (Text.lowercase filter.value))
        (fun _ holds => holds.of_ids) rfl (fun _ => rfl) (fun _ => rfl) ?_ ?_⟩
      · exact fun operator ranges => ⟨_, ofFilter?_text pairs.1 pairs.2 operator,
          fun id => testText_eq_wants ranges _ false id.write⟩
      · intro i j ordered
        rw [Uuid.lowercase_write, Uuid.lowercase_write]
        exact blockOf_le_of_isLE Text.order ((Uuid.order_write i j).symm ▸ ordered) _
  | times =>
      obtain ⟨logic, readable⟩ := pairs
      obtain ⟨span, read⟩ := Option.isSome_iff_exists.mp readable
      refine ⟨_, places_of .date Value.toInstant? span.place
        (fun _ holds => holds.of_times) rfl (fun _ => rfl) (fun _ => rfl) ?_ ?_⟩
      · refine fun operator ranges => ⟨.date operator span, ?_, fun t => ?_⟩
        · simp only [Condition.ofFilter?, logic, read, Option.map_some]
        · exact testSpan_eq_wants ranges (Span.forward_read read) t
      · exact fun s t ordered => blockOf_place_le ordered

/-! ## Blocks of a listing -/

/-- What of a list belongs to the blocks from one to before another. -/
def between {α : Type} (block : α → Nat) (low high : Nat) (found : List α) : List α :=
  found.filter fun a => low ≤ block a && block a < high

theorem mem_between_iff {α : Type} {block : α → Nat} {low high : Nat} {found : List α} {a : α} :
    a ∈ between block low high found ↔ a ∈ found ∧ low ≤ block a ∧ block a < high := by
  simp only [between, List.mem_filter, Bool.and_eq_true, decide_eq_true_eq]

/-- In a list that is sorted by blocks they lie one behind the other. -/
theorem between_append {α : Type} {block : α → Nat} {found : List α}
    (sorted : found.Pairwise fun a b => block a ≤ block b) {low middle high : Nat}
    (first : low ≤ middle) (second : middle ≤ high) :
    between block low high found =
      between block low middle found ++ between block middle high found := by
  induction found with
  | nil => rfl
  | cons a rest ih =>
      obtain ⟨least, sorted⟩ := List.pairwise_cons.mp sorted
      have behind := ih sorted
      unfold between at behind ⊢
      by_cases early : block a < middle
      · have notLate : ¬ middle ≤ block a := by omega
        have within : block a < high := by omega
        simp only [List.filter_cons, early, within, notLate, decide_true, decide_false,
          Bool.and_true, Bool.false_eq_true, if_false, behind]
        split <;> rfl
      · have none : rest.filter (fun b => low ≤ block b && block b < middle) = [] := by
          refine List.filter_eq_nil_iff.mpr fun b member => ?_
          have := least b member
          simp only [Bool.and_eq_true, decide_eq_true_eq, not_and]
          omega
        have late : middle ≤ block a := by omega
        have reached : low ≤ block a := by omega
        rw [none] at behind
        simp only [List.filter_cons, early, late, reached, decide_true, decide_false,
          Bool.true_and, Bool.and_false, Bool.false_eq_true, if_false, behind, none,
          List.nil_append]

variable {Record : Type} [Searchable Record]

/-- A request is answered with a list if its pages, of whatever size, are the pages of the list. -/
def AnsweredWith (records : List Record) (request : Request) (found : List Record) : Prop :=
  ∀ index size, 1 ≤ size → size ≤ maxWord →
    execute records request ⟨index, size⟩ = .ok (pageOf found ⟨index, size⟩)

theorem answeredWith_answer (records : List Record) (request : Request) :
    AnsweredWith records request (answer records request) := by
  intro index size positive bounded
  have sound : (⟨index, size⟩ : PageRequest).fault? maxWord = none := by
    rw [PageRequest.fault?, if_neg (show ¬size = 0 by omega),
      if_neg (show ¬maxWord < size by omega)]
  rw [execute, sound]

/-- How range filters on a field cut the listing that is sorted by the field: the records without a
value, those below the filter's value, those at it and those above it, one block behind the other.
-/
structure CutByRanges (records : List Record) (field : Searchable.Field Record) (filter : Filter)
    (sort : List SortKey) (absent below equal above : List Record) : Prop where
  listing : AnsweredWith records ⟨none, sort⟩ (absent ++ below ++ equal ++ above)
  whole : (absent ++ below ++ equal ++ above).Perm records
  null : ∀ record ∈ absent, Searchable.value record field = .null
  not_null : ∀ record ∈ below ++ equal ++ above, Searchable.value record field ≠ .null
  lt : AnsweredWith records ⟨some { filter with operator := .lt }, sort⟩ below
  eq : AnsweredWith records ⟨some { filter with operator := .eq }, sort⟩ equal
  gt : AnsweredWith records ⟨some { filter with operator := .gt }, sort⟩ above
  lte : AnsweredWith records ⟨some { filter with operator := .lte }, sort⟩ (below ++ equal)
  gte : AnsweredWith records ⟨some { filter with operator := .gte }, sort⟩ (equal ++ above)

/-- A record's block by its place to a filter. -/
def blockOfRecord (place : Value → Option Ordering) (field : Searchable.Field Record)
    (record : Record) : Nat :=
  blockOf (place (Searchable.value record field))

section Cut

variable [FieldKinds Record] {filter : Filter} {field : Searchable.Field Record} {kind : FieldKind}
  {place : Value → Option Ordering} (kinds : FieldKinds.kind? field = some kind)
  (places : filter.Places kind place)
include kinds places

/-- What a filter keeps is told by the places of the records' values. -/
theorem keeps_eq_wants (named : Searchable.resolve? Record filter.field = some field)
    {operator : Operator} (ranges : operator ∈ Operator.ranges) (record : Record) :
    (Selection.ofFilter (some { filter with operator := operator }) : Selection Record).keeps
        record =
      (place (Searchable.value record field)).any operator.wants := by
  obtain ⟨condition, compiled, tests⟩ := places.tests operator ranges
  have supported : operator ≠ .unsupported := by
    rintro rfl
    exact absurd ranges (by decide)
  simp only [Selection.ofFilter, named, supported, if_false, compiled, Selection.keeps]
  exact tests _ (FieldKinds.holds record field kind kinds)

/-- A filter's answer is what belongs to some blocks of the listing in a row. -/
theorem answer_eq_between (named : Searchable.resolve? Record filter.field = some field)
    {operator : Operator} (ranges : operator ∈ Operator.ranges) (records : List Record)
    (sort : List SortKey) :
    answer records ⟨some { filter with operator := operator }, sort⟩ =
      between (blockOfRecord place field) operator.blocks.1 operator.blocks.2
        (answer records ⟨none, sort⟩) := by
  rw [answer_eq_filter]
  refine List.filter_congr fun record _ => ?_
  rw [keeps_eq_wants kinds places named ranges, any_wants_eq]
  rfl

/-- A listing that is sorted by the field first goes through its blocks in turn. -/
theorem pairwise_blockOfRecord {key : SortKey}
    (sorted : Searchable.resolve? Record key.field = some field)
    (ascending : key.direction = .ascending) (more : List SortKey) (records : List Record) :
    (answer records ⟨none, key :: more⟩).Pairwise fun a b =>
      blockOfRecord place field a ≤ blockOfRecord place field b := by
  refine (pairwise_leading_answer sorted records none more).imp fun {a b} ordered => ?_
  rw [ascending] at ordered
  exact places.rising _ _ (FieldKinds.holds a field kind kinds)
    (FieldKinds.holds b field kind kinds) ordered

/-- A record is in the first block if its value is absent. -/
theorem blockOfRecord_eq_zero_iff (record : Record) :
    blockOfRecord place field record = 0 ↔ Searchable.value record field = .null := by
  rw [← places.absent _ (FieldKinds.holds record field kind kinds), blockOfRecord]
  rcases place (Searchable.value record field) with _ | _ | _ | _ <;> simp [blockOf]

end Cut

/-- **Range filters follow the sort order.** Sort a collection by a field of texts, ids or times,
and by whatever further keys, and take a filter on this field, with any value, that ignores case or
names a time. The listing begins with the records without a value; behind them are those that the
filter keeps with `lt`, `eq` and `gt`, in this order. Each filtered query gives its block of the
listing as it is there, and `lte` and `gte` give two blocks. -/
theorem ranges_follow_order [FieldKinds Record] (records : List Record)
    {field : Searchable.Field Record} {kind : FieldKind}
    (kinds : FieldKinds.kind? field = some kind) {filter : Filter} (pairs : kind.Pairs filter)
    (named : Searchable.resolve? Record filter.field = some field) {key : SortKey}
    (sorted : Searchable.resolve? Record key.field = some field)
    (ascending : key.direction = .ascending) (more : List SortKey) :
    ∃ absent below equal above,
      CutByRanges records field filter (key :: more) absent below equal above := by
  obtain ⟨place, places⟩ := pairs.exists_places
  let listing := answer records ⟨none, key :: more⟩
  let block := blockOfRecord place field
  have rising := pairwise_blockOfRecord kinds places sorted ascending more records
  have cut (operator : Operator) (ranges : operator ∈ Operator.ranges) :
      AnsweredWith records ⟨some { filter with operator := operator }, key :: more⟩
        (between block operator.blocks.1 operator.blocks.2 listing) := by
    rw [← answer_eq_between kinds places named ranges]
    exact answeredWith_answer _ _
  have all : between block 0 1 listing ++ between block 1 2 listing ++ between block 2 3 listing ++
      between block 3 4 listing = listing := by
    rw [← between_append rising (by decide) (by decide),
      ← between_append rising (by decide) (by decide),
      ← between_append rising (by decide) (by decide)]
    refine List.filter_eq_self.mpr fun record _ => ?_
    simp only [Nat.zero_le, decide_true, Bool.true_and, decide_eq_true_eq]
    exact blockOf_lt _
  have everything : (Selection.ofFilter none : Selection Record).keeps = fun _ => true := rfl
  refine ⟨between block 0 1 listing, between block 1 2 listing, between block 2 3 listing,
    between block 3 4 listing, ?_⟩
  constructor
  case listing =>
    rw [all]
    exact answeredWith_answer _ _
  case whole =>
    rw [all]
    exact (answer_perm records _).trans (by rw [everything, List.filter_true])
  case null =>
    intro record member
    obtain ⟨-, first⟩ := mem_between_iff.mp member
    exact (blockOfRecord_eq_zero_iff kinds places record).mp (Nat.lt_one_iff.mp first.2)
  case not_null =>
    rw [← between_append rising (by decide) (by decide),
      ← between_append rising (by decide) (by decide)]
    intro record member null
    obtain ⟨-, later⟩ := mem_between_iff.mp member
    have zero := (blockOfRecord_eq_zero_iff kinds places record).mpr null
    exact absurd zero (Nat.ne_of_gt later.1)
  case lt => exact cut .lt (by decide)
  case eq => exact cut .eq (by decide)
  case gt => exact cut .gt (by decide)
  case lte =>
    rw [← between_append rising (by decide) (by decide)]
    exact cut .lte (by decide)
  case gte =>
    rw [← between_append rising (by decide) (by decide)]
    exact cut .gte (by decide)

instance : DecidableEq (Searchable.Field Media) :=
  inferInstanceAs (DecidableEq MediaField)

/-- Pictures of three days in a row, and a filter for the second of these. -/
theorem ranges_follow_order_pictures :
    let field : Searchable.Field Media := MediaField.uploadedAt
    let filter : Filter := ⟨"UPLOADEDAT", .eq, "2024-01-02", .date, false⟩
    FieldKinds.kind? field = some .times ∧ FieldKind.times.Pairs filter ∧
      Searchable.resolve? Media filter.field = some field ∧
      Searchable.resolve? Media "uploadedAt" = some field ∧
      ∃ absent below equal above, CutByRanges [picture 2, picture 0, picture 1] field filter
        [⟨"uploadedAt", .ascending⟩] absent below equal above := by
  intro field filter
  have pairs : FieldKind.times.Pairs filter := ⟨rfl, by decide +kernel⟩
  have named : Searchable.resolve? Media filter.field = some field := by decide +kernel
  have sorted : Searchable.resolve? Media "uploadedAt" = some field := by decide +kernel
  have cut := @ranges_follow_order Media _ _ [picture 2, picture 0, picture 1] field .times rfl
    filter pairs named ⟨"uploadedAt", .ascending⟩ sorted rfl []
  exact ⟨rfl, pairs, named, sorted, cut⟩

end ContentService.Query
