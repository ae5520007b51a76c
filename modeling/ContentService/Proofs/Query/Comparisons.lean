import ContentService.Proofs.Query.Ranges
import ContentService.Query.Condition

/-! # Operators agree with each other

For one filter and one value the operators say the same in different words. A value that can be
compared is below the filter's value, at it or above it, and each operator tells some of these
places; a value that cannot be compared meets no operator, not even `neq`. Texts and times are
compared like that (`ContentService.Query.operators_agree`), and so are numbers, but for a NaN,
which can be read and yet has no place (`ContentService.Query.number_operators_agree`).
-/

namespace ContentService.Query

/-! ## Tests -/

namespace Condition

theorem test_number (operator : Operator) (wanted : Binary64) (v : Value) :
    (Condition.number operator wanted).test v = v.toNumber?.any (testNumber operator wanted) := by
  cases v <;> rfl

theorem test_date (operator : Operator) (span : Span) (v : Value) :
    (Condition.date operator span).test v = v.toInstant?.any (span.test operator) := by
  cases v <;> rfl

theorem test_text (operator : Operator) (needle : String) (caseSensitive : Bool) {v : Value}
    {s : String} (single : v.toText? = some s) :
    (Condition.text operator needle caseSensitive).test v =
      testText operator needle caseSensitive s := by
  cases v <;> cases single <;> rfl

end Condition

/-- Whether a value passes a filter with this operator in place of its own. -/
def Filter.passes (filter : Filter) (operator : Operator) (v : Value) : Bool :=
  (Condition.ofFilter? { filter with operator := operator }).any fun condition => condition.test v

/-- A filter keeps the records whose value passes it. -/
theorem Selection.keeps_ofFilter {Record : Type} [Searchable Record] {filter : Filter}
    (known : filter.operator ≠ .unsupported) {field : Searchable.Field Record}
    (named : Searchable.resolve? Record filter.field = some field) (record : Record) :
    (Selection.ofFilter (some filter)).keeps record =
      filter.passes filter.operator (Searchable.value record field) := by
  simp only [ofFilter, named, if_neg known, Filter.passes]
  cases Condition.ofFilter? filter <;> rfl

namespace Filter

variable {filter : Filter}

theorem passes_string (logic : filter.logic = .string) (operator : Operator) (v : Value) :
    filter.passes operator v = (Condition.text operator
      (if filter.caseSensitive then filter.value else Text.lowercase filter.value)
        filter.caseSensitive).test v := by
  simp only [passes, Condition.ofFilter?, logic, Option.any_some]

theorem passes_date {span : Span} (logic : filter.logic = .date)
    (read : Span.read? filter.value = some span) (operator : Operator) (v : Value) :
    filter.passes operator v = v.toInstant?.any (span.test operator) := by
  simp only [passes, Condition.ofFilter?, logic, read, Option.map_some, Option.any_some,
    Condition.test_date]

theorem passes_number {wanted : Binary64} (logic : filter.logic = .number)
    (read : Binary64.readTrimmed? filter.value = some wanted) (finite : wanted.isFinite = true)
    (operator : Operator) (v : Value) :
    filter.passes operator v = v.toNumber?.any (testNumber operator wanted) := by
  simp only [passes, Condition.ofFilter?, logic, read, finite, if_true, Option.any_some,
    Condition.test_number]

end Filter

/-! ## Places -/

/-- The operator that asks for one place. -/
def Operator.ofPlace : Ordering → Operator
  | .lt => .lt
  | .eq => .eq
  | .gt => .gt

theorem Operator.ofPlace_mem (place : Ordering) : ofPlace place ∈ [Operator.lt, .eq, .gt] := by
  cases place <;> decide

theorem Operator.mem_ranges_of_single {operator : Operator}
    (single : operator ∈ [Operator.lt, .eq, .gt]) : operator ∈ Operator.ranges := by
  revert single
  cases operator <;> decide

theorem Operator.wants_iff {operator : Operator} (single : operator ∈ [Operator.lt, .eq, .gt])
    (place : Ordering) : operator.wants place = true ↔ operator = ofPlace place := by
  revert single
  cases operator <;> cases place <;> decide

/-- What operators say of a value that has one place to another: exactly one of `lt`, `eq` and `gt`
holds, and the other range operators say the contrary of these. -/
structure Compares (passes : Operator → Bool) : Prop where
  one : ∃! operator, operator ∈ [Operator.lt, .eq, .gt] ∧ passes operator = true
  gte : passes .gte = !passes .lt
  lte : passes .lte = !passes .gt

/-- Operators that ask for one place agree. -/
theorem compares_of_place {passes : Operator → Bool} (place : Ordering)
    (asks : ∀ operator ∈ Operator.ranges, passes operator = operator.wants place) :
    Compares passes where
  one := by
    have single (operator : Operator) (member : operator ∈ [Operator.lt, .eq, .gt]) :
        passes operator = true ↔ operator = .ofPlace place := by
      rw [asks operator (Operator.mem_ranges_of_single member), Operator.wants_iff member]
    have member := Operator.ofPlace_mem place
    exact ⟨.ofPlace place, ⟨member, (single _ member).mpr rfl⟩, fun operator other =>
      (single operator other.1).mp other.2⟩
  gte := by
    rw [asks .gte (by decide), asks .lt (by decide)]
    cases place <;> rfl
  lte := by
    rw [asks .lte (by decide), asks .gt (by decide)]
    cases place <;> rfl

/-! ## Texts and times -/

theorem testText_neq (needle : String) (caseSensitive : Bool) (s : String) :
    testText .neq needle caseSensitive s = !testText .eq needle caseSensitive s :=
  rfl

/-- A list differs from a text if no element equals it. -/
theorem test_neq_list (needle : String) (caseSensitive : Bool) (items : List String) :
    (Condition.text .neq needle caseSensitive).test (.list items) =
      !(Condition.text .eq needle caseSensitive).test (.list items) :=
  rfl

/-- A value that is there is one text or a list of texts. -/
theorem exists_toText?_or_list {v : Value} (present : v ≠ .null) :
    (∃ s, v.toText? = some s) ∨ ∃ items, v = .list items := by
  cases v with
  | null => exact absurd rfl present
  | list items => exact .inr ⟨items, rfl⟩
  | _ => exact .inl ⟨_, rfl⟩

/-- What operators say of a value that can be compared. -/
structure Agrees (passes : Operator → Value → Bool) (v : Value) : Prop where
  neq : passes .neq v = !passes .eq v
  elements : ∀ items, v = .list items →
    (passes .neq v = true ↔ ∀ item ∈ items, passes .eq (.text item) = false)
  compares : (∀ items, v ≠ .list items) → Compares fun operator => passes operator v

theorem agrees_of_string {filter : Filter} (logic : filter.logic = .string) {v : Value}
    (present : v ≠ .null) : Agrees filter.passes v := by
  rcases exists_toText?_or_list present with ⟨s, single⟩ | ⟨items, rfl⟩
  · have passes (operator : Operator) := (filter.passes_string logic operator v).trans
      (Condition.test_text operator _ _ single)
    constructor
    case neq => rw [passes, passes, testText_neq]
    case elements =>
      rintro items rfl
      exact nomatch single
    case compares =>
      intro _
      exact compares_of_place _ fun operator ranges =>
        (passes operator).trans (testText_eq_wants ranges _ _ s)
  · constructor
    case neq => rw [filter.passes_string logic, filter.passes_string logic, test_neq_list]
    case elements =>
      rintro _ ⟨⟩
      simp only [filter.passes_string logic, Condition.test, if_true, Bool.not_eq_true',
        List.any_eq_false, Value.toText?, Option.any_some, Bool.not_eq_true]
    case compares => exact fun other => absurd rfl (other items)

theorem agrees_of_date {filter : Filter} {span : Span} (logic : filter.logic = .date)
    (read : Span.read? filter.value = some span) {v : Value} {t : Instant}
    (time : v.toInstant? = some t) : Agrees filter.passes v := by
  have passes (operator : Operator) : filter.passes operator v = span.test operator t := by
    rw [filter.passes_date logic read, time, Option.any_some]
  constructor
  case neq => rw [passes, passes]; rfl
  case elements =>
    rintro items rfl
    exact nomatch time
  case compares =>
    intro _
    exact compares_of_place _ fun operator ranges =>
      (passes operator).trans (testSpan_eq_wants ranges (Span.forward_read read) t)

/-- A filter on times that can be read has a span. -/
theorem exists_span_of_reads {filter : Filter} (logic : filter.logic = .date)
    (reads : (Condition.ofFilter? filter).isSome = true) :
    ∃ span, Span.read? filter.value = some span := by
  simp only [Condition.ofFilter?, logic, Option.isSome_map] at reads
  exact Option.isSome_iff_exists.mp reads

/-- **Operators on texts and times agree.** A filter on texts or times that can be read passes no
absent value, and a filter on times no value that is not a time, whatever the operator. Of any other
value `neq` says the contrary of `eq`, also of a list, which differs if no element is equal; and of
a value that is no list exactly one of `lt`, `eq` and `gt` holds, `gte` says the contrary of `lt`
and `lte` that of `gt`. Every period that a text names begins before it ends. -/
theorem operators_agree (filter : Filter) (logic : filter.logic = .string ∨ filter.logic = .date)
    (reads : (Condition.ofFilter? filter).isSome = true) (v : Value) :
    (v = .null ∨ filter.logic = .date ∧ v.toInstant? = none →
        ∀ operator, filter.passes operator v = false) ∧
      (¬(v = .null ∨ filter.logic = .date ∧ v.toInstant? = none) → Agrees filter.passes v) ∧
      ∀ (s : String) (start stop : Instant), Span.read? s = some (.period start stop) →
        start.before stop = true := by
  refine ⟨?_, ?_, fun s start stop read => beq_iff_eq.mpr (Span.forward_read read)⟩
  · rintro (rfl | ⟨dates, untimed⟩) operator
    · rw [Filter.passes]
      cases Condition.ofFilter? { filter with operator := operator } <;> rfl
    · obtain ⟨span, read⟩ := exists_span_of_reads dates reads
      rw [filter.passes_date dates read, untimed, Option.any_none]
  · intro comparable
    obtain ⟨present, timed⟩ := not_or.mp comparable
    rcases logic with strings | dates
    · exact agrees_of_string strings present
    · obtain ⟨span, read⟩ := exists_span_of_reads dates reads
      obtain ⟨t, time⟩ := Option.ne_none_iff_exists'.mp fun untimed => timed ⟨dates, untimed⟩
      exact agrees_of_date dates read time

/-- A filter for May, with white space around it, and a text that is a time of the last evening of
April; a text that is no time meets no operator. -/
theorem operators_agree_april :
    let filter : Filter := ⟨"title", .contains, " 2024-05 ", .date, false⟩
    let v := Value.text "2024-05-01T01:30:00+02:00"
    let may : Date := ⟨2024, 5, 1, by decide, by decide, by decide, by decide⟩
    let june : Date := ⟨2024, 6, 1, by decide, by decide, by decide, by decide⟩
    (filter.logic = .string ∨ filter.logic = .date) ∧
      (Condition.ofFilter? filter).isSome = true ∧
      ¬(v = .null ∨ filter.logic = .date ∧ v.toInstant? = none) ∧
      Agrees filter.passes v ∧ filter.passes .lt v = true ∧ filter.passes .neq v = true ∧
      (Value.text "April").toInstant? = none ∧
      (∀ operator, filter.passes operator (.text "April") = false) ∧
      Span.read? filter.value = some (.period (.startOfDay may) (.startOfDay june)) ∧
      (Instant.startOfDay may).before (.startOfDay june) = true := by
  intro filter v may june
  have reads : (Condition.ofFilter? filter).isSome = true := by decide +kernel
  have comparable : ¬(v = .null ∨ filter.logic = .date ∧ v.toInstant? = none) := by decide +kernel
  have untimed : (Value.text "April").toInstant? = none := by decide +kernel
  have period : Span.read? filter.value = some (.period (.startOfDay may) (.startOfDay june)) := by
    decide +kernel
  have agrees := (operators_agree filter (.inr rfl) reads v).2.1 comparable
  have nothing := (operators_agree filter (.inr rfl) reads (.text "April")).1 (.inr ⟨rfl, untimed⟩)
  have forward := (operators_agree filter (.inr rfl) reads v).2.2 _ _ _ period
  exact ⟨.inr rfl, reads, comparable, agrees, by decide +kernel, by decide +kernel, untimed,
    nothing, period, forward⟩

/-! ## Numbers -/

theorem isNaN_of_isFinite {x : Binary64} (finite : x.isFinite = true) : x.isNaN = false :=
  decide_eq_false (Nat.not_lt.mpr (Nat.le_of_lt (of_decide_eq_true finite)))

/-- A number that is no NaN is tested by its place to the wanted one. -/
theorem testNumber_eq_wants {operator : Operator} (ranges : operator ∈ Operator.ranges)
    {wanted actual : Binary64} (finite : wanted.isNaN = false) (number : actual.isNaN = false) :
    testNumber operator wanted actual =
      operator.wants (compare actual.position wanted.position) := by
  have lt : actual.lt wanted = (compare actual.position wanted.position == .lt) := by
    rw [Bool.eq_iff_iff]
    simp only [Binary64.lt, finite, number, Bool.not_false, Bool.true_and, decide_eq_true_eq,
      beq_iff_eq, Int.compare_eq_lt]
  have gt : wanted.lt actual = (compare actual.position wanted.position == .gt) := by
    rw [Bool.eq_iff_iff]
    simp only [Binary64.lt, finite, number, Bool.not_false, Bool.true_and, decide_eq_true_eq,
      beq_iff_eq, Int.compare_eq_gt]
  have eq : actual.equal wanted = (compare actual.position wanted.position == .eq) := by
    rw [Bool.eq_iff_iff]
    simp only [Binary64.equal, finite, number, Bool.not_false, Bool.true_and, beq_iff_eq,
      Int.compare_eq_eq]
  simp only [Operator.ranges, List.mem_cons, List.not_mem_nil, or_false] at ranges
  rcases ranges with rfl | rfl | rfl | rfl | rfl <;>
    simp only [testNumber, lt, gt, eq, Operator.wants] <;>
    cases compare actual.position wanted.position <;> rfl

/-- A NaN equals nothing and is neither below nor above anything. -/
theorem testNumber_of_isNaN {operator : Operator} (wanted : Binary64) {actual : Binary64}
    (nan : actual.isNaN = true) :
    testNumber operator wanted actual = true ↔ operator = .neq := by
  cases operator <;>
    simp only [testNumber, Binary64.lt, Binary64.equal, nan, Bool.not_true, Bool.false_and,
      Bool.and_false, Bool.or_self, Bool.not_false, Bool.false_eq_true, reduceCtorEq]

/-- What operators say of a number. -/
structure ComparesNumbers (passes : Operator → Bool) : Prop where
  one : ∃! operator, operator ∈ [Operator.lt, .eq, .gt] ∧ passes operator = true
  neq : passes .neq = !passes .eq
  lte : passes .lte = (passes .lt || passes .eq)
  gte : passes .gte = (passes .gt || passes .eq)
  contains : passes .contains = passes .eq

/-- A filter on numbers that can be read wants a finite number. -/
theorem exists_finite_of_reads {filter : Filter} (logic : filter.logic = .number)
    (reads : (Condition.ofFilter? filter).isSome = true) :
    ∃ wanted, Binary64.readTrimmed? filter.value = some wanted ∧ wanted.isFinite = true := by
  cases read : Binary64.readTrimmed? filter.value with
  | none => simp [Condition.ofFilter?, logic, read] at reads
  | some wanted =>
      by_cases finite : wanted.isFinite = true
      · exact ⟨wanted, rfl, finite⟩
      · simp [Condition.ofFilter?, logic, read, finite] at reads

/-- **Operators on numbers agree.** A filter on numbers that can be read passes no value that is not
read as a number, whatever the operator. Of a number exactly one of `lt`, `eq` and `gt` holds, `neq`
says the contrary of `eq`, `lte` and `gte` are `lt` or `eq` and `gt` or `eq`, and `contains` is
`eq`. A text may also be read as a NaN: it passes `neq` and no other operator. -/
theorem number_operators_agree (filter : Filter) (logic : filter.logic = .number)
    (reads : (Condition.ofFilter? filter).isSome = true) (v : Value) :
    (v.toNumber? = none → ∀ operator, filter.passes operator v = false) ∧
      (∀ x, v.toNumber? = some x → x.isNaN = false →
        ComparesNumbers fun operator => filter.passes operator v) ∧
      ∀ x, v.toNumber? = some x → x.isNaN = true →
        ∀ operator, filter.passes operator v = true ↔ operator = .neq := by
  obtain ⟨wanted, read, finite⟩ := exists_finite_of_reads logic reads
  have passes (operator : Operator) := filter.passes_number logic read finite operator v
  refine ⟨fun absent operator => ?_, fun x number real => ?_, fun x number nan operator => ?_⟩
  · rw [passes, absent, Option.any_none]
  · simp only [number, Option.any_some] at passes
    have places := compares_of_place (compare x.position wanted.position) fun operator ranges =>
      (passes operator).trans (testNumber_eq_wants ranges (isNaN_of_isFinite finite) real)
    exact
      { one := places.one
        neq := by simp only [passes]; rfl
        lte := by simp only [passes]; rfl
        gte := by simp only [passes]; rfl
        contains := by simp only [passes]; rfl }
  · rw [passes, number, Option.any_some, testNumber_of_isNaN wanted nan]

/-- Infinity is above all finite numbers, and a text without digits is no number. -/
theorem number_operators_agree_infinity :
    let filter : Filter := ⟨"title", .gte, "1e308", .number, false⟩
    filter.logic = .number ∧ (Condition.ofFilter? filter).isSome = true ∧
      (Value.text " -Infinity ").toNumber? = some (.infinity true) ∧
      (Binary64.infinity true).isNaN = false ∧
      (ComparesNumbers fun operator => filter.passes operator (.text " -Infinity ")) ∧
      filter.passes .lt (.text " -Infinity ") = true ∧
      (Value.text "infinite").toNumber? = none ∧ filter.passes .neq (.text "infinite") = false ∧
      (Value.text "+NAN").toNumber? = some (.nan false) ∧ (Binary64.nan false).isNaN = true ∧
      (filter.passes .neq (.text "+NAN") = true ↔ Operator.neq = .neq) := by
  intro filter
  have reads : (Condition.ofFilter? filter).isSome = true := by decide +kernel
  have infinite : (Value.text " -Infinity ").toNumber? = some (.infinity true) := by decide +kernel
  have real : (Binary64.infinity true).isNaN = false := by decide +kernel
  have word : (Value.text "infinite").toNumber? = none := by decide +kernel
  have nan : (Value.text "+NAN").toNumber? = some (.nan false) := by decide +kernel
  have odd : (Binary64.nan false).isNaN = true := by decide +kernel
  exact ⟨rfl, reads, infinite, real,
    (number_operators_agree filter rfl reads _).2.1 _ infinite real, by decide +kernel, word,
    (number_operators_agree filter rfl reads _).1 word .neq, nan, odd,
    (number_operators_agree filter rfl reads _).2.2 _ nan odd .neq⟩

/-- A title that says NaN differs from 5 and yet is neither below 5 nor above. -/
theorem not_forall_number_operators_agree :
    ¬∀ (filter : Filter) (v : Value), filter.logic = .number →
      (Condition.ofFilter? filter).isSome = true →
      (ComparesNumbers fun operator => filter.passes operator v) ∨
        ∀ operator, filter.passes operator v = false := by
  intro agree
  let filter : Filter := ⟨"title", .neq, "5", .number, false⟩
  have differs : filter.passes .neq (.text "NaN") = true := by decide +kernel
  have nowhere : ∀ operator ∈ [Operator.lt, .eq, .gt],
      filter.passes operator (.text "NaN") = false := by decide +kernel
  rcases agree filter (.text "NaN") rfl (by decide +kernel) with compares | none
  · obtain ⟨operator, ⟨single, passed⟩, -⟩ := compares.one
    exact nomatch (nowhere operator single).symm.trans passed
  · exact nomatch (none .neq).symm.trans differs

end ContentService.Query
