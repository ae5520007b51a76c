import ContentService.Proofs.Binary64.Integers
import ContentService.Proofs.Query.Comparisons
import ContentService.Proofs.RoundTrip

/-! # Sizes compare as floating-point numbers

The size of a file has 64 bits, and a query compares it as a floating-point number. Such numbers
have 53 significant bits, so sizes that differ only behind these tie: they are listed in the order
of the ids, and a filter with the operator `eq` finds all of them. Up to this rounding, which keeps
the order and leaves all sizes up to 2^53 alone, a listing by size is sorted and the filters on it
find what they name (`ContentService.Query.sizes_compare_as_rounded`).
-/

namespace ContentService

open Binary64

theorem Media.Held.natAbs_lt {m : Media} (held : m.Held) : m.size.natAbs < 2 ^ 64 := by
  obtain ⟨least, most⟩ := held
  omega

namespace Query

/-- A filter on numbers that compares the sizes of media with an integer of 64 bits. -/
structure Filter.AsksSize (filter : Filter) (n : Int) : Prop where
  named : Searchable.resolve? Media filter.field = some MediaField.size
  logic : filter.logic = .number
  value : WritesInt n (Text.trimChars filter.value.toList)
  least : -2 ^ 63 ≤ n
  most : n ≤ 2 ^ 63 - 1

/-- A request is answered with a list of exactly the wanted records. -/
def Finds (records : List Media) (request : Request) (wanted : Media → Bool) : Prop :=
  ∃ found, AnsweredWith records request found ∧ found.Perm (records.filter wanted)

/-- A listing by size is sorted and filters on the size find what they name, if all sizes are taken
for what is seen of them. -/
structure ComparesSizes (records : List Media) (seen : Int → Int) : Prop where
  ascending : ∀ (filter : Option Filter) (key : SortKey) (more : List SortKey),
    Searchable.resolve? Media key.field = some MediaField.size → key.direction = .ascending →
      ∃ found, AnsweredWith records ⟨filter, key :: more⟩ found ∧
        found.Perm (records.filter (Selection.ofFilter filter : Selection Media).keeps) ∧
        found.Pairwise fun a b => seen a.size ≤ seen b.size
  descending : ∀ (filter : Option Filter) (key : SortKey) (more : List SortKey),
    Searchable.resolve? Media key.field = some MediaField.size → key.direction = .descending →
      ∃ found, AnsweredWith records ⟨filter, key :: more⟩ found ∧
        found.Perm (records.filter (Selection.ofFilter filter : Selection Media).keeps) ∧
        found.Pairwise fun a b => seen b.size ≤ seen a.size
  eq : ∀ (filter : Filter) (n : Int) (sort : List SortKey), filter.AsksSize n →
    Finds records ⟨some { filter with operator := .eq }, sort⟩ fun m => seen m.size = seen n
  lt : ∀ (filter : Filter) (n : Int) (sort : List SortKey), filter.AsksSize n →
    Finds records ⟨some { filter with operator := .lt }, sort⟩ fun m => seen m.size < seen n
  gt : ∀ (filter : Filter) (n : Int) (sort : List SortKey), filter.AsksSize n →
    Finds records ⟨some { filter with operator := .gt }, sort⟩ fun m => seen m.size > seen n

/-- The sort order of two sizes is that of the rounded sizes. -/
theorem order_size {a b : Media} (first : a.Held) (second : b.Held) :
    (Searchable.value a (MediaField.size : Searchable.Field Media)).order
      (Searchable.value b (MediaField.size : Searchable.Field Media)) =
        compare (rounded a.size) (rounded b.size) :=
  totalOrder_ofInt first.natAbs_lt second.natAbs_lt

theorem Filter.AsksSize.with_operator {filter : Filter} {n : Int} (asks : filter.AsksSize n)
    (operator : Operator) : AsksSize { filter with operator := operator } n :=
  ⟨asks.named, asks.logic, asks.value, asks.least, asks.most⟩

/-- A filter on the size tests the place of the rounded size to the rounded integer. -/
theorem keeps_eq_wants_of_asksSize {filter : Filter} {n : Int} (asks : filter.AsksSize n)
    (ranges : filter.operator ∈ Operator.ranges) {m : Media} (held : m.Held) :
    (Selection.ofFilter (some filter) : Selection Media).keeps m =
      filter.operator.wants (compare (rounded m.size) (rounded n)) := by
  have supported : filter.operator ≠ .unsupported := by
    intro unsupported
    rw [unsupported] at ranges
    exact absurd ranges (by decide)
  obtain ⟨least, most⟩ := And.intro asks.least asks.most
  obtain ⟨negative, k, rfl, read⟩ := asks.value.readChars?
  have small : k < 2 ^ 64 := by
    cases negative <;> simp only [if_true, Bool.false_eq_true, if_false] at least most <;> omega
  have finite := isFinite_ofQuotient small negative
  have number := isFinite_ofInt held.natAbs_lt
  have size : (Searchable.value m (MediaField.size : Searchable.Field Media)).toNumber? =
      some (.ofInt m.size) := rfl
  rw [Selection.keeps_ofFilter supported asks.named, filter.passes_number asks.logic read finite,
    size, Option.any_some,
    testNumber_eq_wants ranges (isNaN_of_isFinite finite) (isNaN_of_isFinite number),
    position_ofInt held.natAbs_lt, position_ofQuotient small, compare_place]

section Records

variable {records : List Media} (held : ∀ m ∈ records, m.Held)
include held

theorem pairwise_compare_size {key : SortKey}
    (named : Searchable.resolve? Media key.field = some MediaField.size) (filter : Option Filter)
    (more : List SortKey) :
    (answer records ⟨filter, key :: more⟩).Pairwise fun a b =>
      (Comparison.directed key.direction (compare (rounded a.size) (rounded b.size))).isLE := by
  have inside {m : Media} (member : m ∈ answer records ⟨filter, key :: more⟩) : m.Held :=
    held m (List.mem_of_mem_filter ((answer_perm records _).mem_iff.mp member))
  refine (pairwise_leading_answer named records filter more).imp_of_mem ?_
  intro a b left right ordered
  rwa [order_size (inside left) (inside right)] at ordered

theorem finds_size {filter : Filter} {n : Int} (asks : filter.AsksSize n) {operator : Operator}
    (ranges : operator ∈ Operator.ranges) (sort : List SortKey) {wanted : Media → Bool}
    (means : ∀ m, operator.wants (compare (rounded m.size) (rounded n)) = wanted m) :
    Finds records ⟨some { filter with operator := operator }, sort⟩ wanted := by
  refine ⟨_, answeredWith_answer records _, (answer_perm records _).trans (.of_eq ?_)⟩
  refine List.filter_congr fun m member => ?_
  rw [keeps_eq_wants_of_asksSize (asks.with_operator operator) ranges (held m member), means]

/-- Sizes are compared as they are rounded. -/
theorem comparesSizes_rounded : ComparesSizes records rounded where
  ascending filter key more named ascending := by
    refine ⟨_, answeredWith_answer records _, answer_perm records _, ?_⟩
    refine (pairwise_compare_size held named filter more).imp fun {a b} ordered => ?_
    rw [ascending] at ordered
    exact Std.isLE_compare.mp ordered
  descending filter key more named descending := by
    refine ⟨_, answeredWith_answer records _, answer_perm records _, ?_⟩
    refine (pairwise_compare_size held named filter more).imp fun {a b} ordered => ?_
    rw [descending, Comparison.directed, ← Std.OrientedCmp.eq_swap] at ordered
    exact Std.isLE_compare.mp ordered
  eq filter n sort asks := by
    refine finds_size held asks (by decide) sort fun m => ?_
    rw [Bool.eq_iff_iff, decide_eq_true_iff, ← Int.compare_eq_eq]
    exact beq_iff_eq
  lt filter n sort asks := by
    refine finds_size held asks (by decide) sort fun m => ?_
    rw [Bool.eq_iff_iff, decide_eq_true_iff, ← Int.compare_eq_lt]
    exact beq_iff_eq
  gt filter n sort asks := by
    refine finds_size held asks (by decide) sort fun m => ?_
    rw [Bool.eq_iff_iff, decide_eq_true_iff, gt_iff_lt, ← Int.compare_eq_gt]
    exact beq_iff_eq

end Records

/-- **Sizes compare as floating-point numbers.** Whatever sizes of 64 bits a collection of media
has, a query sorted by size lists the records with rounded sizes that do not fall, or in descending
order do not rise, and a filter on the size with an integer of 64 bits finds with `eq`, `lt` and
`gt` exactly the records whose rounded sizes are equal to, below and above the rounded integer.
Rounding takes an integer to the nearest one with 53 significant bits; it keeps the order, and all
integers up to 2^53 are their own. -/
theorem sizes_compare_as_rounded (records : List Media) (held : ∀ m ∈ records, m.Held) :
    ComparesSizes records rounded ∧
      (∀ n, Short (rounded n) ∧
        ∀ m, Short m → (rounded n - n).natAbs ≤ (m - n).natAbs) ∧
      (∀ m n, m ≤ n → rounded m ≤ rounded n) ∧
      ∀ n, n.natAbs ≤ 2 ^ 53 → rounded n = n :=
  ⟨comparesSizes_rounded held, fun n => ⟨short_rounded n, fun _ short =>
    natAbs_rounded_sub_le short n⟩, fun _ _ => rounded_mono, fun _ few =>
      rounded_of_short (short_of_natAbs_le few)⟩

/-- Two sizes that are rounded to the lesser of them, the greater under the lesser id. -/
def twoSizes : List Media :=
  [{ picture 0 with size := 9007199254740993 }, { picture 1 with size := 9007199254740992 }]

/-- They are listed by their ids, and a filter for the greater size finds both. -/
theorem sizes_compare_as_rounded_twoSizes :
    let filter : Filter := ⟨"size", .eq, " +09007199254740993 ", .number, false⟩
    let key : SortKey := ⟨"size", .descending⟩
    (∀ m ∈ twoSizes, m.Held) ∧ filter.AsksSize 9007199254740993 ∧
      Searchable.resolve? Media key.field = some MediaField.size ∧
      twoSizes.map (rounded ·.size) = [9007199254740992, 9007199254740992] ∧
      (∃ found, AnsweredWith twoSizes ⟨some filter, [key]⟩ found ∧ found.Perm twoSizes) ∧
      ∃ found, AnsweredWith twoSizes ⟨none, [key]⟩ found ∧
        found.Pairwise fun a b => rounded b.size ≤ rounded a.size := by
  intro filter key
  have held : ∀ m ∈ twoSizes, m.Held := by decide +kernel
  have named : Searchable.resolve? Media key.field = some MediaField.size := by decide +kernel
  have digits : Text.readNat? "09007199254740993".toList = some 9007199254740993 := by
    decide +kernel
  have trimmed : Text.trimChars filter.value.toList = '+' :: "09007199254740993".toList := by
    decide +kernel
  have asks : filter.AsksSize 9007199254740993 :=
    { named := by decide +kernel
      logic := rfl
      value := trimmed ▸ .plus digits
      least := by decide
      most := by decide }
  have sizes : twoSizes.map (rounded ·.size) = [9007199254740992, 9007199254740992] := by
    decide +kernel
  have compares := (sizes_compare_as_rounded twoSizes held).1
  obtain ⟨found, answered, both⟩ := compares.eq filter 9007199254740993 [key] asks
  obtain ⟨listing, listed, -, sorted⟩ := compares.descending none key [] named rfl
  exact ⟨held, asks, named, sizes, ⟨found, answered, both⟩, listing, listed, sorted⟩

theorem answer_twoSizes : answer twoSizes ⟨none, [⟨"size", .ascending⟩]⟩ = twoSizes :=
  Comparison.sort_eq_of_pairwise (.refl _) (by decide) (by decide +kernel)

/-- The greater size is listed first, in ascending order. -/
theorem not_forall_sizes_compare :
    ¬∀ records : List Media, (∀ m ∈ records, m.Held) → ComparesSizes records id := by
  intro exactly
  have held : ∀ m ∈ twoSizes, m.Held := by decide +kernel
  obtain ⟨found, answered, same, sorted⟩ :=
    (exactly twoSizes held).ascending none ⟨"size", .ascending⟩ [] (by decide +kernel) rfl
  have length : found.length = 2 := same.length_eq
  have page : pageOf found ⟨0, 2⟩ =
      pageOf (answer twoSizes ⟨none, [⟨"size", .ascending⟩]⟩) ⟨0, 2⟩ :=
    Except.ok.inj ((answered 0 2 (by decide) (by decide)).symm.trans
      (answeredWith_answer twoSizes _ 0 2 (by decide) (by decide)))
  rw [answer_twoSizes] at page
  have items : found.take 2 = twoSizes := congrArg Page.items page
  rw [List.take_of_length_le length.le] at items
  subst items
  exact absurd sorted (by decide +kernel)

end Query

end ContentService
