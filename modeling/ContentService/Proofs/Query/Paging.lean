import ContentService.Proofs.Query.SortedAnswer
import Mathlib.Data.Rat.Floor

/-! # Pages of an answer

Read one after the other, the pages of one size are the whole answer. What a page tells about the
others is true of them, and the 64-bit numbers that pages are cut with never cut one wrong
(`ContentService.Query.pages_partition_answer`).
-/

namespace ContentService.Query

variable {Record : Type}

/-- The pages of one size that a list of records is cut into. -/
structure CutInto (found : List Record) (size : Nat) (page : Nat → Page Record) : Prop where
  /-- The pages in turn give every record once, in order. -/
  joined : (List.range ⌈(found.length : ℚ) / size⌉₊).flatMap (fun index => (page index).items) =
    found
  totalCount : ∀ index, (page index).totalCount = found.length
  totalPages : ∀ index, (page index).totalPages = ⌈(found.length : ℚ) / size⌉₊
  full : ∀ index, index + 1 < ⌈(found.length : ℚ) / size⌉₊ → (page index).items.length = size
  last : ∀ index, index + 1 = ⌈(found.length : ℚ) / size⌉₊ →
    1 ≤ (page index).items.length ∧ (page index).items.length ≤ size
  beyond : ∀ index ≤ maxWord, ⌈(found.length : ℚ) / size⌉₊ ≤ index → (page index).items = []
  hasNext : ∀ index ≤ maxWord, (page index).hasNext ↔
    ∃ later ≤ maxWord, index < later ∧ (page later).items ≠ []
  hasPrevious : ∀ index, (page index).hasPrevious ↔ 0 < index
  /-- No number that a page is cut with exceeds 64 bits: the pages are counted by a quotient and at
  most one more, and the position of a page that has records is not capped. -/
  words : ⌈(found.length : ℚ) / size⌉₊ ≤ maxWord ∧
    ⌈(found.length : ℚ) / size⌉₊ =
      found.length / size + (if found.length % size = 0 then 0 else 1) ∧
    ∀ index < ⌈(found.length : ℚ) / size⌉₊, index * size ≤ maxWord ∧ index + 1 ≤ maxWord

/-- The pages up to some number of them are a beginning of the list. -/
theorem flatMap_range_page (found : List Record) (size count : Nat) :
    (List.range count).flatMap (fun index => (found.drop (index * size)).take size) =
      found.take (count * size) := by
  induction count with
  | zero => simp
  | succ count ih =>
      rw [List.range_succ, List.flatMap_append, ih, List.flatMap_singleton, Nat.succ_mul,
        List.take_add]

section Count

variable (length : Nat) {size : Nat}

/-- A page begins inside the list exactly if there is such a page. -/
theorem lt_pageCount_iff (positive : 1 ≤ size) (index : Nat) :
    index < (length + size - 1) / size ↔ index * size < length := by
  rw [← Nat.succ_le_iff, Nat.le_div_iff_mul_le (by omega), Nat.succ_mul]
  omega

/-- The number of pages is the quotient, rounded up. -/
theorem pageCount_eq_ceil (positive : 1 ≤ size) :
    (length + size - 1) / size = ⌈(length : ℚ) / size⌉₊ := by
  apply eq_of_forall_ge_iff
  intro count
  rw [Nat.ceil_le, div_le_iff₀ (by exact_mod_cast positive), ← Nat.cast_mul, Nat.cast_le,
    ← Nat.not_lt, ← Nat.not_lt, lt_pageCount_iff length positive]

/-- The number of pages is the quotient, and one more if something is left over. -/
theorem pageCount_eq_div_add (positive : 1 ≤ size) :
    (length + size - 1) / size = length / size + (if length % size = 0 then 0 else 1) := by
  have shifted : length + size - 1 = size * (length / size) + (length % size + (size - 1)) := by
    have := Nat.div_add_mod length size
    omega
  rw [shifted, Nat.mul_add_div (by omega)]
  have small := Nat.mod_lt length positive
  by_cases exact : length % size = 0
  · have none : (length % size + (size - 1)) / size = 0 := Nat.div_eq_of_lt (by omega)
    rw [if_pos exact, none]
  · have one : (length % size + (size - 1)) / size = 1 :=
      Nat.div_eq_of_lt_le (by omega) (by omega)
    rw [if_neg exact, one]

theorem pageCount_le (positive : 1 ≤ size) : (length + size - 1) / size ≤ length := by
  apply Nat.le_of_not_lt
  intro more
  have inside := (lt_pageCount_iff length positive length).mp more
  exact absurd inside (Nat.not_lt.mpr (Nat.le_mul_of_pos_right length positive))

end Count

section Cut

variable {found : List Record} {size : Nat} (short : found.length ≤ maxWord)
include short

/-- Capping the position at 64 bits does not change the records of a page. -/
theorem items_pageOf (index : Nat) :
    (pageOf found ⟨index, size⟩).items = (found.drop (index * size)).take size := by
  by_cases capped : index * size ≤ maxWord
  · simp only [pageOf, Nat.min_eq_left capped]
  · have none := List.drop_eq_nil_of_le (show found.length ≤ index * size by omega)
    simp only [pageOf, Nat.min_eq_right (Nat.le_of_not_le capped), none,
      List.drop_eq_nil_of_le short]

/-- A page holds what is left of the list at its position, up to its size. -/
theorem length_items_pageOf (index : Nat) :
    (pageOf found ⟨index, size⟩).items.length = min size (found.length - index * size) := by
  rw [items_pageOf short, List.length_take, List.length_drop]

theorem items_pageOf_ne_nil_iff (positive : 1 ≤ size) (index : Nat) :
    (pageOf found ⟨index, size⟩).items ≠ [] ↔ index < (found.length + size - 1) / size := by
  rw [lt_pageCount_iff _ positive, ← List.length_pos_iff, length_items_pageOf short]
  omega

/-- A list is cut into its pages. -/
theorem cutInto_pageOf (positive : 1 ≤ size) :
    CutInto found size fun index => pageOf found ⟨index, size⟩ := by
  have count : ⌈(found.length : ℚ) / size⌉₊ = (found.length + size - 1) / size :=
    (pageCount_eq_ceil found.length positive).symm
  have begins := lt_pageCount_iff found.length positive
  constructor
  case joined =>
    simp only [items_pageOf short]
    rw [flatMap_range_page, count, List.take_of_length_le]
    exact Nat.le_of_not_lt fun more => Nat.lt_irrefl _ ((begins _).mpr more)
  case totalCount => exact fun index => rfl
  case totalPages => exact fun index => count.symm
  case full =>
    intro index before
    rw [count, begins, Nat.succ_mul] at before
    rw [length_items_pageOf short]
    omega
  case last =>
    intro index final
    rw [count] at final
    have inside := (begins index).mp (by omega)
    rw [length_items_pageOf short]
    omega
  case beyond =>
    intro index _ past
    rw [count] at past
    by_contra some
    exact absurd ((items_pageOf_ne_nil_iff short positive index).mp some) (Nat.not_lt.mpr past)
  case hasNext =>
    intro index _
    simp only [items_pageOf_ne_nil_iff short positive]
    have few := (pageCount_le found.length positive).trans short
    change decide (min (index + 1) maxWord < (found.length + size - 1) / size) = true ↔ _
    rw [decide_eq_true_iff]
    constructor
    · intro next
      exact ⟨index + 1, by omega, by omega, by omega⟩
    · rintro ⟨later, _, behind, inside⟩
      omega
  case hasPrevious => exact fun index => decide_eq_true_iff
  case words =>
    rw [count]
    refine ⟨(pageCount_le _ positive).trans short, pageCount_eq_div_add _ positive, ?_⟩
    intro index inside
    have few := (pageCount_le found.length positive).trans short
    have start := (begins index).mp inside
    omega

end Cut

/-- **Pages partition the answer.** For pages of at least one record, every page of a request is
answered, and the pages are those that one list is cut into: all matching records in sorted order,
which is what the filter leaves of the unfiltered listing with the same sort keys. -/
theorem pages_partition_answer [Searchable Record] (records : List Record) (request : Request)
    (size : Nat) (short : records.length ≤ maxWord) (positive : 1 ≤ size)
    (bounded : size ≤ maxWord) :
    ∃ (found : List Record) (page : Nat → Page Record),
      (∀ index, execute records request ⟨index, size⟩ = .ok (page index)) ∧
        found.Perm (records.filter (Selection.ofFilter request.filter : Selection Record).keeps) ∧
        found.Pairwise (fun a b =>
          ((Comparison.ofKeys request.sort : Comparison Record).order a b).isLE) ∧
        found = (answer records ⟨none, request.sort⟩).filter
          (Selection.ofFilter request.filter : Selection Record).keeps ∧
        CutInto found size page := by
  refine ⟨answer records request, fun index => pageOf (answer records request) ⟨index, size⟩,
    ?_, answer_perm records request, Comparison.sort_pairwise _ _, answer_eq_filter records request,
    cutInto_pageOf ?_ positive⟩
  · intro index
    have sound : (⟨index, size⟩ : PageRequest).fault? maxWord = none := by
      rw [PageRequest.fault?, if_neg (show ¬size = 0 by omega),
        if_neg (show ¬maxWord < size by omega)]
    rw [execute, sound]
  · have kept := (answer_perm records request).length_eq
    have fewer := List.length_filter_le
      (Selection.ofFilter request.filter : Selection Record).keeps records
    omega

/-- Three pictures in pages of two. -/
theorem pages_partition_answer_pictures :
    [picture 0, picture 1, picture 2].length ≤ maxWord ∧ 1 ≤ 2 ∧ 2 ≤ maxWord ∧
      ∃ (found : List Media) (page : Nat → Page Media),
        (∀ index,
          execute [picture 0, picture 1, picture 2] .everything ⟨index, 2⟩ = .ok (page index)) ∧
          found.Perm [picture 0, picture 1, picture 2] ∧ CutInto found 2 page := by
  refine ⟨by decide, by decide, by decide, ?_⟩
  obtain ⟨found, page, answered, matching, _, _, cut⟩ :=
    pages_partition_answer [picture 0, picture 1, picture 2] .everything 2 (by decide) (by decide)
      (by decide)
  exact ⟨found, page, answered, matching, cut⟩

end ContentService.Query
