import ContentService.Query.Value

/-! # Lawful orders of field values

Every order that a comparison of records is built from is oriented and transitive: the orders of
numbers, of dates and instants, of ids, of texts, of lists of texts, and the order of values, which
may be of different kinds. Equality is decided by ids alone: all other orders may tie.
-/

namespace ContentService

open Std

/-- Things are ordered lawfully by what a lawful order says of their images. -/
theorem transCmp_on {α β : Type} (image : α → β) (order : β → β → Ordering) [TransCmp order] :
    TransCmp fun a b => order (image a) (image b) where
  eq_swap {a b} := @OrientedCmp.eq_swap _ order _ (image a) (image b)
  isLE_trans {a b c} := @TransCmp.isLE_trans _ order _ (image a) (image b) (image c)

/-- Of two things, one may stand before the other. -/
theorem isLE_total {α : Type} (order : α → α → Ordering) [OrientedCmp order] (a b : α) :
    (order a b).isLE || (order b a).isLE := by
  rw [@OrientedCmp.eq_swap _ order _ b a]
  cases order a b <;> rfl

/-! ## Sorting by a lawful order -/

section Sorting

variable {α : Type} (order : α → α → Ordering) [TransCmp order]

theorem pairwise_mergeSort (xs : List α) :
    (xs.mergeSort fun a b => (order a b).isLE).Pairwise fun a b => (order a b).isLE :=
  List.pairwise_mergeSort (fun _ _ _ => TransCmp.isLE_trans) (isLE_total order) xs

/-- A sorted list has those that come strictly before a thing in front of those that do not, and
the thing joins it between them. -/
theorem mergeSort_split (a : α) (rest : List α) :
    let sorted := rest.mergeSort fun a b => (order a b).isLE
    let strictly := fun b => !(order a b).isLE
    let weakly := fun b => (order a b).isLE
    sorted = sorted.filter strictly ++ sorted.filter weakly ∧
      ((a :: rest).mergeSort fun a b => (order a b).isLE) =
        sorted.filter strictly ++ a :: sorted.filter weakly := by
  intro sorted strictly weakly
  obtain ⟨before, after, whole, others, inFront⟩ :=
    List.mergeSort_cons (fun _ _ _ => TransCmp.isLE_trans) (isLE_total order) a rest
  have ordered := pairwise_mergeSort order (a :: rest)
  rw [whole, List.pairwise_append, List.pairwise_cons] at ordered
  have behind : ∀ b ∈ after, weakly b := ordered.2.1.1
  have front : (before ++ after).filter strictly = before := by
    rw [List.filter_append, List.filter_eq_self.mpr inFront, List.filter_eq_nil_iff.mpr,
      List.append_nil]
    intro b member
    simpa only [strictly, Bool.not_eq_true, Bool.not_eq_false'] using behind b member
  have back : (before ++ after).filter weakly = after := by
    rw [List.filter_append, List.filter_eq_self.mpr behind, List.filter_eq_nil_iff.mpr,
      List.nil_append]
    intro b member
    simpa only [weakly, Bool.not_eq_true, Bool.not_eq_true'] using inFront b member
  rw [whole, show sorted = before ++ after from others, front, back]
  exact ⟨rfl, rfl⟩

/-- What is kept of a sorted list is sorted, also where things tie. -/
theorem filter_mergeSort (keep : α → Bool) (xs : List α) :
    (xs.mergeSort fun a b => (order a b).isLE).filter keep =
      (xs.filter keep).mergeSort fun a b => (order a b).isLE := by
  induction xs with
  | nil => simp only [List.filter_nil, List.mergeSort_nil]
  | cons a rest ih =>
      obtain ⟨others, whole⟩ := mergeSort_split order a rest
      rw [whole, List.filter_append]
      by_cases kept : keep a
      · rw [List.filter_cons_of_pos kept, List.filter_cons_of_pos kept,
          (mergeSort_split order a (rest.filter keep)).2, ← ih]
        simp only [List.filter_filter, Bool.and_comm]
      · rw [List.filter_cons_of_neg kept, List.filter_cons_of_neg kept, ← ih, ← List.filter_append,
          ← others]

end Sorting

/-! ## Orders of values -/

instance : TransCmp Binary64.totalOrder :=
  transCmp_on Binary64.rank compare

instance : TransCmp Uuid.order :=
  transCmp_on Uuid.number compare

instance : LawfulEqCmp Uuid.order where
  compare_self := ReflCmp.compare_self
  eq_of_compare {a b} same := by
    cases a
    cases b
    exact (Uuid.mk.injEq ..).mpr (LawfulEqOrd.eq_of_compare same)

instance : TransCmp Date.order :=
  inferInstanceAs (TransCmp
    (compareLex (compareOn Date.year) (compareLex (compareOn Date.month) (compareOn Date.day))))

instance : TransCmp Instant.order :=
  have _ := transCmp_on Instant.date Date.order
  inferInstanceAs (TransCmp
    (compareLex (fun a b => Date.order a.date b.date)
      (compareLex (compareOn Instant.second) (compareOn Instant.nano))))

instance : TransCmp Text.order :=
  transCmp_on String.toList compare

namespace Query

instance : TransCmp textOrder :=
  have _ := transCmp_on Text.lowercase Text.order
  inferInstanceAs (TransCmp
    (compareLex (fun a b => Text.order (Text.lowercase a) (Text.lowercase b)) Text.order))

theorem listOrder_eq_compareLex (as bs : List String) :
    listOrder as bs = List.compareLex textOrder as bs := by
  induction as generalizing bs with
  | nil => cases bs <;> rfl
  | cons a as ih =>
      cases bs with
      | nil => rfl
      | cons b bs => rw [List.compareLex_cons_cons, listOrder, ih]

instance : TransCmp listOrder := by
  rw [funext fun as => funext (listOrder_eq_compareLex as)]
  infer_instance

namespace Value

/-- Two values of one kind. -/
inductive SameKind : Value → Value → Prop
  | null : SameKind .null .null
  | text (s t : String) : SameKind (.text s) (.text t)
  | number (x y : Binary64) : SameKind (.number x) (.number y)
  | date (s t : Instant) : SameKind (.date s) (.date t)
  | uuid (i j : Uuid) : SameKind (.uuid i) (.uuid j)
  | list (as bs : List String) : SameKind (.list as) (.list bs)

/-- The rank of a value tells its kind. -/
theorem sameKind_of_kindRank_eq {a b : Value} (same : a.kindRank = b.kindRank) : SameKind a b := by
  cases a <;> cases b <;> first | constructor | simp [kindRank] at same

/-- Values of different kinds are ordered by their kinds. -/
theorem order_of_kindRank_ne {a b : Value} (different : a.kindRank ≠ b.kindRank) :
    a.order b = compare a.kindRank b.kindRank := by
  cases a <;> cases b <;> first | rfl | exact absurd rfl different

/-- A value that does not come after another is not of a later kind. -/
theorem kindRank_le_of_isLE {a b : Value} (ordered : (a.order b).isLE) :
    a.kindRank ≤ b.kindRank := by
  by_cases same : a.kindRank = b.kindRank
  · exact Nat.le_of_eq same
  · rw [order_of_kindRank_ne same] at ordered
    exact Nat.isLE_compare.mp ordered

theorem isLE_of_kindRank_lt {a b : Value} (earlier : a.kindRank < b.kindRank) :
    (a.order b).isLE := by
  rw [order_of_kindRank_ne (Nat.ne_of_lt earlier)]
  exact Nat.isLE_compare.mpr (Nat.le_of_lt earlier)

theorem order_eq_swap (a b : Value) : a.order b = (b.order a).swap := by
  by_cases same : a.kindRank = b.kindRank
  · cases sameKind_of_kindRank_eq same with
    | null => rfl
    | text s t => exact @OrientedCmp.eq_swap _ textOrder _ s t
    | number x y => exact @OrientedCmp.eq_swap _ Binary64.totalOrder _ x y
    | date s t => exact @OrientedCmp.eq_swap _ Instant.order _ s t
    | uuid i j => exact @OrientedCmp.eq_swap _ Uuid.order _ i j
    | list as bs => exact @OrientedCmp.eq_swap _ listOrder _ as bs
  · rw [order_of_kindRank_ne same, order_of_kindRank_ne (Ne.symm same)]
    exact OrientedOrd.eq_swap

/-- Transitivity among values of one kind is that of the kind's own order. -/
theorem isLE_trans_of_sameKind {a b c : Value} (left : SameKind a b) (right : SameKind b c)
    (first : (a.order b).isLE) (second : (b.order c).isLE) : (a.order c).isLE := by
  cases left with
  | null => cases right; rfl
  | text s t => cases right; exact @TransCmp.isLE_trans _ textOrder _ _ _ _ first second
  | number x y =>
      cases right; exact @TransCmp.isLE_trans _ Binary64.totalOrder _ _ _ _ first second
  | date s t => cases right; exact @TransCmp.isLE_trans _ Instant.order _ _ _ _ first second
  | uuid i j => cases right; exact @TransCmp.isLE_trans _ Uuid.order _ _ _ _ first second
  | list as bs => cases right; exact @TransCmp.isLE_trans _ listOrder _ _ _ _ first second

instance : TransCmp Value.order where
  eq_swap := order_eq_swap _ _
  isLE_trans {a b c} first second := by
    have left := kindRank_le_of_isLE first
    have right := kindRank_le_of_isLE second
    by_cases earlier : a.kindRank < c.kindRank
    · exact isLE_of_kindRank_lt earlier
    · exact isLE_trans_of_sameKind (sameKind_of_kindRank_eq (by omega))
        (sameKind_of_kindRank_eq (by omega)) first second

end Value

end Query

end ContentService
