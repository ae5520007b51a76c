import ContentService.Media.Record
import ContentService.Proofs.Query.ValueOrder
import ContentService.Query.Page
import Mathlib.Data.List.Nodup

/-! # Sorted answers

A comparison compiled from sort keys is a total order of records with distinct ids. Sorting by it
permutes, commutes with filtering, and gives one list for all arrangements of the same records. So a
query's answer is determined by the records that the collection has, whatever their arrangement
(`ContentService.Query.order_total_and_execute_eq_of_perm`).
-/

namespace ContentService.Query

open Std

variable {Record : Type} [Searchable Record]

namespace Comparison

theorem transCmp_directed {α : Type} (direction : Direction) (order : α → α → Ordering)
    [TransCmp order] : TransCmp fun a b => directed direction (order a b) := by
  cases direction with
  | ascending => exact inferInstanceAs (TransCmp order)
  | descending =>
      have reversed : (fun a b => directed .descending (order a b)) = fun a b => order b a := by
        funext a b
        exact OrientedCmp.eq_swap.symm
      rw [reversed]
      infer_instance

/-- The order of two records by the fields alone, in which records may tie. -/
def byFields : Comparison Record → Record → Record → Ordering
  | [], _, _ => .eq
  | (field, direction) :: rest, a, b =>
    (directed direction ((Searchable.value a field).order (Searchable.value b field))).then
      (byFields rest a b)

instance (comparison : Comparison Record) : TransCmp comparison.byFields := by
  induction comparison with
  | nil => exact { eq_swap := rfl, isLE_trans := fun _ _ => rfl }
  | cons key rest ih =>
      obtain ⟨field, direction⟩ := key
      have _ := transCmp_on (fun record : Record => Searchable.value record field) Value.order
      have _ := transCmp_directed direction
        fun a b : Record => (Searchable.value a field).order (Searchable.value b field)
      exact inferInstanceAs (TransCmp (compareLex
        (fun a b : Record => directed direction
          ((Searchable.value a field).order (Searchable.value b field))) (byFields rest)))

/-- Records that tie in the fields are ordered by their ids. -/
theorem order_eq_byFields_then (comparison : Comparison Record) (a b : Record) :
    comparison.order a b =
      (comparison.byFields a b).then ((Searchable.id a).order (Searchable.id b)) := by
  induction comparison with
  | nil => rfl
  | cons key rest ih => rw [order, byFields, ih, Ordering.then_assoc]

instance (comparison : Comparison Record) : TransCmp comparison.order := by
  have _ := transCmp_on (Searchable.id : Record → Uuid) Uuid.order
  rw [funext fun a => funext (comparison.order_eq_byFields_then a)]
  exact inferInstanceAs (TransCmp (compareLex comparison.byFields
    fun a b => (Searchable.id a).order (Searchable.id b)))

/-- Records that tie have one id. -/
theorem id_eq_of_order_eq {comparison : Comparison Record} {a b : Record}
    (tie : comparison.order a b = .eq) : Searchable.id a = Searchable.id b := by
  rw [order_eq_byFields_then, Ordering.then_eq_eq] at tie
  exact LawfulEqCmp.eq_of_compare tie.2

variable (comparison : Comparison Record)

theorem sort_perm (records : List Record) : (comparison.sort records).Perm records :=
  List.mergeSort_perm _ _

theorem sort_pairwise (records : List Record) :
    (comparison.sort records).Pairwise fun a b => (comparison.order a b).isLE :=
  pairwise_mergeSort comparison.order records

theorem sort_filter (keep : Record → Bool) (records : List Record) :
    comparison.sort (records.filter keep) = (comparison.sort records).filter keep :=
  (filter_mergeSort comparison.order keep records).symm

variable {comparison}

/-- Records with distinct ids have one sorted arrangement. -/
theorem sort_eq_of_pairwise {found records : List Record} (same : found.Perm records)
    (distinct : (records.map Searchable.id).Nodup)
    (sorted : found.Pairwise fun a b => (comparison.order a b).isLE) :
    comparison.sort records = found := by
  refine ((comparison.sort_perm records).trans same.symm).eq_of_pairwise ?_
    (comparison.sort_pairwise records) sorted
  intro a b left right first second
  have sameId := id_eq_of_order_eq (OrientedCmp.isLE_antisymm first second)
  exact List.inj_on_of_nodup_map distinct ((comparison.sort_perm records).mem_iff.mp left)
    (same.mem_iff.mp right) sameId

theorem sort_eq_of_perm {shuffled records : List Record} (same : shuffled.Perm records)
    (distinct : (records.map Searchable.id).Nodup) :
    comparison.sort shuffled = comparison.sort records :=
  (sort_eq_of_pairwise ((comparison.sort_perm shuffled).trans same) distinct
    (comparison.sort_pairwise shuffled)).symm

end Comparison

/-- The answer is determined by the records, whatever their arrangement. -/
theorem answer_eq_of_perm {shuffled records : List Record} (same : shuffled.Perm records)
    (distinct : (records.map Searchable.id).Nodup) (request : Request) :
    answer shuffled request = answer records request := by
  unfold answer
  apply Comparison.sort_eq_of_perm
  · exact same.filter _
  · exact distinct.sublist (List.filter_sublist.map _)

/-- An answer has what the filter keeps of the collection. -/
theorem answer_perm (records : List Record) (request : Request) :
    (answer records request).Perm
      (records.filter (Selection.ofFilter request.filter : Selection Record).keeps) :=
  Comparison.sort_perm _ _

/-- The answer is what the filter keeps of the unfiltered answer. -/
theorem answer_eq_filter (records : List Record) (request : Request) :
    answer records request =
      (answer records ⟨none, request.sort⟩).filter
        (Selection.ofFilter request.filter : Selection Record).keeps := by
  have everything : records.filter (Selection.ofFilter none : Selection Record).keeps = records :=
    List.filter_eq_self.mpr fun _ _ => rfl
  unfold answer
  rw [everything, Comparison.sort_filter]

/-- An answer is sorted by the field of the first key, whatever the others are. -/
theorem pairwise_leading_answer {key : SortKey} {field : Searchable.Field Record}
    (named : Searchable.resolve? Record key.field = some field) (records : List Record)
    (filter : Option Filter) (more : List SortKey) :
    (answer records ⟨filter, key :: more⟩).Pairwise fun a b =>
      (Comparison.directed key.direction
        ((Searchable.value a field).order (Searchable.value b field))).isLE := by
  obtain ⟨rest, leads⟩ : ∃ rest, (Comparison.ofKeys (key :: more) : Comparison Record) =
      (field, key.direction) :: rest := by
    simp only [Comparison.ofKeys, List.isEmpty_cons, Bool.false_eq_true, if_false,
      List.filterMap_cons, named, Option.map_some]
    exact ⟨_, rfl⟩
  refine (Comparison.sort_pairwise _ _).imp fun {a b} ordered => ?_
  rw [leads] at ordered
  exact Ordering.isLE_left_of_isLE_then ordered

variable (Record) in
/-- **Sort keys order records totally.** Of any sort keys, the compiled comparison is antisymmetric
and transitive and ties no two records with distinct ids. Hence a collection with distinct ids has
the same response to every request and page in every arrangement of its records. -/
theorem order_total_and_execute_eq_of_perm :
    (∀ (keys : List SortKey) (a b c : Record),
      let order := (Comparison.ofKeys keys : Comparison Record).order
      order b a = (order a b).swap ∧
        (order a b ≠ .gt → order b c ≠ .gt → order a c ≠ .gt) ∧
        (order a b = .lt → order b c = .lt → order a c = .lt) ∧
        (Searchable.id a ≠ Searchable.id b → order a b ≠ .eq)) ∧
      ∀ records shuffled : List Record, shuffled.Perm records →
        (records.map Searchable.id).Nodup → ∀ (request : Request) (page : PageRequest),
          execute shuffled request page = execute records request page := by
  constructor
  · intro keys a b c order
    refine ⟨OrientedCmp.eq_swap, ?_, TransCmp.lt_trans, ?_⟩
    · intro first second
      exact Ordering.isLE_iff_ne_gt.mp (TransCmp.isLE_trans
        (Ordering.isLE_iff_ne_gt.mpr first) (Ordering.isLE_iff_ne_gt.mpr second))
    · intro different tie
      exact different (Comparison.id_eq_of_order_eq tie)
  · intro records shuffled same distinct request page
    unfold execute
    rw [answer_eq_of_perm same distinct]

/-- A picture that was uploaded on a day of January 2024, the days counted from 0. -/
def picture (day : Fin 31) : Media :=
  { id := .ofNat day
    fileName := "picture.png"
    blobUri := "memory://picture.png"
    contentType := "image/png"
    size := 1
    uploadedAt := .startOfDay
      ⟨2024, 1, day + 1, by decide, by decide, by omega, show day.val + 1 ≤ 31 by omega⟩
    uploadedBy := "tester" }

/-- Three pictures without sort keys: the latest comes first, and either arrangement of two of them
gives the same page. -/
theorem order_total_and_execute_eq_of_perm_pictures :
    let order := (Comparison.ofKeys [] : Comparison Media).order
    order (picture 2) (picture 1) = .lt ∧ order (picture 1) (picture 0) = .lt ∧
      order (picture 2) (picture 0) = .lt ∧ order (picture 2) (picture 0) ≠ .gt ∧
      order (picture 2) (picture 0) ≠ .eq ∧
      execute [picture 0, picture 1] .everything ⟨0, 1⟩ =
        execute [picture 1, picture 0] .everything ⟨0, 1⟩ := by
  obtain ⟨lawful, arrangement⟩ := order_total_and_execute_eq_of_perm Media
  obtain ⟨_, weakly, strictly, untied⟩ := lawful [] (picture 2) (picture 1) (picture 0)
  have first : (Comparison.ofKeys [] : Comparison Media).order (picture 2) (picture 1) = .lt := by
    decide +kernel
  have second : (Comparison.ofKeys [] : Comparison Media).order (picture 1) (picture 0) = .lt := by
    decide +kernel
  refine ⟨first, second, strictly first second, weakly (by simp [first]) (by simp [second]), ?_, ?_⟩
  · exact (lawful [] (picture 2) (picture 0) (picture 0)).2.2.2 (by decide)
  · exact arrangement _ _ (.swap ..) (by decide) _ _

end ContentService.Query
