import ContentService.Proofs.Query.Ranges

/-! # What sort keys decide

Sort keys are compared in turn, and a key is asked only where the keys in front of it tie. So a key
decides nothing if its field is unknown, if a key in front of it names the same field, or if one
names the id. If all directions are turned round, the groups of records with equal keys come in the
opposite order, while the records of a group stay in the order of their ids
(`ContentService.Query.sort_keys_decide_in_turn`).
-/

namespace ContentService.Query

open Std

/-! ## Groups -/

/-- A sorted list falls into groups of things that tie, each group strictly behind those in front of
it. -/
theorem exists_tied_groups {α : Type} (order : α → α → Ordering) [TransCmp order] {xs : List α}
    (sorted : xs.Pairwise fun a b => (order a b).isLE) :
    ∃ groups : List (List α), groups.flatten = xs ∧ (∀ group ∈ groups, group ≠ []) ∧
      (∀ group ∈ groups, ∀ a ∈ group, ∀ b ∈ group, order a b = .eq) ∧
      groups.Pairwise fun group later => ∀ a ∈ group, ∀ b ∈ later, order a b = .lt := by
  induction xs with
  | nil => exact ⟨[], rfl, nofun, nofun, .nil⟩
  | cons a rest ih =>
      obtain ⟨least, sorted⟩ := List.pairwise_cons.mp sorted
      obtain ⟨groups, rfl, given, tied, strict⟩ := ih sorted
      have alone : ∀ b ∈ [a], ∀ c ∈ [a], order b c = .eq := by
        simp only [List.mem_singleton, forall_eq, ReflCmp.compare_self]
      cases groups with
      | nil => exact ⟨[[a]], rfl, by simp, by simpa using alone, List.pairwise_singleton _ _⟩
      | cons group more =>
          obtain ⟨b, inGroup⟩ := List.exists_mem_of_ne_nil group (given group List.mem_cons_self)
          obtain ⟨behind, strict⟩ := List.pairwise_cons.mp strict
          obtain ⟨given, others_given⟩ := List.forall_mem_cons.mp given
          obtain ⟨tied, others_tied⟩ := List.forall_mem_cons.mp tied
          -- One record of the first group tells whether `a` joins it.
          by_cases joins : order a b = .eq
          · have joined {c : α} (member : c ∈ group) : order a c = .eq :=
              TransCmp.eq_trans joins (tied b inGroup c member)
            refine ⟨(a :: group) :: more, rfl, ?_, ?_, ?_⟩
            · exact List.forall_mem_cons.mpr ⟨List.cons_ne_nil a group, others_given⟩
            · refine List.forall_mem_cons.mpr ⟨?_, others_tied⟩
              simp only [List.forall_mem_cons]
              exact ⟨⟨ReflCmp.compare_self, fun c => joined⟩,
                fun c member => ⟨OrientedCmp.eq_symm (joined member), tied c member⟩⟩
            · refine List.pairwise_cons.mpr ⟨fun later member => ?_, strict⟩
              refine List.forall_mem_cons.mpr ⟨fun c inLater => ?_, behind later member⟩
              exact TransCmp.lt_of_eq_of_lt joins (behind later member b inGroup c inLater)
          · have before : order a b = .lt := by
              have weakly := least b (List.mem_flatten.mpr ⟨group, List.mem_cons_self, inGroup⟩)
              revert weakly joins
              cases order a b <;> decide
            refine ⟨[a] :: group :: more, rfl, ?_, ?_, ?_⟩
            · exact List.forall_mem_cons.mpr ⟨List.cons_ne_nil a [],
                List.forall_mem_cons.mpr ⟨given, others_given⟩⟩
            · exact List.forall_mem_cons.mpr ⟨alone, List.forall_mem_cons.mpr ⟨tied, others_tied⟩⟩
            · refine List.pairwise_cons.mpr ⟨?_, List.pairwise_cons.mpr ⟨behind, strict⟩⟩
              simp only [List.mem_singleton, forall_eq, List.forall_mem_cons]
              exact ⟨fun c member => TransCmp.lt_of_lt_of_eq before (tied b inGroup c member),
                fun later member c inLater =>
                  TransCmp.lt_trans before (behind later member b inGroup c inLater)⟩

/-! ## Keys -/

/-- The opposite direction. -/
def Direction.opposite : Direction → Direction
  | .ascending => .descending
  | .descending => .ascending

/-- The key for the same field in the opposite direction. -/
def SortKey.turned (key : SortKey) : SortKey :=
  { key with direction := key.direction.opposite }

variable {Record : Type} [Searchable Record]

/-- A field that holds the ids of the records. -/
def HoldsId (field : Searchable.Field Record) : Prop :=
  ∀ record : Record, Searchable.value record field = .uuid (Searchable.id record)

theorem holdsId_content : @HoldsId Content _ ContentField.id :=
  fun _ => rfl

theorem holdsId_media : @HoldsId Media _ MediaField.id :=
  fun _ => rfl

/-- Two records have equal values in all fields that keys name. -/
def Ties (keys : List SortKey) (a b : Record) : Prop :=
  ∀ key ∈ keys, ∀ field, Searchable.resolve? Record key.field = some field →
    (Searchable.value a field).order (Searchable.value b field) = .eq

variable (Record) in
/-- A key that has nothing to decide behind others: its field is unknown, or is that of one of them,
or one of them names the id. -/
inductive Idle (front : List SortKey) (key : SortKey) : Prop
  | unknown (none : Searchable.resolve? Record key.field = none)
  | again {earlier : SortKey} (member : earlier ∈ front)
      (same : Searchable.resolve? Record key.field = Searchable.resolve? Record earlier.field)
  | behindId {earlier : SortKey} (member : earlier ∈ front) {field : Searchable.Field Record}
      (named : Searchable.resolve? Record earlier.field = some field) (holds : HoldsId field)

/-- Behind keys that tie an idle key ties too. -/
theorem Idle.ties {front : List SortKey} {key : SortKey} (idle : Idle Record front key)
    {a b : Record} (apart : Searchable.id a = Searchable.id b → a = b) (tie : Ties front a b) :
    Ties [key] a b := by
  rintro _ (_ | ⟨_, ⟨⟩⟩) field named
  cases idle with
  | unknown none => exact nomatch none.symm.trans named
  | again member same => exact tie _ member field (same.symm.trans named)
  | behindId member first holds =>
      have ids := tie _ member _ first
      rw [holds a, holds b] at ids
      have same : (Searchable.id a).order (Searchable.id b) = .eq := ids
      rw [apart (LawfulEqCmp.eq_of_compare same)]
      exact ReflCmp.compare_self

namespace Comparison

/-- The fields that keys name, with their directions; those of unknown fields are dropped. -/
def ofNamed (keys : List SortKey) : Comparison Record :=
  keys.filterMap fun key =>
    (Searchable.resolve? Record key.field).map fun field => (field, key.direction)

theorem ofKeys_eq_ofNamed {keys : List SortKey} (given : keys ≠ []) :
    (ofKeys keys : Comparison Record) = ofNamed keys := by
  simp only [ofKeys, List.isEmpty_iff, given, if_false, ofNamed]

theorem ofNamed_append (front back : List SortKey) :
    (ofNamed (front ++ back) : Comparison Record) = ofNamed front ++ ofNamed back :=
  List.filterMap_append

theorem byFields_append (front back : Comparison Record) (a b : Record) :
    byFields (front ++ back) a b = (byFields front a b).then (byFields back a b) := by
  induction front with
  | nil => rfl
  | cons key rest ih => rw [List.cons_append, byFields, byFields, ih, Ordering.then_assoc]

theorem directed_eq_eq_iff {direction : Direction} {order : Ordering} :
    directed direction order = .eq ↔ order = .eq := by
  cases direction <;> cases order <;> decide

theorem byFields_eq_eq_iff {comparison : Comparison Record} {a b : Record} :
    comparison.byFields a b = .eq ↔
      ∀ key ∈ comparison, (Searchable.value a key.1).order (Searchable.value b key.1) = .eq := by
  induction comparison with
  | nil => exact iff_of_true rfl nofun
  | cons key rest ih =>
      rw [byFields, Ordering.then_eq_eq, directed_eq_eq_iff, ih, List.forall_mem_cons]

theorem byFields_ofNamed_eq_eq_iff {keys : List SortKey} {a b : Record} :
    byFields (ofNamed keys) a b = .eq ↔ Ties keys a b := by
  simp only [byFields_eq_eq_iff, ofNamed, List.mem_filterMap, Option.map_eq_some_iff,
    forall_exists_index, and_imp]
  constructor
  · intro all key member field named
    exact all _ key member field named rfl
  · rintro all _ key member field named rfl
    exact all key member field named

theorem directed_opposite (direction : Direction) (order : Ordering) :
    directed direction.opposite order = (directed direction order).swap := by
  cases direction <;> cases order <;> rfl

/-- With all directions turned round the fields say the opposite. -/
theorem byFields_turned (keys : List SortKey) (a b : Record) :
    byFields (ofNamed (keys.map SortKey.turned)) a b = (byFields (ofNamed keys) a b).swap := by
  induction keys with
  | nil => rfl
  | cons key rest ih =>
      have sameName : key.turned.field = key.field := rfl
      unfold ofNamed at ih ⊢
      rw [List.map_cons, List.filterMap_cons, List.filterMap_cons, sameName]
      cases Searchable.resolve? Record key.field with
      | none => exact ih
      | some field =>
          simp only [Option.map_some, byFields, SortKey.turned, directed_opposite, ih,
            Ordering.swap_then]

end Comparison

/-! ## Answers -/

theorem subset_answer (records : List Record) (request : Request) :
    answer records request ⊆ records := fun _ member =>
  List.mem_of_mem_filter ((answer_perm records request).mem_iff.mp member)

/-- An answer is sorted by the fields that the keys name, and by the ids where these tie. -/
theorem pairwise_answer {keys : List SortKey} (given : keys ≠ []) (records : List Record)
    (filter : Option Filter) :
    (answer records ⟨filter, keys⟩).Pairwise fun a b =>
      ((Comparison.byFields (.ofNamed keys) a b).then
        ((Searchable.id a).order (Searchable.id b))).isLE := by
  simp only [← Comparison.order_eq_byFields_then, ← Comparison.ofKeys_eq_ofNamed given]
  exact Comparison.sort_pairwise _ _

/-- The groups of records that tie in some keys, of which the listing by these keys is made, and in
the opposite order the listing by the keys in the opposite directions. In each group ids rise. -/
structure MadeOfGroups (records : List Record) (filter : Option Filter) (keys : List SortKey)
    (groups : List (List Record)) : Prop where
  listing : AnsweredWith records ⟨filter, keys⟩ groups.flatten
  turned : AnsweredWith records ⟨filter, keys.map SortKey.turned⟩ groups.reverse.flatten
  not_empty : ∀ group ∈ groups, group ≠ []
  tied : ∀ group ∈ groups, ∀ a ∈ group, ∀ b ∈ group, Ties keys a b
  apart : groups.Pairwise fun group later => ∀ a ∈ group, ∀ b ∈ later, ¬Ties keys a b
  byId : ∀ group ∈ groups,
    group.Pairwise fun a b => (Searchable.id a).order (Searchable.id b) = .lt

section Answers

variable {records : List Record} (distinct : (records.map Searchable.id).Nodup)
include distinct

theorem distinct_kept (filter : Option Filter) :
    ((records.filter (Selection.ofFilter filter : Selection Record).keeps).map
      Searchable.id).Nodup :=
  distinct.sublist (List.filter_sublist.map _)

/-- The answer is what is kept, as soon as it is sorted. -/
theorem answer_eq_of_sorted {request : Request} {found : List Record}
    (same : found.Perm
      (records.filter (Selection.ofFilter request.filter : Selection Record).keeps))
    (sorted : found.Pairwise fun a b =>
      ((Comparison.ofKeys request.sort : Comparison Record).order a b).isLE) :
    answer records request = found :=
  Comparison.sort_eq_of_pairwise same (distinct_kept distinct request.filter) sorted

/-- A key that has nothing to decide can be left out. -/
theorem answer_eq_of_idle {front back : List SortKey} {key : SortKey}
    (idle : Idle Record front key) (others : front ++ back ≠ []) (filter : Option Filter) :
    answer records ⟨filter, front ++ key :: back⟩ = answer records ⟨filter, front ++ back⟩ := by
  refine answer_eq_of_sorted distinct (answer_perm records ⟨filter, front ++ back⟩) ?_
  refine (pairwise_answer others records filter).imp_of_mem fun {a b} left right ordered => ?_
  have inside := subset_answer records ⟨filter, front ++ back⟩
  have apart := List.inj_on_of_nodup_map distinct (inside left) (inside right)
  have skipped : (Comparison.byFields (.ofNamed front) a b).then
      ((Comparison.byFields (.ofNamed [key]) a b).then (Comparison.byFields (.ofNamed back) a b)) =
      (Comparison.byFields (.ofNamed front) a b).then
        (Comparison.byFields (.ofNamed back) a b) := by
    cases first : Comparison.byFields (.ofNamed front) a b with
    | lt | gt => rfl
    | eq =>
        have tie := idle.ties apart (Comparison.byFields_ofNamed_eq_eq_iff.mp first)
        rw [Comparison.byFields_ofNamed_eq_eq_iff.mpr tie]
        rfl
  rw [Comparison.ofNamed_append, Comparison.byFields_append, ← skipped] at ordered
  rw [Comparison.ofKeys_eq_ofNamed (by simp), Comparison.order_eq_byFields_then,
    ← List.singleton_append, Comparison.ofNamed_append, Comparison.ofNamed_append,
    Comparison.byFields_append, Comparison.byFields_append]
  exact ordered

/-- Records with distinct ids whose ids do not fall have ids that rise. -/
theorem pairwise_id_lt {found : List Record} (subset : found ⊆ records) (once : found.Nodup)
    (sorted : found.Pairwise fun a b => ((Searchable.id a).order (Searchable.id b)).isLE) :
    found.Pairwise fun a b => (Searchable.id a).order (Searchable.id b) = .lt := by
  refine (sorted.and once).imp_of_mem fun {a b} left right ordered => ?_
  have apart : Searchable.id a ≠ Searchable.id b := fun same =>
    ordered.2 (List.inj_on_of_nodup_map distinct (subset left) (subset right) same)
  have untied : (Searchable.id a).order (Searchable.id b) ≠ .eq := fun tie =>
    apart (LawfulEqCmp.eq_of_compare tie)
  have weakly := ordered.1
  revert weakly untied
  cases (Searchable.id a).order (Searchable.id b) <;> decide

theorem nodup_answer (request : Request) : (answer records request).Nodup :=
  (answer_perm records request).nodup_iff.mpr (distinct.of_map.filter _)

/-- Keys of unknown fields leave the order to the ids. -/
theorem pairwise_id_answer_of_unknown {keys : List SortKey} (given : keys ≠ [])
    (unknown : ∀ key ∈ keys, Searchable.resolve? Record key.field = none)
    (filter : Option Filter) :
    (answer records ⟨filter, keys⟩).Pairwise fun a b =>
      (Searchable.id a).order (Searchable.id b) = .lt := by
  have nothing : (Comparison.ofNamed keys : Comparison Record) = [] := by
    refine List.filterMap_eq_nil_iff.mpr fun key member => ?_
    rw [unknown key member, Option.map_none]
  have sorted := pairwise_answer given records filter
  rw [nothing] at sorted
  exact pairwise_id_lt distinct (subset_answer records _) (nodup_answer distinct _) sorted

section Groups

variable {keys : List SortKey} (given : keys ≠ []) {filter : Option Filter}
  {groups : List (List Record)} (listing : answer records ⟨filter, keys⟩ = groups.flatten)
  (tied : ∀ group ∈ groups, ∀ a ∈ group, ∀ b ∈ group,
    Comparison.byFields (.ofNamed keys) a b = .eq)
include given listing tied

/-- In a group of records that tie the ids decide. -/
theorem pairwise_id_of_tied {group : List Record} (member : group ∈ groups) :
    group.Pairwise fun a b => (Searchable.id a).order (Searchable.id b) = .lt := by
  have inside : group.Sublist (answer records ⟨filter, keys⟩) :=
    listing ▸ List.sublist_flatten_of_mem member
  have found : group ⊆ records := fun _ inGroup => subset_answer records _ (inside.subset inGroup)
  refine pairwise_id_lt distinct found ((nodup_answer distinct _).sublist inside) ?_
  refine ((pairwise_answer given records filter).sublist inside).imp_of_mem ?_
  intro a b left right ordered
  rwa [tied group member a left b right] at ordered

/-- The groups of an answer, with the last in front, are the answer in the opposite directions. -/
theorem answer_turned (strict : groups.Pairwise fun group later =>
      ∀ a ∈ group, ∀ b ∈ later, Comparison.byFields (.ofNamed keys) a b = .lt) :
    answer records ⟨filter, keys.map SortKey.turned⟩ = groups.reverse.flatten := by
  have turnedGiven : keys.map SortKey.turned ≠ [] := by simpa using given
  refine answer_eq_of_sorted distinct ?_ ?_
  · exact groups.reverse_perm.flatten.trans (listing ▸ answer_perm records ⟨filter, keys⟩)
  simp only [Comparison.ofKeys_eq_ofNamed turnedGiven, Comparison.order_eq_byFields_then,
    Comparison.byFields_turned]
  refine List.pairwise_flatten.mpr ⟨fun group member => ?_, List.pairwise_reverse.mpr ?_⟩
  · have member := List.mem_reverse.mp member
    refine (pairwise_id_of_tied distinct given listing tied member).imp_of_mem ?_
    intro a b left right rising
    rw [tied group member a left b right, rising]
    rfl
  · refine strict.imp fun {group later} before b inLater a inGroup => ?_
    have back : Comparison.byFields (.ofNamed keys) a b =
        (Comparison.byFields (.ofNamed keys) b a).swap := OrientedCmp.eq_swap
    rw [← back, before a inGroup b inLater]
    rfl

end Groups

/-- An answer is made of the groups of records that tie. -/
theorem exists_groups {keys : List SortKey} (given : keys ≠ []) (filter : Option Filter) :
    ∃ groups, MadeOfGroups records filter keys groups := by
  obtain ⟨groups, whole, not_empty, tied, strict⟩ := exists_tied_groups
    (Comparison.byFields (.ofNamed keys))
    ((pairwise_answer given records filter).imp Ordering.isLE_left_of_isLE_then)
  refine ⟨groups, ?_⟩
  constructor
  case listing => exact whole ▸ answeredWith_answer records _
  case turned =>
    exact answer_turned distinct given whole.symm tied strict ▸ answeredWith_answer records _
  case not_empty => exact not_empty
  case tied =>
    intro group member a left b right
    exact Comparison.byFields_ofNamed_eq_eq_iff.mp (tied group member a left b right)
  case apart =>
    refine strict.imp fun {group later} before a inGroup b inLater tie => ?_
    have same := Comparison.byFields_ofNamed_eq_eq_iff.mpr tie
    rw [before a inGroup b inLater] at same
    exact nomatch same
  case byId => exact fun group => pairwise_id_of_tied distinct given whole.symm tied

/-- **Sort keys decide in turn.** In a collection with distinct ids, a key that names an unknown
field, or a field that a key in front of it names in any spelling and direction, or that stands
behind one that names the id, can be left out without a change to any page, as long as some key is
left. Keys of unknown fields alone list the records by id. And if all directions of a listing are
turned round, the groups of records with equal keys come in the opposite order, while in each group
the ids still rise. -/
theorem sort_keys_decide_in_turn (filter : Option Filter) :
    (∀ (front back : List SortKey) (key : SortKey), Idle Record front key → front ++ back ≠ [] →
      ∀ page : PageRequest, execute records ⟨filter, front ++ key :: back⟩ page =
        execute records ⟨filter, front ++ back⟩ page) ∧
      (∀ keys ≠ [], (∀ key ∈ keys, Searchable.resolve? Record key.field = none) →
        ∃ found : List Record, AnsweredWith records ⟨filter, keys⟩ found ∧
          found.Perm (records.filter (Selection.ofFilter filter : Selection Record).keeps) ∧
          found.Pairwise fun a b => (Searchable.id a).order (Searchable.id b) = .lt) ∧
      ∀ keys ≠ [], ∃ groups, MadeOfGroups records filter keys groups := by
  refine ⟨?_, ?_, fun keys given => exists_groups distinct given filter⟩
  · intro front back key idle others page
    rw [execute, execute, answer_eq_of_idle distinct idle others filter]
  · intro keys given unknown
    exact ⟨_, answeredWith_answer records _, answer_perm records _,
      pairwise_id_answer_of_unknown distinct given unknown filter⟩

end Answers

/-- Pictures of two sizes, listed by size with the latest first, whether or not the size is named
twice; listed by id, whatever stands behind; listed by a field that pictures do not have; and listed
by size alone, in two groups. -/
theorem sort_keys_decide_in_turn_pictures :
    let pictures := [picture 2, { picture 0 with size := 5 }, picture 1]
    let size : SortKey := ⟨"size", .ascending⟩
    let sizeAgain : SortKey := ⟨" SIZE ", .descending⟩
    let latest : SortKey := ⟨"uploadedAt", .descending⟩
    let byId : SortKey := ⟨"Id", .descending⟩
    let rating : SortKey := ⟨"rating", .ascending⟩
    (pictures.map Searchable.id).Nodup ∧ Idle Media [size] sizeAgain ∧ Idle Media [byId] latest ∧
      execute pictures ⟨none, [size, sizeAgain, latest]⟩ ⟨0, 2⟩ =
        execute pictures ⟨none, [size, latest]⟩ ⟨0, 2⟩ ∧
      execute pictures ⟨none, [byId, latest]⟩ ⟨0, 2⟩ = execute pictures ⟨none, [byId]⟩ ⟨0, 2⟩ ∧
      Searchable.resolve? Media rating.field = none ∧
      (∃ found : List Media, AnsweredWith pictures ⟨none, [rating]⟩ found ∧ found.Perm pictures ∧
        found.Pairwise fun a b => (Searchable.id a).order (Searchable.id b) = .lt) ∧
      ∃ groups, MadeOfGroups pictures none [size] groups := by
  intro pictures size sizeAgain latest byId rating
  have distinct : (pictures.map Searchable.id).Nodup := by decide
  have again : Idle Media [size] sizeAgain := .again List.mem_cons_self (by decide +kernel)
  have named : Searchable.resolve? Media byId.field = some MediaField.id := by decide +kernel
  have behind : Idle Media [byId] latest := .behindId List.mem_cons_self named holdsId_media
  have unknown : Searchable.resolve? Media rating.field = none := by decide +kernel
  obtain ⟨left_out, listed, turned⟩ := sort_keys_decide_in_turn distinct none
  exact ⟨distinct, again, behind, left_out [size] [latest] sizeAgain again nofun ⟨0, 2⟩,
    left_out [byId] [] latest behind nofun ⟨0, 2⟩, unknown,
    listed [rating] nofun (List.forall_mem_singleton.mpr unknown), turned [size] nofun⟩

end ContentService.Query
