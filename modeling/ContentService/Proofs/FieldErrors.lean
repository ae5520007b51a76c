import ContentService.FieldErrors
import ContentService.Proofs.Query.ValueOrder
import Mathlib.Data.List.Induction

/-! # Tables of field errors

Problems are found one by one, each with its field. In whatever order they are found, the fields
with messages stand in the order of their names, each with its messages in the order in which these
were found (`ContentService.FieldErrors.entries_ofList`).
-/

namespace ContentService.FieldErrors

open Std

variable {field message : String} {fields : List String} {found more : List (String × String)}

/-! ## Messages of a field -/

/-- What was found for a field. -/
def messagesIn (found : List (String × String)) (field : String) : List String :=
  (found.filter (·.1 = field)).map (·.2)

theorem messagesIn_append :
    messagesIn (found ++ more) field = messagesIn found field ++ messagesIn more field := by
  simp only [messagesIn, List.filter_append, List.map_append]

/-- Problems of one field give that field all of their messages. -/
theorem messagesIn_of_eq (one : ∀ problem ∈ found, problem.1 = field) :
    messagesIn found field = found.map (·.2) := by
  have all : found.filter (·.1 = field) = found :=
    List.filter_eq_self.mpr fun problem member => decide_eq_true (one problem member)
  rw [messagesIn, all]

theorem messagesIn_of_ne (others : ∀ problem ∈ found, problem.1 ≠ field) :
    messagesIn found field = [] := by
  have none : found.filter (·.1 = field) = [] := by
    rw [List.filter_eq_nil_iff]
    intro problem member
    simp only [others problem member, decide_false, Bool.false_eq_true, not_false_eq_true]
  rw [messagesIn, none, List.map_nil]

theorem messagesIn_ne_nil_iff :
    messagesIn found field ≠ [] ↔ ∃ problem ∈ found, problem.1 = field := by
  rw [messagesIn, ne_eq, List.map_eq_nil_iff, List.filter_eq_nil_iff]
  push Not
  simp only [decide_eq_true_eq]

/-! ## Tables -/

/-- The fields for which something was found, each with it. -/
def table (fields : List String) (found : List (String × String)) : List (String × List String) :=
  (fields.filter fun field => messagesIn found field ≠ []).map fun field =>
    (field, messagesIn found field)

theorem table_cons_of_none (none : messagesIn found field = []) :
    table (field :: fields) found = table fields found := by
  simp only [table, List.filter_cons, none, ne_eq, not_true_eq_false, decide_false,
    Bool.false_eq_true, if_false]

theorem table_cons_of_some (some : messagesIn found field ≠ []) :
    table (field :: fields) found = (field, messagesIn found field) :: table fields found := by
  simp only [table, List.filter_cons, some, ne_eq, not_false_eq_true, decide_true, if_true,
    List.map_cons]

/-- A table says nothing of what is found for other fields. -/
theorem table_append_of_notMem (apart : field ∉ fields) :
    table fields (found ++ [(field, message)]) = table fields found := by
  have same : ∀ name ∈ fields,
      messagesIn (found ++ [(field, message)]) name = messagesIn found name := by
    intro name member
    rw [messagesIn_append, messagesIn_of_ne (List.forall_mem_singleton.mpr ?_), List.append_nil]
    rintro rfl
    exact apart member
  have kept : (fields.filter fun name => messagesIn (found ++ [(field, message)]) name ≠ []) =
      fields.filter fun name => messagesIn found name ≠ [] :=
    List.filter_congr fun name member => by rw [same name member]
  rw [table, kept]
  exact List.map_congr_left fun name member => by rw [same name (List.mem_filter.mp member).1]

/-- A message for a field in front of all others begins the list. -/
theorem insert_of_lt {entries : List (String × List String)}
    (first : ∀ entry ∈ entries, Text.order field entry.1 = .lt) :
    insert field message entries = (field, [message]) :: entries := by
  cases entries with
  | nil => rfl
  | cons entry rest => rw [insert, first entry List.mem_cons_self]

/-- A message is added to the table of what was found. -/
theorem insert_table (ascending : fields.Pairwise fun a b => Text.order a b = .lt)
    (member : field ∈ fields) :
    insert field message (table fields found) = table fields (found ++ [(field, message)]) := by
  induction fields with
  | nil => exact nomatch member
  | cons name rest ih =>
      obtain ⟨first, ascending⟩ := List.pairwise_cons.mp ascending
      by_cases same : field = name
      · subst same
        have equal : Text.order field field = .eq := ReflCmp.compare_self
        have apart : field ∉ rest := by
          intro again
          exact nomatch equal.symm.trans (first field again)
        have behind : ∀ entry ∈ table rest found, Text.order field entry.1 = .lt := by
          intro entry listed
          obtain ⟨other, kept, rfl⟩ := List.mem_map.mp listed
          exact first other (List.mem_filter.mp kept).1
        have now : messagesIn (found ++ [(field, message)]) field =
            messagesIn found field ++ [message] := by
          rw [messagesIn_append, messagesIn_of_eq (List.forall_mem_singleton.mpr rfl)]
          rfl
        have grown : messagesIn (found ++ [(field, message)]) field ≠ [] := by
          rw [now]
          exact List.append_ne_nil_of_right_ne_nil _ (List.cons_ne_nil _ _)
        rw [table_cons_of_some grown, table_append_of_notMem apart, now]
        by_cases none : messagesIn found field = []
        · rw [table_cons_of_none none, insert_of_lt behind, none, List.nil_append]
        · rw [table_cons_of_some none, insert, equal]
      · have later : field ∈ rest := (List.mem_cons.mp member).resolve_left same
        have other : messagesIn (found ++ [(field, message)]) name = messagesIn found name := by
          rw [messagesIn_append, messagesIn_of_ne (List.forall_mem_singleton.mpr same),
            List.append_nil]
        by_cases none : messagesIn found name = []
        · rw [table_cons_of_none none, table_cons_of_none (other.trans none), ih ascending later]
        · have still : messagesIn (found ++ [(field, message)]) name ≠ [] := by rwa [other]
          rw [table_cons_of_some none, table_cons_of_some still, insert,
            OrientedCmp.gt_of_lt (first field later), other, ih ascending later]

/-- **Tables of field errors.** Field errors list the fields for which something was found in the
order of their names, each with its messages in the order in which they were found. -/
theorem entries_ofList (ascending : fields.Pairwise fun a b => Text.order a b = .lt)
    (known : ∀ problem ∈ found, problem.1 ∈ fields) :
    (ofList found).entries = table fields found := by
  induction found using List.reverseRecOn with
  | nil =>
      have nothing : (fields.filter fun field => messagesIn [] field ≠ []) = [] :=
        List.filter_eq_nil_iff.mpr fun field _ => by simp [messagesIn]
      rw [table, nothing]
      rfl
  | append_singleton found problem ih =>
      obtain ⟨known, last⟩ := List.forall_mem_append.mp known
      rw [ofList, List.foldl_append]
      change insert problem.1 problem.2 (ofList found).entries = _
      rw [ih known, insert_table ascending (last problem List.mem_cons_self)]

end ContentService.FieldErrors
