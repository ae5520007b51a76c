import ContentService.Text.Blank
import Mathlib.Data.List.DropRight

/-! # Trimmed texts

Neither end of a trimmed text is white space, and a text of which this is true is not changed by
trimming.
-/

namespace ContentService.Text

/-- The visible characters of ASCII are no white space. -/
theorem isBlank_of_visible {c : Char} (low : 0x21 ≤ c.toNat) (high : c.toNat ≤ 0x7E) :
    isBlank c = false := by
  refine Bool.eq_false_iff.mpr fun blank => ?_
  simp only [isBlank, Bool.or_eq_true, Bool.and_eq_true, decide_eq_true_eq, beq_iff_eq] at blank
  omega

theorem isBlank_head_dropWhile (cs : List Char) :
    ∀ c ∈ (cs.dropWhile isBlank).head?, isBlank c = false := by
  intro c begins
  have head := List.head?_dropWhile_not isBlank cs
  rw [Option.mem_def.mp begins] at head
  exact head

theorem dropWhile_of_head {cs : List Char} (first : ∀ c ∈ cs.head?, isBlank c = false) :
    cs.dropWhile isBlank = cs := by
  cases cs with
  | nil => rfl
  | cons c rest => rw [List.dropWhile_cons_of_neg (Bool.eq_false_iff.mp (first c rfl))]

/-- Nothing is trimmed from a list that neither begins nor ends with white space. -/
theorem trimChars_eq_self {cs : List Char} (front : ∀ c ∈ cs.head?, isBlank c = false)
    (back : ∀ c ∈ cs.getLast?, isBlank c = false) : trimChars cs = cs := by
  change List.rdropWhile isBlank (cs.dropWhile isBlank) = cs
  rw [dropWhile_of_head front, List.rdropWhile_eq_self_iff]
  exact fun nonempty => Bool.eq_false_iff.mp (back _ (List.getLast?_eq_getLast_of_ne_nil nonempty))

/-- No white space is left in front of a trimmed text. -/
theorem dropWhile_trimChars (cs : List Char) : (trimChars cs).dropWhile isBlank = trimChars cs := by
  refine List.dropWhile_eq_self_iff.mpr fun positive => ?_
  have start : trimChars cs <+: cs.dropWhile isBlank := List.rdropWhile_prefix isBlank _
  rw [start.getElem positive]
  exact List.dropWhile_get_zero_not isBlank cs (positive.trans_le start.length_le)

theorem trimChars_trimChars (cs : List Char) : trimChars (trimChars cs) = trimChars cs := by
  calc trimChars (trimChars cs)
      = List.rdropWhile isBlank ((trimChars cs).dropWhile isBlank) := rfl
    _ = List.rdropWhile isBlank (trimChars cs) := by rw [dropWhile_trimChars]
    _ = trimChars cs := List.rdropWhile_idempotent isBlank _

theorem trim_trim (s : String) : trim (trim s) = trim s := by
  rw [trim, trim, String.toList_ofList, trimChars_trimChars]

end ContentService.Text
