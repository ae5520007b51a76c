import ContentService.Media.FileName
import ContentService.Proofs.Content.Slugs
import ContentService.Proofs.Content.Submissions
import Mathlib.Data.List.DropRight

/-! # Names of files

The name under which a file is kept is what the last segment of its name becomes. It is safe: it has
few kinds of characters, none of which divides a path, and no point in front. A safe name is kept as
it is.
-/

namespace ContentService

theorem rtakeWhile_append_cons {α : Type} {kind : α → Bool} {front back : List α} {a : α}
    (inside : ∀ b ∈ back, kind b = true) (stops : kind a = false) :
    (front ++ a :: back).rtakeWhile kind = back := by
  have others : ∀ b ∈ back.reverse, kind b = true := fun b member =>
    inside b (List.mem_reverse.mp member)
  rw [List.rtakeWhile, List.reverse_append, List.reverse_cons, List.append_assoc,
    List.takeWhile_append_of_pos others, List.singleton_append,
    List.takeWhile_cons_of_neg (Bool.eq_false_iff.mp stops), List.append_nil, List.reverse_reverse]

theorem dropWhile_reverse_append_cons {α : Type} {kind : α → Bool} {front back : List α} {a : α}
    (inside : ∀ b ∈ back, kind b = true) (stops : kind a = false) :
    (front ++ a :: back).reverse.dropWhile kind = a :: front.reverse := by
  have others : ∀ b ∈ back.reverse, kind b = true := fun b member =>
    inside b (List.mem_reverse.mp member)
  rw [List.reverse_append, List.reverse_cons, List.append_assoc,
    List.dropWhile_append_of_pos others, List.singleton_append,
    List.dropWhile_cons_of_neg (Bool.eq_false_iff.mp stops)]

namespace FileName

/-- The characters of kept names. -/
def Plain (c : Char) : Prop :=
  'A' ≤ c ∧ c ≤ 'Z' ∨ 'a' ≤ c ∧ c ≤ 'z' ∨ '0' ≤ c ∧ c ≤ '9' ∨ c = '.' ∨ c = '_' ∨ c = '-'

theorem isKept_iff {c : Char} : isKept c = true ↔ Plain c := by
  have capital : c.isUpper = true ↔ 'A' ≤ c ∧ c ≤ 'Z' := decide_eq_true_iff
  simp only [isKept, Bool.or_eq_true, decide_eq_true_eq, Slug.isAsciiAlphanumeric_iff, capital,
    Slug.IsLetter, Plain, or_assoc, or_left_comm, or_comm]

theorem Plain.code {c : Char} (plain : Plain c) : 0x2D ≤ c.toNat ∧ c.toNat ≤ 0x7A := by
  have between {a b : Char} (low : 0x2D ≤ a.toNat) (high : b.toNat ≤ 0x7A)
      (within : a ≤ c ∧ c ≤ b) : 0x2D ≤ c.toNat ∧ c.toNat ≤ 0x7A :=
    ⟨low.trans within.1, Nat.le_trans within.2 high⟩
  rcases plain with upper | lower | digit | rfl | rfl | rfl
  · exact between (by decide) (by decide) upper
  · exact between (by decide) (by decide) lower
  · exact between (by decide) (by decide) digit
  all_goals decide

theorem Plain.not_blank {c : Char} (plain : Plain c) : Text.isBlank c = false := by
  obtain ⟨low, high⟩ := plain.code
  exact Text.isBlank_of_visible (by omega) (by omega)

theorem Plain.not_separator {c : Char} (plain : Plain c) : isSeparator c = false := by
  rw [Bool.eq_false_iff]
  intro separates
  simp only [isSeparator, Bool.or_eq_true, decide_eq_true_eq] at separates
  rcases separates with rfl | rfl
  · exact absurd (isKept_iff.mpr plain) (by decide)
  · exact absurd (isKept_iff.mpr plain) (by decide)

/-- A name that can stand in a path: its characters are plain, and there is no point in front. -/
structure Safe (name : String) : Prop where
  plain : ∀ c ∈ name.toList, Plain c
  front : name.toList.head? ≠ some '.'

theorem safe_clean (name : String) : Safe (clean name) := by
  constructor
  case plain =>
    intro c member
    rw [clean, String.toList_ofList] at member
    obtain ⟨origin, -, rfl⟩ := List.mem_map.mp ((List.dropWhile_suffix _).mem member)
    by_cases kept : isKept origin = true
    · rw [if_pos kept]
      exact isKept_iff.mp kept
    · rw [if_neg kept]
      exact isKept_iff.mp rfl
  case front =>
    intro point
    have head := List.head?_dropWhile_not (· = '.')
      ((Text.trimChars (lastSegment name.toList)).map fun c => if isKept c then c else '_')
    rw [clean, String.toList_ofList, cleanChars] at point
    simp only [point] at head
    exact absurd head (by decide)

/-- A safe name is kept as it is. -/
theorem clean_of_safe {name : String} (safe : Safe name) : clean name = name := by
  have whole : lastSegment name.toList = name.toList :=
    List.rtakeWhile_eq_self_iff.mpr fun c member => by
      rw [(safe.plain c member).not_separator]
      rfl
  have bare : Text.trimChars name.toList = name.toList := by
    have trims : Text.Trims name name :=
      ⟨⟨[], [], (List.append_nil _).symm, fun _ absent => nomatch absent⟩,
        fun c head => (safe.plain c (List.mem_of_mem_head? head)).not_blank,
        fun c last => (safe.plain c (List.mem_of_getLast? last)).not_blank⟩
    have same := congrArg String.toList (Text.trims_iff.mp trims)
    rw [Text.trim, String.toList_ofList] at same
    exact same.symm
  have kept : (name.toList.map fun c => if isKept c then c else '_') = name.toList := by
    refine (List.map_congr_left fun c member => ?_).trans (List.map_id _)
    exact if_pos (isKept_iff.mpr (safe.plain c member))
  have front : name.toList.dropWhile (· = '.') = name.toList := by
    cases begins : name.toList with
    | nil => rfl
    | cons c rest =>
        refine List.dropWhile_cons_of_neg fun point => safe.front ?_
        rw [begins, of_decide_eq_true point]
        rfl
  rw [clean, cleanChars, whole, bare, kept, front, String.ofList_toList]

theorem clean_eq_self_iff {name : String} : clean name = name ↔ Safe name :=
  ⟨fun same => same ▸ safe_clean name, clean_of_safe⟩

/-- What stands in front of a separator does not count. -/
theorem clean_append {front last : String} {separator : Char}
    (divides : isSeparator separator = true)
    (segment : ∀ c ∈ last.toList, isSeparator c = false) :
    clean (front ++ separator.toString ++ last) = clean last := by
  have inside : ∀ c ∈ last.toList, (!isSeparator c) = true := fun c member => by
    rw [segment c member]
    rfl
  have behind : lastSegment (front.toList ++ separator :: last.toList) = last.toList :=
    rtakeWhile_append_cons inside (by rw [divides]; rfl)
  have whole : lastSegment last.toList = last.toList := List.rtakeWhile_eq_self_iff.mpr inside
  rw [clean, clean, cleanChars, cleanChars, String.toList_append, String.toList_append,
    Char.toString, String.toList_singleton, List.append_assoc, List.singleton_append, behind, whole]

/-! ## Extensions -/

theorem toList_withPoint (stem extension : String) :
    (stem ++ "." ++ extension).toList = stem.toList ++ '.' :: extension.toList := by
  rw [String.toList_append, String.toList_append, List.append_assoc]
  rfl

/-- What follows the last point is the extension, if something precedes that. -/
theorem extension?_append {stem extension : String} (plain : '.' ∉ extension.toList) :
    extension? (stem ++ "." ++ extension) =
      if stem = "" then none else some (Text.asciiLower extension) := by
  have inside : ∀ c ∈ extension.toList, decide (c ≠ '.') = true := fun c member =>
    decide_eq_true fun point => plain (point ▸ member)
  have behind : ((stem ++ "." ++ extension).toList.reverse.takeWhile (· ≠ '.')).reverse =
      extension.toList := by
    rw [toList_withPoint]
    exact rtakeWhile_append_cons inside rfl
  have front : (stem ++ "." ++ extension).toList.reverse.dropWhile (· ≠ '.') =
      '.' :: stem.toList.reverse := by
    rw [toList_withPoint]
    exact dropWhile_reverse_append_cons inside rfl
  simp only [extension?, front, behind, String.ofList_toList]
  by_cases bare : stem = ""
  · rw [if_pos bare, bare]
    rfl
  · rw [if_neg bare]
    cases begins : stem.toList.reverse with
    | nil => exact absurd (String.toList_eq_nil_iff.mp (List.reverse_eq_nil_iff.mp begins)) bare
    | cons c rest => rfl

theorem extension?_eq_none {name : String} (plain : '.' ∉ name.toList) :
    extension? name = none := by
  have inside : ∀ c ∈ name.toList.reverse, decide (c ≠ '.') = true := fun c member =>
    decide_eq_true fun point => plain (point ▸ List.mem_reverse.mp member)
  unfold extension?
  rw [List.dropWhile_eq_nil_iff.mpr inside]

theorem exists_last_point {name : String} (pointed : '.' ∈ name.toList) :
    ∃ stem extension : String, '.' ∉ extension.toList ∧ name = stem ++ "." ++ extension := by
  obtain ⟨behind, front, split, plain⟩ :=
    List.eq_append_cons_of_mem (List.mem_reverse.mpr pointed)
  refine ⟨.ofList front.reverse, .ofList behind.reverse, ?_, String.toList_injective ?_⟩
  · rwa [String.toList_ofList, List.mem_reverse]
  · rw [toList_withPoint, String.toList_ofList, String.toList_ofList, ← List.reverse_reverse
      name.toList, split, List.reverse_append, List.reverse_cons, List.append_assoc,
      List.singleton_append]

theorem extension?_eq_some_iff {name found : String} :
    extension? name = some found ↔ ∃ stem extension : String, stem ≠ "" ∧
      '.' ∉ extension.toList ∧ name = stem ++ "." ++ extension ∧
      found = Text.asciiLower extension := by
  constructor
  · intro has
    by_cases pointed : '.' ∈ name.toList
    · obtain ⟨stem, extension, plain, rfl⟩ := exists_last_point pointed
      rw [extension?_append plain] at has
      by_cases bare : stem = ""
      · rw [if_pos bare] at has
        cases has
      · rw [if_neg bare] at has
        exact ⟨stem, extension, bare, plain, rfl, (Option.some.inj has).symm⟩
    · rw [extension?_eq_none pointed] at has
      cases has
  · rintro ⟨stem, extension, filled, plain, rfl, rfl⟩
    rw [extension?_append plain, if_neg filled]

end FileName

end ContentService
