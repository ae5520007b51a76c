import ContentService.Media.Record
import Mathlib.Data.List.Basic

/-! # Keys of files

Records with different ids have different texts for their ids, and so their files are stored under
different keys, whatever the files are called.
-/

namespace ContentService

namespace Uuid

theorem digitChar_injOn {a b : Nat} (first : a < 16) (second : b < 16)
    (same : a.digitChar = b.digitChar) : a = b := by
  have all : ∀ a < 16, ∀ b < 16, a.digitChar = b.digitChar → a = b := by decide
  exact all a first b second same

/-- Numbers with the same lowest digits agree modulo the power of 16 above these. -/
theorem mod_eq_of_digits {n m count : Nat}
    (same : ∀ place < count, n / 16 ^ place % 16 = m / 16 ^ place % 16) :
    n % 16 ^ count = m % 16 ^ count := by
  induction count with
  | zero => rw [Nat.pow_zero, Nat.mod_one, Nat.mod_one]
  | succ count ih =>
      have lower := ih fun place below => same place (Nat.lt_succ_of_lt below)
      rw [Nat.mod_pow_succ, Nat.mod_pow_succ, lower, same count (Nat.lt_succ_self count)]

theorem mod_eq_of_hexDigits {n m count : Nat} (same : hexDigits count n = hexDigits count m) :
    n % 16 ^ count = m % 16 ^ count := by
  refine mod_eq_of_digits fun place below => ?_
  have there := congrArg (·[count - 1 - place]?) same
  have inside : count - 1 - place < count := by omega
  simp only [hexDigits, List.getElem?_map, List.getElem?_range inside, Option.map_some,
    Option.some.injEq] at there
  rw [show count - 1 - (count - 1 - place) = place by omega] at there
  exact digitChar_injOn (Nat.mod_lt _ (by decide)) (Nat.mod_lt _ (by decide)) there

theorem length_hexDigits (count n : Nat) : (hexDigits count n).length = count := by
  rw [hexDigits, List.length_map, List.length_range]

theorem length_writeChars (id : Uuid) : id.writeChars.length = 36 := by
  simp only [writeChars, List.length_append, List.length_cons, List.length_take, List.length_drop,
    length_hexDigits]
  rfl

theorem eq_of_take_of_drop {n : Nat} {xs ys : List Char} (front : xs.take n = ys.take n)
    (back : xs.drop n = ys.drop n) : xs = ys := by
  rw [← List.take_append_drop n xs, front, back, List.take_append_drop]

/-- A group of digits in front of a hyphen, and what follows the hyphen. -/
theorem group_inj {xs ys : List Char} {n : Nat} {rest others : List Char}
    (lengths : xs.length = ys.length)
    (same : xs.take n ++ '-' :: rest = ys.take n ++ '-' :: others) :
    xs.take n = ys.take n ∧ rest = others := by
  have heads : (xs.take n).length = (ys.take n).length := by
    rw [List.length_take, List.length_take, lengths]
  obtain ⟨front, back⟩ := List.append_inj same heads
  exact ⟨front, (List.cons.inj back).2⟩

theorem writeChars_injective {a b : Uuid} (same : a.writeChars = b.writeChars) : a = b := by
  have lengths (n : Nat) : ((hexDigits 32 a.number).drop n).length =
      ((hexDigits 32 b.number).drop n).length := by
    rw [List.length_drop, List.length_drop, length_hexDigits, length_hexDigits]
  have digits : hexDigits 32 a.number = hexDigits 32 b.number := by
    simp only [writeChars, List.append_assoc, List.cons_append] at same
    obtain ⟨first, same⟩ := group_inj (lengths 0) same
    obtain ⟨second, same⟩ := group_inj (lengths 8) same
    obtain ⟨third, same⟩ := group_inj (lengths 12) same
    obtain ⟨fourth, fifth⟩ := group_inj (lengths 16) same
    refine eq_of_take_of_drop first (eq_of_take_of_drop second ?_)
    rw [List.drop_drop, List.drop_drop]
    refine eq_of_take_of_drop third ?_
    rw [List.drop_drop, List.drop_drop]
    refine eq_of_take_of_drop fourth ?_
    rw [List.drop_drop, List.drop_drop]
    exact fifth
  have numbers := mod_eq_of_hexDigits digits
  rw [Nat.mod_eq_of_lt a.number_lt, Nat.mod_eq_of_lt b.number_lt] at numbers
  exact (Uuid.mk.injEq ..).mpr numbers

end Uuid

theorem blobKey_injective {a b : Uuid} {name other : String}
    (same : blobKey a name = blobKey b other) : a = b := by
  have chars := congrArg String.toList same
  simp only [blobKey, Uuid.write, String.toList_append, String.toList_ofList,
    List.append_assoc, List.append_cancel_left_eq] at chars
  have lengths : a.writeChars.length = b.writeChars.length := by
    rw [Uuid.length_writeChars, Uuid.length_writeChars]
  exact Uuid.writeChars_injective (List.append_inj chars lengths).1

/-- A key tells the id and the name. -/
theorem blobKey_inj {a b : Uuid} {name other : String} :
    blobKey a name = blobKey b other ↔ a = b ∧ name = other := by
  constructor
  · intro same
    obtain rfl := blobKey_injective same
    refine ⟨rfl, ?_⟩
    have chars := congrArg String.toList same
    simp only [blobKey, String.toList_append, List.append_assoc, List.append_cancel_left_eq]
      at chars
    exact String.toList_injective chars
  · rintro ⟨rfl, rfl⟩
    rfl

end ContentService
