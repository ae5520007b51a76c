import ContentService.Proofs.Media.Key
import ContentService.Proofs.Query.ValueOrder
import ContentService.Proofs.Text.Lowering
import Mathlib.Tactic.Ring

/-! # Texts of ids

An id is read back from its text, ids stand in the order of their texts, and the texts are in lower
case. All three are facts about digits of one width, the most significant first.
-/

namespace ContentService

open Std

namespace Text

/-- Lists that begin with parts of one length are compared part by part. -/
theorem compare_append {xs ys : List Char} (lengths : xs.length = ys.length)
    (rest others : List Char) :
    compare (xs ++ rest) (ys ++ others) = (compare xs ys).then (compare rest others) := by
  induction xs generalizing ys with
  | nil =>
      obtain rfl := List.length_eq_zero_iff.mp lengths.symm
      rfl
  | cons x xs ih =>
      cases ys with
      | nil => exact nomatch lengths
      | cons y ys =>
          simp only [List.cons_append, List.compare_cons_cons, Ordering.then_assoc]
          rw [ih (Nat.succ.inj lengths)]

theorem compare_digitChar {v w : Nat} (first : v < 16) (second : w < 16) :
    compare v.digitChar w.digitChar = compare v w := by
  have all : ∀ v < 16, ∀ w < 16, compare v.digitChar w.digitChar = compare v w := by decide
  exact all v first w second

theorem hexValue?_digitChar {v : Nat} (small : v < 16) : hexValue? v.digitChar = some v := by
  have all : ∀ v < 16, hexValue? v.digitChar = some v := by decide
  exact all v small

end Text

namespace Uuid

theorem hexDigits_succ (count n : Nat) :
    hexDigits (count + 1) n = (n / 16 ^ count % 16).digitChar :: hexDigits count n := by
  rw [hexDigits, List.range_succ_eq_map, List.map_cons, List.map_map, hexDigits]
  refine congrArg₂ List.cons rfl (List.map_congr_left fun i inside => ?_)
  have := List.mem_range.mp inside
  rw [Function.comp_apply, show count + 1 - 1 - i.succ = count - 1 - i by omega]

/-! ## Order -/

/-- Numbers are compared by their quotients and then by their rests. -/
theorem compare_mul_add {base q p r s : Nat} (first : r < base) (second : s < base) :
    compare (r + base * q) (s + base * p) = (compare q p).then (compare r s) := by
  rcases Nat.lt_trichotomy q p with less | rfl | more
  · have below : r + base * q < s + base * p := by
      calc r + base * q < base + base * q := by omega
        _ = base * (q + 1) := by rw [Nat.mul_succ, Nat.add_comm]
        _ ≤ base * p := Nat.mul_le_mul_left base less
        _ ≤ s + base * p := Nat.le_add_left _ _
    rw [Nat.compare_eq_lt.mpr less, Nat.compare_eq_lt.mpr below]
    rfl
  · rw [Nat.compare_eq_eq.mpr rfl, Ordering.then]
    simp only [Nat.compare_eq_ite_lt, Nat.add_lt_add_iff_right]
  · have above : s + base * p < r + base * q := by
      calc s + base * p < base + base * p := by omega
        _ = base * (p + 1) := by rw [Nat.mul_succ, Nat.add_comm]
        _ ≤ base * q := Nat.mul_le_mul_left base more
        _ ≤ r + base * q := Nat.le_add_left _ _
    rw [Nat.compare_eq_gt.mpr more, Nat.compare_eq_gt.mpr above]
    rfl

theorem compare_hexDigits (count n m : Nat) :
    compare (hexDigits count n) (hexDigits count m) =
      compare (n % 16 ^ count) (m % 16 ^ count) := by
  induction count with
  | zero => rw [Nat.pow_zero, Nat.mod_one, Nat.mod_one]; rfl
  | succ count ih =>
      rw [hexDigits_succ, hexDigits_succ, List.compare_cons_cons, ih,
        Text.compare_digitChar (Nat.mod_lt _ (by decide)) (Nat.mod_lt _ (by decide)),
        Nat.mod_pow_succ, Nat.mod_pow_succ, compare_mul_add (Nat.mod_lt _ (Nat.pow_pos (by decide)))
          (Nat.mod_lt _ (Nat.pow_pos (by decide)))]

/-- A group of digits in front of a hyphen is compared as the digits are. -/
theorem compare_group {xs ys rest others : List Char} (lengths : xs.length = ys.length) (n : Nat)
    (behind : compare rest others = compare (xs.drop n) (ys.drop n)) :
    compare (xs.take n ++ '-' :: rest) (ys.take n ++ '-' :: others) = compare xs ys := by
  have heads : (xs.take n).length = (ys.take n).length := by
    rw [List.length_take, List.length_take, lengths]
  calc compare (xs.take n ++ '-' :: rest) (ys.take n ++ '-' :: others)
      = (compare (xs.take n) (ys.take n)).then (compare rest others) := by
        rw [Text.compare_append heads, List.compare_cons_cons]
        rfl
    _ = compare (xs.take n ++ xs.drop n) (ys.take n ++ ys.drop n) := by
        rw [behind, Text.compare_append heads]
    _ = compare xs ys := by rw [List.take_append_drop, List.take_append_drop]

theorem compare_writeChars (a b : Uuid) : compare a.writeChars b.writeChars = a.order b := by
  have lengths (n : Nat) : ((hexDigits 32 a.number).drop n).length =
      ((hexDigits 32 b.number).drop n).length := by
    rw [List.length_drop, List.length_drop, length_hexDigits, length_hexDigits]
  have digits : compare (hexDigits 32 a.number) (hexDigits 32 b.number) = a.order b := by
    rw [compare_hexDigits, Nat.mod_eq_of_lt a.number_lt, Nat.mod_eq_of_lt b.number_lt]
    rfl
  rw [← digits]
  simp only [writeChars, List.append_assoc, List.cons_append]
  refine compare_group (lengths 0) 8 (compare_group (lengths 8) 4 ?_)
  rw [List.drop_drop, List.drop_drop]
  refine compare_group (lengths 12) 4 ?_
  rw [List.drop_drop, List.drop_drop]
  refine compare_group (lengths 16) 4 ?_
  rw [List.drop_drop, List.drop_drop]

/-- Ids stand in the order of their texts. -/
theorem order_write (a b : Uuid) : Text.order a.write b.write = a.order b := by
  rw [Text.order, write, write, String.toList_ofList, String.toList_ofList, compare_writeChars]

/-! ## Characters -/

theorem mem_hexDigits {count n : Nat} {c : Char} (member : c ∈ hexDigits count n) :
    ∃ v < 16, c = v.digitChar := by
  obtain ⟨i, -, rfl⟩ := List.mem_map.mp member
  exact ⟨_, Nat.mod_lt _ (by decide), rfl⟩

/-- An id is written with hexadecimal digits and hyphens. -/
theorem mem_writeChars {id : Uuid} {c : Char} (member : c ∈ id.writeChars) :
    c = '-' ∨ ∃ v < 16, c = v.digitChar := by
  simp only [writeChars, List.mem_append, List.mem_cons] at member
  have digit {n m : Nat} (inside : c ∈ ((hexDigits 32 id.number).drop n).take m) :
      ∃ v < 16, c = v.digitChar :=
    mem_hexDigits (List.mem_of_mem_drop (List.mem_of_mem_take inside))
  rcases member with
    (((first | hyphen | second) | hyphen | third) | hyphen | fourth) | hyphen | fifth
  · exact Or.inr (mem_hexDigits (List.mem_of_mem_take first))
  · exact Or.inl hyphen
  · exact Or.inr (digit second)
  · exact Or.inl hyphen
  · exact Or.inr (digit third)
  · exact Or.inl hyphen
  · exact Or.inr (digit fourth)
  · exact Or.inl hyphen
  · exact Or.inr (mem_hexDigits (List.mem_of_mem_drop fifth))

/-- An id is written in lower case. -/
theorem lowercase_write (id : Uuid) : Text.lowercase id.write = id.write := by
  refine Text.lowercase_of_ascii fun c member => ?_
  rw [write, String.toList_ofList] at member
  have digits : ∀ v < 16, v.digitChar.toNat < 0x80 ∧ v.digitChar.toLower = v.digitChar := by
    decide
  rcases mem_writeChars member with rfl | ⟨v, small, rfl⟩
  · decide
  · exact digits v small

/-! ## Reading back -/

/-- Digits have values, which amount to the lowest part of the number behind what was read. -/
theorem exists_mapM_hexDigits (count n : Nat) :
    ∃ values, (hexDigits count n).mapM Text.hexValue? = some values ∧
      ∀ start, values.foldl (fun n v => 16 * n + v) start =
        start * 16 ^ count + n % 16 ^ count := by
  induction count with
  | zero => exact ⟨[], rfl, fun start => by rw [Nat.pow_zero, Nat.mod_one]; simp⟩
  | succ count ih =>
      obtain ⟨values, digits, amount⟩ := ih
      refine ⟨n / 16 ^ count % 16 :: values, ?_, fun start => ?_⟩
      · have read := Text.hexValue?_digitChar (Nat.mod_lt (n / 16 ^ count) (by decide))
        rw [hexDigits_succ, List.mapM_cons, read, digits]
        rfl
      · rw [List.foldl_cons, amount, Nat.mod_pow_succ, Nat.pow_succ]
        ring

theorem ofHex?_hexDigits (id : Uuid) : ofHex? (hexDigits 32 id.number) = some id := by
  obtain ⟨values, digits, amount⟩ := exists_mapM_hexDigits 32 id.number
  rw [ofHex?, if_pos (length_hexDigits 32 id.number), digits, Option.map_some, amount, Nat.zero_mul,
    Nat.zero_add, Nat.mod_eq_of_lt id.number_lt]
  simp only [ofNat, Nat.mod_eq_of_lt id.number_lt]

theorem ofGroups?_writeChars (id : Uuid) : ofGroups? id.writeChars = some id := by
  have hyphens : id.writeChars.length = 36 ∧ id.writeChars[8]? = some '-' ∧
      id.writeChars[13]? = some '-' ∧ id.writeChars[18]? = some '-' ∧
      id.writeChars[23]? = some '-' :=
    ⟨length_writeChars id, rfl, rfl, rfl, rfl⟩
  rw [ofGroups?, if_pos hyphens]
  exact ofHex?_hexDigits id

/-- What begins with a digit is no other notation than the grouped one, if it has that length. -/
theorem readChars?_of_digit {v : Nat} (small : v < 16) {rest : List Char}
    (length : (v.digitChar :: rest).length = 36) :
    readChars? (v.digitChar :: rest) = ofGroups? (v.digitChar :: rest) := by
  have digits : ∀ v < 16, v.digitChar ≠ '\x7b' ∧ v.digitChar.toLower ≠ 'u' := by decide
  obtain ⟨noBrace, noName⟩ := digits v small
  have unnamed : ((v.digitChar :: rest).take 9).map Char.toLower ≠ "urn:uuid:".toList :=
    fun named => noName (List.cons.inj named).1
  unfold readChars?
  split
  · rename_i begins
    exact absurd (List.cons.inj begins).1 noBrace
  · rw [if_neg unnamed, if_neg (by rw [length]; decide)]

/-- An id is read back from its text. -/
theorem read?_write (id : Uuid) : read? id.write = some id := by
  obtain ⟨v, small, rest, begins⟩ :
      ∃ v < 16, ∃ rest, id.writeChars = v.digitChar :: rest :=
    ⟨_, Nat.mod_lt _ (by decide), _, rfl⟩
  have length := length_writeChars id
  rw [begins] at length
  rw [read?, write, String.toList_ofList, begins, readChars?_of_digit small length, ← begins,
    ofGroups?_writeChars]

end Uuid

end ContentService
