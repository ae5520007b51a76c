import ContentService.Text.Digits
import Mathlib.Data.List.TakeWhile
import Mathlib.Data.Nat.Notation

/-! # Numerals are read back

A number is read back from its decimal digits, with or without zeros in front, and with its sign.
What is behind the digits does not matter as long as it does not go on with one.
-/

namespace ContentService.Text

/-- No digit comes next. -/
def NoDigit (cs : List Char) : Prop :=
  ∀ c ∈ cs.head?, isDigit c = false

theorem noDigit_nil : NoDigit [] :=
  fun _ absent => nomatch absent

theorem noDigit_cons {c : Char} {cs : List Char} (other : isDigit c = false) : NoDigit (c :: cs) :=
  fun _ same => Option.some.inj same ▸ other

/-! ## Digits -/

theorem isDigit_of_mem_writeNat {n : Nat} {c : Char} (member : c ∈ writeNat n) :
    isDigit c = true := by
  have decimal : c.isDigit = true := Nat.isDigit_of_mem_toDigits (by decide) (by decide) member
  have digit := Char.isDigit_iff_toNat.mp decimal
  exact Bool.and_eq_true_iff.mpr ⟨decide_eq_true digit.1, decide_eq_true digit.2⟩

theorem writeNat_ne_nil (n : Nat) : writeNat n ≠ [] :=
  Nat.toDigits_ne_nil

theorem digitsValue_writeNat (n : Nat) : digitsValue (writeNat n) = n :=
  Nat.ofDigitChars_toDigits (by decide) (by decide)

/-- Only zero is written with a zero in front. -/
theorem eq_zero_of_writeNat {n : Nat} {rest : List Char} (begins : writeNat n = '0' :: rest) :
    n = 0 := by
  induction n using Nat.strong_induction_on generalizing rest with
  | _ n ih =>
      unfold writeNat at begins
      rw [Nat.toDigits_eq_if (by decide)] at begins
      split at begins
      · exact Nat.digitChar_eq_zero.mp (List.cons.inj begins).1
      · rename_i large
        cases front : Nat.toDigits 10 (n / 10) with
        | nil => exact absurd front Nat.toDigits_ne_nil
        | cons c others =>
            rw [front] at begins
            obtain rfl : c = '0' := (List.cons.inj begins).1
            have := ih (n / 10) (by omega) front
            omega

theorem isDigit_of_mem_writePadded {width n : Nat} {c : Char} (member : c ∈ writePadded width n) :
    isDigit c = true := by
  rcases List.mem_append.mp member with zero | digit
  · rw [List.eq_of_mem_replicate zero]
    decide
  · exact isDigit_of_mem_writeNat digit

theorem digitsValue_append (cs more : List Char) :
    digitsValue (cs ++ more) =
      more.foldl (fun value c => 10 * value + digitValue c) (digitsValue cs) :=
  List.foldl_append

theorem digitsValue_replicate_zero (count : Nat) : digitsValue (List.replicate count '0') = 0 := by
  induction count with
  | zero => rfl
  | succ count ih =>
      rw [List.replicate_succ', digitsValue_append, ih]
      rfl

theorem digitsValue_writePadded (width n : Nat) : digitsValue (writePadded width n) = n := by
  unfold writePadded
  rw [digitsValue_append, digitsValue_replicate_zero]
  exact digitsValue_writeNat n

/-- A number has the width to which it is padded, if it has no more digits. -/
theorem length_writePadded {width n : Nat} (positive : 0 < width) (few : n < 10 ^ width) :
    (writePadded width n).length = width := by
  have digits : (writeNat n).length ≤ width :=
    (Nat.length_toDigits_le_iff (by decide) positive).mpr few
  rw [writePadded, List.length_append, List.length_replicate]
  omega

theorem width_le_length_writePadded (width n : Nat) : width ≤ (writePadded width n).length := by
  rw [writePadded, List.length_append, List.length_replicate]
  omega

theorem digitValue_lt {c : Char} (digit : isDigit c = true) : digitValue c < 10 := by
  obtain ⟨above, below⟩ := Bool.and_eq_true_iff.mp digit
  have above := of_decide_eq_true above
  have below := of_decide_eq_true below
  rw [digitValue]
  omega

/-- A digit is known by its value. -/
theorem eq_of_digitValue {c d : Char} (first : isDigit c = true) (second : isDigit d = true)
    (value : digitValue c = digitValue d) : c = d := by
  have c_ge := of_decide_eq_true (Bool.and_eq_true_iff.mp first).1
  have d_ge := of_decide_eq_true (Bool.and_eq_true_iff.mp second).1
  simp only [digitValue] at value
  exact Char.toNat_inj.mp (by omega)

theorem digitsValue_cons (c : Char) (cs : List Char) :
    digitsValue (c :: cs) = 10 ^ cs.length * digitValue c + digitsValue cs := by
  rw [digitsValue, List.foldl_cons, Nat.mul_zero, Nat.zero_add]
  exact Nat.ofDigitChars_eq_ofDigitChars_zero

theorem digitsValue_append_mul (cs more : List Char) :
    digitsValue (cs ++ more) = 10 ^ more.length * digitsValue cs + digitsValue more := by
  rw [digitsValue_append]
  exact Nat.ofDigitChars_eq_ofDigitChars_zero

/-- A digit takes one byte. -/
theorem utf8ByteSize_digits {cs : List Char} (all : ∀ c ∈ cs, isDigit c = true) :
    (String.ofList cs).utf8ByteSize = cs.length := by
  induction cs with
  | nil => rfl
  | cons c cs ih =>
      obtain ⟨digit, digits⟩ := List.forall_mem_cons.mp all
      have below := of_decide_eq_true (Bool.and_eq_true_iff.mp digit).2
      have one : c.utf8Size = 1 := by
        rw [Char.utf8Size_eq_one_iff, UInt32.le_iff_toNat_le]
        exact Nat.le_trans below (by decide)
      rw [String.ofList_cons, String.utf8ByteSize_append, String.utf8ByteSize_singleton, ih digits,
        one, List.length_cons, Nat.add_comm]

/-- Digits denote less than the power of ten with as many zeros. -/
theorem digitsValue_lt {cs : List Char} (all : ∀ c ∈ cs, isDigit c = true) :
    digitsValue cs < 10 ^ cs.length := by
  induction cs with
  | nil => exact Nat.one_pos
  | cons c cs ih =>
      obtain ⟨digit, digits⟩ := List.forall_mem_cons.mp all
      have tail := ih digits
      have head : 10 ^ cs.length * (digitValue c + 1) ≤ 10 ^ cs.length * 10 :=
        Nat.mul_le_mul_left _ (digitValue_lt digit)
      rw [digitsValue_cons, List.length_cons, Nat.pow_succ]
      rw [Nat.mul_succ] at head
      omega

/-- Digits are known by their value and how many they are. -/
theorem eq_of_digitsValue {cs ds : List Char} (first : ∀ c ∈ cs, isDigit c = true)
    (second : ∀ d ∈ ds, isDigit d = true) (length : cs.length = ds.length)
    (value : digitsValue cs = digitsValue ds) : cs = ds := by
  induction cs generalizing ds with
  | nil => exact (List.eq_nil_of_length_eq_zero length.symm).symm
  | cons c cs ih =>
      cases ds with
      | nil => exact nomatch length
      | cons d ds =>
          obtain ⟨c_digit, cs_digits⟩ := List.forall_mem_cons.mp first
          obtain ⟨d_digit, ds_digits⟩ := List.forall_mem_cons.mp second
          have length : cs.length = ds.length := Nat.succ.inj length
          have cs_lt := digitsValue_lt cs_digits
          have ds_lt := digitsValue_lt ds_digits
          rw [digitsValue_cons, digitsValue_cons, length] at value
          rw [length] at cs_lt
          have positive : 0 < 10 ^ ds.length := Nat.pow_pos (by decide)
          -- The first digit is the quotient, the other digits are the rest.
          have quotient := congrArg (· / 10 ^ ds.length) value
          have rest := congrArg (· % 10 ^ ds.length) value
          simp only [Nat.mul_add_div positive, Nat.div_eq_of_lt cs_lt, Nat.div_eq_of_lt ds_lt,
            Nat.add_zero] at quotient
          simp only [Nat.mul_add_mod, Nat.mod_eq_of_lt cs_lt, Nat.mod_eq_of_lt ds_lt] at rest
          rw [eq_of_digitValue c_digit d_digit quotient, ih cs_digits ds_digits length rest]

/-- A number in a given count of digits. -/
structure Numeral (width n : Nat) (cs : List Char) : Prop where
  digits : ∀ c ∈ cs, isDigit c = true
  length : cs.length = width
  value : digitsValue cs = n

namespace Numeral

variable {width n : Nat} {cs : List Char}

theorem lt (numeral : Numeral width n cs) : n < 10 ^ width := by
  rw [← numeral.value, ← numeral.length]
  exact digitsValue_lt numeral.digits

/-- A number has one numeral of each width, with zeros in front. -/
theorem eq_writePadded (numeral : Numeral width n cs) (positive : 0 < width) :
    cs = writePadded width n := by
  refine eq_of_digitsValue numeral.digits (fun _ => isDigit_of_mem_writePadded) ?_ ?_
  · rw [numeral.length, length_writePadded positive numeral.lt]
  · rw [numeral.value, digitsValue_writePadded]

theorem ne_nil (numeral : Numeral width n cs) (positive : 0 < width) : cs ≠ [] :=
  List.ne_nil_of_length_pos (numeral.length ▸ positive)

/-- A text begins with a number if its digits are those of the number. -/
theorem prefix_writePadded_iff (numeral : Numeral width n cs) (positive : 0 < width) {k : Nat}
    (few : k < 10 ^ width) {more rest : List Char} :
    cs ++ more <+: writePadded width k ++ rest ↔ n = k ∧ more <+: rest := by
  constructor
  · rintro ⟨behind, whole⟩
    rw [List.append_assoc] at whole
    obtain ⟨same, tail⟩ := List.append_inj whole
      (numeral.length.trans (length_writePadded positive few).symm)
    refine ⟨?_, behind, tail⟩
    rw [← numeral.value, same, digitsValue_writePadded]
  · rintro ⟨rfl, behind⟩
    rw [← numeral.eq_writePadded positive]
    exact (List.prefix_append_right_inj cs).mpr behind

end Numeral

/-! ## Scanning -/

theorem takeWhile_isDigit_append {digits rest : List Char} (all : ∀ c ∈ digits, isDigit c = true)
    (ends : NoDigit rest) : (digits ++ rest).takeWhile isDigit = digits := by
  rw [List.takeWhile_append_of_pos all]
  cases rest with
  | nil => rw [List.takeWhile_nil, List.append_nil]
  | cons c rest =>
      rw [List.takeWhile_cons_of_neg (Bool.eq_false_iff.mp (ends c rfl)), List.append_nil]

theorem dropWhile_isDigit_append {digits rest : List Char} (all : ∀ c ∈ digits, isDigit c = true)
    (ends : NoDigit rest) : (digits ++ rest).dropWhile isDigit = rest := by
  rw [List.dropWhile_append_of_pos all]
  cases rest with
  | nil => rfl
  | cons c rest => rw [List.dropWhile_cons_of_neg (Bool.eq_false_iff.mp (ends c rfl))]

theorem readNat?_digits {cs : List Char} (nonempty : cs ≠ []) (all : ∀ c ∈ cs, isDigit c = true) :
    readNat? cs = some (digitsValue cs) := by
  have nonempty : cs.isEmpty = false := List.isEmpty_eq_false_iff.mpr nonempty
  simp only [readNat?, List.all_eq_true.mpr all, nonempty, Bool.not_true, Bool.or_self,
    Bool.false_eq_true, if_false]

theorem readNat?_writeNat (n : Nat) : readNat? (writeNat n) = some n := by
  rw [readNat?_digits (writeNat_ne_nil n) fun c member => isDigit_of_mem_writeNat member,
    digitsValue_writeNat]

/-- The first character of a number is a digit. -/
theorem exists_cons_writeNat (n : Nat) :
    ∃ c rest, writeNat n = c :: rest ∧ isDigit c = true := by
  cases digits : writeNat n with
  | nil => exact absurd digits (writeNat_ne_nil n)
  | cons c rest =>
      exact ⟨c, rest, rfl, isDigit_of_mem_writeNat (digits ▸ List.mem_cons_self)⟩

/-- The first character of a whole number is a digit or a minus sign. -/
theorem exists_cons_writeInt (n : Int) :
    ∃ c rest, writeInt n = c :: rest ∧ (isDigit c = true ∨ c = '-') := by
  unfold writeInt
  split
  · exact ⟨'-', _, rfl, .inr rfl⟩
  · obtain ⟨c, rest, digits, digit⟩ := exists_cons_writeNat n.natAbs
    exact ⟨c, rest, digits, .inl digit⟩

/-- A number that begins with a digit is read without a sign. -/
theorem readSigned_of_digit {least most : Int} {c : Char} {rest : List Char} {n : Nat}
    (digit : isDigit c = true) (number : readNat? (c :: rest) = some n) :
    readSigned least most (c :: rest) =
      if (n : Int) < least then .error .tooSmall
      else if most < (n : Int) then .error .tooLarge
      else .ok (n : Int) := by
  unfold readSigned
  split
  rename_i negative digits signed
  split at signed
  · rename_i minus
    rw [(List.cons.inj minus).1] at digit
    exact absurd digit (by decide)
  · rename_i plus
    rw [(List.cons.inj plus).1] at digit
    exact absurd digit (by decide)
  · obtain ⟨rfl, rfl⟩ := Prod.mk.inj signed
    simp only [List.isEmpty_cons, Bool.false_eq_true, if_false, number]

/-- A plus sign is read over. -/
theorem readSigned_plus {least most : Int} {ds : List Char} {n : Nat}
    (number : readNat? ds = some n) :
    readSigned least most ('+' :: ds) =
      if (n : Int) < least then .error .tooSmall
      else if most < (n : Int) then .error .tooLarge
      else .ok (n : Int) := by
  simp only [readSigned, List.isEmpty_cons, Bool.false_eq_true, if_false, number]

/-- Digits behind a value are read as long as the whole is in the range. -/
theorem readDigits_digits {most value : Nat} {cs : List Char} (all : ∀ c ∈ cs, isDigit c = true)
    (small : 10 ^ cs.length * value + digitsValue cs ≤ most) :
    readDigits most value cs = .ok (10 ^ cs.length * value + digitsValue cs) := by
  induction cs generalizing value with
  | nil => rw [readDigits, List.length_nil, Nat.pow_zero, Nat.one_mul]; rfl
  | cons c cs ih =>
      obtain ⟨digit, digits⟩ := List.forall_mem_cons.mp all
      have whole : 10 ^ (c :: cs).length * value + digitsValue (c :: cs) =
          10 ^ cs.length * (10 * value + digitValue c) + digitsValue cs := by
        rw [digitsValue_cons, List.length_cons, Nat.pow_succ, Nat.mul_add, Nat.mul_assoc,
          Nat.add_assoc]
      rw [whole] at small ⊢
      have grows : 10 * value + digitValue c ≤ 10 ^ cs.length * (10 * value + digitValue c) :=
        Nat.le_mul_of_pos_left _ (Nat.pow_pos (by decide))
      rw [readDigits, digit, Bool.not_true, if_neg Bool.false_ne_true, if_neg (by omega),
        ih digits small]

/-- Digits are read with or without a plus sign. -/
theorem readUnsigned_digits {most : Nat} {cs : List Char} (nonempty : cs ≠ [])
    (all : ∀ c ∈ cs, isDigit c = true) (small : digitsValue cs ≤ most) :
    readUnsigned most cs = .ok (digitsValue cs) ∧
      readUnsigned most ('+' :: cs) = .ok (digitsValue cs) := by
  have read : readDigits most 0 cs = .ok (10 ^ cs.length * 0 + digitsValue cs) :=
    readDigits_digits all (by omega)
  rw [Nat.mul_zero, Nat.zero_add] at read
  constructor
  · have digit {c : Char} {rest : List Char} (begins : cs = c :: rest) : isDigit c = true :=
      all c (begins ▸ List.mem_cons_self)
    unfold readUnsigned
    split
    · exact absurd rfl nonempty
    · exact nomatch digit rfl
    · exact nomatch digit rfl
    · exact read
  · obtain ⟨c, rest, rfl⟩ := List.exists_cons_of_ne_nil nonempty
    exact read

/-- A whole number in the wanted range is read back. -/
theorem readSigned_writeInt {least most n : Int} (above : least ≤ n) (below : n ≤ most) :
    readSigned least most (writeInt n) = .ok n := by
  have number := readNat?_writeNat n.natAbs
  unfold writeInt
  split
  · simp only [readSigned, List.isEmpty_cons, Bool.false_eq_true, if_false, number, if_true]
    rw [if_neg (by omega), if_neg (by omega)]
    exact congrArg Except.ok (by omega)
  · obtain ⟨c, rest, digits, digit⟩ := exists_cons_writeNat n.natAbs
    rw [digits] at number ⊢
    rw [readSigned_of_digit digit number, if_neg (by omega), if_neg (by omega)]
    exact congrArg Except.ok (by omega)

/-- A whole number that was read is in the wanted range. -/
theorem bounds_of_readSigned {least most n : Int} {cs : List Char}
    (read : readSigned least most cs = .ok n) : least ≤ n ∧ n ≤ most := by
  unfold readSigned at read
  split at read
  rename_i negative digits _
  split at read
  · exact nomatch read
  split at read
  · exact nomatch read
  rename_i magnitude _
  generalize (if negative = true then -(magnitude : Int) else magnitude) = value at read
  dsimp only at read
  split at read
  · exact nomatch read
  split at read
  · exact nomatch read
  · cases read
    omega

/-! ## What was read -/

theorem readNat?_eq_some_iff {cs : List Char} {n : Nat} :
    readNat? cs = some n ↔ cs ≠ [] ∧ (∀ c ∈ cs, isDigit c = true) ∧ digitsValue cs = n := by
  constructor
  · intro read
    unfold readNat? at read
    split at read
    · exact nomatch read
    · rename_i sound
      simp only [Bool.or_eq_true, Bool.not_eq_true', not_or, Bool.not_eq_false,
        List.isEmpty_iff, List.all_eq_true] at sound
      exact ⟨sound.1, sound.2, Option.some.inj read⟩
  · rintro ⟨nonempty, all, rfl⟩
    exact readNat?_digits nonempty all

theorem digits_of_readDigits {most value n : Nat} {cs : List Char}
    (read : readDigits most value cs = .ok n) :
    (∀ c ∈ cs, isDigit c = true) ∧ n = 10 ^ cs.length * value + digitsValue cs := by
  induction cs generalizing value with
  | nil =>
      cases read
      exact ⟨nofun, by rw [List.length_nil, Nat.pow_zero, Nat.one_mul]; rfl⟩
  | cons c cs ih =>
      rw [readDigits] at read
      split at read
      · exact nomatch read
      split at read
      · exact nomatch read
      rename_i digit _
      rw [Bool.not_eq_true, Bool.not_eq_false'] at digit
      obtain ⟨digits, whole⟩ := ih read
      refine ⟨List.forall_mem_cons.mpr ⟨digit, digits⟩, ?_⟩
      rw [whole, digitsValue_cons, List.length_cons, Nat.pow_succ, Nat.mul_add, Nat.mul_assoc,
        Nat.add_assoc]

theorem le_of_readDigits {most value n : Nat} {cs : List Char}
    (read : readDigits most value cs = .ok n) (small : value ≤ most) : n ≤ most := by
  induction cs generalizing value with
  | nil =>
      cases read
      exact small
  | cons c cs ih =>
      rw [readDigits] at read
      split at read
      · exact nomatch read
      split at read
      · exact nomatch read
      rename_i within
      exact ih read (Nat.not_lt.mp within)

theorem le_of_readUnsigned {most n : Nat} {cs : List Char} (read : readUnsigned most cs = .ok n) :
    n ≤ most := by
  unfold readUnsigned at read
  split at read
  · exact nomatch read
  · exact nomatch read
  · exact le_of_readDigits read (Nat.zero_le most)
  · exact le_of_readDigits read (Nat.zero_le most)

/-- A natural number is read from digits alone, or from digits behind a plus sign. -/
theorem readNat?_of_readUnsigned {most n : Nat} {cs : List Char}
    (read : readUnsigned most cs = .ok n) :
    readNat? cs = some n ∨ ∃ ds, cs = '+' :: ds ∧ readNat? ds = some n := by
  have number {ds : List Char} (nonempty : ds ≠ []) (read : readDigits most 0 ds = .ok n) :
      readNat? ds = some n := by
    obtain ⟨digits, whole⟩ := digits_of_readDigits read
    rw [Nat.mul_zero, Nat.zero_add] at whole
    exact readNat?_eq_some_iff.mpr ⟨nonempty, digits, whole.symm⟩
  unfold readUnsigned at read
  split at read
  · exact nomatch read
  · exact nomatch read
  · rename_i ds single
    exact .inr ⟨ds, rfl, number (fun empty => single (by rw [empty])) read⟩
  · rename_i nonempty _ _
    exact .inl (number (fun empty => nonempty empty) read)

/-- So is a whole number without a minus sign. -/
theorem readNat?_of_readSigned {least most n : Int} {cs : List Char} (unsigned : '-' ∉ cs)
    (read : readSigned least most cs = .ok n) :
    ∃ m : Nat, n = m ∧ (readNat? cs = some m ∨ ∃ ds, cs = '+' :: ds ∧ readNat? ds = some m) := by
  unfold readSigned at read
  split at read
  rename_i negative digits signed
  split at read
  · exact nomatch read
  split at read
  · exact nomatch read
  rename_i magnitude number
  split at signed
  · exact absurd List.mem_cons_self unsigned
  all_goals
    obtain ⟨rfl, rfl⟩ := Prod.mk.inj signed
    simp only [Bool.false_eq_true, if_false] at read
    split at read
    · exact nomatch read
    split at read
    · exact nomatch read
    cases read
  · exact ⟨magnitude, rfl, .inr ⟨_, rfl, number⟩⟩
  · exact ⟨magnitude, rfl, .inl number⟩

end ContentService.Text
