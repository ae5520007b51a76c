import ContentService.Calendar.Reader
import ContentService.Calendar.Writer
import ContentService.Proofs.Text.Numerals
import ContentService.Proofs.Text.Trimming

/-! # Times are read back

Scanning is made of steps: each takes a field off the front and leaves what is behind it alone, so
the parts of a written time are scanned one after the other whatever follows them. A field gives its
number back because it is written with as many digits as are scanned. The date of a time exists, and
so does its clock reading, with a second of 60 for a leap second.
-/

namespace ContentService

open Text

/-! ## Numbers of a fixed width -/

theorem isBlank_of_digit {c : Char} (digit : isDigit c = true) : isBlank c = false := by
  obtain ⟨above, below⟩ := Bool.and_eq_true_iff.mp digit
  exact isBlank_of_visible (Nat.le_trans (by decide) (of_decide_eq_true above))
    (Nat.le_trans (of_decide_eq_true below) (by decide))

/-- White space is not skipped where there is none. -/
theorem skipBlanks_cons {c : Char} (solid : isBlank c = false) (cs : List Char) :
    skipBlanks (c :: cs) = c :: cs :=
  List.dropWhile_cons_of_neg (Bool.eq_false_iff.mp solid)

/-- Digits are scanned, and nothing behind them, if there are as many as are scanned at most or no
digit follows. -/
theorem scanNumber_append {least most : Nat} {digits rest : List Char}
    (all : ∀ c ∈ digits, isDigit c = true) (enough : least ≤ digits.length)
    (few : digits.length ≤ most) (ends : digits.length = most ∨ NoDigit rest) :
    scanNumber least most (digits ++ rest) = some (digitsValue digits, rest) := by
  have scanned : ((digits ++ rest).take most).takeWhile isDigit = digits := by
    rw [List.take_append, List.take_of_length_le few]
    refine takeWhile_isDigit_append all ?_
    rcases ends with full | ends
    · -- Nothing behind the digits is looked at.
      rw [full, Nat.sub_self]
      exact noDigit_nil
    · cases rest with
      | nil => rw [List.take_nil]; exact noDigit_nil
      | cons c rest =>
          cases most - digits.length with
          | zero => exact noDigit_nil
          | succ left => exact noDigit_cons (ends c rfl)
  simp only [scanNumber, scanned, if_neg (Nat.not_lt.mpr enough), List.drop_left]

theorem scanNumber_writePadded {least width n : Nat} (positive : 0 < width) (few : n < 10 ^ width)
    (enough : least ≤ width) (rest : List Char) :
    scanNumber least width (writePadded width n ++ rest) = some (n, rest) := by
  have length := length_writePadded positive few
  rw [scanNumber_append (fun c => isDigit_of_mem_writePadded) (by omega) (by omega) (.inl length),
    digitsValue_writePadded]

/-- A number that is padded begins with a digit. -/
theorem exists_cons_writePadded (width n : Nat) :
    ∃ c cs, writePadded width n = c :: cs ∧ isDigit c = true := by
  cases text : writePadded width n with
  | nil => exact absurd (List.append_eq_nil_iff.mp text).2 (writeNat_ne_nil n)
  | cons c cs => exact ⟨c, cs, rfl, isDigit_of_mem_writePadded (text ▸ List.mem_cons_self)⟩

theorem skipBlanks_writePadded (width n : Nat) (rest : List Char) :
    skipBlanks (writePadded width n ++ rest) = writePadded width n ++ rest := by
  obtain ⟨c, cs, text, digit⟩ := exists_cons_writePadded width n
  rw [text, List.cons_append, skipBlanks_cons (isBlank_of_digit digit)]

theorem scanShort_writePadded {n : Nat} (few : n < 100) (rest : List Char) :
    scanShort (writePadded 2 n ++ rest) = some (n, rest) := by
  rw [scanShort, skipBlanks_writePadded]
  exact scanNumber_writePadded (by decide) few (by decide) rest

/-! ## Years and fractions -/

/-- A year is read back with its sign, whatever it is. -/
theorem scanYear_writeYear (year : Int) {rest : List Char} (ends : NoDigit rest) :
    scanYear (writeYear year ++ rest) = some (year, rest) := by
  have signed : scanNumber 1 (writePadded 4 year.natAbs ++ rest).length
      (writePadded 4 year.natAbs ++ rest) = some (year.natAbs, rest) := by
    have width := width_le_length_writePadded 4 year.natAbs
    rw [scanNumber_append (fun c => isDigit_of_mem_writePadded) (by omega)
      (by rw [List.length_append]; omega) (.inr ends), digitsValue_writePadded]
  unfold writeYear
  split
  · simp only [List.cons_append, scanYear, skipBlanks_cons (c := '-') (by decide), signed,
      Option.map_some]
    exact congrArg (fun year => some (year, rest)) (by omega)
  split
  · simp only [List.cons_append, scanYear, skipBlanks_cons (c := '+') (by decide), signed,
      Option.map_some]
    exact congrArg (fun year => some (year, rest)) (by omega)
  -- Without a sign four digits are scanned, and the year has no more.
  · have plain : scanNumber 1 4 (writePadded 4 year.natAbs ++ rest) = some (year.natAbs, rest) :=
      scanNumber_writePadded (by decide) (by omega) (by decide) rest
    obtain ⟨c, cs, text, digit⟩ := exists_cons_writePadded 4 year.natAbs
    rw [scanYear, skipBlanks_writePadded]
    split
    · rename_i begins
      rw [text, List.cons_append] at begins
      rw [(List.cons.inj begins).1] at digit
      exact absurd digit (by decide)
    · rename_i begins
      rw [text, List.cons_append] at begins
      rw [(List.cons.inj begins).1] at digit
      exact absurd digit (by decide)
    · rw [plain, Option.map_some]
      exact congrArg (fun year => some (year, rest)) (by omega)

/-- What follows does not go on with the fraction of a second. -/
def EndsFraction (rest : List Char) : Prop :=
  ∀ c ∈ rest.head?, isDigit c = false ∧ c ≠ '.'

theorem EndsFraction.noDigit {rest : List Char} (ends : EndsFraction rest) : NoDigit rest :=
  fun c first => (ends c first).1

/-- A number of nanoseconds as the fraction of a second: nothing for none, or a point and digits,
however many, that say it exactly. -/
inductive WritesFraction (nano : Nat) : List Char → Prop
  | absent (none : nano = 0) : WritesFraction nano []
  | digits {ds : List Char} (nonempty : ds ≠ []) (all : ∀ c ∈ ds, isDigit c = true)
      (value : digitsValue ds * 10 ^ 9 = nano * 10 ^ ds.length) : WritesFraction nano ('.' :: ds)

/-- What digits behind the ninth add to an exact number of nanoseconds is nothing. -/
theorem digitsValue_of_exact {nano : Nat} {front more : List Char}
    (all : ∀ c ∈ more, isDigit c = true) (nine : front.length = 9)
    (value : digitsValue (front ++ more) * 10 ^ 9 = nano * 10 ^ (front ++ more).length) :
    digitsValue front = nano := by
  have positive : 0 < 10 ^ more.length := Nat.pow_pos (by decide)
  have scaled : (10 ^ more.length * digitsValue front + digitsValue more) * 10 ^ 9 =
      nano * 10 ^ more.length * 10 ^ 9 := by
    rw [← digitsValue_append_mul, value, List.length_append, nine, Nat.mul_assoc, ← Nat.pow_add,
      Nat.add_comm]
  have quotient := congrArg (· / 10 ^ more.length)
    (Nat.eq_of_mul_eq_mul_right (by decide : 0 < 10 ^ 9) scaled)
  simpa only [Nat.mul_add_div positive, Nat.div_eq_of_lt (digitsValue_lt all), Nat.add_zero,
    Nat.mul_div_cancel _ positive] using quotient

/-- Digits behind a point are scanned up to the ninth, and those behind are skipped. -/
theorem scanFraction_digits {nano : Nat} {ds rest : List Char} (nonempty : ds ≠ [])
    (all : ∀ c ∈ ds, isDigit c = true) (value : digitsValue ds * 10 ^ 9 = nano * 10 ^ ds.length)
    (ends : NoDigit rest) : scanFraction ('.' :: (ds ++ rest)) = some (nano, rest) := by
  have positive := List.length_pos_iff.mpr nonempty
  rw [scanFraction]
  by_cases few : ds.length ≤ 9
  · have behind : ([] ++ rest).dropWhile isDigit = rest :=
      dropWhile_isDigit_append (fun _ member => absurd member List.not_mem_nil) ends
    have exactly : digitsValue ds * 10 ^ (9 - ds.length) = nano := by
      refine Nat.eq_of_mul_eq_mul_right (Nat.pow_pos (by decide) : 0 < 10 ^ ds.length) ?_
      rw [Nat.mul_assoc, ← Nat.pow_add, Nat.sub_add_cancel few, value]
    simp only [scanNumber_append all positive few (.inr ends), Option.map_some, List.length_append,
      Nat.add_sub_cancel, exactly]
    exact congrArg (fun rest => some (nano, rest)) behind
  · obtain ⟨front, more, rfl, nine⟩ : ∃ front more, ds = front ++ more ∧ front.length = 9 :=
      ⟨ds.take 9, ds.drop 9, (List.take_append_drop 9 ds).symm, by rw [List.length_take]; omega⟩
    obtain ⟨front_digits, more_digits⟩ := List.forall_mem_append.mp all
    rw [List.append_assoc]
    simp only [scanNumber_append front_digits (show 1 ≤ front.length by omega) (Nat.le_of_eq nine)
        (.inl nine), Option.map_some, List.length_append, Nat.add_sub_cancel, nine, Nat.sub_self,
      Nat.pow_zero, Nat.mul_one, digitsValue_of_exact more_digits nine value,
      dropWhile_isDigit_append more_digits ends]

/-- The fraction of a second is read back from all its notations. -/
theorem WritesFraction.scan {nano : Nat} {fraction rest : List Char}
    (writes : WritesFraction nano fraction) (ends : EndsFraction rest) :
    scanFraction (fraction ++ rest) = some (nano, rest) := by
  cases writes with
  | absent none =>
      subst none
      rw [List.nil_append, scanFraction.eq_def]
      split
      · exact absurd rfl (ends '.' rfl).2
      · rfl
  | digits nonempty all value => exact scanFraction_digits nonempty all value ends.noDigit

theorem WritesFraction.padded {nano width n : Nat} (positive : 0 < width) (few : n < 10 ^ width)
    (value : n * 10 ^ 9 = nano * 10 ^ width) :
    WritesFraction nano ('.' :: writePadded width n) := by
  refine .digits ?_ (fun _ => isDigit_of_mem_writePadded) ?_
  · obtain ⟨_, _, text, -⟩ := exists_cons_writePadded width n
    rw [text]
    exact List.cons_ne_nil _ _
  · rw [digitsValue_writePadded, length_writePadded positive few, value]

/-- The 0, 3, 6 or 9 digits of a written fraction are exact. -/
theorem writesFraction_writeFraction {nano : Nat} (small : nano < 1000000000) :
    WritesFraction nano (writeFraction nano) := by
  unfold writeFraction
  split
  · exact .absent ‹_›
  split
  · exact .padded (by decide) (by omega) (by omega)
  split
  · exact .padded (by decide) (by omega) (by omega)
  · exact .padded (by decide) (by omega) rfl

/-! ## Dates -/

namespace Date

theorem ofNumbers?_self (d : Date) : ofNumbers? d.year d.month d.day = some d := by
  rw [ofNumbers?, dif_pos ⟨d.year_ge, d.year_le, d.day_pos, d.day_le⟩]

theorem month_le (d : Date) : d.month ≤ 12 := by
  by_contra later
  have none : daysInMonth d.year d.month = 0 := by
    unfold daysInMonth
    split <;> omega
  have := d.day_pos
  have := d.day_le
  omega

theorem day_le_31 (d : Date) : d.day ≤ 31 := by
  have days : daysInMonth d.year d.month ≤ 31 := by
    unfold daysInMonth
    split <;> (try split) <;> decide
  exact Nat.le_trans d.day_le days

end Date

/-! ## Instants -/

@[simp]
theorem scanChar_cons (c : Char) (rest : List Char) : scanChar c (c :: rest) = some rest :=
  if_pos rfl

namespace Instant

/-- A date is read back from the notation that allows white space around its hyphens. -/
theorem scanLooseDate_write (d : Date) (rest : List Char) :
    scanLooseDate (d.write ++ rest) = some ((d.year, d.month, d.day), rest) := by
  have year : scanYear (writeYear d.year ++ '-' :: (writePadded 2 d.month ++
      '-' :: (writePadded 2 d.day ++ rest))) = some (d.year, _) :=
    scanYear_writeYear d.year (noDigit_cons (by decide))
  have month := scanShort_writePadded (Nat.lt_of_le_of_lt d.month_le (by decide))
    ('-' :: (writePadded 2 d.day ++ rest))
  have day := scanShort_writePadded (Nat.lt_of_le_of_lt d.day_le_31 (by decide)) rest
  simp only [scanLooseDate, Date.write, List.append_assoc, List.cons_append, year, month, day,
    skipBlanks_cons (c := '-') (by decide), scanChar_cons, Option.bind_eq_bind, Option.bind_some]

theorem clock_lt (t : Instant) : t.hour < 24 ∧ t.minute < 60 ∧ t.clockSecond ≤ 60 ∧
    t.fraction < 1000000000 := by
  have := t.second_lt
  have := t.nano_lt
  have := t.leap_ends_minute
  simp only [hour, minute, clockSecond, fraction]
  omega

/-- A clock reading is read back from the notation that allows white space around its colons. -/
theorem scanLooseClock_writeClock (t : Instant) {rest : List Char} (ends : EndsFraction rest) :
    scanLooseClock (t.writeClock ++ rest) =
      some ((t.hour, t.minute, t.clockSecond, t.fraction), rest) := by
  obtain ⟨hour_lt, minute_lt, second_le, fraction_lt⟩ := t.clock_lt
  have hour := scanShort_writePadded (n := t.hour) (by omega) (':' :: (writePadded 2 t.minute ++
    ':' :: (writePadded 2 t.clockSecond ++ (writeFraction t.fraction ++ rest))))
  have minute := scanShort_writePadded (n := t.minute) (by omega)
    (':' :: (writePadded 2 t.clockSecond ++ (writeFraction t.fraction ++ rest)))
  have second := scanShort_writePadded (n := t.clockSecond) (by omega)
    (writeFraction t.fraction ++ rest)
  have fraction := (writesFraction_writeFraction fraction_lt).scan ends
  simp only [scanLooseClock, writeClock, List.append_assoc, List.cons_append, hour, minute, second,
    fraction, skipBlanks_cons (c := ':') (by decide), scanChar_cons, Option.bind_eq_bind,
    Option.bind_some]

theorem eq_of_parts {a b : Instant} (date : a.date = b.date) (second : a.second = b.second)
    (nano : a.nano = b.nano) : a = b := by
  cases a
  cases b
  cases date
  cases second
  cases nano
  rfl

/-- A time has its clock reading on its date, in a leap second too. -/
theorem ofClock?_clock (t : Instant) :
    ofClock? t.date t.hour t.minute t.clockSecond t.fraction = some t := by
  obtain ⟨hour_lt, minute_lt, -, fraction_lt⟩ := t.clock_lt
  have nano_lt := t.nano_lt
  by_cases full : t.nano < 1000000000
  · have second_lt : t.clockSecond < 60 := by rw [clockSecond]; omega
    rw [ofClock?, dif_pos ⟨hour_lt, minute_lt, second_lt, fraction_lt⟩]
    refine congrArg some (eq_of_parts rfl ?_ ?_)
    · simp only [hour, minute, clockSecond]
      omega
    · exact Nat.mod_eq_of_lt full
  · have leap := t.leap_ends_minute (Nat.not_lt.mp full)
    have second_eq : t.clockSecond = 60 := by rw [clockSecond]; omega
    rw [ofClock?, dif_neg (by omega), dif_pos ⟨hour_lt, minute_lt, second_eq, fraction_lt⟩]
    refine congrArg some (eq_of_parts rfl ?_ ?_)
    · simp only [hour, minute]
      omega
    · simp only [fraction]
      omega

theorem shift?_zero (t : Instant) : t.shift? 0 = some t := by
  rw [shift?, if_pos (Int.le_refl 0)]
  exact dif_pos t.second_lt

/-- A date and clock reading with an offset are the time when the clock is put back by it. -/
theorem instantAt?_clock (t : Instant) {offset : Int} (small : offset.natAbs < 1440) :
    instantAt? t.date.year t.date.month t.date.day t.hour t.minute t.clockSecond t.fraction offset =
      t.shift? (-offset) := by
  simp only [instantAt?, Date.ofNumbers?_self, ofClock?_clock, Option.bind_eq_bind,
    Option.bind_some, if_pos small]

/-- Every time is read back from its text. -/
theorem readLoose?_writeChars (t : Instant) : readLoose? t.writeChars = some t := by
  have date := scanLooseDate_write t.date ('T' :: (t.writeClock ++ ['Z']))
  have ends : EndsFraction ['Z'] := by
    rintro c ⟨⟩
    decide
  have clock := t.scanLooseClock_writeClock ends
  have zone : scanLooseZone ['Z'] = some (0, []) := rfl
  simp only [readLoose?, writeChars, writeLocal, List.append_assoc, List.cons_append, date,
    scanSeparator, true_or, if_true, clock, skipBlanks_cons (c := 'Z') (by decide), zone,
    Option.bind_eq_bind, Option.bind_some,
    instantAt?_clock t (show (0 : Int).natAbs < 1440 by decide), Int.neg_zero, shift?_zero]
  rfl

end Instant

end ContentService
