import ContentService.Proofs.Calendar.Scanning
import ContentService.Proofs.Query.Spans

/-! # Texts that are read as periods

A year, a month or a day is read from more texts than the notation with four, two and two digits.
Numbers may have a plus sign in place of a digit; those of a day may also have fewer digits, white
space in front, or a year with a sign and any number of digits. These are all the texts that are
read as a period, and the period has the times of the year, month or day that is spelled
(`ContentService.Query.periods_read_as_spelled`).
-/

namespace ContentService

open Std Text

/-! ## Places -/

/-- A number that fills a count of places: digits, or a plus sign and digits. -/
inductive Text.Places (width n : Nat) : List Char → Prop
  | digits {ds : List Char} (numeral : Numeral width n ds) : Places width n ds
  | plus {ds : List Char} (numeral : Numeral (width - 1) n ds) : Places width n ('+' :: ds)

namespace Text

theorem Numeral.hyphen_notMem {width n : Nat} {cs : List Char} (numeral : Numeral width n cs) :
    '-' ∉ cs :=
  fun member => nomatch numeral.digits _ member

theorem Places.hyphen_notMem {width n : Nat} {cs : List Char} (places : Places width n cs) :
    '-' ∉ cs := by
  cases places with
  | digits numeral => exact numeral.hyphen_notMem
  | plus numeral =>
      intro member
      rcases List.mem_cons.mp member with same | member
      · exact absurd same (by decide)
      · exact numeral.hyphen_notMem member

theorem utf8ByteSize_plus {ds : List Char} (all : ∀ c ∈ ds, isDigit c = true) :
    (String.ofList ('+' :: ds)).utf8ByteSize = ds.length + 1 := by
  have sign : '+'.utf8Size = 1 := rfl
  rw [String.ofList_cons, String.utf8ByteSize_append, String.utf8ByteSize_singleton,
    utf8ByteSize_digits all, sign, Nat.add_comm]

theorem numeral_of_readNat? {n : Nat} {cs : List Char} (read : readNat? cs = some n) :
    cs ≠ [] ∧ Numeral cs.length n cs := by
  obtain ⟨nonempty, digits, value⟩ := readNat?_eq_some_iff.mp read
  exact ⟨nonempty, digits, rfl, value⟩

theorem Numeral.readNat? {width n : Nat} {cs : List Char} (numeral : Numeral width n cs)
    (positive : 0 < width) : readNat? cs = some n :=
  readNat?_eq_some_iff.mpr ⟨numeral.ne_nil positive, numeral.digits, numeral.value⟩

/-- What is read with or without a plus sign fills as many places as it has bytes. -/
theorem places_iff {width n : Nat} (two_le : 2 ≤ width) {cs : List Char} :
    Places width n cs ↔ (String.ofList cs).utf8ByteSize = width ∧
      (readNat? cs = some n ∨ ∃ ds, cs = '+' :: ds ∧ readNat? ds = some n) := by
  constructor
  · intro places
    cases places with
    | digits numeral =>
        exact ⟨(utf8ByteSize_digits numeral.digits).trans numeral.length,
          .inl (numeral.readNat? (by omega))⟩
    | plus numeral =>
        refine ⟨?_, .inr ⟨_, rfl, numeral.readNat? (by omega)⟩⟩
        rw [utf8ByteSize_plus numeral.digits, numeral.length]
        omega
  · rintro ⟨rfl, read | ⟨ds, rfl, read⟩⟩
    · obtain ⟨-, numeral⟩ := numeral_of_readNat? read
      rw [utf8ByteSize_digits numeral.digits]
      exact .digits numeral
    · obtain ⟨-, numeral⟩ := numeral_of_readNat? read
      rw [utf8ByteSize_plus numeral.digits]
      exact .plus numeral

theorem Places.lt {width n : Nat} {cs : List Char} (places : Places width n cs) :
    n < 10 ^ width := by
  cases places with
  | digits numeral => exact numeral.lt
  | plus numeral =>
      exact numeral.lt.trans_le (Nat.pow_le_pow_right (by decide) (Nat.sub_le width 1))

theorem Places.readSigned {width n : Nat} {cs : List Char} (places : Places width n cs)
    (two_le : 2 ≤ width) {least most : Int} (above : least ≤ n) (below : n ≤ most) :
    readSigned least most cs = .ok (n : Int) := by
  obtain ⟨-, number | ⟨ds, rfl, number⟩⟩ := (places_iff two_le).mp places
  · obtain ⟨c, rest, rfl⟩ := List.exists_cons_of_ne_nil (numeral_of_readNat? number).1
    have digit := (numeral_of_readNat? number).2.digits c List.mem_cons_self
    rw [readSigned_of_digit digit number, if_neg (by omega), if_neg (by omega)]
  · rw [readSigned_plus number, if_neg (by omega), if_neg (by omega)]

theorem Places.readUnsigned {width n : Nat} {cs : List Char} (places : Places width n cs)
    (two_le : 2 ≤ width) {most : Nat} (below : n ≤ most) : readUnsigned most cs = .ok n := by
  obtain ⟨-, number | ⟨ds, rfl, number⟩⟩ := (places_iff two_le).mp places <;>
    obtain ⟨nonempty, digits, rfl⟩ := readNat?_eq_some_iff.mp number
  · exact (readUnsigned_digits nonempty digits below).1
  · exact (readUnsigned_digits nonempty digits below).2

/-- Whether a text is made of digits and hyphens. -/
def Plain (cs : List Char) : Prop :=
  ∀ c ∈ cs, isDigit c = true ∨ c = '-'

theorem Plain.hyphen {cs rest : List Char} (plain : Plain cs) (behind : Plain rest) :
    Plain (cs ++ '-' :: rest) := by
  intro c member
  rcases List.mem_append.mp member with front | later
  · exact plain c front
  · rcases List.mem_cons.mp later with rfl | later
    · exact .inr rfl
    · exact behind c later

theorem Plain.trimChars {cs : List Char} (plain : Plain cs) : trimChars cs = cs := by
  have solid (c : Char) (member : c ∈ cs) : isBlank c = false := by
    rcases plain c member with digit | rfl
    · exact isBlank_of_digit digit
    · decide
  exact trimChars_eq_self (fun c first => solid c (List.mem_of_mem_head? first))
    fun c last => solid c (List.mem_of_getLast? last)

theorem Numeral.plain {width n : Nat} {cs : List Char} (numeral : Numeral width n cs) : Plain cs :=
  fun c member => .inl (numeral.digits c member)

end Text

/-! ## Periods -/

/-- A time is before a day begins if its date is before that day. -/
theorem Instant.order_startOfDay_eq_lt_iff {t : Instant} {d : Date} :
    t.order (.startOfDay d) = .lt ↔ t.date.order d = .lt := by
  simp only [order, startOfDay, Ordering.then_eq_lt, Nat.compare_eq_lt, Nat.not_lt_zero, and_false,
    or_false]

namespace Query

namespace Span

theorem contains_days_iff {first afterLast : Date} {t : Instant} :
    (days first afterLast).contains t = true ↔
      t.date.order first ≠ .lt ∧ t.date.order afterLast = .lt := by
  have turned : (Instant.startOfDay first).order t = (t.order (.startOfDay first)).swap :=
    OrientedCmp.eq_swap
  rw [days, contains, Bool.and_eq_true, Instant.before, beq_iff_eq,
    Instant.order_startOfDay_eq_lt_iff, turned, ne_eq,
    ← Instant.order_startOfDay_eq_lt_iff (d := first)]
  refine and_congr_left' ?_
  cases t.order (.startOfDay first) <;> decide

/-- The days of a year are those up to the first of January after it. -/
theorem contains_year_iff {y : Int} {first afterLast : Date}
    (begins : Date.ofNumbers? y 1 1 = some first)
    (ends : Date.ofNumbers? (y + 1) 1 1 = some afterLast) {t : Instant} :
    (days first afterLast).contains t = true ↔ t.date.year = y := by
  obtain ⟨firstYear, firstMonth, firstDay⟩ := Date.eq_of_ofNumbers? begins
  obtain ⟨lastYear, lastMonth, lastDay⟩ := Date.eq_of_ofNumbers? ends
  have := t.date.month_pos
  have := t.date.day_pos
  rw [contains_days_iff, ne_eq, Date.order_eq_lt_iff, Date.order_eq_lt_iff]
  omega

/-- The days of a month are those up to the first of the month after it. -/
theorem contains_month_iff {y : Int} {m : Nat} {first afterLast : Date} (le : m ≤ 12)
    (begins : Date.ofNumbers? y m 1 = some first)
    (ends : Date.startOfNextMonth? y m = some afterLast) {t : Instant} :
    (days first afterLast).contains t = true ↔ t.date.year = y ∧ t.date.month = m := by
  obtain ⟨firstYear, firstMonth, firstDay⟩ := Date.eq_of_ofNumbers? begins
  have := t.date.month_pos
  have := t.date.month_le
  have := t.date.day_pos
  rw [contains_days_iff, ne_eq, Date.order_eq_lt_iff, Date.order_eq_lt_iff]
  unfold Date.startOfNextMonth? at ends
  split at ends <;>
  · obtain ⟨lastYear, lastMonth, lastDay⟩ := Date.eq_of_ofNumbers? ends
    omega

/-- A day is what lies before the next one and not before itself. -/
theorem contains_day_iff {day next : Date} (ends : day.next? = some next) {t : Instant} :
    (days day next).contains t = true ↔ t.date = day := by
  have following := Date.next?_eq_some_iff.mp ends
  rw [contains_days_iff, ne_eq, Date.order_eq_compare, Date.order_eq_compare, Int.compare_eq_lt,
    Int.compare_eq_lt, ← Date.count_injective.eq_iff]
  omega

end Span

/-- A year, a month of a year or a day. -/
inductive CalendarPeriod
  | year (y : Int)
  | month (y : Int) (m : Nat) (positive : 1 ≤ m) (le : m ≤ 12)
  | day (d : Date)

namespace CalendarPeriod

/-- Whether a time is in the year, month or day. -/
def Has (t : Instant) : CalendarPeriod → Prop
  | year y => t.date.year = y
  | month y m _ _ => t.date.year = y ∧ t.date.month = m
  | day d => t.date = d

/-- The days of the period, unless the calendar ends with them. -/
def span? : CalendarPeriod → Option Span
  | year y => do some (.days (← Date.ofNumbers? y 1 1) (← Date.ofNumbers? (y + 1) 1 1))
  | month y m _ _ => do some (.days (← Date.ofNumbers? y m 1) (← Date.startOfNextMonth? y m))
  | day d => d.next?.map (.days d)

/-- The days of a year, month or day have its times. -/
theorem contains_iff_has {period : CalendarPeriod} {span : Span} (days : period.span? = some span)
    (t : Instant) : span.contains t = true ↔ period.Has t := by
  cases period with
  | year y =>
      obtain ⟨first, begins, days⟩ := Option.bind_eq_some_iff.mp days
      obtain ⟨afterLast, ends, days⟩ := Option.bind_eq_some_iff.mp days
      cases days
      exact Span.contains_year_iff begins ends
  | month y m _ le =>
      obtain ⟨first, begins, days⟩ := Option.bind_eq_some_iff.mp days
      obtain ⟨afterLast, ends, days⟩ := Option.bind_eq_some_iff.mp days
      cases days
      exact Span.contains_month_iff le begins ends
  | day d =>
      obtain ⟨next, ends, rfl⟩ := Option.map_eq_some_iff.mp days
      exact Span.contains_day_iff ends

/-! ## Notations -/

/-- The texts of a year, a month or a day that are read: a year in four places, or a month in two
behind it, or the fields of a day with free widths. -/
inductive Spelled : CalendarPeriod → List Char → Prop
  | year {y : Nat} {ys : List Char} (years : Places 4 y ys) : Spelled (.year y) ys
  | month {y m : Nat} {ys ms : List Char} (years : Places 4 y ys) (months : Places 2 m ms)
      (positive : 1 ≤ m) (le : m ≤ 12) : Spelled (.month y m positive le) (ys ++ '-' :: ms)
  | day {d : Date} {ys ms ds : List Char} (years : LooseYear d.year ys)
      (months : LooseField d.month ms) (days : LooseField d.day ds) :
      Spelled (.day d) (ys ++ '-' :: (ms ++ '-' :: ds))

/-- A year, a month or a day in four, two and two digits joined by hyphens. -/
inductive Written : CalendarPeriod → List Char → Prop
  | year {y : Nat} {ys : List Char} (years : Numeral 4 y ys) : Written (.year y) ys
  | month {y m : Nat} {ys ms : List Char} (years : Numeral 4 y ys) (months : Numeral 2 m ms)
      (positive : 1 ≤ m) (le : m ≤ 12) : Written (.month y m positive le) (ys ++ '-' :: ms)
  | day {d : Date} {y : Nat} {ys ms ds : List Char} (same : d.year = y) (years : Numeral 4 y ys)
      (months : Numeral 2 d.month ms) (days : Numeral 2 d.day ds) :
      Written (.day d) (ys ++ '-' :: (ms ++ '-' :: ds))

namespace Written

variable {period : CalendarPeriod} {cs : List Char}

theorem plain (written : period.Written cs) : Plain cs := by
  cases written with
  | year years => exact years.plain
  | month years months => exact years.plain.hyphen months.plain
  | day _ years months days => exact years.plain.hyphen (months.plain.hyphen days.plain)

theorem spelled (written : period.Written cs) : period.Spelled cs := by
  cases written with
  | year years => exact .year (.digits years)
  | month years months positive le => exact .month (.digits years) (.digits months) positive le
  | day same years months days =>
      refine .day ?_ (months.looseField (by decide) (by decide))
        (days.looseField (by decide) (by decide))
      rw [same]
      exact .plain (by decide) (by decide) years

/-- The calendar does not end with a year of four digits. -/
theorem exists_span (written : period.Written cs) :
    ∃ first afterLast, period.span? = some (.days first afterLast) := by
  have earliest : firstYear = -262143 := rfl
  have latest : lastYear = 262142 := rfl
  cases written with
  | @year y _ years =>
      have below := years.lt
      obtain ⟨first, begins⟩ : ∃ first, Date.ofNumbers? y 1 1 = some first :=
        Date.exists_startOfMonth (by omega) (by omega) (Nat.le_refl 1) (by decide)
      obtain ⟨afterLast, ends⟩ : ∃ afterLast, Date.ofNumbers? (y + 1) 1 1 = some afterLast :=
        Date.exists_startOfMonth (by omega) (by omega) (Nat.le_refl 1) (by decide)
      exact ⟨first, afterLast, by rw [span?, begins, ends]; rfl⟩
  | @month y m _ _ years months positive le =>
      have below := years.lt
      obtain ⟨first, begins⟩ : ∃ first, Date.ofNumbers? y m 1 = some first :=
        Date.exists_startOfMonth (by omega) (by omega) positive le
      obtain ⟨afterLast, ends⟩ : ∃ afterLast, Date.startOfNextMonth? y m = some afterLast :=
        Date.exists_startOfNextMonth (by omega) (by omega) fun _ => by omega
      exact ⟨first, afterLast, by rw [span?, begins, ends]; rfl⟩
  | @day d _ _ _ _ same years =>
      have below := years.lt
      obtain ⟨next, ends⟩ := Date.exists_next_of_year_lt (d := d) (by omega)
      exact ⟨d, next, by rw [span?, ends]; rfl⟩

end Written

end CalendarPeriod

/-! ## Reading -/

theorem toOption_eq_some_iff {ε α : Type} {result : Except ε α} {a : α} :
    result.toOption = some a ↔ result = .ok a := by
  cases result <;> simp [Except.toOption]

namespace Span

theorem readYear?_eq_some_iff {cs : List Char} (unsigned : '-' ∉ cs) {year : Int} :
    readYear? cs = some year ↔ ∃ y : Nat, year = y ∧ Places 4 y cs := by
  constructor
  · intro read
    unfold readYear? at read
    split at read
    · rename_i four
      obtain ⟨y, rfl, number⟩ := readNat?_of_readSigned unsigned (toOption_eq_some_iff.mp read)
      exact ⟨y, rfl, (places_iff (by decide)).mpr ⟨four, number⟩⟩
    · exact nomatch read
  · rintro ⟨y, rfl, places⟩
    have below := places.lt
    rw [readYear?, if_pos ((places_iff (by decide)).mp places).1,
      places.readSigned (by decide) (by omega) (by omega)]
    rfl

theorem readMonth?_eq_some_iff {cs : List Char} {m : Nat} :
    readMonth? cs = some m ↔ Places 2 m cs := by
  constructor
  · intro read
    unfold readMonth? at read
    split at read
    · rename_i two
      have number := readNat?_of_readUnsigned (toOption_eq_some_iff.mp read)
      exact (places_iff (by decide)).mpr ⟨two, number⟩
    · exact nomatch read
  · intro places
    have below := places.lt
    rw [readMonth?, if_pos ((places_iff (by decide)).mp places).1,
      places.readUnsigned (by decide) (by omega)]
    rfl

/-- A text without a hyphen is read as a year. -/
theorem readCalendar?_of_unsigned {ys : List Char} (unsigned : '-' ∉ ys) :
    readCalendar? ys = (readYear? ys).bind fun y => (CalendarPeriod.year y).span? := by
  have other : ∀ c ∈ ys, decide (c ≠ '-') = true := fun c member =>
    decide_eq_true fun same => unsigned (same ▸ member)
  have whole : ys.takeWhile (· ≠ '-') = ys := List.takeWhile_eq_self_iff.mpr other
  have nothing : ys.dropWhile (· ≠ '-') = [] := List.dropWhile_eq_nil_iff.mpr other
  rw [readCalendar?, whole, nothing]
  rfl

/-- A text with a hyphen is read as a year and a month on the two sides of it. -/
theorem readCalendar?_hyphen {ys : List Char} (unsigned : '-' ∉ ys) (ms : List Char) :
    readCalendar? (ys ++ '-' :: ms) = (do
      let y ← readYear? ys
      if ms.contains '-' then none
      else
        let m ← readMonth? ms
        some (days (← Date.ofNumbers? y m 1) (← Date.startOfNextMonth? y m))) := by
  have other : ∀ c ∈ ys, decide (c ≠ '-') = true := fun c member =>
    decide_eq_true fun same => unsigned (same ▸ member)
  have front : (ys ++ '-' :: ms).takeWhile (· ≠ '-') = ys := by
    rw [List.takeWhile_append_of_pos other, List.takeWhile_cons_of_neg (by decide), List.append_nil]
  have behind : (ys ++ '-' :: ms).dropWhile (· ≠ '-') = '-' :: ms := by
    rw [List.dropWhile_append_of_pos other, List.dropWhile_cons_of_neg (by decide)]
  rw [readCalendar?, front, behind]

/-- What is read as a year or a month fills its places. -/
theorem exists_spelled_of_readCalendar? {cs : List Char} {span : Span}
    (read : readCalendar? cs = some span) :
    ∃ period : CalendarPeriod, period.Spelled cs ∧ period.span? = some span := by
  by_cases hyphen : '-' ∈ cs
  · obtain ⟨ys, ms, rfl, unsigned⟩ := List.eq_append_cons_of_mem hyphen
    rw [readCalendar?_hyphen unsigned] at read
    obtain ⟨year, front, read⟩ := Option.bind_eq_some_iff.mp read
    split at read
    · exact nomatch read
    obtain ⟨m, months, read⟩ := Option.bind_eq_some_iff.mp read
    obtain ⟨first, begins, ends⟩ := Option.bind_eq_some_iff.mp read
    obtain ⟨y, rfl, years⟩ := (readYear?_eq_some_iff unsigned).mp front
    obtain ⟨-, rfl, -⟩ := Date.eq_of_ofNumbers? begins
    exact ⟨.month y first.month first.month_pos first.month_le,
      .month years (readMonth?_eq_some_iff.mp months) _ _, read⟩
  · rw [readCalendar?_of_unsigned hyphen] at read
    obtain ⟨year, whole, read⟩ := Option.bind_eq_some_iff.mp read
    obtain ⟨y, rfl, years⟩ := (readYear?_eq_some_iff hyphen).mp whole
    exact ⟨.year y, .year years, read⟩

theorem readStrict?_eq_none {cs : List Char}
    (ends : ∀ date rest, scanDate cs = some (date, rest) → rest = []) :
    Instant.readStrict? cs = none := by
  refine Option.eq_none_iff_forall_ne_some.mpr fun t read => ?_
  obtain ⟨date, rest, scanned, goesOn⟩ := Instant.exists_scanDate_of_readStrict? read
  exact goesOn (ends date rest scanned)

variable {s : String}

/-- A text that does not begin with a date is read as a year or a month. -/
theorem read?_of_no_date (date : scanDate (trimChars s.toList) = none) :
    read? s = readCalendar? (trimChars s.toList) := by
  have strict : Instant.readStrict? (trimChars s.toList) = none :=
    readStrict?_eq_none fun _ _ scanned => nomatch date.symm.trans scanned
  have zoneless (gap : List Char → Option (List Char)) :
      Instant.readZoneless? gap (trimChars s.toList) = none := by
    rw [Instant.readZoneless?, date]
    rfl
  have day : Date.read? (trimChars s.toList) = none := by
    rw [Date.read?, date]
    rfl
  simp only [read?, readMoment?, strict, zoneless, day, Option.map_none, Option.none_or]

/-- A text that is a date and nothing else is read as this day. -/
theorem read?_of_date {day : Date}
    (date : scanDate (trimChars s.toList) = some ((day.year, day.month, day.day), [])) :
    read? s = day.next?.map (days day) := by
  have clock : scanClock [] = none := rfl
  have strict : Instant.readStrict? (trimChars s.toList) = none := by
    refine readStrict?_eq_none fun _ _ scanned => ?_
    cases date.symm.trans scanned
    rfl
  have joined : Instant.readZoneless? (scanChar 'T') (trimChars s.toList) = none :=
    (bind_of_eq_some date).trans rfl
  have apart :
      Instant.readZoneless? (fun rest => some (skipBlanks rest)) (trimChars s.toList) = none := by
    refine (bind_of_eq_some date).trans ?_
    refine (bind_of_eq_some rfl).trans ?_
    rw [show skipBlanks [] = [] from rfl, clock]
    rfl
  have read : Date.read? (trimChars s.toList) = some day :=
    (bind_of_eq_some date).trans day.ofNumbers?_self
  simp only [read?, readMoment?, strict, joined, apart, read, Option.map_none, Option.none_or]

/-- What is read as a period is spelled like one. -/
theorem exists_spelled_of_read? {start stop : Instant}
    (read : read? s = some (.period start stop)) :
    ∃ period : CalendarPeriod, period.Spelled (trimChars s.toList) ∧
      period.span? = some (.period start stop) := by
  have trimmed : skipBlanks (trimChars s.toList) = trimChars s.toList :=
    dropWhile_trimChars s.toList
  unfold read? at read
  dsimp only at read
  split at read
  · rename_i moment
    cases read
    obtain ⟨t, other⟩ := exists_instant_of_readMoment? moment
    cases other
  · split at read
    · rename_i day given
      obtain ⟨⟨⟨year, month, number⟩, rest⟩, date, whole⟩ := Option.bind_eq_some_iff.mp given
      dsimp only at whole
      split at whole
      · rename_i nothing
        obtain rfl := List.isEmpty_iff.mp nothing
        obtain ⟨rfl, rfl, rfl⟩ := Date.eq_of_ofNumbers? whole
        obtain ⟨ys, ms, ds, text, years, months, days⟩ :=
          (scanDate_eq_some_nil_iff trimmed).mp date
        rw [text]
        exact ⟨.day day, .day years months days, read⟩
      · exact nomatch whole
    · exact exists_spelled_of_readCalendar? read

/-- A text that spells a year, a month or a day is read as its days. -/
theorem read?_of_spelled {period : CalendarPeriod} (spelled : period.Spelled (trimChars s.toList)) :
    read? s = period.span? := by
  have trimmed : skipBlanks (trimChars s.toList) = trimChars s.toList :=
    dropWhile_trimChars s.toList
  -- A date has two hyphens, a year has none and a month has one.
  have no_date (few : (trimChars s.toList).count '-' < 2) : scanDate (trimChars s.toList) = none :=
    Option.eq_none_iff_forall_ne_some.mpr fun _ scanned =>
      absurd (two_le_count_of_scanDate scanned) (Nat.not_le.mpr few)
  generalize text : trimChars s.toList = cs at spelled
  cases spelled with
  | @year y _ years =>
      have unsigned := years.hyphen_notMem
      rw [read?_of_no_date (no_date (by rw [text, List.count_eq_zero.mpr unsigned]; decide)), text,
        readCalendar?_of_unsigned unsigned, (readYear?_eq_some_iff unsigned).mpr ⟨y, rfl, years⟩]
      rfl
  | @month y m ys ms years months positive le =>
      have unsigned := years.hyphen_notMem
      have single : ms.contains '-' = false := by
        rw [List.contains_eq_mem, decide_eq_false_iff_not]
        exact months.hyphen_notMem
      have few : (ys ++ '-' :: ms).count '-' < 2 := by
        rw [List.count_append, List.count_cons_self, List.count_eq_zero.mpr unsigned,
          List.count_eq_zero.mpr months.hyphen_notMem]
        decide
      rw [read?_of_no_date (no_date (by rw [text]; exact few)), text, readCalendar?_hyphen unsigned,
        (readYear?_eq_some_iff unsigned).mpr ⟨y, rfl, years⟩]
      refine (bind_of_eq_some rfl).trans ?_
      rw [single, if_neg Bool.false_ne_true, readMonth?_eq_some_iff.mpr months]
      rfl
  | day years months days =>
      refine read?_of_date ((scanDate_eq_some_nil_iff trimmed).mpr ?_)
      exact ⟨_, _, _, text, years, months, days⟩

end Span

/-- **Periods are read as they are spelled.** A text is read as a period if and only if, without the
white space around it, it spells a year, a month or a day; the period is then the days of this year,
month or day and has exactly its times. In particular every year, month and day in four, two and two
digits is read. -/
theorem periods_read_as_spelled (s : String) :
    (∀ start stop, Span.read? s = some (.period start stop) ↔
      ∃ period : CalendarPeriod, period.Spelled (trimChars s.toList) ∧
        period.span? = some (.period start stop)) ∧
      (∀ (period : CalendarPeriod) (start stop : Instant),
        period.span? = some (.period start stop) →
          ∀ t, (Span.period start stop).contains t = true ↔ period.Has t) ∧
      ∀ period : CalendarPeriod, period.Written (trimChars s.toList) →
        ∃ start stop, Span.read? s = some (.period start stop) ∧
          period.span? = some (.period start stop) := by
  refine ⟨fun start stop => ⟨Span.exists_spelled_of_read?, ?_⟩, ?_, ?_⟩
  · rintro ⟨period, spelled, days⟩
    rw [Span.read?_of_spelled spelled, days]
  · exact fun period start stop => CalendarPeriod.contains_iff_has
  · intro period written
    obtain ⟨first, afterLast, days⟩ := written.exists_span
    exact ⟨_, _, (Span.read?_of_spelled written.spelled).trans days, days⟩

theorem periods_read_as_spelled_february :
    let february : CalendarPeriod := .month 2024 2 (by decide) (by decide)
    february.Written (trimChars " 2024-02 ".toList) ∧
      ∃ start stop, Span.read? " 2024-02 " = some (.period start stop) ∧
        ∀ t : Instant, (Span.period start stop).contains t = true ↔
          t.date.year = 2024 ∧ t.date.month = 2 := by
  intro february
  have years : Numeral 4 2024 ['2', '0', '2', '4'] := ⟨List.all_eq_true.mp rfl, rfl, rfl⟩
  have months : Numeral 2 2 ['0', '2'] := ⟨List.all_eq_true.mp rfl, rfl, rfl⟩
  have written : february.Written (trimChars " 2024-02 ".toList) :=
    .month years months (by decide) (by decide)
  obtain ⟨-, has, reads⟩ := periods_read_as_spelled " 2024-02 "
  obtain ⟨start, stop, read, days⟩ := reads february written
  exact ⟨written, start, stop, read, has february start stop days⟩

/-- The month of `2024-+1` is in two places, but not in two digits. -/
theorem not_forall_periods_written :
    ¬∀ (s : String) (start stop : Instant), Span.read? s = some (.period start stop) →
      ∃ period : CalendarPeriod, period.Written (trimChars s.toList) := by
  intro only
  have read : Span.read? "2024-+1" = some (.days
      ⟨2024, 1, 1, by decide, by decide, by decide, by decide⟩
      ⟨2024, 2, 1, by decide, by decide, by decide, by decide⟩) := by decide +kernel
  obtain ⟨period, written⟩ := only _ _ _ read
  have plain : ∀ c ∈ trimChars "2024-+1".toList, isDigit c = true ∨ c = '-' := written.plain
  exact absurd (plain '+' (by decide +kernel)) (by decide)

end Query

end ContentService
