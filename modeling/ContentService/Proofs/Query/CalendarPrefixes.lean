import ContentService.Proofs.Query.Comparisons
import ContentService.Proofs.Query.PeriodTexts
import ContentService.Proofs.Query.SortedAnswer

/-! # Calendar prefixes mean the same to text and time

A year, a month or a day in digits is the beginning of the texts of certain times, and to a filter
on times it is a period. Both are the same times: a period has the times whose texts begin with it
(`ContentService.Query.prefix_filters_agree`).
-/

namespace ContentService

open Std Text

/-- A year, month or day that exists, in four, two and two digits joined by hyphens. -/
inductive CalendarPrefix : List Char → Prop
  | year {y : Nat} {ys : List Char} (years : Numeral 4 y ys) : CalendarPrefix ys
  | month {y m : Nat} {ys ms : List Char} (years : Numeral 4 y ys) (months : Numeral 2 m ms)
      (positive : 1 ≤ m) (le : m ≤ 12) : CalendarPrefix (ys ++ '-' :: ms)
  | day {y m d : Nat} {ys ms ds : List Char} (years : Numeral 4 y ys) (months : Numeral 2 m ms)
      (days : Numeral 2 d ds) (positive : 1 ≤ d) (le : d ≤ daysInMonth y m) :
      CalendarPrefix (ys ++ '-' :: ms ++ '-' :: ds)

/-! ## Texts -/

/-- A text that begins with a year begins with four digits just if they are the year. -/
theorem Text.Numeral.prefix_writeYear_iff {y : Nat} {ys : List Char} (years : Numeral 4 y ys)
    {year : Int} {more rest : List Char} :
    ys ++ more <+: writeYear year ++ rest ↔ year = y ∧ more <+: rest := by
  have below := years.lt
  have first : ys ≠ [] := years.ne_nil (by decide)
  have unsigned {sign : Char} (other : isDigit sign = false) (behind : List Char) :
      ¬ys ++ more <+: sign :: behind := by
    obtain ⟨c, cs, rfl⟩ := List.exists_cons_of_ne_nil first
    intro begins
    obtain rfl : c = sign := (List.cons_prefix_cons.mp begins).1
    exact nomatch other.symm.trans (years.digits c List.mem_cons_self)
  unfold writeYear
  split
  · exact iff_of_false (unsigned (by decide) _) fun same => by omega
  split
  · exact iff_of_false (unsigned (by decide) _) fun same => by omega
  · rw [years.prefix_writePadded_iff (by decide) (by omega)]
    constructor <;> rintro ⟨same, tail⟩ <;> exact ⟨by omega, tail⟩

namespace Instant

variable {y m d : Nat} {ys ms ds : List Char} (t : Instant)

theorem writeChars_eq :
    t.writeChars = writeYear t.date.year ++ '-' :: (writePadded 2 t.date.month ++
      '-' :: (writePadded 2 t.date.day ++ 'T' :: (t.writeClock ++ ['Z']))) := by
  simp only [writeChars, writeLocal, Date.write, List.append_assoc, List.cons_append]

theorem year_prefix_iff (years : Numeral 4 y ys) : ys <+: t.writeChars ↔ t.date.year = y := by
  rw [writeChars_eq, ← List.append_nil ys, years.prefix_writeYear_iff]
  exact and_iff_left List.nil_prefix

theorem month_prefix_iff (years : Numeral 4 y ys) (months : Numeral 2 m ms) :
    ys ++ '-' :: ms <+: t.writeChars ↔ t.date.year = y ∧ t.date.month = m := by
  have := t.date.month_le
  rw [writeChars_eq, years.prefix_writeYear_iff, List.cons_prefix_cons, ← List.append_nil ms,
    months.prefix_writePadded_iff (by decide) (by omega)]
  simp only [List.nil_prefix, and_true, true_and, eq_comm]

theorem day_prefix_iff (years : Numeral 4 y ys) (months : Numeral 2 m ms) (days : Numeral 2 d ds) :
    ys ++ '-' :: ms ++ '-' :: ds <+: t.writeChars ↔
      t.date.year = y ∧ t.date.month = m ∧ t.date.day = d := by
  have := t.date.month_le
  have := t.date.day_le_31
  rw [writeChars_eq, List.append_assoc, List.cons_append, years.prefix_writeYear_iff,
    List.cons_prefix_cons, months.prefix_writePadded_iff (by decide) (by omega),
    List.cons_prefix_cons, ← List.append_nil ds,
    days.prefix_writePadded_iff (by decide) (by omega)]
  simp only [List.nil_prefix, and_true, true_and, eq_comm]

end Instant

namespace Query

/-! ## Agreement -/

/-- A calendar prefix is the notation of a year, month or day, of which the times are those whose
texts begin with it. -/
theorem exists_written_of_calendarPrefix {cs : List Char} (names : CalendarPrefix cs) :
    ∃ period : CalendarPeriod, period.Written cs ∧
      ∀ t : Instant, period.Has t ↔ cs <+: t.writeChars := by
  have earliest : firstYear = -262143 := rfl
  have latest : lastYear = 262142 := rfl
  cases names with
  | year years => exact ⟨.year _, .year years, fun t => (t.year_prefix_iff years).symm⟩
  | month years months positive le =>
      exact ⟨.month _ _ positive le, .month years months positive le,
        fun t => (t.month_prefix_iff years months).symm⟩
  | @day y m d ys ms ds years months dates positive le =>
      have below := years.lt
      obtain ⟨day, given⟩ : ∃ day, Date.ofNumbers? y m d = some day :=
        Date.exists_ofNumbers? (by omega) (by omega) positive le
      obtain ⟨sameYear, rfl, rfl⟩ := Date.eq_of_ofNumbers? given
      refine ⟨.day day, ?_, fun t => ?_⟩
      · rw [List.append_assoc, List.cons_append]
        exact .day sameYear years months dates
      · rw [t.day_prefix_iff years months dates, ← sameYear]
        exact Date.eq_iff

/-- A calendar prefix is read as the period of the times whose texts begin with it. -/
theorem exists_read?_of_calendarPrefix {cs : List Char} (names : CalendarPrefix cs) :
    ∃ span, Span.read? (String.ofList cs) = some span ∧
      ∀ t : Instant, span.contains t = true ↔ cs <+: t.writeChars := by
  obtain ⟨period, written, begins⟩ := exists_written_of_calendarPrefix names
  obtain ⟨first, afterLast, days⟩ := written.exists_span
  have trimmed : trimChars (String.ofList cs).toList = cs := by
    rw [String.toList_ofList, written.plain.trimChars]
  refine ⟨.days first afterLast, ?_, fun t => ?_⟩
  · rw [Span.read?_of_spelled (trimmed.symm ▸ written.spelled), days]
  · rw [CalendarPeriod.contains_iff_has days, begins]

/-- A text passes a filter that minds case and asks for a beginning if it begins like that. -/
theorem Filter.passes_startsWith {filter : Filter} (logic : filter.logic = .string)
    (minds : filter.caseSensitive = true) {v : Value} {s : String} (single : v.toText? = some s) :
    filter.passes .startsWith v = Text.startsWith s filter.value := by
  rw [filter.passes_string logic, minds, if_pos rfl, Condition.test_text _ _ _ single, testText,
    if_pos rfl]

/-- **Calendar prefixes mean the same to text and time.** A year, month or day that exists, in
digits, is read as a period, and the period has exactly the times whose texts begin with it. So a
filter on times that asks for it with `contains` and a filter on texts that asks for it with
`startsWith` and minds case keep the same records, of those that hold a time in the named field. -/
theorem prefix_filters_agree {p : String} (names : CalendarPrefix p.toList) :
    (∃ span, Span.read? p = some span ∧
      ∀ t : Instant, span.contains t = Text.startsWith t.write p) ∧
      ∀ (Record : Type) [Searchable Record] (name : String) (field : Searchable.Field Record)
        (caseSensitive : Bool) (record : Record) (t : Instant),
        Searchable.resolve? Record name = some field → Searchable.value record field = .date t →
          let onTimes : Filter := ⟨name, .contains, p, .date, caseSensitive⟩
          let onTexts : Filter := ⟨name, .startsWith, p, .string, true⟩
          (Selection.ofFilter (some onTimes) : Selection Record).keeps record =
            (Selection.ofFilter (some onTexts) : Selection Record).keeps record := by
  obtain ⟨span, read, period⟩ := exists_read?_of_calendarPrefix names
  rw [String.ofList_toList] at read
  have begins (t : Instant) : span.contains t = Text.startsWith t.write p := by
    rw [Bool.eq_iff_iff, period t, Text.startsWith, Instant.write, String.toList_ofList,
      List.isPrefixOf_iff_prefix]
  refine ⟨⟨span, read, begins⟩, ?_⟩
  intro Record _ name field caseSensitive record t named value onTimes onTexts
  have times : onTimes.operator ≠ .unsupported := nofun
  have texts : onTexts.operator ≠ .unsupported := nofun
  rw [Selection.keeps_ofFilter times named, Selection.keeps_ofFilter texts named, value]
  calc onTimes.passes .contains (.date t)
    _ = span.contains t := onTimes.passes_date rfl read .contains (.date t)
    _ = Text.startsWith t.write p := begins t
    _ = onTexts.passes .startsWith (.date t) := (onTexts.passes_startsWith rfl rfl rfl).symm

/-- The last day of 2016 has the leap second at its end. -/
theorem prefix_filters_agree_leapSecond :
    let leapSecond : Instant :=
      ⟨⟨2016, 12, 31, by decide, by decide, by decide, by decide⟩, 86399, 1500000000, by decide,
        by decide, by decide⟩
    let late : Media := { picture 0 with uploadedAt := leapSecond }
    let onTimes : Selection Media :=
      .ofFilter (some ⟨"uploadedAt", .contains, "2016-12-31", .date, false⟩)
    let onTexts : Selection Media :=
      .ofFilter (some ⟨"uploadedAt", .startsWith, "2016-12-31", .string, true⟩)
    CalendarPrefix "2016-12-31".toList ∧ leapSecond.write = "2016-12-31T23:59:60.500Z" ∧
      onTimes.keeps late = onTexts.keeps late ∧ onTexts.keeps late = true := by
  intro leapSecond late onTimes onTexts
  have years : Text.Numeral 4 2016 ['2', '0', '1', '6'] := ⟨List.all_eq_true.mp rfl, rfl, rfl⟩
  have months : Text.Numeral 2 12 ['1', '2'] := ⟨List.all_eq_true.mp rfl, rfl, rfl⟩
  have days : Text.Numeral 2 31 ['3', '1'] := ⟨List.all_eq_true.mp rfl, rfl, rfl⟩
  have names : CalendarPrefix "2016-12-31".toList := .day years months days (by decide) (by decide)
  refine ⟨names, by decide +kernel, ?_, by decide +kernel⟩
  exact (prefix_filters_agree names).2 Media "uploadedAt" _ false late leapSecond rfl rfl

end Query

end ContentService
