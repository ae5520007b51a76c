import ContentService.Proofs.Calendar.ReadBack
import ContentService.Proofs.Query.Spans
import Mathlib.Order.Monotone.Basic
import Mathlib.Tactic.IntervalCases

/-! # Days and seconds are counted

The days of the calendar are numbered one by one, so chronological order is the order of numbers and
the day after has the next number. On top of it the seconds are counted, leap seconds left out: a
clock that is put forward or back by minutes shows a time that many seconds later or earlier.
-/

namespace ContentService

open Std

namespace Date

/-! ## The number of a day -/

/-- The days between the beginnings of the year 1 and of a year; negative for earlier years. -/
def daysBeforeYear (year : Int) : Int :=
  365 * (year - 1) + (year - 1) / 4 - (year - 1) / 100 + (year - 1) / 400

/-- The days of a year before a month begins. -/
def daysBeforeMonth (year : Int) : Nat → Nat
  | 0 => 0
  | month + 1 => daysBeforeMonth year month + daysInMonth year month

/-- The number of a day; the first day of the year 1 has the number 1. -/
def count (d : Date) : Int :=
  daysBeforeYear d.year + daysBeforeMonth d.year d.month + d.day

theorem daysBeforeMonth_end (year : Int) :
    daysBeforeMonth year 13 = if isLeapYear year then 366 else 365 := by
  simp only [daysBeforeMonth, daysInMonth]
  split <;> rfl

theorem daysBeforeMonth_mono (year : Int) : Monotone (daysBeforeMonth year) :=
  monotone_nat_of_le_succ fun _ => Nat.le_add_right _ _

/-- A year is followed by the next after all its days. -/
theorem daysBeforeYear_succ (year : Int) :
    daysBeforeYear (year + 1) = daysBeforeYear year + daysBeforeMonth year 13 := by
  rw [daysBeforeMonth_end]
  simp only [daysBeforeYear]
  split <;> rename_i leap <;>
    simp only [isLeapYear, Bool.and_eq_true, Bool.or_eq_true, beq_iff_eq, bne_iff_ne] at leap <;>
    omega

theorem daysBeforeYear_mono {a b : Int} (le : a ≤ b) : daysBeforeYear a ≤ daysBeforeYear b := by
  simp only [daysBeforeYear]
  omega

theorem month_pos (d : Date) : 1 ≤ d.month := by
  by_contra none
  have zero : d.month = 0 := by omega
  have days : daysInMonth d.year d.month = 0 := by rw [zero]; rfl
  have := d.day_pos
  have := d.day_le
  omega

/-- A day lies before the end of its month. -/
theorem daysBeforeMonth_add_day_le (d : Date) :
    daysBeforeMonth d.year d.month + d.day ≤ daysBeforeMonth d.year (d.month + 1) :=
  Nat.add_le_add_left d.day_le _

/-- A day lies before the end of its year. -/
theorem count_le_end (d : Date) : d.count ≤ daysBeforeYear (d.year + 1) := by
  have within := d.daysBeforeMonth_add_day_le
  have later : daysBeforeMonth d.year (d.month + 1) ≤ daysBeforeMonth d.year 13 :=
    daysBeforeMonth_mono d.year (Nat.succ_le_succ d.month_le)
  rw [daysBeforeYear_succ, count]
  omega

/-! ## Order -/

theorem order_eq_lt_iff {a b : Date} :
    a.order b = .lt ↔ a.year < b.year ∨ a.year = b.year ∧
      (a.month < b.month ∨ a.month = b.month ∧ a.day < b.day) := by
  simp only [order, Ordering.then_eq_lt, Int.compare_eq_lt, Int.compare_eq_eq, Nat.compare_eq_lt,
    Nat.compare_eq_eq]

theorem eq_iff {a b : Date} : a = b ↔ a.year = b.year ∧ a.month = b.month ∧ a.day = b.day := by
  constructor
  · rintro rfl
    exact ⟨rfl, rfl, rfl⟩
  · rintro ⟨year, month, day⟩
    cases a
    cases b
    cases year
    cases month
    cases day
    rfl

theorem eq_of_order_eq {a b : Date} (same : a.order b = .eq) : a = b := by
  simp only [order, Ordering.then_eq_eq, Int.compare_eq_eq, Nat.compare_eq_eq] at same
  exact eq_iff.mpr same

theorem count_lt_of_order {a b : Date} (earlier : a.order b = .lt) : a.count < b.count := by
  have positive := b.day_pos
  rcases order_eq_lt_iff.mp earlier with year | ⟨year, month | ⟨month, day⟩⟩
  · have ends := a.count_le_end
    have begins := daysBeforeYear_mono (show a.year + 1 ≤ b.year from year)
    simp only [count] at ends ⊢
    omega
  · have ends := a.daysBeforeMonth_add_day_le
    have begins := daysBeforeMonth_mono a.year (show a.month + 1 ≤ b.month from month)
    simp only [count, ← year]
    omega
  · simp only [count, ← year, ← month]
    omega

/-- Chronological order is the order of numbers. -/
theorem order_eq_compare (a b : Date) : a.order b = compare a.count b.count := by
  cases place : a.order b with
  | lt => exact (Int.compare_eq_lt.mpr (count_lt_of_order place)).symm
  | eq => exact (Int.compare_eq_eq.mpr (congrArg count (eq_of_order_eq place))).symm
  | gt =>
      have earlier : b.order a = .lt := OrientedCmp.lt_of_gt place
      exact (Int.compare_eq_gt.mpr (count_lt_of_order earlier)).symm

theorem count_injective : Function.Injective count := fun a b same =>
  eq_of_order_eq ((order_eq_compare a b).trans (Int.compare_eq_eq.mpr same))

/-! ## Neighbours -/

theorem exists_ofNumbers? {year : Int} {month day : Nat} (ge : firstYear ≤ year)
    (le : year ≤ lastYear) (positive : 1 ≤ day) (small : day ≤ daysInMonth year month) :
    ∃ d, ofNumbers? year month day = some d :=
  ⟨_, dif_pos ⟨ge, le, positive, small⟩⟩

theorem daysInMonth_pos {year : Int} {month : Nat} (positive : 1 ≤ month) (le : month ≤ 12) :
    1 ≤ daysInMonth year month := by
  interval_cases month <;> simp only [daysInMonth] <;> (try split) <;> decide

theorem exists_startOfMonth {year : Int} {month : Nat} (ge : firstYear ≤ year)
    (le : year ≤ lastYear) (positive : 1 ≤ month) (small : month ≤ 12) :
    ∃ d, ofNumbers? year month 1 = some d :=
  exists_ofNumbers? ge le (Nat.le_refl 1) (daysInMonth_pos positive small)

/-- The next month begins behind the days of a month. -/
theorem count_startOfNextMonth {year : Int} {month : Nat} {later : Date} (le : month ≤ 12)
    (next : startOfNextMonth? year month = some later) :
    later.count = daysBeforeYear year + daysBeforeMonth year (month + 1) + 1 := by
  unfold startOfNextMonth? at next
  split at next
  · obtain ⟨sameYear, sameMonth, first⟩ := eq_of_ofNumbers? next
    rw [count, sameYear, sameMonth, first]
    rfl
  · obtain ⟨nextYear, january, first⟩ := eq_of_ofNumbers? next
    have december : month + 1 = 13 := by omega
    have none : daysBeforeMonth (year + 1) 1 = 0 := rfl
    rw [count, nextYear, january, first, daysBeforeYear_succ, none, december]
    omega

theorem count_next {d later : Date} (next : d.next? = some later) : later.count = d.count + 1 := by
  rcases Option.or_eq_some_iff.mp next with within | ⟨ends, beyond⟩
  · obtain ⟨year, month, day⟩ := eq_of_ofNumbers? within
    rw [count, count, year, month, day]
    omega
  · have last : d.day = daysInMonth d.year d.month := by
      have := d.day_le
      by_contra more
      obtain ⟨_, given⟩ := exists_ofNumbers? d.year_ge d.year_le (Nat.succ_pos d.day)
        (show d.day + 1 ≤ daysInMonth d.year d.month by omega)
      exact nomatch ends.symm.trans given
    rw [count_startOfNextMonth d.month_le beyond, count, last]
    rw [daysBeforeMonth]
    omega

/-- There is a month after every month but the last. -/
theorem exists_startOfNextMonth {year : Int} {month : Nat} (ge : firstYear ≤ year)
    (le : year ≤ lastYear) (room : 12 ≤ month → year < lastYear) :
    ∃ later, startOfNextMonth? year month = some later := by
  unfold startOfNextMonth?
  split
  · exact exists_startOfMonth ge le (Nat.succ_pos _) (by omega)
  · have := room (by omega)
    exact exists_startOfMonth (by omega) (by omega) (Nat.le_refl 1) (by decide)

/-- There is a day after every day but the last. -/
theorem exists_next {d later : Date} (earlier : d.order later = .lt) :
    ∃ next, d.next? = some next := by
  by_cases more : d.day + 1 ≤ daysInMonth d.year d.month
  · obtain ⟨next, given⟩ := exists_ofNumbers? d.year_ge d.year_le (Nat.succ_pos d.day) more
    exact ⟨next, by rw [next?, given]; rfl⟩
  have room : 12 ≤ d.month → d.year < lastYear := by
    intro late
    have december : d.month = 12 := Nat.le_antisymm d.month_le late
    have full : daysInMonth d.year d.month = 31 := by rw [december]; rfl
    have := later.year_le
    have := later.month_le
    have := later.day_le_31
    have := order_eq_lt_iff.mp earlier
    omega
  obtain ⟨next, given⟩ := exists_startOfNextMonth d.year_ge d.year_le room
  exact ⟨next, by rw [next?, given, ofNumbers?, dif_neg (by omega)]; rfl⟩

theorem exists_next_of_year_lt {d : Date} (earlier : d.year < lastYear) :
    ∃ next, d.next? = some next := by
  have := d.year_ge
  obtain ⟨later, begins⟩ : ∃ later, ofNumbers? (d.year + 1) 1 1 = some later :=
    exists_startOfMonth (by omega) (by omega) (Nat.le_refl 1) (by decide)
  have behind : d.year < later.year := by
    rw [(eq_of_ofNumbers? begins).1]
    omega
  exact exists_next (order_eq_lt_iff.mpr (.inl behind))

/-- The day after is the day with the next number. -/
theorem next?_eq_some_iff {d later : Date} : d.next? = some later ↔ later.count = d.count + 1 := by
  constructor
  · exact count_next
  · intro following
    have earlier : d.order later = .lt := by
      rw [order_eq_compare, Int.compare_eq_lt]
      omega
    obtain ⟨next, given⟩ := exists_next earlier
    rw [given, count_injective ((count_next given).trans following.symm)]

/-- There is a day before every day but the first. -/
theorem exists_previous {d earlier : Date} (later : earlier.order d = .lt) :
    ∃ previous, d.previous? = some previous := by
  have := d.day_pos
  have := d.day_le
  have := d.month_le
  have := d.month_pos
  unfold previous?
  split
  · exact exists_ofNumbers? d.year_ge d.year_le (by omega) (by omega)
  split
  · exact exists_ofNumbers? d.year_ge d.year_le (daysInMonth_pos (by omega) (by omega))
      (Nat.le_refl _)
  · have := d.year_le
    have := earlier.year_ge
    have := earlier.month_pos
    have := earlier.day_pos
    have := order_eq_lt_iff.mp later
    exact exists_ofNumbers? (by omega) (by omega) (by decide) (Nat.le_refl 31)

theorem count_previous {d earlier : Date} (previous : d.previous? = some earlier) :
    d.count = earlier.count + 1 := by
  have := d.day_pos
  have := d.month_pos
  unfold previous? at previous
  split at previous
  · obtain ⟨year, month, day⟩ := eq_of_ofNumbers? previous
    rw [count, count, year, month, day]
    omega
  have first : d.day = 1 := by omega
  split at previous
  · obtain ⟨year, month, day⟩ := eq_of_ofNumbers? previous
    obtain ⟨before, follows⟩ : ∃ before, d.month = before + 1 := ⟨d.month - 1, by omega⟩
    rw [count, count, year, month, day, first, follows, daysBeforeMonth, Nat.add_sub_cancel]
    omega
  · obtain ⟨year, month, day⟩ := eq_of_ofNumbers? previous
    have january : d.month = 1 := by omega
    have full : daysBeforeMonth earlier.year 13 = daysBeforeMonth earlier.year 12 + 31 := rfl
    have begins := daysBeforeYear_succ earlier.year
    rw [year, Int.sub_add_cancel, ← year] at begins
    rw [count, count, month, day, first, january, begins, full]
    have none : daysBeforeMonth d.year 1 = 0 := rfl
    omega

/-- The day before is the day with the number before. -/
theorem previous?_eq_some_iff {d earlier : Date} :
    d.previous? = some earlier ↔ d.count = earlier.count + 1 := by
  constructor
  · exact count_previous
  · intro following
    have later : earlier.order d = .lt := by
      rw [order_eq_compare, Int.compare_eq_lt]
      omega
    obtain ⟨previous, given⟩ := exists_previous later
    have same := count_previous given
    rw [given, count_injective (show previous.count = earlier.count by omega)]

end Date

namespace Instant

theorem order_eq_eq_iff {s t : Instant} : s.order t = .eq ↔ s = t := by
  constructor
  · intro same
    simp only [order, Ordering.then_eq_eq, Nat.compare_eq_eq] at same
    exact eq_of_parts (Date.eq_of_order_eq same.1) same.2.1 same.2.2
  · rintro rfl
    exact ReflCmp.compare_self

/-! ## The number of a second -/

/-- The number of the second in which an instant lies; a leap second is part of the one before. -/
def secondCount (t : Instant) : Int :=
  86400 * t.date.count + t.second

theorem eq_of_secondCount {s t : Instant} (second : s.secondCount = t.secondCount)
    (nano : s.nano = t.nano) : s = t := by
  have := s.second_lt
  have := t.second_lt
  simp only [secondCount] at second
  have date : s.date = t.date := Date.count_injective (by omega)
  rw [date] at second
  exact eq_of_parts date (by omega) nano

/-- A clock put forward by minutes shows what lies as many seconds later. -/
theorem plusMinutes?_eq_some_iff {t shown : Instant} {minutes : Nat} (small : minutes < 1440) :
    t.plusMinutes? minutes = some shown ↔
      shown.secondCount = t.secondCount + 60 * minutes ∧ shown.nano = t.nano := by
  have := t.second_lt
  have := shown.second_lt
  simp only [plusMinutes?, Nat.mod_eq_of_lt small]
  split
  · constructor
    · rintro ⟨⟩
      dsimp only [secondCount]
      omega
    · rintro ⟨second, nano⟩
      refine congrArg some (eq_of_secondCount ?_ nano.symm)
      simp only [secondCount] at second ⊢
      omega
  · simp only [Option.map_eq_some_iff, Date.next?_eq_some_iff]
    constructor
    · rintro ⟨tomorrow, following, rfl⟩
      dsimp only [secondCount]
      omega
    · rintro ⟨second, nano⟩
      simp only [secondCount] at second
      exact ⟨shown.date, by omega, eq_of_parts rfl (by dsimp only; omega) nano.symm⟩

/-- A clock put back by minutes shows what lies as many seconds earlier. -/
theorem minusMinutes?_eq_some_iff {t shown : Instant} {minutes : Nat} (small : minutes < 1440) :
    t.minusMinutes? minutes = some shown ↔
      t.secondCount = shown.secondCount + 60 * minutes ∧ shown.nano = t.nano := by
  have := t.second_lt
  have := shown.second_lt
  simp only [minusMinutes?, Nat.mod_eq_of_lt small]
  split
  · constructor
    · rintro ⟨⟩
      dsimp only [secondCount]
      omega
    · rintro ⟨second, nano⟩
      refine congrArg some (eq_of_secondCount ?_ nano.symm)
      simp only [secondCount] at second ⊢
      omega
  · simp only [Option.map_eq_some_iff, Date.previous?_eq_some_iff]
    constructor
    · rintro ⟨yesterday, following, rfl⟩
      dsimp only [secondCount]
      omega
    · rintro ⟨second, nano⟩
      simp only [secondCount] at second
      exact ⟨shown.date, by omega, eq_of_parts rfl (by dsimp only; omega) nano.symm⟩

/-- A clock put forward by an offset, which may be negative, shows what lies as many seconds later.
-/
theorem shift?_eq_some_iff {t shown : Instant} {minutes : Int} (small : minutes.natAbs < 1440) :
    t.shift? minutes = some shown ↔
      shown.secondCount = t.secondCount + 60 * minutes ∧ shown.nano = t.nano := by
  unfold shift?
  split
  · rw [plusMinutes?_eq_some_iff small, Int.natAbs_of_nonneg ‹_›]
  · rw [minusMinutes?_eq_some_iff small]
    omega

end Instant

end ContentService
