import ContentService.Proofs.Query.ValueOrder
import ContentService.Query.Span

/-! # Spans run forward

The day after a day is later, the first day of the next month is later than the days of the month,
and so every period that a text names begins before it ends. Each instant is therefore before such a
span, in it or behind it, and not two of these.
-/

namespace ContentService

open Std

namespace Date

theorem eq_of_ofNumbers? {year : Int} {month day : Nat} {d : Date}
    (given : ofNumbers? year month day = some d) :
    d.year = year ∧ d.month = month ∧ d.day = day := by
  unfold ofNumbers? at given
  split at given
  · cases given
    exact ⟨rfl, rfl, rfl⟩
  · exact nomatch given

theorem order_of_year {a b : Date} (earlier : a.year < b.year) : a.order b = .lt := by
  rw [order, Int.compare_eq_lt.mpr earlier]
  rfl

theorem order_of_month {a b : Date} (same : a.year = b.year) (earlier : a.month < b.month) :
    a.order b = .lt := by
  rw [order, Int.compare_eq_eq.mpr same, Nat.compare_eq_lt.mpr earlier]
  rfl

theorem order_of_day {a b : Date} (sameYear : a.year = b.year) (sameMonth : a.month = b.month)
    (earlier : a.day < b.day) : a.order b = .lt := by
  rw [order, Int.compare_eq_eq.mpr sameYear, Nat.compare_eq_eq.mpr sameMonth,
    Nat.compare_eq_lt.mpr earlier]
  rfl

/-- The next month begins behind the days of a month. -/
theorem order_startOfNextMonth {d later : Date}
    (next : startOfNextMonth? d.year d.month = some later) : d.order later = .lt := by
  unfold startOfNextMonth? at next
  split at next
  · obtain ⟨year, month, -⟩ := eq_of_ofNumbers? next
    exact order_of_month year.symm (by omega)
  · obtain ⟨year, -⟩ := eq_of_ofNumbers? next
    exact order_of_year (by omega)

/-- The day after is later. -/
theorem order_next {d later : Date} (next : d.next? = some later) : d.order later = .lt := by
  rcases Option.or_eq_some_iff.mp next with within | ⟨-, beyond⟩
  · obtain ⟨year, month, day⟩ := eq_of_ofNumbers? within
    exact order_of_day year.symm month.symm (by omega)
  · exact order_startOfNextMonth beyond

end Date

theorem Instant.order_startOfDay (a b : Date) :
    (Instant.startOfDay a).order (.startOfDay b) = a.order b := by
  change (a.order b).then .eq = _
  exact Ordering.then_eq

namespace Query.Span

/-- A period that begins before it ends; an instant has no length. -/
def Forward : Span → Prop
  | .instant _ => True
  | .period start stop => start.order stop = .lt

theorem forward_days {first afterLast : Date} (earlier : first.order afterLast = .lt) :
    (days first afterLast).Forward :=
  (Instant.order_startOfDay first afterLast).trans earlier

/-- A date and a clock reading are an instant. -/
theorem exists_instant_of_readMoment? {cs : List Char} {span : Span}
    (read : readMoment? cs = some span) : ∃ t, span = .instant t := by
  simp only [readMoment?, Option.or_eq_some_iff, Option.map_eq_some_iff] at read
  rcases read with ⟨t, -, rfl⟩ | ⟨-, ⟨t, -, rfl⟩ | ⟨-, t, -, rfl⟩⟩
  all_goals exact ⟨t, rfl⟩

theorem forward_readCalendar {cs : List Char} {span : Span} (read : readCalendar? cs = some span) :
    span.Forward := by
  obtain ⟨year, -, read⟩ := Option.bind_eq_some_iff.mp read
  split at read
  · obtain ⟨first, begins, read⟩ := Option.bind_eq_some_iff.mp read
    obtain ⟨afterLast, ends, read⟩ := Option.bind_eq_some_iff.mp read
    cases read
    have start := (Date.eq_of_ofNumbers? begins).1
    have stop := (Date.eq_of_ofNumbers? ends).1
    exact forward_days (Date.order_of_year (by omega))
  · split at read
    · exact nomatch read
    · obtain ⟨month, -, read⟩ := Option.bind_eq_some_iff.mp read
      obtain ⟨first, begins, read⟩ := Option.bind_eq_some_iff.mp read
      obtain ⟨afterLast, ends, read⟩ := Option.bind_eq_some_iff.mp read
      cases read
      obtain ⟨rfl, rfl, -⟩ := Date.eq_of_ofNumbers? begins
      exact forward_days (Date.order_startOfNextMonth ends)

/-- What a text names runs forward. -/
theorem forward_read {s : String} {span : Span} (read : read? s = some span) : span.Forward := by
  unfold read? at read
  dsimp only at read
  split at read
  · rename_i moment
    cases read
    obtain ⟨t, rfl⟩ := exists_instant_of_readMoment? moment
    trivial
  · split at read
    · obtain ⟨later, next, rfl⟩ := Option.map_eq_some_iff.mp read
      exact forward_days (Date.order_next next)
    · exact forward_readCalendar read

/-- An instant is in a span that it is neither before nor behind. -/
theorem contains_eq (span : Span) (t : Instant) :
    span.contains t = (!span.isAfter t && !span.isBefore t) := by
  cases span with
  | instant i =>
      have turned : i.order t = (t.order i).swap := OrientedCmp.eq_swap
      simp only [contains, isAfter, isBefore, Instant.before, turned]
      cases t.order i <;> rfl
  | period start stop =>
      have turnedStart : start.order t = (t.order start).swap := OrientedCmp.eq_swap
      have turnedStop : stop.order t = (t.order stop).swap := OrientedCmp.eq_swap
      simp only [contains, isAfter, isBefore, Instant.before, turnedStart, turnedStop]
      cases t.order start <;> cases t.order stop <;> rfl

/-- No instant is both before and behind a span that runs forward. -/
theorem Forward.isAfter_eq_false {span : Span} (forward : span.Forward) {t : Instant}
    (behind : span.isBefore t = true) : span.isAfter t = false := by
  cases span with
  | instant i =>
      have later : i.order t = .lt := beq_iff_eq.mp behind
      have turned : t.order i = (i.order t).swap := OrientedCmp.eq_swap
      simp only [isAfter, Instant.before, turned, later]
      rfl
  | period start stop =>
      have later : start.order t = .lt := TransCmp.lt_of_lt_of_isLE forward behind
      have turned : t.order start = (start.order t).swap := OrientedCmp.eq_swap
      simp only [isAfter, Instant.before, turned, later]
      rfl

/-- Where an instant stands to a span: before it, in it or behind it. -/
def place (span : Span) (t : Instant) : Ordering :=
  if span.isAfter t then .lt else if span.isBefore t then .gt else .eq

/-- A later instant does not stand before an earlier one. -/
theorem isAfter_of_isLE {span : Span} {s t : Instant} (ordered : (s.order t).isLE)
    (before : span.isAfter t = true) : span.isAfter s = true := by
  cases span with
  | instant i | period i _ =>
      simp only [isAfter, Instant.before, beq_iff_eq] at before ⊢
      exact TransCmp.lt_of_isLE_of_lt ordered before

theorem isBefore_of_isLE {span : Span} {s t : Instant} (ordered : (s.order t).isLE)
    (behind : span.isBefore s = true) : span.isBefore t = true := by
  cases span with
  | instant i =>
      simp only [isBefore, Instant.before, beq_iff_eq] at behind ⊢
      exact TransCmp.lt_of_lt_of_isLE behind ordered
  | period start stop => exact TransCmp.isLE_trans behind ordered

end Query.Span

end ContentService
