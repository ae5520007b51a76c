import ContentService.Proofs.Calendar.Zones

/-! # What a date is scanned from

Dates are scanned more freely than they are written. A year has up to four digits, or a sign and any
number of them; a month and a day have one digit or two, behind any white space. These are all the
texts that are scanned as a date (`ContentService.scanDate_eq_some_nil_iff`), and a text in strict
notation begins with one of them and goes on.
-/

namespace ContentService

open Text

/-- A year of a free width: up to four digits, or a sign and any number of digits. -/
inductive LooseYear : Int → List Char → Prop
  | plain {width n : Nat} {ds : List Char} (positive : 1 ≤ width) (few : width ≤ 4)
      (numeral : Numeral width n ds) : LooseYear n ds
  | plus {width n : Nat} {ds : List Char} (positive : 1 ≤ width) (numeral : Numeral width n ds) :
      LooseYear n ('+' :: ds)
  | minus {width n : Nat} {ds : List Char} (positive : 1 ≤ width) (numeral : Numeral width n ds) :
      LooseYear (-n) ('-' :: ds)

/-- A month or a day of a free width: one digit or two, behind any white space. -/
inductive LooseField (n : Nat) : List Char → Prop
  | mk {width : Nat} {blanks ds : List Char} (skipped : ∀ c ∈ blanks, isBlank c = true)
      (positive : 1 ≤ width) (few : width ≤ 2) (numeral : Numeral width n ds) :
      LooseField n (blanks ++ ds)

theorem Text.Numeral.looseField {width n : Nat} {cs : List Char} (numeral : Numeral width n cs)
    (positive : 1 ≤ width) (few : width ≤ 2) : LooseField n cs := by
  have skipped : ∀ c ∈ ([] : List Char), isBlank c = true := nofun
  exact .mk skipped positive few numeral

/-! ## Fields -/

theorem eq_cons_of_scanChar {expected : Char} {cs rest : List Char}
    (scanned : scanChar expected cs = some rest) : cs = expected :: rest := by
  cases cs with
  | nil => exact nomatch scanned
  | cons c cs =>
      rw [scanChar] at scanned
      split at scanned
      · rename_i same
        rw [same, Option.some.inj scanned]
      · exact nomatch scanned

/-- The digits that are scanned are the beginning of the text. -/
theorem numeral_of_scanNumber {least most n : Nat} {cs rest : List Char}
    (scanned : scanNumber least most cs = some (n, rest)) :
    ∃ width ds, cs = ds ++ rest ∧ least ≤ width ∧ width ≤ most ∧ Numeral width n ds := by
  unfold scanNumber at scanned
  dsimp only at scanned
  split at scanned
  · exact nomatch scanned
  rename_i enough
  obtain ⟨rfl, rfl⟩ := Prod.mk.inj (Option.some.inj scanned)
  have short : ((cs.take most).takeWhile isDigit).length ≤ most :=
    (List.takeWhile_prefix isDigit).length_le.trans (List.length_take_le most cs)
  have front : (cs.take most).takeWhile isDigit <+: cs :=
    (List.takeWhile_prefix isDigit).trans (List.take_prefix most cs)
  exact ⟨_, _, (List.prefix_iff_eq_append.mp front).symm, Nat.not_lt.mp enough, short,
    fun _ => List.mem_takeWhile_imp, rfl, rfl⟩

theorem exists_blanks_skipBlanks (cs : List Char) :
    ∃ blanks, cs = blanks ++ skipBlanks cs ∧ ∀ c ∈ blanks, isBlank c = true :=
  ⟨cs.takeWhile isBlank, List.takeWhile_append_dropWhile.symm, fun _ => List.mem_takeWhile_imp⟩

theorem skipBlanks_blanks_append {blanks rest : List Char}
    (skipped : ∀ c ∈ blanks, isBlank c = true) (solid : ∀ c ∈ rest.head?, isBlank c = false) :
    skipBlanks (blanks ++ rest) = rest := by
  rw [skipBlanks, List.dropWhile_append_of_pos skipped, dropWhile_of_head solid]

theorem Text.Numeral.head_solid {width n : Nat} {ds : List Char} (numeral : Numeral width n ds)
    (positive : 1 ≤ width) (rest : List Char) : ∀ c ∈ (ds ++ rest).head?, isBlank c = false := by
  obtain ⟨c, ds, rfl⟩ := List.exists_cons_of_ne_nil (numeral.ne_nil positive)
  rintro _ ⟨⟩
  exact isBlank_of_digit (numeral.digits c List.mem_cons_self)

theorem Text.Numeral.scanNumber_of_noDigit {width n least most : Nat} {ds rest : List Char}
    (numeral : Numeral width n ds) (enough : least ≤ width) (few : width ≤ most)
    (ends : NoDigit rest) : scanNumber least most (ds ++ rest) = some (n, rest) := by
  obtain ⟨digits, rfl, rfl⟩ := numeral
  exact scanNumber_append digits enough few (.inr ends)

/-- A field is scanned from one digit or two behind white space, and from nothing else. -/
theorem looseField_of_scanShort {n : Nat} {cs rest : List Char}
    (scanned : scanShort cs = some (n, rest)) : ∃ ms, cs = ms ++ rest ∧ LooseField n ms := by
  obtain ⟨blanks, whole, skipped⟩ := exists_blanks_skipBlanks cs
  obtain ⟨width, ds, behind, positive, few, numeral⟩ := numeral_of_scanNumber scanned
  refine ⟨blanks ++ ds, ?_, .mk skipped positive few numeral⟩
  rw [whole, behind, List.append_assoc]

theorem LooseField.scanShort {n : Nat} {ms rest : List Char} (field : LooseField n ms)
    (ends : NoDigit rest) : scanShort (ms ++ rest) = some (n, rest) := by
  obtain ⟨skipped, positive, few, numeral⟩ := field
  rw [ContentService.scanShort, List.append_assoc,
    skipBlanks_blanks_append skipped (numeral.head_solid positive rest)]
  exact numeral.scanNumber_of_noDigit positive few ends

/-- A year is scanned from digits with or without a sign, and from nothing else. -/
theorem looseYear_of_scanYear {year : Int} {cs rest : List Char}
    (scanned : scanYear cs = some (year, rest)) :
    ∃ ys, skipBlanks cs = ys ++ rest ∧ LooseYear year ys := by
  unfold scanYear at scanned
  split at scanned
  all_goals
    obtain ⟨⟨n, left⟩, number, same⟩ := Option.map_eq_some_iff.mp scanned
    obtain ⟨rfl, rfl⟩ := Prod.mk.inj same
    obtain ⟨width, ds, front, positive, few, numeral⟩ := numeral_of_scanNumber number
  · rename_i sign
    exact ⟨'-' :: ds, by rw [sign, front, List.cons_append], .minus positive numeral⟩
  · rename_i sign
    exact ⟨'+' :: ds, by rw [sign, front, List.cons_append], .plus positive numeral⟩
  · exact ⟨ds, front, .plain positive few numeral⟩

theorem LooseYear.scanYear {year : Int} {ys rest : List Char} (years : LooseYear year ys)
    (ends : NoDigit rest) : scanYear (ys ++ rest) = some (year, rest) := by
  cases years with
  | @plain width n _ positive few numeral =>
      have scanned := numeral.scanNumber_of_noDigit positive few ends
      have solid := numeral.head_solid positive rest
      obtain ⟨c, ds, rfl⟩ := List.exists_cons_of_ne_nil (numeral.ne_nil positive)
      have digit := numeral.digits c List.mem_cons_self
      rw [ContentService.scanYear, skipBlanks, dropWhile_of_head solid]
      split
      · rename_i sign
        rw [(List.cons.inj sign).1] at digit
        exact absurd digit (by decide)
      · rename_i sign
        rw [(List.cons.inj sign).1] at digit
        exact absurd digit (by decide)
      · rw [scanned, Option.map_some]
  | @plus _ n ds positive numeral | @minus _ n ds positive numeral =>
      have scanned : scanNumber 1 (ds ++ rest).length (ds ++ rest) = some (n, rest) :=
        numeral.scanNumber_of_noDigit positive (by rw [List.length_append, numeral.length]; omega)
          ends
      simp only [List.cons_append, ContentService.scanYear,
        skipBlanks_cons (c := '+') (by decide), skipBlanks_cons (c := '-') (by decide), scanned,
        Option.map_some]

/-! ## Dates -/

/-- A date is scanned from three fields joined by hyphens. -/
theorem fields_of_scanDate {year : Int} {month day : Nat} {cs rest : List Char}
    (scanned : scanDate cs = some ((year, month, day), rest)) :
    ∃ ys ms ds, skipBlanks cs = ys ++ '-' :: (ms ++ '-' :: (ds ++ rest)) ∧ LooseYear year ys ∧
      LooseField month ms ∧ LooseField day ds := by
  obtain ⟨⟨y, afterYear⟩, years, scanned⟩ := Option.bind_eq_some_iff.mp scanned
  obtain ⟨beforeMonth, firstHyphen, scanned⟩ := Option.bind_eq_some_iff.mp scanned
  obtain ⟨⟨m, afterMonth⟩, months, scanned⟩ := Option.bind_eq_some_iff.mp scanned
  obtain ⟨beforeDay, secondHyphen, scanned⟩ := Option.bind_eq_some_iff.mp scanned
  obtain ⟨⟨d, afterDay⟩, days, scanned⟩ := Option.bind_eq_some_iff.mp scanned
  cases scanned
  obtain ⟨ys, front, looseYear⟩ := looseYear_of_scanYear years
  obtain rfl := eq_cons_of_scanChar firstHyphen
  obtain ⟨ms, rfl, looseMonth⟩ := looseField_of_scanShort months
  obtain rfl := eq_cons_of_scanChar secondHyphen
  obtain ⟨ds, rfl, looseDay⟩ := looseField_of_scanShort days
  exact ⟨ys, ms, ds, front, looseYear, looseMonth, looseDay⟩

theorem scanDate_fields {year : Int} {month day : Nat} {ys ms ds rest : List Char}
    (years : LooseYear year ys) (months : LooseField month ms) (days : LooseField day ds)
    (ends : NoDigit rest) :
    scanDate (ys ++ '-' :: (ms ++ '-' :: (ds ++ rest))) = some ((year, month, day), rest) := by
  refine (bind_of_eq_some (years.scanYear (noDigit_cons (by decide)))).trans ?_
  refine (bind_of_eq_some (scanChar_cons _ _)).trans ?_
  refine (bind_of_eq_some (months.scanShort (noDigit_cons (by decide)))).trans ?_
  refine (bind_of_eq_some (scanChar_cons _ _)).trans ?_
  exact (bind_of_eq_some (days.scanShort ends)).trans rfl

/-- The texts without white space in front that are a date and nothing else. -/
theorem scanDate_eq_some_nil_iff {year : Int} {month day : Nat} {cs : List Char}
    (trimmed : skipBlanks cs = cs) :
    scanDate cs = some ((year, month, day), []) ↔
      ∃ ys ms ds, cs = ys ++ '-' :: (ms ++ '-' :: ds) ∧ LooseYear year ys ∧ LooseField month ms ∧
        LooseField day ds := by
  constructor
  · intro scanned
    obtain ⟨ys, ms, ds, whole, years, months, days⟩ := fields_of_scanDate scanned
    rw [trimmed, List.append_nil] at whole
    exact ⟨ys, ms, ds, whole, years, months, days⟩
  · rintro ⟨ys, ms, ds, rfl, years, months, days⟩
    simpa only [List.append_nil] using scanDate_fields years months days noDigit_nil

/-- A text with a date in front has two hyphens. -/
theorem two_le_count_of_scanDate {date : Int × Nat × Nat} {cs rest : List Char}
    (scanned : scanDate cs = some (date, rest)) : 2 ≤ cs.count '-' := by
  obtain ⟨ys, ms, ds, whole, -⟩ := fields_of_scanDate scanned
  obtain ⟨blanks, front, -⟩ := exists_blanks_skipBlanks cs
  rw [front, whole]
  simp only [List.count_append, List.count_cons_self]
  omega

/-- Between the date and the clock reading stands a character that is no digit. -/
theorem noDigit_of_scanSeparator {cs rest : List Char} (scanned : scanSeparator cs = some rest) :
    cs ≠ [] ∧ NoDigit cs := by
  cases cs with
  | nil => cases scanned
  | cons c cs =>
      rw [scanSeparator] at scanned
      split at scanned
      · rename_i separates
        refine ⟨List.cons_ne_nil c cs, noDigit_cons ?_⟩
        rcases separates with rfl | rfl | rfl <;> decide
      · cases scanned

/-- A text in strict notation begins with a date and goes on. -/
theorem Instant.exists_scanDate_of_readStrict? {cs : List Char} {t : Instant}
    (read : readStrict? cs = some t) :
    ∃ date rest, scanDate cs = some (date, rest) ∧ rest ≠ [] := by
  obtain ⟨⟨y, afterYear⟩, years, read⟩ := Option.bind_eq_some_iff.mp read
  obtain ⟨beforeMonth, firstHyphen, read⟩ := Option.bind_eq_some_iff.mp read
  obtain ⟨⟨m, afterMonth⟩, months, read⟩ := Option.bind_eq_some_iff.mp read
  obtain ⟨beforeDay, secondHyphen, read⟩ := Option.bind_eq_some_iff.mp read
  obtain ⟨⟨d, afterDay⟩, days, read⟩ := Option.bind_eq_some_iff.mp read
  obtain ⟨clock, separated, -⟩ := Option.bind_eq_some_iff.mp read
  obtain ⟨goesOn, ends⟩ := noDigit_of_scanSeparator separated
  obtain ⟨yearWidth, ys, rfl, four, notMore, yearDigits⟩ := numeral_of_scanNumber years
  obtain rfl := eq_cons_of_scanChar firstHyphen
  obtain ⟨monthWidth, ms, rfl, two, few, monthDigits⟩ := numeral_of_scanNumber months
  obtain rfl := eq_cons_of_scanChar secondHyphen
  obtain ⟨dayWidth, ds, rfl, alsoTwo, alsoFew, dayDigits⟩ := numeral_of_scanNumber days
  have year : LooseYear y ys := .plain (by omega) notMore yearDigits
  exact ⟨_, _, scanDate_fields year (monthDigits.looseField (by omega) few)
    (dayDigits.looseField (by omega) alsoFew) ends, goesOn⟩

end ContentService
