import ContentService.Proofs.Calendar.DayCount
import ContentService.Proofs.Text.Trimming

/-! # Times with a zone are read back

RFC 3339 writes a time as the date and clock reading of a place, with the offset of that place from
universal time. The strict notation reads every such text as the time that it was written for: the
parts are scanned one after the other, and the clock is put back by the offset.
-/

namespace ContentService

open Text

/-! ## Notations -/

/-- An offset in minutes east as a zone: the letter Z for none, or a sign, hours and minutes. -/
inductive WritesZone : Int → List Char → Prop
  | universal {letter : Char} (z : letter = 'Z' ∨ letter = 'z') : WritesZone 0 [letter]
  | east {hours minutes : Nat} (hours_lt : hours < 24) (minutes_lt : minutes < 60) :
      WritesZone (hours * 60 + minutes) ('+' :: writePadded 2 hours ++ ':' :: writePadded 2 minutes)
  | west {hours minutes : Nat} (hours_lt : hours < 24) (minutes_lt : minutes < 60) :
      WritesZone (-(hours * 60 + minutes))
        ('-' :: writePadded 2 hours ++ ':' :: writePadded 2 minutes)

/-- A date and clock reading with an offset as RFC 3339 writes it. -/
inductive Instant.Writes (shown : Instant) (offset : Int) : List Char → Prop
  | mk {separator : Char} {fraction zone : List Char}
      (separates : separator = 'T' ∨ separator = 't' ∨ separator = ' ')
      (fractions : WritesFraction shown.fraction fraction) (zones : WritesZone offset zone) :
      shown.Writes offset (writePadded 4 shown.date.year.natAbs ++
        '-' :: writePadded 2 shown.date.month ++ '-' :: writePadded 2 shown.date.day ++
        separator :: writePadded 2 shown.hour ++ ':' :: writePadded 2 shown.minute ++
        ':' :: writePadded 2 shown.clockSecond ++ fraction ++ zone)

/-- Whether RFC 3339 can write a year. -/
def Instant.FourDigitYear (t : Instant) : Prop :=
  0 ≤ t.date.year ∧ t.date.year ≤ 9999

/-- An offset as a sign, hours and minutes. -/
def writeZone (offset : Int) : List Char :=
  (if offset < 0 then '-' else '+') :: writePadded 2 (offset.natAbs / 60) ++
    ':' :: writePadded 2 (offset.natAbs % 60)

theorem writesZone_writeZone {offset : Int} (small : offset.natAbs < 1440) :
    WritesZone offset (writeZone offset) := by
  have hours_lt : offset.natAbs / 60 < 24 := by omega
  have minutes_lt : offset.natAbs % 60 < 60 := by omega
  unfold writeZone
  split
  · have parts : offset = -((offset.natAbs / 60 : Nat) * 60 + (offset.natAbs % 60 : Nat)) := by
      omega
    have west := WritesZone.west hours_lt minutes_lt
    rwa [← parts] at west
  · have parts : offset = (offset.natAbs / 60 : Nat) * 60 + (offset.natAbs % 60 : Nat) := by omega
    have east := WritesZone.east hours_lt minutes_lt
    rwa [← parts] at east

namespace Instant

theorem writeYear_eq {t : Instant} (year : t.FourDigitYear) :
    writeYear t.date.year = writePadded 4 t.date.year.natAbs := by
  rw [writeYear, if_neg (Int.not_lt.mpr year.1), if_neg (Int.not_lt.mpr year.2)]

/-- A date and clock reading followed by a zone is such a text. -/
theorem writes_writeLocal {shown : Instant} (year : shown.FourDigitYear) {offset : Int}
    {zone : List Char} (zones : WritesZone offset zone) :
    shown.Writes offset (shown.writeLocal ++ zone) := by
  have text := Writes.mk (.inl rfl) (writesFraction_writeFraction shown.clock_lt.2.2.2) zones
  simpa only [writeLocal, Date.write, writeClock, writeYear_eq year, List.append_assoc,
    List.cons_append] using text

/-- In universal time the zone is the letter Z. -/
theorem writes_writeChars {t : Instant} (year : t.FourDigitYear) : t.Writes 0 t.writeChars :=
  writes_writeLocal year (.universal (.inl rfl))

end Instant

/-! ## Scanning -/

/-- What follows a scan goes on from what was scanned. -/
theorem bind_of_eq_some {α β : Type} {scan : Option α} {a : α} {next : α → Option β}
    (scanned : scan = some a) : (scan >>= next) = next a := by
  rw [scanned]
  rfl

theorem scanOffset_signed {sign : Char} (signed : sign = '+' ∨ sign = '-') {hours minutes : Nat}
    (hours_lt : hours < 24) (minutes_lt : minutes < 60) :
    scanOffset (scanChar ':') (sign :: writePadded 2 hours ++ ':' :: writePadded 2 minutes) =
      some (if sign = '+' then (hours * 60 + minutes : Int) else -(hours * 60 + minutes), []) := by
  have first := scanNumber_writePadded (n := hours) (by decide) (by omega) (Nat.le_refl 2)
    (':' :: writePadded 2 minutes)
  have second := scanNumber_writePadded (n := minutes) (by decide) (by omega) (Nat.le_refl 2) []
  rw [List.append_nil] at second
  have letter : ¬(sign = 'Z' ∨ sign = 'z') := by rcases signed with rfl | rfl <;> decide
  have sane : ¬(sign ≠ '+' ∧ sign ≠ '-' ∧ sign ≠ Char.ofNat 0x2212) := fun other =>
    signed.elim other.1 other.2.1
  simp only [List.cons_append, scanOffset, if_neg letter, if_neg sane, first, second, scanChar_cons,
    Option.bind_eq_bind, Option.bind_some, minutes_lt, if_true]

namespace WritesZone

variable {offset : Int} {zone : List Char}

theorem scan (writes : WritesZone offset zone) :
    scanOffset (scanChar ':') zone = some (offset, []) := by
  cases writes with
  | universal z => rcases z with rfl | rfl <;> rfl
  | east hours_lt minutes_lt => exact scanOffset_signed (.inl rfl) hours_lt minutes_lt
  | west hours_lt minutes_lt => exact scanOffset_signed (.inr rfl) hours_lt minutes_lt

/-- A zone is less than a day ahead or behind. -/
theorem natAbs_lt (writes : WritesZone offset zone) : offset.natAbs < 1440 := by
  cases writes <;> omega

theorem endsFraction (writes : WritesZone offset zone) : EndsFraction zone := by
  cases writes with
  | universal z => rcases z with rfl | rfl <;> (rintro c ⟨⟩; decide)
  | east => rintro c ⟨⟩; decide
  | west => rintro c ⟨⟩; decide

theorem not_blank (writes : WritesZone offset zone) {c : Char} (member : c ∈ zone) :
    isBlank c = false := by
  cases writes with
  | universal z =>
      obtain rfl := List.mem_singleton.mp member
      rcases z with rfl | rfl <;> decide
  | east | west =>
      simp only [List.cons_append, List.mem_cons, List.mem_append] at member
      rcases member with rfl | digit | rfl | digit
      · decide
      · exact isBlank_of_digit (isDigit_of_mem_writePadded digit)
      · decide
      · exact isBlank_of_digit (isDigit_of_mem_writePadded digit)

theorem ne_nil (writes : WritesZone offset zone) : zone ≠ [] := by
  cases writes <;> exact List.cons_ne_nil _ _

end WritesZone

namespace Instant

/-! ## Reading -/

theorem Writes.trimChars {shown : Instant} {offset : Int} {text : List Char}
    (writes : shown.Writes offset text) : trimChars text = text := by
  obtain ⟨separates, fractions, zones⟩ := writes
  obtain ⟨c, cs, year, digit⟩ := exists_cons_writePadded 4 shown.date.year.natAbs
  refine trimChars_eq_self (fun first same => ?_) (fun last same => ?_)
  · simp only [year, List.cons_append, List.head?_cons, Option.mem_some_iff] at same
    exact same ▸ isBlank_of_digit digit
  · rw [List.getLast?_append_of_ne_nil _ zones.ne_nil] at same
    exact zones.not_blank (List.mem_of_getLast? same)

/-- A date and clock reading is read as the time when the clock is put back by the offset. -/
theorem Writes.readStrict? {shown : Instant} {offset : Int} {text : List Char}
    (writes : shown.Writes offset text) (year : shown.FourDigitYear) :
    readStrict? text = shown.shift? (-offset) := by
  obtain ⟨separates, fractions, zones⟩ := writes
  rename_i separator fraction zone
  obtain ⟨positive, few⟩ := year
  obtain ⟨hour_lt, minute_lt, second_le, -⟩ := shown.clock_lt
  have month_le := shown.date.month_le
  have day_le := shown.date.day_le_31
  have scanned (width n : Nat) (positive : 0 < width) (few : n < 10 ^ width) (rest : List Char) :
      scanNumber width width (writePadded width n ++ rest) = some (n, rest) :=
    scanNumber_writePadded positive few (Nat.le_refl width) rest
  have year := scanned 4 shown.date.year.natAbs (by decide) (by omega)
  have month := scanned 2 shown.date.month (by decide) (by omega)
  have day := scanned 2 shown.date.day (by decide) (by omega)
  have hour := scanned 2 shown.hour (by decide) (by omega)
  have minute := scanned 2 shown.minute (by decide) (by omega)
  have second := scanned 2 shown.clockSecond (by decide) (by omega)
  simp only [Instant.readStrict?, List.append_assoc, List.cons_append]
  refine (bind_of_eq_some (year _)).trans ?_
  refine (bind_of_eq_some (scanChar_cons _ _)).trans ?_
  refine (bind_of_eq_some (month _)).trans ?_
  refine (bind_of_eq_some (scanChar_cons _ _)).trans ?_
  refine (bind_of_eq_some (day _)).trans ?_
  refine (bind_of_eq_some (if_pos separates)).trans ?_
  refine (bind_of_eq_some (hour _)).trans ?_
  refine (bind_of_eq_some (scanChar_cons _ _)).trans ?_
  refine (bind_of_eq_some (minute _)).trans ?_
  refine (bind_of_eq_some (scanChar_cons _ _)).trans ?_
  refine (bind_of_eq_some (second _)).trans ?_
  refine (bind_of_eq_some (fractions.scan zones.endsFraction)).trans ?_
  refine (bind_of_eq_some zones.scan).trans ?_
  rw [List.isEmpty_nil, if_pos rfl, Int.natAbs_of_nonneg positive,
    instantAt?_clock shown zones.natAbs_lt]

/-- Where the clock is ahead by an offset in minutes, it shows this date and reading at this time.
-/
structure Shows (t : Instant) (offset : Int) (shown : Instant) : Prop where
  second : shown.secondCount = t.secondCount + 60 * offset
  nano : shown.nano = t.nano

theorem shows_self (t : Instant) : t.Shows 0 t :=
  ⟨(Int.add_zero _).symm, rfl⟩

/-- **Times with a zone are read back.** -/
theorem Writes.readStrict?_of_shows {t shown : Instant} {offset : Int} {text : List Char}
    (writes : shown.Writes offset text) (year : shown.FourDigitYear)
    (reading : t.Shows offset shown) (small : offset.natAbs < 1440) :
    Instant.readStrict? text = some t := by
  rw [writes.readStrict? year, shift?_eq_some_iff (by rwa [Int.natAbs_neg])]
  have := reading.second
  exact ⟨by omega, reading.nano.symm⟩

end Instant

end ContentService
