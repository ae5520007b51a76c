import ContentService.Proofs.Calendar.Zones
import ContentService.Proofs.Query.Comparisons
import ContentService.Proofs.Query.SortedAnswer

/-! # Texts name the times they were written for

A date and clock reading of a place, written with the offset of the place, names one instant, to the
value of a filter and in a field of a record alike. So the text of a time names this time, and a
filter for it keeps just the records that hold it (`ContentService.Query.times_read_back`).
-/

namespace ContentService.Query

/-- What a text is read as by a filter on times and as a record's value. -/
structure ReadsAs (text : String) (t : Instant) : Prop where
  span : Span.read? text = some (.instant t)
  value : (Value.text text).toInstant? = some t

theorem readsAs_of_readStrict? {cs : List Char} {t : Instant} (trimmed : Text.trimChars cs = cs)
    (read : Instant.readStrict? cs = some t) : ReadsAs (String.ofList cs) t where
  span := by
    simp only [Span.read?, String.toList_ofList, trimmed, Span.readMoment?, read, Option.map_some,
      Option.some_or]
  value := by
    rw [Value.toInstant?, String.toList_ofList, trimmed, read]

theorem readsAs_of_writes {t shown : Instant} {offset : Int} {text : List Char}
    (small : offset.natAbs < 1440) (reading : t.Shows offset shown) (year : shown.FourDigitYear)
    (writes : shown.Writes offset text) : ReadsAs (String.ofList text) t :=
  readsAs_of_readStrict? writes.trimChars (writes.readStrict?_of_shows year reading small)

/-- The text of a time names it. -/
theorem readsAs_write {t : Instant} (year : t.FourDigitYear) : ReadsAs t.write t :=
  readsAs_of_writes (by decide) t.shows_self year (Instant.writes_writeChars year)

theorem write_injective : Function.Injective Instant.write := fun s t same => by
  have chars : s.writeChars = t.writeChars := String.ofList_injective same
  have read := s.readLoose?_writeChars
  rw [chars, t.readLoose?_writeChars] at read
  exact (Option.some.inj read).symm

/-- A filter for the text of a time keeps the records that hold this time. -/
theorem keeps_iff_of_readsAs {Record : Type} [Searchable Record] {filter : Filter} {t : Instant}
    (logic : filter.logic = .date) (operator : filter.operator = .eq)
    (reads : ReadsAs filter.value t) {field : Searchable.Field Record}
    (named : Searchable.resolve? Record filter.field = some field) (record : Record) :
    (Selection.ofFilter (some filter)).keeps record = true ↔
      (Searchable.value record field).toInstant? = some t := by
  have known : filter.operator ≠ .unsupported := by
    rw [operator]
    decide
  have same (i : Instant) : (Span.instant t).test .eq i = true ↔ i = t := by
    rw [Span.test, Span.contains, beq_iff_eq, Instant.order_eq_eq_iff, eq_comm]
  rw [Selection.keeps_ofFilter known named, operator, Filter.passes_date logic reads.span,
    Option.any_eq_true]
  simp only [same, exists_eq_right]

/-- **Written times are read back.** What a clock that is ahead by an offset of whole minutes shows
at a time, within the years 0 to 9999, can be written with the offset, and every RFC 3339 text of it
is read as exactly this time, by a filter on times and as a record's value. This holds of the text
that stands for a time itself, so different times have different texts; and a filter with `eq` for
the text of a time keeps exactly the records that hold this time in the named field. -/
theorem times_read_back :
    (∀ (t shown : Instant) (offset : Int), offset.natAbs < 1440 → t.Shows offset shown →
      shown.FourDigitYear →
        shown.Writes offset (shown.writeLocal ++ writeZone offset) ∧
          ∀ text, shown.Writes offset text → ReadsAs (String.ofList text) t) ∧
      (∀ t : Instant, t.FourDigitYear →
        ∃ text, (Value.date t).toText? = some text ∧ ReadsAs text t) ∧
      (∀ s t : Instant, (Value.date s).toText? = (Value.date t).toText? → s = t) ∧
      ∀ (Record : Type) [Searchable Record] (filter : Filter) (field : Searchable.Field Record)
        (t : Instant), filter.logic = .date → filter.operator = .eq →
          (Value.date t).toText? = some filter.value → t.FourDigitYear →
          Searchable.resolve? Record filter.field = some field → ∀ record : Record,
            (Selection.ofFilter (some filter)).keeps record = true ↔
              (Searchable.value record field).toInstant? = some t := by
  refine ⟨?_, ?_, ?_, ?_⟩
  · intro t shown offset small reading year
    exact ⟨Instant.writes_writeLocal year (writesZone_writeZone small),
      fun text writes => readsAs_of_writes small reading year writes⟩
  · intro t year
    exact ⟨t.write, rfl, readsAs_write year⟩
  · intro s t same
    exact write_injective (Option.some.inj same)
  · intro Record _ filter field t logic operator text year named
    have reads : ReadsAs filter.value t := Option.some.inj text ▸ readsAs_write year
    exact keeps_iff_of_readsAs logic operator reads named

/-- A leap second at half past midnight of the first of March, in universal time. Five and a half
hours behind it is still the 29th of February, and the text with this offset names the same time. -/
theorem times_read_back_marchSecond :
    let marchSecond : Instant :=
      ⟨⟨2024, 3, 1, by decide, by decide, by decide, by decide⟩, 1799, 1500000000, by decide,
        by decide, by decide⟩
    let shown : Instant :=
      ⟨⟨2024, 2, 29, by decide, by decide, by decide, by decide⟩, 68399, 1500000000, by decide,
        by decide, by decide⟩
    let filter : Filter := ⟨"uploadedAt", .eq, "2024-03-01T00:29:60.500Z", .date, false⟩
    let late : Media := { picture 0 with uploadedAt := marchSecond }
    marchSecond.Shows (-330) shown ∧ shown.FourDigitYear ∧ marchSecond.FourDigitYear ∧
      ReadsAs "2024-02-29T18:59:60.500-05:30" marchSecond ∧
      (∃ text, (Value.date marchSecond).toText? = some text ∧ ReadsAs text marchSecond) ∧
      (Value.date marchSecond).toText? = some filter.value ∧
      (Selection.ofFilter (some filter) : Selection Media).keeps late = true := by
  intro marchSecond shown filter late
  have reading : marchSecond.Shows (-330) shown := ⟨by decide, rfl⟩
  have year : shown.FourDigitYear := by
    unfold Instant.FourDigitYear
    decide
  have universal : marchSecond.FourDigitYear := by
    unfold Instant.FourDigitYear
    decide
  have text : (Value.date marchSecond).toText? = some filter.value := by decide +kernel
  have written : String.ofList (shown.writeLocal ++ writeZone (-330)) =
      "2024-02-29T18:59:60.500-05:30" := by decide +kernel
  obtain ⟨offsets, names, -, filters⟩ := times_read_back
  obtain ⟨writes, reads⟩ := offsets marchSecond shown (-330) (by decide) reading year
  have behind := reads _ writes
  rw [written] at behind
  refine ⟨reading, year, universal, behind, names marchSecond universal, text, ?_⟩
  have named : Searchable.resolve? Media filter.field = some MediaField.uploadedAt := by
    decide +kernel
  have kept := filters Media filter MediaField.uploadedAt marchSecond rfl rfl text universal named
  exact (kept late).mpr rfl

end ContentService.Query
