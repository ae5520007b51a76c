import ContentService.Content.History
import Mathlib.Data.Int.Order.Basic

/-! # Version logs

What a change does to a record with a gapless log: it appends one version, whose number is the
length of the new log. A record accounts for the changes made to it if its log holds one version for
its creation and then one for each change, as the change asked for it, and if its live fields agree
with the last of them. Making another change extends the account by that change.
-/

namespace ContentService

/-- What is found by a key is there and has the key. -/
theorem mem_and_key_of_find? {ρ κ : Type} [BEq κ] [LawfulBEq κ] {keyOf : ρ → κ}
    {records : List ρ} {key : κ} {record : ρ}
    (found : records.find? (keyOf · == key) = some record) :
    record ∈ records ∧ keyOf record = key :=
  ⟨List.mem_of_find?_eq_some found, by simpa only [beq_iff_eq] using List.find?_some found⟩

/-- Who makes a change. -/
def Change.actor : Change → String
  | .write _ actor => actor
  | .restore _ actor => actor

/-- The version numbers of a log are 1, 2, 3 and so on. -/
def Gapless (versions : List Version) : Prop :=
  versions.map (·.number) = (List.range versions.length).map fun i : Nat => (i : Int) + 1

theorem Gapless.append {versions : List Version} (gapless : Gapless versions) {v : Version}
    (next : v.number = versions.length + 1) : Gapless (versions ++ [v]) := by
  unfold Gapless at gapless ⊢
  rw [List.map_append, gapless, List.length_append, List.length_singleton, List.range_succ,
    List.map_append, List.map_singleton, List.map_singleton, next]

/-- The highest number of a gapless log is its length. -/
theorem Gapless.max?_number {versions : List Version} (gapless : Gapless versions)
    (positive : 0 < versions.length) :
    (versions.map (·.number)).max? = some (versions.length : Int) := by
  rw [gapless, List.max?_eq_some_iff]
  constructor
  · exact List.mem_map.mpr ⟨versions.length - 1, List.mem_range.mpr (by omega), by omega⟩
  · intro number member
    obtain ⟨i, inside, same⟩ := List.mem_map.mp member
    have := List.mem_range.mp inside
    omega

/-- All numbers of a log are below the next. -/
theorem lt_nextNumber {versions : List Version} {v : Version} (member : v ∈ versions) :
    v.number < nextNumber versions := by
  have listed : v.number ∈ versions.map (·.number) := List.mem_map_of_mem member
  unfold nextNumber
  cases highest : (versions.map (·.number)).max? with
  | none => rw [List.max?_eq_none_iff.mp highest] at listed; exact nomatch listed
  | some number =>
      have := (List.max?_eq_some_iff.mp highest).2 v.number listed
      simp only [Option.getD_some]
      omega

theorem nextNumber_lt {versions : List Version}
    (room : ∀ v ∈ versions, v.number < 2 ^ 31 - 1) : nextNumber versions < 2 ^ 31 := by
  unfold nextNumber
  cases highest : (versions.map (·.number)).max? with
  | none => decide
  | some number =>
      obtain ⟨v, inside, rfl⟩ := List.mem_map.mp (List.max?_eq_some_iff.mp highest).1
      have := room v inside
      simp only [Option.getD_some]
      omega

/-- The next number of a gapless log is the length of the new log. -/
theorem nextNumber_of_gapless {versions : List Version} (gapless : Gapless versions) :
    nextNumber versions = versions.length + 1 := by
  unfold nextNumber
  rcases Nat.eq_zero_or_pos versions.length with empty | positive
  · rw [gapless, empty]; rfl
  · rw [gapless.max?_number positive]; rfl

theorem nextNumber?_of_lt {versions : List Version} (room : nextNumber versions < 2 ^ 31) :
    nextNumber? versions = some (nextNumber versions) :=
  if_pos room

theorem nextNumber?_of_le {versions : List Version} (full : 2 ^ 31 ≤ nextNumber versions) :
    nextNumber? versions = none :=
  if_neg (Int.not_lt.mpr full)

namespace Content

/-- The version that a number names cannot be found if no version has the number. -/
theorem version?_eq_none_iff {c : Content} {number : Int} :
    c.version? number = none ↔ ∀ v ∈ c.versions, v.number ≠ number := by
  simp only [version?, List.find?_eq_none, beq_iff_eq, ne_eq]

/-- A restoration asks for an edition if there is a version with the number. -/
theorem wanted_restore_eq_ok_iff {c : Content} {number : Int} {actor : String}
    {edition : Edition} :
    c.wanted (.restore number actor) = .ok edition ↔
      ∃ source, c.version? number = some source ∧ edition = c.restored source := by
  cases found : c.version? number with
  | none => simp only [wanted, found, reduceCtorEq, false_and, exists_false]
  | some source =>
      simp only [wanted, found, Except.ok.injEq, Option.some.injEq, exists_eq_left']
      exact eq_comm

/-- Only a restoration asks for no edition, and it does so if no version has the number. -/
theorem wanted_eq_error_iff {c : Content} {change : Change} {failure : Failure} :
    c.wanted change = .error failure ↔
      ∃ number actor, change = .restore number actor ∧ (∀ v ∈ c.versions, v.number ≠ number) ∧
        failure = .versionNotFound c.id number := by
  cases change with
  | write edition actor => simp [wanted]
  | restore number actor =>
      cases found : c.version? number with
      | none =>
          have missing := version?_eq_none_iff.mp found
          simp only [wanted, found, Except.error.injEq, Change.restore.injEq]
          constructor
          · rintro rfl
            exact ⟨number, actor, ⟨rfl, rfl⟩, missing, rfl⟩
          · rintro ⟨_, _, ⟨rfl, rfl⟩, -, rfl⟩
            rfl
      | some source =>
          obtain ⟨member, numbered⟩ := mem_and_key_of_find? found
          simp only [wanted, found, reduceCtorEq, false_iff]
          rintro ⟨_, _, same, missing, -⟩
          cases same
          exact missing source member numbered

/-- What is asked for is written if there is a number for its version. -/
theorem editionOf_eq_ok_iff {c : Content} {change : Change} {edition : Edition} :
    c.editionOf change = .ok edition ↔
      c.wanted change = .ok edition ∧ nextNumber c.versions < 2 ^ 31 := by
  unfold editionOf
  rcases Int.lt_or_le (nextNumber c.versions) (2 ^ 31) with room | full
  · rw [nextNumber?_of_lt room, and_iff_left room]
    cases c.wanted change <;> rfl
  · rw [nextNumber?_of_le full]
    cases c.wanted change <;> simp only [reduceCtorEq, Int.not_lt.mpr full, and_false]

/-- A change fails if there is nothing to write, or if there is no number for its version. -/
theorem editionOf_eq_error_iff {c : Content} {change : Change} {failure : Failure} :
    c.editionOf change = .error failure ↔
      c.wanted change = .error failure ∨
        (∃ edition, c.wanted change = .ok edition) ∧ 2 ^ 31 ≤ nextNumber c.versions ∧
          failure = .overflow := by
  unfold editionOf
  rcases Int.lt_or_le (nextNumber c.versions) (2 ^ 31) with room | full
  · rw [nextNumber?_of_lt room]
    cases c.wanted change <;>
      simp only [reduceCtorEq, Int.not_le.mpr room, false_and, and_false, or_false]
  · rw [nextNumber?_of_le full]
    cases c.wanted change with
    | error other => simp only [reduceCtorEq, exists_false, false_and, or_false]
    | ok asked =>
        simp only [reduceCtorEq, false_or, Except.ok.injEq, Except.error.injEq, exists_eq', full,
          true_and]
        exact eq_comm

theorem apply_eq_map (c : Content) (change : Change) (now : Instant) :
    c.apply change now = (c.editionOf change).map fun edition =>
      (c.write edition change.actor now, c.written edition change.actor now) := by
  cases change <;> rfl

/-- A change that succeeds is a write of the edition that it amounts to. -/
theorem apply_eq_ok_iff {c changed : Content} {change : Change} {now : Instant} {v : Version} :
    c.apply change now = .ok (changed, v) ↔
      ∃ edition, c.editionOf change = .ok edition ∧ changed = c.write edition change.actor now ∧
        v = c.written edition change.actor now := by
  rw [apply_eq_map]
  cases c.editionOf change with
  | error failure => simp [Except.map]
  | ok edition =>
      simp only [Except.map, Except.ok.injEq, Prod.mk.injEq, exists_eq_left']
      constructor
      · rintro ⟨rfl, rfl⟩
        exact ⟨rfl, rfl⟩
      · rintro ⟨rfl, rfl⟩
        exact ⟨rfl, rfl⟩

theorem apply_eq_error_iff {c : Content} {change : Change} {now : Instant} {failure : Failure} :
    c.apply change now = .error failure ↔ c.editionOf change = .error failure := by
  rw [apply_eq_map]
  cases c.editionOf change <;> simp only [Except.map, reduceCtorEq, Except.error.injEq]

end Content

/-- A version is what a change asks for: it names who made the change, and has the title, body and
cover image of the edition written, or of the earlier version restored. -/
def Change.WrittenAs (change : Change) (earlier : List Version) (v : Version) : Prop :=
  v.modifiedBy = change.actor ∧
    match change with
    | .write edition _ =>
      v.title = edition.title ∧ v.body = edition.body ∧ v.coverImageUrl = edition.coverImageUrl
    | .restore number _ =>
      ∃ source ∈ earlier, source.number = number ∧
        v.title = source.title ∧ v.body = source.body ∧ v.coverImageUrl = source.coverImageUrl

/-- The edition that a change amounts to becomes a version as the change asks for it. -/
theorem Change.writtenAs_written {c : Content} {change : Change} {edition : Edition}
    (asked : c.editionOf change = .ok edition) (now : Instant) :
    change.WrittenAs c.versions (c.written edition change.actor now) := by
  refine ⟨rfl, ?_⟩
  obtain ⟨wanted, -⟩ := Content.editionOf_eq_ok_iff.mp asked
  cases change with
  | write written actor =>
      cases wanted
      exact ⟨rfl, rfl, rfl⟩
  | restore number actor =>
      obtain ⟨source, found, rfl⟩ := Content.wanted_restore_eq_ok_iff.mp wanted
      obtain ⟨member, numbered⟩ := mem_and_key_of_find? found
      exact ⟨source, member, numbered, rfl, rfl, rfl⟩

/-- The versions are numbered from 1 on without a gap, and title, body and cover image are those of
the last. -/
structure Content.Versioned (c : Content) : Prop where
  gapless : Gapless c.versions
  live : ∃ v ∈ c.versions, v.number = c.versions.length ∧
    c.live.title = v.title ∧ c.live.body = v.body ∧ c.live.coverImageUrl = v.coverImageUrl

namespace Content.Versioned

theorem initial (id : Uuid) (edition : Edition) (actor : String) (now : Instant) :
    (Content.initial id edition actor now).Versioned where
  gapless := rfl
  live := ⟨_, List.mem_singleton_self _, rfl, rfl, rfl, rfl⟩

/-- A write leaves a versioned record. -/
theorem write {c : Content} (versioned : c.Versioned) (edition : Edition) (actor : String)
    (now : Instant) : (c.write edition actor now).Versioned := by
  have number : (c.written edition actor now).number = c.versions.length + 1 :=
    nextNumber_of_gapless versioned.gapless
  refine ⟨versioned.gapless.append number, _, List.mem_append_right _ (List.mem_singleton_self _),
    ?_, rfl, rfl, rfl⟩
  change _ = ((c.versions ++ [_]).length : Int)
  rw [number, List.length_append]
  rfl

end Content.Versioned

/-- A record whose log consists of its creation and of some changes, in this order. -/
structure Content.Accounts (c : Content) (changes : List Change) : Prop where
  /-- The versions are numbered from 1 to one more than there were changes. -/
  numbers : c.versions.map (·.number) =
    (List.range (1 + changes.length)).map fun i : Nat => (i : Int) + 1
  /-- Each change has the version at its place behind the first, and no other. -/
  entries : ∀ (place : Nat) (change : Change), changes[place]? = some change →
    ∃ v, c.versions[place + 1]? = some v ∧ change.WrittenAs (c.versions.take (place + 1)) v
  /-- The live fields are those of the version with the highest number. -/
  live : ∃ v ∈ c.versions, v.number = 1 + changes.length ∧
    c.live.title = v.title ∧ c.live.body = v.body ∧ c.live.coverImageUrl = v.coverImageUrl

namespace Content.Accounts

variable {c : Content} {changes : List Change}

theorem length_versions (accounts : c.Accounts changes) :
    c.versions.length = 1 + changes.length := by
  have lengths := congrArg List.length accounts.numbers
  simpa only [List.length_map, List.length_range] using lengths

theorem gapless (accounts : c.Accounts changes) : Gapless c.versions := by
  unfold Gapless
  rw [accounts.length_versions]
  exact accounts.numbers

/-- A new record accounts for no changes. -/
theorem initial (id : Uuid) (edition : Edition) (actor : String) (now : Instant) :
    (Content.initial id edition actor now).Accounts [] where
  numbers := rfl
  entries := fun _ _ absent => nomatch absent
  live := ⟨_, List.mem_singleton_self _, rfl, rfl, rfl, rfl⟩

/-- Another change extends the account. -/
theorem write (accounts : c.Accounts changes) {change : Change} {edition : Edition}
    (asked : c.editionOf change = .ok edition) (now : Instant) :
    (c.write edition change.actor now).Accounts (changes ++ [change]) := by
  have length := accounts.length_versions
  have number : (c.written edition change.actor now).number = c.versions.length + 1 :=
    nextNumber_of_gapless accounts.gapless
  constructor
  case numbers =>
    have gapless := accounts.gapless.append number
    unfold Gapless at gapless
    have lengths : (c.versions ++ [c.written edition change.actor now]).length =
        1 + (changes ++ [change]).length := by
      simp only [List.length_append, List.length_singleton]
      omega
    rw [← lengths]
    exact gapless
  case entries =>
    intro place made at_
    by_cases old : place < changes.length
    · rw [List.getElem?_append_left old] at at_
      obtain ⟨v, entry, written⟩ := accounts.entries place made at_
      refine ⟨v, ?_, ?_⟩
      · change (c.versions ++ [_])[place + 1]? = _
        rw [List.getElem?_append_left (by omega), entry]
      · change made.WrittenAs ((c.versions ++ [_]).take (place + 1)) v
        rwa [List.take_append_of_le_length (by omega)]
    · have inside := (List.getElem?_eq_some_iff.mp at_).1
      have last : place = changes.length := by
        rw [List.length_append, List.length_singleton] at inside
        omega
      subst last
      rw [List.getElem?_concat_length] at at_
      cases at_
      refine ⟨c.written edition change.actor now, ?_, ?_⟩
      · change (c.versions ++ [_])[changes.length + 1]? = _
        rw [show changes.length + 1 = c.versions.length by omega, List.getElem?_concat_length]
      · change change.WrittenAs ((c.versions ++ [_]).take (changes.length + 1)) _
        rw [show changes.length + 1 = c.versions.length by omega, List.take_left]
        exact Change.writtenAs_written asked now
  case live =>
    refine ⟨_, List.mem_append_right _ (List.mem_singleton_self _), ?_, rfl, rfl, rfl⟩
    rw [number, List.length_append, List.length_singleton]
    omega

end Content.Accounts

/-- The beginning of a day in June, for examples. The days go round. -/
def june (day : Nat) : Instant :=
  .startOfDay ⟨2025, 6, day % 30 + 1, by decide, by decide, Nat.succ_pos _,
    show day % 30 + 1 ≤ 30 by omega⟩

end ContentService
