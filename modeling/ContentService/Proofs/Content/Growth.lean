import ContentService.Memory
import ContentService.Proofs.Content.Log

/-! # Growth of a log

What a change does to a record whatever its log holds: versions may be missing, repeated, out of
order or numbered below zero. It appends one version with a number above all others, which is from
then on the latest, and the live fields show it. All that was found in the log before is found there
afterwards (`ContentService.Content.apply_grows_or_fails`).
-/

namespace ContentService

/-- The later of two versions, the first of which may be missing; of equal numbers the second is
later. -/
def laterOf (best : Option Version) (v : Version) : Option Version :=
  match best with
  | none => some v
  | some b => if b.number ≤ v.number then some v else some b

theorem laterOf_of_le {best : Option Version} {v : Version}
    (highest : ∀ b ∈ best, b.number ≤ v.number) : laterOf best v = some v := by
  cases best with
  | none => rfl
  | some b => exact if_pos (highest b rfl)

/-- The later version is one of the two, and no other is above it. -/
theorem exists_laterOf (best : Option Version) (v : Version) :
    ∃ later, laterOf best v = some later ∧ (later = v ∨ best = some later) ∧
      v.number ≤ later.number ∧ ∀ b ∈ best, b.number ≤ later.number := by
  by_cases highest : ∀ b ∈ best, b.number ≤ v.number
  · exact ⟨v, laterOf_of_le highest, Or.inl rfl, Int.le_refl _, highest⟩
  · cases best with
    | none => exact absurd (fun b absent => nomatch absent) highest
    | some b =>
        have above : ¬ b.number ≤ v.number := fun below =>
          highest fun other same => by cases same; exact below
        refine ⟨b, if_neg above, Or.inr rfl, by omega, fun other same => ?_⟩
        cases same
        exact Int.le_refl _

/-- The latest version of a log. -/
def latestOf (versions : List Version) : Option Version :=
  versions.foldl laterOf none

theorem Content.latestVersion?_eq (c : Content) : c.latestVersion? = latestOf c.versions :=
  rfl

theorem latestOf_concat (versions : List Version) (v : Version) :
    latestOf (versions ++ [v]) = laterOf (latestOf versions) v := by
  rw [latestOf, List.foldl_append]
  rfl

/-- What is found behind some version as the latest is that version or one behind it, and no number
is above its number. -/
theorem mem_and_le_of_foldl_laterOf {versions : List Version} {best : Option Version}
    {newest : Version} (latest : versions.foldl laterOf best = some newest) :
    (best = some newest ∨ newest ∈ versions) ∧ (∀ b ∈ best, b.number ≤ newest.number) ∧
      ∀ v ∈ versions, v.number ≤ newest.number := by
  induction versions generalizing best with
  | nil =>
      obtain rfl : best = some newest := latest
      exact ⟨Or.inl rfl, fun b same => by cases same; exact Int.le_refl _,
        fun v absent => nomatch absent⟩
  | cons v rest ih =>
      obtain ⟨later, step, origin, above, aboveBest⟩ := exists_laterOf best v
      rw [List.foldl_cons, step] at latest
      obtain ⟨found, aboveLater, aboveRest⟩ := ih latest
      have limit : later.number ≤ newest.number := aboveLater later rfl
      refine ⟨?_, fun b same => Int.le_trans (aboveBest b same) limit, fun w member => ?_⟩
      · rcases found with here | behind
        · cases here
          rcases origin with rfl | before
          · exact Or.inr List.mem_cons_self
          · exact Or.inl before
        · exact Or.inr (List.mem_cons_of_mem _ behind)
      · rcases List.mem_cons.mp member with rfl | behind
        · exact Int.le_trans above limit
        · exact aboveRest w behind

/-- The latest version is in the log, and no number of the log is above its number. -/
theorem mem_and_le_of_latestOf {versions : List Version} {newest : Version}
    (latest : latestOf versions = some newest) :
    newest ∈ versions ∧ ∀ v ∈ versions, v.number ≤ newest.number := by
  obtain ⟨found, -, highest⟩ := mem_and_le_of_foldl_laterOf latest
  exact ⟨found.resolve_left (by simp only [reduceCtorEq, not_false_eq_true]), highest⟩

/-- The numbers of a log have 32 bits and a sign, and one above the highest has so too. -/
def HasRoom (versions : List Version) : Prop :=
  ∀ v ∈ versions, -2 ^ 31 ≤ v.number ∧ v.number < 2 ^ 31 - 1

instance (versions : List Version) : Decidable (HasRoom versions) :=
  inferInstanceAs (Decidable (∀ v ∈ versions, -2 ^ 31 ≤ v.number ∧ v.number < 2 ^ 31 - 1))

/-- One above the highest number, or 1 if there is none. -/
theorem nextNumber_eq_getD (versions : List Version) :
    nextNumber versions = ((versions.map (·.number)).max?.map (· + 1)).getD 1 := by
  unfold nextNumber
  cases (versions.map (·.number)).max? <;> rfl

namespace Content

/-- What is found in a log is found in any log that it begins. -/
theorem version?_of_append {c changed : Content} {more : List Version}
    (appended : changed.versions = c.versions ++ more) {number : Int} {v : Version}
    (found : c.version? number = some v) : changed.version? number = some v := by
  unfold version? at found ⊢
  rw [appended, List.find?_append, found, Option.some_or]

/-- A record that has grown by a version. -/
structure Grown (c changed : Content) (v : Version) (actor : String) (now : Instant) : Prop where
  /-- The old log begins the new one, and nothing but the version follows. -/
  appended : changed.versions = c.versions ++ [v]
  number : v.number = ((c.versions.map (·.number)).max?.map (· + 1)).getD 1
  above : ∀ earlier ∈ c.versions, earlier.number < v.number
  latest : changed.latestVersion? = some v
  signed : v.modifiedAt = now ∧ v.modifiedBy = actor
  title : changed.live.title = v.title
  body : changed.live.body = v.body
  coverImageUrl : changed.live.coverImageUrl = v.coverImageUrl
  updatedAt : changed.updatedAt = v.modifiedAt
  updatedBy : changed.updatedBy = v.modifiedBy
  id : changed.id = c.id
  createdAt : changed.createdAt = c.createdAt
  createdBy : changed.createdBy = c.createdBy
  found : ∀ number earlier, c.version? number = some earlier →
    changed.version? number = some earlier

/-- A write makes a record grow. -/
theorem grown_write (c : Content) (edition : Edition) (actor : String) (now : Instant) :
    c.Grown (c.write edition actor now) (c.written edition actor now) actor now := by
  have above : ∀ earlier ∈ c.versions, earlier.number < (c.written edition actor now).number :=
    fun _ member => lt_nextNumber member
  constructor
  case number => exact nextNumber_eq_getD c.versions
  case above => exact above
  case latest =>
    rw [latestVersion?_eq]
    change latestOf (c.versions ++ [_]) = _
    rw [latestOf_concat]
    refine laterOf_of_le fun best latest => ?_
    exact Int.le_of_lt (above best (mem_and_le_of_latestOf latest).1)
  case signed => exact ⟨rfl, rfl⟩
  case found => exact fun number earlier => version?_of_append rfl
  all_goals rfl

/-- What a change makes of the live fields, given the version that it appends: a write replaces all
of them, and a restoration those that are versioned, by what the first version with the number
holds. -/
def Shows (c changed : Content) (v : Version) : Change → Prop
  | .write edition _ => changed.live = edition
  | .restore number _ =>
    ∃ source, c.version? number = some source ∧ v.sameContent source = true ∧
      changed.live.contentType = c.live.contentType ∧ changed.live.slug = c.live.slug ∧
      changed.live.tags = c.live.tags ∧ changed.live.status = c.live.status ∧
      changed.live.language = c.live.language ∧ changed.live.metaTitle = c.live.metaTitle ∧
      changed.live.metaDescription = c.live.metaDescription ∧
      changed.live.metaKeywords = c.live.metaKeywords

theorem sameContent_restored (c : Content) (source : Version) (actor : String) (now : Instant) :
    (c.written (c.restored source) actor now).sameContent source = true := by
  simp only [Version.sameContent, written, restored, Edition.version, BEq.rfl, Bool.and_self]

theorem shows_write {c : Content} {change : Change} {edition : Edition}
    (asked : c.editionOf change = .ok edition) (now : Instant) :
    c.Shows (c.write edition change.actor now) (c.written edition change.actor now) change := by
  obtain ⟨wanted, -⟩ := editionOf_eq_ok_iff.mp asked
  cases change with
  | write written actor =>
      cases wanted
      exact rfl
  | restore number actor =>
      obtain ⟨source, found, rfl⟩ := wanted_restore_eq_ok_iff.mp wanted
      exact ⟨source, found, c.sameContent_restored source actor now, rfl, rfl, rfl, rfl, rfl, rfl,
        rfl, rfl⟩

/-- A change fails if nothing is asked for, as long as there is room for another number. -/
theorem apply_eq_error_iff_of_room {c : Content} (room : HasRoom c.versions) {change : Change}
    {now : Instant} {failure : Failure} :
    c.apply change now = .error failure ↔ c.wanted change = .error failure := by
  rw [apply_eq_error_iff, editionOf_eq_error_iff, or_iff_left]
  rintro ⟨-, full, -⟩
  exact absurd (nextNumber_lt fun v member => (room v member).2) (Int.not_lt.mpr full)

/-- **A change appends one version, or changes nothing.** Take any record, whatever its log holds,
with room for another number. A change that succeeds appends one version, with the number behind the
highest. It fails exactly if it restores a number that no version has; that is reported, and a store
that is asked for it keeps the record, and all its others, as they are. -/
theorem apply_grows_or_fails (c : Content) (change : Change) (now : Instant)
    (room : HasRoom c.versions) :
    (∀ changed v, c.apply change now = .ok (changed, v) →
      c.Grown changed v change.actor now ∧ c.Shows changed v change) ∧
    (∀ failure, c.apply change now = .error failure ↔
      ∃ number actor, change = .restore number actor ∧ (∀ v ∈ c.versions, v.number ≠ number) ∧
        failure = .versionNotFound c.id number) ∧
    (∀ failure (records : List Content), c.apply change now = .error failure →
      records.find? (·.id == c.id) = some c →
        Memory.answerContent (.apply c.id change now) records = (.error failure, records)) := by
  refine ⟨fun changed v succeeded => ?_,
    fun failure => (apply_eq_error_iff_of_room room).trans wanted_eq_error_iff,
    fun failure records failed kept => ?_⟩
  · obtain ⟨edition, asked, rfl, rfl⟩ := apply_eq_ok_iff.mp succeeded
    exact ⟨c.grown_write edition change.actor now, shows_write asked now⟩
  · obtain ⟨number, actor, rfl, -, -⟩ :=
      wanted_eq_error_iff.mp ((apply_eq_error_iff_of_room room).mp failed)
    simp only [Memory.answerContent, Memory.slugWanted?, Option.filter_none, kept, failed]

/-- An essay, for examples. -/
def essay (body : String) : Edition :=
  { contentType := "essay", title := "On sets", slug := "sets", body := body, tags := ["logic"],
    status := .draft, language := "en", coverImageUrl := none, metaTitle := "",
    metaDescription := "", metaKeywords := [] }

/-- An essay whose log has been edited by hand. -/
def handEdited : Content :=
  { Content.initial (.ofNat 1) (essay "live") "ada" (june 0) with
    versions := [("first", 7), ("lost", -3), ("second", 7), ("third", 2)].map
      fun (body, number) => (essay body).version number "ada" (june 0) }

/-- Of two versions with one number the first is restored, and 8 follows the highest number; a
number between the others that no version has cannot be restored. -/
theorem apply_grows_or_fails_hand_edited :
    HasRoom handEdited.versions ∧
      (∃ changed v, handEdited.apply (.restore 7 "ben") (june 1) = .ok (changed, v) ∧
        v.number = 8 ∧ changed.live.body = "first" ∧
        handEdited.Grown changed v "ben" (june 1) ∧
        handEdited.Shows changed v (.restore 7 "ben")) ∧
      handEdited.apply (.restore 3 "ben") (june 1) =
        .error (.versionNotFound (.ofNat 1) 3) := by
  have room : HasRoom handEdited.versions := by decide +kernel
  obtain ⟨grows, -⟩ := apply_grows_or_fails handEdited (.restore 7 "ben") (june 1) room
  obtain ⟨-, fails, -⟩ := apply_grows_or_fails handEdited (.restore 3 "ben") (june 1) room
  obtain ⟨grown, shows⟩ := grows _ _ rfl
  refine ⟨room, ⟨_, _, rfl, by decide +kernel, by decide +kernel, grown, shows⟩, ?_⟩
  exact (fails _).mpr ⟨3, "ben", rfl, by decide +kernel, rfl⟩

end Content

end ContentService
