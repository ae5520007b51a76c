import ContentService.Proofs.Content.Growth
import Mathlib.Data.List.Nodup

/-! # Restorations can be undone and repeated

A record that writes and restorations have made of a new one shows its newest version. So restoring
an old version and then the one that was the newest brings back all that an editor can see, and to
restore an old version once more makes no difference but for the log
(`ContentService.Content.Reached.restore_undone_and_repeated`).
-/

namespace ContentService

/-- The versions of a gapless log are told apart by their numbers. -/
theorem Gapless.eq_of_number_eq {versions : List Version} (gapless : Gapless versions)
    {v w : Version} (first : v ∈ versions) (second : w ∈ versions) (same : v.number = w.number) :
    v = w := by
  have distinct : (versions.map (·.number)).Nodup := by
    rw [gapless]
    exact List.nodup_range.map fun i j equal => by omega
  exact List.inj_on_of_nodup_map distinct first second same

/-- A gapless log has the numbers from 1 to its length. -/
theorem Gapless.exists_number_eq {versions : List Version} (gapless : Gapless versions)
    {number : Int} (positive : 1 ≤ number) (bounded : number ≤ versions.length) :
    ∃ v ∈ versions, v.number = number := by
  have listed : number ∈ versions.map (·.number) := by
    rw [gapless, List.mem_map]
    exact ⟨number.toNat - 1, List.mem_range.mpr (by omega), by omega⟩
  exact List.mem_map.mp listed

theorem Gapless.number_le {versions : List Version} (gapless : Gapless versions) {v : Version}
    (member : v ∈ versions) : 1 ≤ v.number ∧ v.number ≤ versions.length := by
  have listed : v.number ∈ versions.map (·.number) := List.mem_map_of_mem member
  rw [gapless, List.mem_map] at listed
  obtain ⟨i, inside, same⟩ := listed
  have := List.mem_range.mp inside
  omega

namespace Content

/-- A record that writes and restorations have made of a new one. -/
inductive Reached : Content → Prop
  | initial (id : Uuid) (edition : Edition) (actor : String) (now : Instant) :
      Reached (.initial id edition actor now)
  | change {c changed : Content} {change : Change} {now : Instant} {v : Version} :
      Reached c → c.apply change now = .ok (changed, v) → Reached changed

/-- In a gapless log every version is found under its number. -/
theorem version?_of_mem {c : Content} (gapless : Gapless c.versions) {v : Version}
    (member : v ∈ c.versions) : c.version? v.number = some v := by
  cases found : c.version? v.number with
  | none => exact absurd rfl (version?_eq_none_iff.mp found v member)
  | some w =>
      obtain ⟨inside, same⟩ := mem_and_key_of_find? found
      rw [gapless.eq_of_number_eq inside member same]

/-- The last version of a versioned record is found under the length of the log, and is live. -/
theorem Versioned.exists_version?_length {c : Content} (versioned : c.Versioned) :
    ∃ v, c.version? c.versions.length = some v ∧ c.restored v = c.live := by
  obtain ⟨v, member, numbered, title, body, cover⟩ := versioned.live
  refine ⟨v, numbered ▸ version?_of_mem versioned.gapless member, ?_⟩
  rw [restored, ← title, ← body, ← cover]

/-- A written version is found under the number behind the length of the log. -/
theorem Versioned.version?_write {c : Content} (versioned : c.Versioned) (edition : Edition)
    (actor : String) (now : Instant) :
    (c.write edition actor now).version? (c.versions.length + 1) =
      some (c.written edition actor now) := by
  have number : (c.written edition actor now).number = c.versions.length + 1 :=
    nextNumber_of_gapless versioned.gapless
  rw [← number]
  exact version?_of_mem (versioned.write edition actor now).gapless
    (List.mem_append_right _ (List.mem_singleton_self _))

/-- A reached record shows its newest version. -/
theorem Reached.versioned {c : Content} (reached : c.Reached) : c.Versioned := by
  induction reached with
  | initial id edition actor now => exact .initial id edition actor now
  | @change c changed change now v _ succeeded before =>
      obtain ⟨edition, -, rfl, -⟩ := apply_eq_ok_iff.mp succeeded
      exact before.write edition change.actor now

/-- The latest version of a versioned record is numbered with the length of the log. -/
theorem Versioned.number_latest {c : Content} (versioned : c.Versioned) {newest : Version}
    (latest : c.latestVersion? = some newest) : newest.number = c.versions.length := by
  obtain ⟨member, highest⟩ := mem_and_le_of_latestOf latest
  obtain ⟨v, inside, numbered, -⟩ := versioned.live
  have below := versioned.gapless.number_le member
  have above := highest v inside
  omega

/-- Restoring a version that there is makes its title, body and cover live, as long as there is a
number for another version. -/
theorem Versioned.apply_restore {c : Content} (versioned : c.Versioned)
    (room : c.versions.length + 1 < 2 ^ 31) {number : Int} {source : Version}
    (found : c.version? number = some source) (actor : String) (now : Instant) :
    c.apply (.restore number actor) now =
      .ok (c.write (c.restored source) actor now, c.written (c.restored source) actor now) := by
  have next := nextNumber_of_gapless versioned.gapless
  have wanted : c.wanted (.restore number actor) = .ok (c.restored source) :=
    wanted_restore_eq_ok_iff.mpr ⟨source, found, rfl⟩
  exact apply_eq_ok_iff.mpr ⟨_, editionOf_eq_ok_iff.mpr ⟨wanted, by omega⟩, rfl, rfl⟩

/-- What is restored over a restored version is the same as over the record before. -/
theorem restored_write_restored (c : Content) (source u : Version) (actor : String)
    (now : Instant) : (c.write (c.restored source) actor now).restored u = c.restored u :=
  rfl

theorem versions_write_write (c : Content) (e f : Edition) (actor other : String)
    (now later : Instant) :
    ((c.write e actor now).write f other later).versions =
      c.versions ++ [c.written e actor now, (c.write e actor now).written f other later] := by
  change (c.versions ++ [_]) ++ [_] = _
  rw [List.append_assoc]
  rfl

/-- **Restorations can be undone and repeated.** Take a record that writes and restorations have
made of a new one, whose newest version has number `N`, and restore one of its versions. If version
`N` is restored next, all live fields are again as they were. If the same version is restored again,
the live fields stay as they are. Either way the log keeps its versions, which are numbered from 1
to `N`, and gets two more; those of a repeated restoration have the content of the version
restored. -/
theorem Reached.restore_undone_and_repeated {c : Content} (reached : c.Reached) {newest : Version}
    (latest : c.latestVersion? = some newest) (room : newest.number < 2 ^ 31 - 2) {number : Int}
    (positive : 1 ≤ number) (known : number ≤ newest.number) (actor other : String)
    (now later : Instant) :
    Gapless c.versions ∧ (c.versions.length : Int) = newest.number ∧
    ∃ once v source, c.apply (.restore number actor) now = .ok (once, v) ∧
      c.version? number = some source ∧
      (∃ back w, once.apply (.restore newest.number other) later = .ok (back, w) ∧
        back.live = c.live ∧ back.versions = c.versions ++ [v, w] ∧
        (∀ k u, c.version? k = some u → back.version? k = some u) ∧
        (back.versions.length : Int) = newest.number + 2) ∧
      (∃ again w, once.apply (.restore number other) later = .ok (again, w) ∧
        again.live = once.live ∧ again.versions = c.versions ++ [v, w] ∧
        again.version? (newest.number + 1) = some v ∧
        again.version? (newest.number + 2) = some w ∧
        v.sameContent source = true ∧ w.sameContent source = true) := by
  have versioned := reached.versioned
  have length := versioned.number_latest latest
  obtain ⟨target, inside, rfl⟩ := versioned.gapless.exists_number_eq positive (by omega)
  have found := version?_of_mem versioned.gapless inside
  obtain ⟨shown, foundShown, live⟩ := versioned.exists_version?_length
  rw [← length] at foundShown
  let once := c.write (c.restored target) actor now
  have grown : once.versions = c.versions ++ [c.written (c.restored target) actor now] := rfl
  have onceVersioned : once.Versioned := versioned.write _ _ _
  have onceLength : once.versions.length = c.versions.length + 1 := by
    rw [grown, List.length_append]
    rfl
  have again {k : Int} {u : Version} (known : c.version? k = some u) :=
    onceVersioned.apply_restore (by omega) (version?_of_append grown known) other later
  refine ⟨versioned.gapless, length.symm, once, _, target,
    versioned.apply_restore (by omega) found actor now, found,
    ⟨_, _, again foundShown, ?_, ?_, ?_, ?_⟩, ⟨_, _, again found, ?_, ?_, ?_, ?_, ?_, ?_⟩⟩
  · exact (restored_write_restored c target shown actor now).trans live
  · exact versions_write_write ..
  · exact fun k u => version?_of_append (versions_write_write ..)
  · rw [versions_write_write, List.length_append, length]
    rfl
  · exact restored_write_restored c target target actor now
  · exact versions_write_write ..
  · rw [length]
    exact version?_of_append rfl (versioned.version?_write _ _ _)
  · rw [show newest.number + 2 = once.versions.length + 1 by omega]
    exact onceVersioned.version?_write _ _ _
  · exact c.sameContent_restored target actor now
  · exact once.sameContent_restored target other later

/-- An essay that has been written anew. -/
def revised : Content :=
  (Content.initial (.ofNat 1) (essay "draft") "ada" (june 0)).write (essay "print") "ben" (june 1)

/-- The draft of a revised essay is restored, and then its print; or the draft is restored twice. -/
theorem restore_undone_and_repeated_revised :
    revised.Reached ∧ revised.latestVersion? = some ((essay "print").version 2 "ben" (june 1)) ∧
      ∃ once v, revised.apply (.restore 1 "ada") (june 2) = .ok (once, v) ∧
        once.live.body = "draft" ∧
        (∃ back w, once.apply (.restore 2 "ada") (june 3) = .ok (back, w) ∧
          back.live = revised.live ∧ back.live.body = "print" ∧ back.versions.length = 4) ∧
        ∃ again w, once.apply (.restore 1 "ada") (june 3) = .ok (again, w) ∧
          again.live.body = "draft" ∧ again.version? 3 = some v ∧ again.version? 4 = some w := by
  have written : (Content.initial (.ofNat 1) (essay "draft") "ada" (june 0)).apply
      (.write (essay "print") "ben") (june 1) = .ok (revised, _) := rfl
  have reached : revised.Reached := .change (.initial ..) written
  have latest : revised.latestVersion? = some ((essay "print").version 2 "ben" (june 1)) := by
    decide +kernel
  have positive : (1 : Int) ≤ 1 := by decide
  obtain ⟨-, -, once, v, source, restored, found, ⟨back, w, undone, live, -, -, length⟩,
    again, u, repeated, same, -, third, fourth, -⟩ :=
    reached.restore_undone_and_repeated latest (by decide) positive (by decide) "ada" "ada" (june 2)
      (june 3)
  have draft : once.live.body = "draft" := by
    rw [show once = _ from (congrArg Prod.fst (Except.ok.inj restored)).symm]
    decide +kernel
  refine ⟨reached, latest, once, v, restored, draft, ⟨back, w, undone, live, ?_, ?_⟩, again, u,
    repeated, ?_, third, fourth⟩
  · rw [live]
    rfl
  · exact Int.ofNat.inj length
  · rw [same, draft]

end Content

end ContentService
