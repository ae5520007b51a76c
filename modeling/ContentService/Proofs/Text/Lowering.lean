import ContentService.Text.Lowercase
import Mathlib.Tactic.Common

/-! # Lower case in place

A text is put in lower case character by character, but for capital sigmas: these look at what is
around them. So a part of a text has in its place the lower case that it has alone if each of its
sigmas ends a word in both or in neither (`ContentService.Text.lowerBetween_eq_iff`). No capital of
ASCII is left in what is in lower case (`ContentService.Text.isUpper_of_mem_lowerFrom`).
-/

namespace ContentService.Text

/-! ## Places -/

/-- Whether a capital sigma between two parts of a text ends a word. -/
def endsWord (front back : List Char) : Bool :=
  meetsCased front.reverse && !meetsCased back

/-- The lower case of a character between two parts of a text. -/
def lowerAt (front : List Char) (c : Char) (back : List Char) : List Char :=
  if c = capitalSigma then [if endsWord front back then finalSigma else smallSigma]
  else lowerChar c

/-- The lower case of a part of a text between what is in front of it and what is behind. -/
def lowerBetween (front : List Char) : List Char → List Char → List Char
  | [], _ => []
  | c :: rest, back => lowerAt front c (rest ++ back) ++ lowerBetween (front ++ [c]) rest back

theorem lowerFrom_append (front cs back : List Char) :
    lowerFrom front.reverse (cs ++ back) =
      lowerBetween front cs back ++ lowerFrom (front ++ cs).reverse back := by
  induction cs generalizing front with
  | nil => rw [List.append_nil, lowerBetween, List.nil_append, List.nil_append]
  | cons c rest ih =>
      have later := ih (front ++ [c])
      rw [List.reverse_append, List.reverse_singleton, List.singleton_append,
        List.append_assoc, List.singleton_append] at later
      rw [List.cons_append, lowerFrom, later, lowerBetween, List.append_assoc]
      rfl

theorem lowerFrom_eq_lowerBetween (front cs : List Char) :
    lowerFrom front.reverse cs = lowerBetween front cs [] := by
  have whole := lowerFrom_append front cs []
  rwa [List.append_nil, lowerFrom, List.append_nil] at whole

/-- A text in lower case, part by part. -/
theorem lowerChars_append (front cs back : List Char) :
    lowerChars (front ++ cs ++ back) =
      lowerBetween [] front (cs ++ back) ++ lowerBetween front cs back ++
        lowerBetween (front ++ cs) back [] := by
  calc lowerChars (front ++ cs ++ back)
      = lowerFrom ([] : List Char).reverse (front ++ (cs ++ back)) := by
        rw [List.append_assoc]
        rfl
    _ = _ := by
        rw [lowerFrom_append, List.nil_append, lowerFrom_append, lowerFrom_eq_lowerBetween,
          List.append_assoc]

theorem length_lowerAt (front : List Char) (c : Char) (back others more : List Char) :
    (lowerAt front c back).length = (lowerAt others c more).length := by
  unfold lowerAt
  split <;> rfl

/-- The place of a part does not change the length of its lower case. -/
theorem length_lowerBetween (front cs back others more : List Char) :
    (lowerBetween front cs back).length = (lowerBetween others cs more).length := by
  induction cs generalizing front others with
  | nil => rfl
  | cons c rest ih =>
      rw [lowerBetween, lowerBetween, List.length_append, List.length_append,
        length_lowerAt front c _ others (rest ++ more), ih (front ++ [c]) (others ++ [c])]

/-! ## Sigmas -/

/-- The capital sigmas of a part of a text end words in their place exactly where they do so in the
part alone. -/
def SigmasAlike (front cs back : List Char) : Prop :=
  ∀ before behind, cs = before ++ capitalSigma :: behind →
    endsWord (front ++ before) (behind ++ back) = endsWord before behind

theorem sigmasAlike_of_notMem {cs : List Char} (none : capitalSigma ∉ cs) (front back : List Char) :
    SigmasAlike front cs back := by
  rintro before behind rfl
  exact absurd (List.mem_append_right _ List.mem_cons_self) none

theorem sigmasAlike_whole (cs : List Char) : SigmasAlike [] cs [] := by
  intro before behind _
  rw [List.nil_append, List.append_nil]

theorem lowerAt_eq_iff {front back others more : List Char} {c : Char} :
    lowerAt front c back = lowerAt others c more ↔
      (c = capitalSigma → endsWord front back = endsWord others more) := by
  unfold lowerAt
  by_cases sigma : c = capitalSigma
  · simp only [sigma, if_true, List.cons.injEq, and_true, true_imp_iff]
    cases endsWord front back <;> cases endsWord others more <;> decide
  · simp only [sigma, if_false, false_imp_iff]

/-- What holds wherever a list is split at a character. -/
theorem forall_split_cons {c d : Char} {rest : List Char} {holds : List Char → List Char → Prop} :
    (∀ before behind, c :: rest = before ++ d :: behind → holds before behind) ↔
      (c = d → holds [] rest) ∧
        ∀ before behind, rest = before ++ d :: behind → holds (c :: before) behind := by
  constructor
  · intro all
    refine ⟨?_, ?_⟩
    · rintro rfl
      exact all [] rest rfl
    · rintro before behind rfl
      exact all (c :: before) behind rfl
  · rintro ⟨first, later⟩ before behind split
    rcases List.cons_eq_append_iff.mp split with ⟨rfl, begins⟩ | ⟨before, rfl, goesOn⟩
    · obtain ⟨same, rfl⟩ := List.cons.inj begins
      exact first same.symm
    · exact later before behind goesOn

/-- The part is read from its beginning; `seen` holds what was read of it. -/
theorem lowerBetween_seen_eq_iff (front seen cs back : List Char) :
    lowerBetween (front ++ seen) cs back = lowerBetween seen cs [] ↔
      ∀ before behind, cs = before ++ capitalSigma :: behind →
        endsWord (front ++ seen ++ before) (behind ++ back) = endsWord (seen ++ before) behind := by
  induction cs generalizing seen with
  | nil => exact iff_of_true rfl fun before _ empty => absurd empty.symm (by simp)
  | cons c rest ih =>
      have heads : ∀ {xs ys more others : List Char}, xs.length = ys.length →
          (xs ++ more = ys ++ others ↔ xs = ys ∧ more = others) := fun lengths =>
        ⟨fun same => List.append_inj same lengths, fun ⟨first, second⟩ => by rw [first, second]⟩
      have later := ih (seen ++ [c])
      rw [← List.append_assoc] at later
      rw [forall_split_cons, lowerBetween, lowerBetween, heads (length_lowerAt ..), lowerAt_eq_iff,
        later]
      simp only [List.append_assoc, List.append_nil, List.singleton_append]

/-- **Lower case in place.** A part of a text has in its place the lower case that it has alone if
and only if its capital sigmas end words in both or in neither. -/
theorem lowerBetween_eq_iff {front cs back : List Char} :
    lowerBetween front cs back = lowerChars cs ↔ SigmasAlike front cs back := by
  have general := lowerBetween_seen_eq_iff front [] cs back
  simp only [List.append_nil, List.nil_append] at general
  rw [SigmasAlike, ← general, ← lowerFrom_eq_lowerBetween]
  rfl

instance (front cs back : List Char) : Decidable (SigmasAlike front cs back) :=
  decidable_of_iff _ lowerBetween_eq_iff

/-! ## Capitals -/

/-- What is the lower case of itself, character by character, is so as a whole. -/
theorem lowerFrom_of_ascii {cs : List Char} (plain : ∀ c ∈ cs, c.toNat < 0x80 ∧ c.toLower = c)
    (before : List Char) : lowerFrom before cs = cs := by
  induction cs generalizing before with
  | nil => rfl
  | cons c rest ih =>
      obtain ⟨ascii, lower⟩ := plain c List.mem_cons_self
      have noSigma : c ≠ capitalSigma := by
        rintro rfl
        exact absurd ascii (by decide)
      rw [lowerFrom, if_neg noSigma, lowerChar, if_pos ascii, lower,
        ih fun d member => plain d (List.mem_cons_of_mem c member)]
      rfl

theorem lowercase_of_ascii {s : String} (plain : ∀ c ∈ s.toList, c.toNat < 0x80 ∧ c.toLower = c) :
    lowercase s = s := by
  rw [lowercase, lowerChars, lowerFrom_of_ascii plain, String.ofList_toList]

theorem isUpper_iff_toNat {c : Char} : c.isUpper = true ↔ 0x41 ≤ c.toNat ∧ c.toNat ≤ 0x5A := by
  have bounds : c.isUpper = true ↔ 'A' ≤ c ∧ c ≤ 'Z' := decide_eq_true_iff
  exact bounds.trans (and_congr UInt32.le_iff_toNat_le UInt32.le_iff_toNat_le)

theorem toLower_of_not_upper {c : Char} (small : c.isUpper = false) : c.toLower = c :=
  dif_neg (of_decide_eq_false small)

/-- A number that is no code point stands for the null character. -/
theorem toNat_ofNat_cases (n : Nat) : (Char.ofNat n).toNat = n ∨ (Char.ofNat n).toNat = 0 := by
  by_cases valid : n.isValidChar
  · left
    rw [Char.ofNat, dif_pos valid]
    rfl
  · right
    rw [Char.ofNat, dif_neg valid]
    rfl

/-- The lower case of a character is no ASCII capital. -/
theorem isUpper_of_mem_lowerChar {c d : Char} (member : d ∈ lowerChar c) : d.isUpper = false := by
  rw [Bool.eq_false_iff, ne_eq, isUpper_iff_toNat]
  unfold lowerChar at member
  split at member
  · rename_i ascii
    have all : ∀ n < 0x80, (Char.ofNat n).toLower.isUpper = false := by decide
    have lower := all c.toNat ascii
    rw [Char.ofNat_toNat, ← List.mem_singleton.mp member, Bool.eq_false_iff, ne_eq,
      isUpper_iff_toNat] at lower
    exact lower
  · split at member
    · rcases List.mem_cons.mp member with rfl | accent
      · decide
      · rw [List.mem_singleton.mp accent]
        decide
    · split at member
      · rename_i run found
        -- No run leads among the ASCII capitals: the lowest point to which one leads is a letter.
        have above : ∀ run ∈ caseRuns, 0x61 ≤ (run.first : Int) + run.shift := by decide +kernel
        have covers := List.find?_some found
        have high := above run (List.mem_of_find?_eq_some found)
        simp only [CaseRun.covers, Bool.and_eq_true, decide_eq_true_eq] at covers
        rw [List.mem_singleton.mp member]
        rcases toNat_ofNat_cases ((c.toNat : Int) + run.shift).toNat with same | null <;> omega
      · rw [List.mem_singleton.mp member]
        omega

/-- No ASCII capital is left in lower case. -/
theorem isUpper_of_mem_lowerFrom {before cs : List Char} {d : Char}
    (member : d ∈ lowerFrom before cs) : d.isUpper = false := by
  induction cs generalizing before with
  | nil => exact nomatch member
  | cons c rest ih =>
      rcases List.mem_append.mp member with first | later
      · split at first
        · rw [List.mem_singleton.mp first]
          split <;> decide
        · exact isUpper_of_mem_lowerChar first
      · exact ih later

end ContentService.Text
