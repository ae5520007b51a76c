import ContentService.Json.Decode
import ContentService.Proofs.Json.Documents
import Mathlib.Data.List.Forall2

/-! # Records are decoded

A schema reads a list of members (`Schema.Reads`) when they have its names in order, each passes its
check, and every look-up that finds them makes the record. Schemas that read their members read them
behind one another, and the object of members with different names is decoded as the record. In the
other direction, whatever was decoded has the properties that the parts of its schema yield.
-/

namespace ContentService.Json

open Text

/-! ## Steps -/

/-- Two steps succeed if the first does, and the second with what the first gives. -/
theorem exists_of_bind_eq_ok {x : Except ε α} {f : α → Except ε β} {b : β}
    (done : (x >>= f) = .ok b) : ∃ a, x = .ok a ∧ f a = .ok b := by
  cases x with
  | error fault => exact nomatch done
  | ok a => exact ⟨a, rfl, done⟩

/-! ## Members of objects -/

/-- The member with a name is looked up in an object if no other has the name. -/
theorem lookup_named {given : List (String × Json)} (different : (given.map Prod.fst).Nodup)
    {name : String} {value : Json} (inside : (name, value) ∈ given) :
    (named given).lookup (.text name) = some value := by
  induction given with
  | nil => exact absurd inside List.not_mem_nil
  | cons pair rest ih =>
      obtain ⟨key, first⟩ := pair
      obtain ⟨fresh, different⟩ := List.nodup_cons.mp different
      rcases List.mem_cons.mp inside with same | inside
      · cases same
        exact List.lookup_cons_self
      · have other : name ≠ key := fun same =>
          fresh (List.mem_map.mpr ⟨(name, value), inside, same⟩)
        have skipped : (Name.text name == Name.text key) = false :=
          beq_eq_false_iff_ne.mpr fun same => other (Name.text.inj same)
        rw [named, List.map_cons, List.lookup_cons, skipped]
        exact ih different inside

/-- A member of an object that stands for a member of a schema and passes its check. -/
def Fits (member : Member) (pair : String × Json) : Prop :=
  member.name = pair.1 ∧ member.check pair.2 = .ok ()

theorem names_of_fits {known : List Member} {given : List (String × Json)}
    (fit : List.Forall₂ Fits known given) : given.map Prod.fst = known.map Member.name := by
  induction fit with
  | nil => rfl
  | cons fits _ ih => exact congrArg₂ List.cons fits.1.symm ih

/-- Among members with different names, a member of an object is found by its name. -/
theorem find?_of_fits {known : List Member} {given : List (String × Json)}
    (fit : List.Forall₂ Fits known given) (different : (given.map Prod.fst).Nodup)
    {pair : String × Json} (inside : pair ∈ given) :
    ∃ member, known.find? (·.name == pair.1) = some member ∧ member.check pair.2 = .ok () := by
  induction fit with
  | nil => exact absurd inside List.not_mem_nil
  | @cons member first known given fits _ ih =>
      obtain ⟨fresh, different⟩ := List.nodup_cons.mp different
      rcases List.mem_cons.mp inside with rfl | inside
      · exact ⟨member, List.find?_cons_of_pos (beq_iff_eq.mpr fits.1), fits.2⟩
      · have other : ¬(member.name == pair.1) = true := fun same =>
          fresh (List.mem_map.mpr ⟨pair, inside, (beq_iff_eq.mp same).symm.trans fits.1⟩)
        obtain ⟨later, found, check⟩ := ih different inside
        have skipped := List.find?_cons_of_neg (p := fun m : Member => m.name == pair.1)
          (l := known) other
        exact ⟨later, skipped.trans found, check⟩

/-- Members with different names, none of them met before, pass if each is found and passes. -/
theorem checkMembers_named {known : List Member} {given : List (String × Json)}
    (found : ∀ pair ∈ given,
      ∃ member, known.find? (·.name == pair.1) = some member ∧ member.check pair.2 = .ok ())
    (different : (given.map Prod.fst).Nodup) {seen : List String}
    (unseen : ∀ pair ∈ given, pair.1 ∉ seen) : checkMembers known seen (named given) = .ok () := by
  induction given generalizing seen with
  | nil => rfl
  | cons pair rest ih =>
      obtain ⟨name, value⟩ := pair
      obtain ⟨fresh, different⟩ := List.nodup_cons.mp different
      obtain ⟨member, known_name, check⟩ := found _ List.mem_cons_self
      have new : seen.contains name = false := by
        rw [List.contains_eq_mem]
        exact decide_eq_false (unseen _ List.mem_cons_self)
      have rest_passes : checkMembers known (name :: seen) (named rest) = .ok () := by
        refine ih (fun pair inside => found pair (List.mem_cons_of_mem _ inside)) different ?_
        intro pair inside met
        rcases List.mem_cons.mp met with same | met
        · exact fresh (List.mem_map.mpr ⟨pair, inside, same⟩)
        · exact unseen pair (List.mem_cons_of_mem _ inside) met
      rw [named, List.map_cons, checkMembers]
      simp only [known_name, new, check]
      exact rest_passes

/-! ## Schemas -/

/-- Members that a schema reads as a record. -/
structure Schema.Reads (schema : Schema α) (given : List (String × Json)) (a : α) : Prop where
  fits : List.Forall₂ Fits schema.members given
  builds : ∀ look : String → Option Json, (∀ pair ∈ given, look pair.1 = some pair.2) →
    schema.build look = .ok a

namespace Schema

theorem Reads.pure (a : α) : (Schema.pure a).Reads [] a :=
  ⟨.nil, fun _ _ => rfl⟩

/-- The members for an argument stand behind those for the function. -/
theorem Reads.and {f : Schema (α → β)} {s : Schema α} {before behind : List (String × Json)}
    {make : α → β} {a : α} (function : f.Reads before make) (argument : s.Reads behind a) :
    (f.and s).Reads (before ++ behind) (make a) where
  fits := List.rel_append function.fits argument.fits
  builds look found := by
    have made := function.builds look fun pair inside => found pair (List.mem_append_left _ inside)
    have given := argument.builds look fun pair inside =>
      found pair (List.mem_append_right _ inside)
    change (do let make ← f.build look; let argument ← s.build look; .ok (make argument)) = _
    rw [made, given]
    rfl

/-- A single member whose decoder gives a value is read as that value. -/
theorem reads_single {name : String} {omissible : Bool} {decode : Decoder α}
    {build : (String → Option Json) → Except DecodeFault α} {j : Json} {a : α}
    (decoded : decode j = .ok a)
    (builds : ∀ look : String → Option Json, look name = some j → build look = decode j) :
    Reads ⟨[⟨name, omissible, fun j => (decode j).map fun _ => ()⟩], build⟩ [(name, j)] a where
  fits := .cons ⟨rfl, congrArg (Except.map fun _ => ()) decoded⟩ .nil
  builds look found := (builds look (found _ List.mem_cons_self)).trans decoded

theorem build_required (name : String) (decode : Decoder α) {look : String → Option Json} {j : Json}
    (found : look name = some j) : (Schema.required name decode).build look = decode j := by
  simp only [Schema.required, found]

theorem build_defaulted (name : String) (default : α) (decode : Decoder α)
    {look : String → Option Json} {j : Json} (found : look name = some j) :
    (Schema.defaulted name default decode).build look = decode j := by
  simp only [Schema.defaulted, found]

theorem Reads.required (name : String) {decode : Decoder α} {j : Json} {a : α}
    (decoded : decode j = .ok a) : (Schema.required name decode).Reads [(name, j)] a :=
  reads_single decoded fun _ => build_required name decode

/-- A text is read as it stands. -/
theorem Reads.text (name s : String) :
    (Schema.required name Decode.text).Reads [(name, .string s)] s :=
  Reads.required name rfl

theorem Reads.defaulted (name : String) (default : α) {decode : Decoder α} {j : Json} {a : α}
    (decoded : decode j = .ok a) : (Schema.defaulted name default decode).Reads [(name, j)] a :=
  reads_single decoded fun _ => build_defaulted name default decode

theorem Reads.optional (name : String) {decode : Decoder α} {j : Json} {a : Option α}
    (decoded : Decode.nullable decode j = .ok a) :
    (Schema.optional name decode).Reads [(name, j)] a :=
  reads_single decoded fun _ => build_defaulted name none (Decode.nullable decode)

theorem Reads.omissible (name : String) {decode : Decoder α} {j : Json} {a : Option α}
    (decoded : Decode.nullable decode j = .ok a) :
    (Schema.omissible name decode).Reads [(name, j)] a :=
  Reads.defaulted name none decoded

/-- If the names of a schema are different, an object of members that it reads is decoded. -/
theorem Reads.decode {schema : Schema α} {given : List (String × Json)} {a : α}
    (reads : schema.Reads given a) (names : (schema.members.map Member.name).Nodup) :
    Decode.record schema (.record given) = .ok a := by
  have different : (given.map Prod.fst).Nodup := names_of_fits reads.fits ▸ names
  have passes : checkMembers schema.members [] (named given) = .ok () :=
    checkMembers_named (fun _ inside => find?_of_fits reads.fits different inside) different
      fun _ _ => List.not_mem_nil
  have built : (schema.build fun name => (named given).lookup (.text name)) = .ok a :=
    reads.builds _ fun _ inside => lookup_named different inside
  change (do checkMembers schema.members [] (named given); _) = _
  rw [passes]
  exact built

/-! ## What was decoded -/

/-- All that a schema makes has a property. -/
def Yields (schema : Schema α) (p : α → Prop) : Prop :=
  ∀ (look : String → Option Json) (a : α), schema.build look = .ok a → p a

theorem Yields.pure {p : α → Prop} {a : α} (holds : p a) : (Schema.pure a).Yields p := by
  intro look b built
  cases built
  exact holds

/-- What is made with one more argument has a property if the function gives it to all arguments
that are made. -/
theorem Yields.and {f : Schema (α → β)} {s : Schema α} {p : β → Prop} {q : α → Prop}
    (function : f.Yields fun make => ∀ a, q a → p (make a)) (argument : s.Yields q) :
    (f.and s).Yields p := by
  intro look b built
  obtain ⟨make, made, built⟩ := exists_of_bind_eq_ok built
  obtain ⟨a, given, built⟩ := exists_of_bind_eq_ok built
  cases built
  exact function look make made a (argument look a given)

/-- An argument that does not matter. -/
theorem Yields.any {f : Schema (α → β)} {s : Schema α} {p : β → Prop}
    (function : f.Yields fun make => ∀ a, p (make a)) : (f.and s).Yields p :=
  .and (fun look make made a _ => function look make made a) fun _ _ _ => True.intro

theorem Yields.required {name : String} {decode : Decoder α} {p : α → Prop}
    (decoded : ∀ j a, decode j = .ok a → p a) : (Schema.required name decode).Yields p := by
  intro look a built
  cases found : look name with
  | none => simp only [Schema.required, found] at built; exact nomatch built
  | some j => exact decoded j a ((build_required name decode found).symm.trans built)

/-- Every record that is decoded was made by its schema. -/
theorem Yields.of_decode {schema : Schema α} {p : α → Prop} (yields : schema.Yields p) {j : Json}
    {a : α} (decoded : Decode.record schema j = .ok a) : p a := by
  cases j with
  | object members closed =>
      obtain ⟨-, -, decoded⟩ := exists_of_bind_eq_ok decoded
      cases closed with
      | false => exact nomatch decoded
      | true => exact yields _ a decoded
  | array elements closed =>
      obtain ⟨-, -, decoded⟩ := exists_of_bind_eq_ok decoded
      exact yields _ a decoded
  | _ => exact nomatch decoded

end Schema

end ContentService.Json
