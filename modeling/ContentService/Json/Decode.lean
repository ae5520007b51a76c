import ContentService.Json.Magnitude
import ContentService.Json.Reader

/-!
# Decoding Json

From documents to values. A value is decoded in the order of its text, and what stops decoding is
the first of two things: a place where the text is not Json, or a value that does not fit.

A record is decoded by a `Schema`, which lists its members. Records are objects whose known members
occur once each and whose other members are passed over, or arrays with the members in the order of
the schema.
-/

namespace ContentService.Json

open Text

/-- What stops decoding. -/
inductive DecodeFault
  /-- The text is not Json here. -/
  | malformed
  /-- A value of another kind or range is wanted here. -/
  | mismatch
  deriving DecidableEq, Repr

/-- A decoder of values. -/
abbrev Decoder (α : Type) := Json → Except DecodeFault α

/-- Why a document is not a value of the wanted kind: it is not read beyond its first token, so only
what is wrong there makes it malformed. A number too large for floating point counts as such. -/
def misfit : Json → DecodeFault
  | .broken | .unpaired => .malformed
  | .number spelling =>
    if (Magnitude.ofSpelling spelling).isTooLarge then .malformed else .mismatch
  | _ => .mismatch

/-- Passes over a value. -/
def Decode.ignored : Decoder Unit := fun j =>
  if j.isWhole then .ok () else .error .malformed

/-- Decodes a text. -/
def Decode.text : Decoder String
  | .string s => .ok s
  | j => .error (misfit j)

/-- Decodes a truth value. -/
def Decode.bool : Decoder Bool
  | .bool b => .ok b
  | j => .error (misfit j)

/-- Decodes a whole number between two bounds; the spelling `-0` is not one. -/
def Decode.integer (least most : Int) : Decoder Int
  | .number spelling =>
    if spelling = ['-', '0'] then .error .mismatch
    else
      match readSigned least most spelling with
      | .ok n => .ok n
      | .error _ => .error (misfit (.number spelling))
  | j => .error (misfit j)

/-- Decodes a natural number below 2^64. -/
def Decode.natural : Decoder Nat := fun j =>
  (Decode.integer 0 (2 ^ 64 - 1) j).map Int.toNat

/-- Decodes a text that a function understands. -/
def Decode.textual (read? : String → Option α) : Decoder α := fun j =>
  match Decode.text j with
  | .ok s =>
    match read? s with
    | some a => .ok a
    | none => .error .mismatch
  | .error fault => .error fault

/-- Decodes null as no value. -/
def Decode.nullable (decode : Decoder α) : Decoder (Option α)
  | .null => .ok none
  | j => (decode j).map some

/-- Decodes the elements of a list in order. -/
def Decode.all (decode : Decoder α) : List Json → Except DecodeFault (List α)
  | [] => .ok []
  | j :: rest => do
    let a ← decode j
    let others ← Decode.all decode rest
    .ok (a :: others)

/-- Decodes an array of values. -/
def Decode.listOf (decode : Decoder α) : Decoder (List α)
  | .array elements closed => do
    let values ← Decode.all decode elements
    if closed then .ok values else .error .malformed
  | j => .error (misfit j)

/-- Decodes nothing but null. -/
def Decode.onlyNull : Decoder Unit
  | .null => .ok ()
  | j => .error (misfit j)

/-- Decodes a plain name: a text, or an object whose only member has that name and is null. -/
def Decode.name (meaning : String → Option α) : Decoder α
  | .string s =>
    match meaning s with
    | some a => .ok a
    | none => .error .mismatch
  | .object ((.text key, value) :: rest) closed =>
    match meaning key with
    | none => .error .mismatch
    | some a => do
      Decode.onlyNull value
      if rest.isEmpty && closed then .ok a else .error .malformed
  | .object ((.absent, value) :: _) _ => .error (misfit value)
  | _ => .error .malformed

/-- A member of a record: its name, whether an array may end before it, and a check of its value. -/
structure Member where
  name : String
  omissible : Bool
  check : Decoder Unit

/-- A record's members, and how the record is made from their values. -/
structure Schema (α : Type) where
  members : List Member
  build : (String → Option Json) → Except DecodeFault α

namespace Schema

/-- A record without members. -/
def pure (a : α) : Schema α :=
  ⟨[], fun _ => .ok a⟩

/-- One more argument for a record. -/
def and (f : Schema (α → β)) (a : Schema α) : Schema β :=
  ⟨f.members ++ a.members, fun value => do
    let make ← f.build value
    let argument ← a.build value
    .ok (make argument)⟩

/-- A member that has to be there. -/
def required (name : String) (decode : Decoder α) : Schema α :=
  ⟨[⟨name, false, fun j => (decode j).map fun _ => ()⟩], fun value =>
    match value name with
    | some j => decode j
    | none => .error .mismatch⟩

/-- A member whose absence means a default. -/
def defaulted (name : String) (default : α) (decode : Decoder α) : Schema α :=
  ⟨[⟨name, true, fun j => (decode j).map fun _ => ()⟩], fun value =>
    match value name with
    | some j => decode j
    | none => .ok default⟩

/-- A member that may be absent or null in an object, but has its place in an array. -/
def optional (name : String) (decode : Decoder α) : Schema (Option α) :=
  { defaulted name none (Decode.nullable decode) with
    members := [⟨name, false, fun j => (Decode.nullable decode j).map fun _ => ()⟩] }

/-- A member that may be absent or null everywhere. -/
def omissible (name : String) (decode : Decoder α) : Schema (Option α) :=
  defaulted name none (Decode.nullable decode)

end Schema

/-- Checks the members of an object in order, given the names met so far. -/
def checkMembers (known : List Member) (seen : List String) :
    List (Name × Json) → Except DecodeFault Unit
  | [] => .ok ()
  | (.unpaired, _) :: _ | (.absent, _) :: _ => .error .malformed
  | (.text name, value) :: rest =>
    match known.find? (·.name == name) with
    | none => do
      Decode.ignored value
      checkMembers known seen rest
    | some member =>
      if seen.contains name then .error .mismatch
      else do
        member.check value
        checkMembers known (name :: seen) rest

/-- Checks the elements of an array against the members they stand for. -/
def checkElements (closed : Bool) : List Member → List Json → Except DecodeFault Unit
  | [], [] => if closed then .ok () else .error .malformed
  | [], _ :: _ => .error .malformed
  | member :: members, [] =>
    if !closed then .error .malformed
    else if (member :: members).all (·.omissible) then .ok ()
    else .error .mismatch
  | member :: members, element :: elements => do
    member.check element
    checkElements closed members elements

/-- Decodes a record. -/
def Decode.record (schema : Schema α) : Decoder α
  | .object members closed => do
    checkMembers schema.members [] members
    if closed then schema.build fun name => members.lookup (.text name) else .error .malformed
  | .array elements closed => do
    checkElements closed schema.members elements
    let members := (schema.members.map (·.name)).zip elements
    schema.build fun name => members.lookup name
  | j => .error (misfit j)

end ContentService.Json
