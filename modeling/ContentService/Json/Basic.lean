import ContentService.Text.Digits

/-!
# Json documents

A Json document as far as its text can be read. The constructor `broken` and the flags of arrays and
objects mark the place where a text stops being Json, so that a reader who works through a document
in the order of its text meets either a value of the wrong shape or the end of the Json, whichever
comes first. Numbers keep their spelling.
-/

namespace ContentService

/-- The name of a member. -/
inductive Json.Name
  | text (name : String)
  /-- A name with an escape for half of a surrogate pair, which is no text. -/
  | unpaired
  /-- No string stands in the place of the name; the member's value is what stands there. -/
  | absent
  deriving DecidableEq, Repr

/-- A Json document. -/
inductive Json
  | null
  | bool (value : Bool)
  /-- A number, as it is spelled. -/
  | number (spelling : List Char)
  | string (text : String)
  /-- A string with an escape for half of a surrogate pair, which is no text. -/
  | unpaired
  /-- The elements of an array; `closed` if the text goes on behind its bracket. -/
  | array (elements : List Json) (closed : Bool)
  /-- The members of an object in order; `closed` if the text goes on behind its brace. -/
  | object (members : List (Json.Name × Json)) (closed : Bool)
  /-- No value can be read here. -/
  | broken

namespace Json

/-- A whole number. -/
def ofInt (n : Int) : Json :=
  .number (Text.writeInt n)

/-- A natural number. -/
def ofNat (n : Nat) : Json :=
  .number (Text.writeNat n)

/-- A complete array. -/
def list (elements : List Json) : Json :=
  .array elements true

/-- A complete object. -/
def record (members : List (String × Json)) : Json :=
  .object (members.map fun (name, value) => (.text name, value)) true

/-- A text, or null. -/
def ofOption (value : Option String) : Json :=
  match value with
  | some text => .string text
  | none => .null

/-- An array of texts. -/
def texts (values : List String) : Json :=
  .list (values.map .string)

mutual
/-- Whether a document is Json to its end. Half a surrogate pair does no harm here. -/
def isWhole : Json → Bool
  | .array elements closed => closed && areWhole elements
  | .object members closed => closed && areWholeMembers members
  | .broken => false
  | _ => true

/-- Whether all elements are Json to their end. -/
def areWhole : List Json → Bool
  | [] => true
  | element :: rest => element.isWhole && areWhole rest

/-- Whether the values of all members are Json to their end. -/
def areWholeMembers : List (Name × Json) → Bool
  | [] => true
  | (_, value) :: rest => value.isWhole && areWholeMembers rest
end

end Json

end ContentService
