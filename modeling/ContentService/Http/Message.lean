import ContentService.Bytes
import ContentService.Failure
import ContentService.Text.Ascii

/-!
# Messages

Requests and responses as the service sees them: a request with its headers and its whole body, a
response with a status and a body that is Json, a text for human readers, or nothing.
-/

namespace ContentService.Http

/-- A request. -/
structure Request where
  method : String
  target : String
  headers : List (String × Bytes)
  body : Bytes

/-- A byte that the value of a header may have: any but control characters other than the tab. -/
def isHeaderValue (byte : UInt8) : Bool :=
  byte = 9 || (32 ≤ byte && byte ≠ 127)

/-- A byte of the text of a header: a visible ASCII character, a space or a tab. -/
def isHeaderText (byte : UInt8) : Bool :=
  byte = 9 || (32 ≤ byte && byte ≤ 126)

/-- The text of a header, if all its bytes are text. -/
def headerText? (value : Bytes) : Option String :=
  if value.all isHeaderText then some (String.ofList (value.map fun b => Char.ofNat b.toNat))
  else none

/-- The first of some headers with a name, whose case does not count. -/
def header? (headers : List (String × Bytes)) (name : String) : Option Bytes :=
  (headers.find? fun h => Text.equalIgnoringAsciiCase h.1 name).map (·.2)

/-- The text of the first of some headers with a name. -/
def textHeader? (headers : List (String × Bytes)) (name : String) : Option String :=
  (header? headers name).bind headerText?

/-- The body of a response. -/
inductive Body
  | empty
  | json (document : Json)
  /-- A text for human readers. -/
  | text

/-- A response. -/
structure Response where
  status : Nat
  body : Body

/-- Why no call comes of a request. -/
inductive Refusal
  /-- Nothing is there to be asked in this way; the status says it all. -/
  | bare (status : Nat)
  /-- The request cannot be read; a text says why. -/
  | worded (status : Nat)
  | failed (failure : Failure)

/-- The response to a call that fails, unless the work on it has stopped. -/
def Response.ofFailure? (failure : Failure) : Option Response :=
  failure.report?.map fun (status, code, message) => ⟨status, .json (failure.body code message)⟩

/-- The response to a request that is refused. -/
def Response.ofRefusal? : Refusal → Option Response
  | .bare status => some ⟨status, .empty⟩
  | .worded status => some ⟨status, .text⟩
  | .failed failure => Response.ofFailure? failure

/-- A response with a document. -/
def Response.ofJson (document : Json) : Response :=
  ⟨200, .json document⟩

/-- The response to a call that succeeds and has nothing to tell. -/
def Response.done : Response :=
  ⟨204, .empty⟩

/-- A response without its body. -/
def Response.withoutBody (response : Response) : Response :=
  { response with body := .empty }

end ContentService.Http
