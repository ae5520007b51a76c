import ContentService.Bytes
import ContentService.Query.Page
import ContentService.Text.Digits

/-!
# Request targets

The path and the query of a request, with their escapes: a percent sign and two hexadecimal digits
stand for a byte, and in a query a plus sign stands for a space.
-/

namespace ContentService.Http

/-- The pieces of a text between a separator. -/
def pieces (separator : Char) : List Char → List (List Char)
  | [] => [[]]
  | c :: rest =>
    if c = separator then [] :: pieces separator rest
    else
      match pieces separator rest with
      | piece :: others => (c :: piece) :: others
      | [] => [[c]]

/-- The bytes that a text with escapes stands for. A percent sign without two digits is itself. -/
def unescape : List Char → Bytes
  | [] => []
  | '%' :: high :: low :: rest =>
    match Text.hexValue? high, Text.hexValue? low with
    | some high, some low => UInt8.ofNat (16 * high + low) :: unescape rest
    | _, _ => Bytes.ofChars ['%'] ++ unescape (high :: low :: rest)
  | c :: rest => Bytes.ofChars [c] ++ unescape rest

/-- A target: the segments of its path and its query, with their escapes. -/
structure Target where
  segments : List (List Char)
  query : List Char

namespace Target

/-- What follows the authority of a target. A target that begins with a slash has none; in any other
it stands behind a scheme, a colon and two slashes. -/
def behindAuthority (target : List Char) : List Char :=
  match target with
  | '/' :: _ => target
  | _ =>
    match target.dropWhile (· ≠ ':') with
    | ':' :: '/' :: '/' :: rest => rest.dropWhile fun c => c ≠ '/' && c ≠ '?'
    | _ => []

/-- Reads a target; what follows a number sign is not sent to servers. -/
def ofText (s : String) : Target :=
  let sent := behindAuthority (s.toList.takeWhile (· ≠ '#'))
  let path := sent.takeWhile (· ≠ '?')
  ⟨(pieces '/' path).drop 1, (sent.dropWhile (· ≠ '?')).drop 1⟩

/-- The name and the value of a field of a query. -/
def field (piece : List Char) : Bytes × Bytes :=
  let spaced := piece.map fun c => if c = '+' then ' ' else c
  (unescape (spaced.takeWhile (· ≠ '=')), unescape ((spaced.dropWhile (· ≠ '=')).drop 1))

/-- The fields of a target's query. -/
def fields (target : Target) : List (Bytes × Bytes) :=
  ((pieces '&' target.query).filter (!·.isEmpty)).map field

/-- The number in the field with a name, or a default if there is no such field. -/
def number? (target : Target) (name : String) (default : Nat) : Option Nat :=
  match target.fields.filter fun f => f.1 == Bytes.ofText name with
  | [] => some default
  | [(_, value)] => do
    let digits ← value.text?
    (Text.readUnsigned Query.maxWord digits.toList).toOption
  | _ => none

/-- The page that a target's query asks for. -/
def page? (target : Target) : Option Query.PageRequest := do
  let index ← target.number? "pageIndex" 0
  let size ← target.number? "pageSize" Query.defaultPageSize
  some ⟨index, size⟩

end Target

end ContentService.Http
