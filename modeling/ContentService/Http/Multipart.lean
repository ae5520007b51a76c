import ContentService.Http.MediaType
import ContentService.Http.Message

/-!
# Forms in parts

A form that is sent in parts between boundaries: each part has headers, which name it, and data. A
stream of parts that breaks off is read as far as it goes.
-/

namespace ContentService.Http

/-- A part of a form. -/
structure Part where
  name : Option String
  fileName : Option String
  contentType : Option String
  data : Bytes

/-- The parts of a form, as far as they can be read. -/
structure Multipart where
  parts : List Part
  /-- Whether the last boundary was reached. -/
  whole : Bool

/-- The end of a line. -/
def lineEnd : Bytes := [13, 10]

/-- What stands before each boundary and behind the last. -/
def dashes : Bytes := [45, 45]

/-- A space or a tab. -/
def isPadding (byte : UInt8) : Bool :=
  byte = 32 || byte = 9

/-- White space in a header. -/
def isHeaderSpace (byte : UInt8) : Bool :=
  byte = 32 || byte = 9 || byte = 10 || byte = 12 || byte = 13

/-- Drops spaces and tabs around a value. -/
def trimPadding (bytes : Bytes) : Bytes :=
  ((bytes.dropWhile isPadding).reverse.dropWhile isPadding).reverse

/-- Whether a byte is a character of a token. -/
def isTokenByte (byte : UInt8) : Bool :=
  isToken (Char.ofNat byte.toNat)

namespace Multipart

/-- Reads a header from its line. -/
def readHeader? (line : Bytes) : Option (String × Bytes) :=
  match line.takeWhile isTokenByte, line.dropWhile isTokenByte with
  | byte :: name, colon :: rest =>
    let value := trimPadding rest
    if colon = 58 ∧ value.all isHeaderValue then
      some (String.ofList ((byte :: name).map fun b => Char.ofNat b.toNat), value)
    else none
  | _, _ => none

/-- Reads headers from a block of lines, each of which a line feed ends, perhaps behind a carriage
return. An empty line ends the block. -/
def readHeaders? (block : Bytes) : Option (List (String × Bytes)) :=
  match found : Bytes.breakOn? [10] block with
  | none => if block.isEmpty then some [] else none
  | some (before, behind) =>
    have : behind.length < block.length := Bytes.length_lt_of_breakOn? found (by decide)
    let line := if before.getLast? = some 13 then before.dropLast else before
    if line.isEmpty then some []
    else do
      let header ← readHeader? line
      let others ← readHeaders? behind
      some (header :: others)
termination_by block.length

/-- The most headers that a part may have. -/
def maxHeaders : Nat := 32

/-- What a part's disposition tells about it. -/
inductive Label
  | name
  | fileName
  deriving DecidableEq, Repr

/-- The bytes of a label's name. -/
def Label.bytes : Label → Bytes
  | .name => [110, 97, 109, 101]
  | .fileName => [102, 105, 108, 101, 110, 97, 109, 101]

/-- Names of labels are not empty. -/
theorem Label.length_bytes_pos : (label : Label) → 0 < label.bytes.length
  | .name => by decide
  | .fileName => by decide

/-- What stands before the quotation mark that closes a value. A backslash before a quotation mark
makes it part of the value, and is itself part of the value everywhere else. -/
def readQuoted? : Bytes → Option Bytes
  | [] => none
  | 92 :: 34 :: rest => (readQuoted? rest).map (34 :: ·)
  | byte :: rest => if byte = 34 then some [] else (readQuoted? rest).map (byte :: ·)

/-- Whether a byte belongs to a value without quotation marks. -/
def isBare (byte : UInt8) : Bool :=
  byte ≠ 32 && byte ≠ 59

/-- The value of a label, given what stands behind its name. Without quotation marks it ends before
the first space or semicolon. -/
def labelValue? (behind : Bytes) : Option Bytes :=
  match behind.dropWhile isHeaderSpace with
  | [] => none
  | sign :: rest =>
    if sign = 61 then
      match rest.dropWhile isHeaderSpace with
      | [] => some []
      | first :: more =>
        if first = 34 then readQuoted? more else some ((first :: more).takeWhile isBare)
    else none

/-- The value of a label in a disposition: its name counts only at the beginning, behind white space
and behind a semicolon. -/
def label? (label : Label) (disposition : Bytes) : Option Bytes :=
  match found : Bytes.breakOn? label.bytes disposition with
  | none => none
  | some (before, behind) =>
    have : behind.length < disposition.length :=
      Bytes.length_lt_of_breakOn? found label.length_bytes_pos
    if before.getLast?.all fun byte => isHeaderSpace byte || byte = 59 then labelValue? behind
    else label? label behind
termination_by disposition.length

/-- The part that headers and data make; of the headers with one name the last counts. -/
def part (headers : List (String × Bytes)) (data : Bytes) : Part :=
  let lastFirst := headers.reverse
  let text (label : Label) : Option String := do
    let disposition ← header? lastFirst "content-disposition"
    let value ← label? label disposition
    value.text?
  { name := text .name
    fileName := text .fileName
    contentType := (textHeader? lastFirst "content-type").bind typeName?
    data := data }

/-- Reads one part and the boundary behind it. -/
def readPart? (boundary bytes : Bytes) : Option (Part × Bytes) := do
  let (padding, behind) ← Bytes.breakOn? lineEnd bytes
  if !padding.all isPadding then none
  let (block, behind) ← Bytes.breakOn? (lineEnd ++ lineEnd) behind
  let headers ← readHeaders? (block ++ lineEnd)
  if maxHeaders < headers.length then none
  let (data, behind) ← Bytes.breakOn? (lineEnd ++ dashes ++ boundary) behind
  some (part headers data, behind)

/-- Reads at most `count` parts behind a boundary. -/
def readParts (boundary : Bytes) (count : Nat) (bytes : Bytes) : Multipart :=
  if dashes.isPrefixOf bytes then ⟨[], true⟩
  else
    match count, readPart? boundary bytes with
    | count + 1, some (first, behind) =>
      let others := readParts boundary count behind
      ⟨first :: others.parts, others.whole⟩
    | _, _ => ⟨[], false⟩

/-- Reads the parts between the boundaries of a body; what stands before the first does not count.
-/
def read (boundary : String) (body : Bytes) : Multipart :=
  match Bytes.breakOn? (dashes ++ Bytes.ofText boundary) body with
  | none => ⟨[], false⟩
  | some (_, behind) => readParts (Bytes.ofText boundary) body.length behind

end Multipart

end ContentService.Http
