import ContentService.Text.Ascii
import ContentService.Text.Digits

/-!
# Media types

Media types as headers name them: a kind and a subtype, perhaps with a suffix behind the last plus
sign, and parameters, whose values are tokens or quoted.
-/

namespace ContentService.Http

/-- The characters of tokens. -/
def isToken (c : Char) : Bool :=
  Text.isAsciiAlphanumeric c || "!#$%&'*+-.^_|~".toList.contains c || c.toNat = 0x60

/-- The characters of quoted values. -/
def isQuotable (c : Char) : Bool :=
  31 < c.toNat && c.toNat ≠ 127

/-- A media type; all but the parameters' values is in lower case. -/
structure MediaType where
  kind : String
  /-- The subtype up to its suffix. -/
  name : String
  suffix : Option String
  parameters : List (String × String)
  /-- Kind and subtype as they were written. -/
  essence : String
  deriving DecidableEq, Repr

namespace MediaType

/-- Reads the value of a parameter, and the semicolon behind it. -/
def readValue? : List Char → Option (List Char × List Char)
  | '"' :: first :: rest =>
    let value := first :: rest.takeWhile (· ≠ '"')
    match rest.dropWhile (· ≠ '"') with
    | [] => none
    | _ :: behind =>
      if value.all isQuotable then
        match behind.dropWhile (· = ' ') with
        | [] => some (value, [])
        | c :: next => if c = ';' then some (value, next) else none
      else none
  | cs =>
    let value := cs.takeWhile isToken
    match cs.dropWhile isToken with
    | [] => some (value, [])
    | c :: next => if c = ';' ∧ value ≠ [] then some (value, next) else none

/-- Reads at most `count` parameters that fill a text; there may be spaces before each and at the
end. -/
def readParameters? (count : Nat) (cs : List Char) : Option (List (String × String)) :=
  match cs.dropWhile (· = ' ') with
  | [] => some []
  | cs =>
    match count, cs.takeWhile isToken, cs.dropWhile isToken with
    | count + 1, c :: name, '=' :: behind => do
      let (value, rest) ← readValue? behind
      let others ← readParameters? count rest
      some ((Text.asciiLower (String.ofList (c :: name)), String.ofList value) :: others)
    | _, _, _ => none

/-- The two sides of the last plus sign of a subtype that does not begin with it. -/
def splitSuffix (subtype : List Char) : List Char × Option (List Char) :=
  let suffix := subtype.reverse.takeWhile (· ≠ '+')
  match subtype.reverse.dropWhile (· ≠ '+') with
  | _ :: c :: rest => ((c :: rest).reverse, some suffix.reverse)
  | _ => (subtype, none)

/-- Reads a media type that fills a text. -/
def readChars? (cs : List Char) : Option MediaType :=
  match cs.takeWhile isToken, cs.dropWhile isToken with
  | c :: kind, '/' :: behind =>
    let subtype := behind.takeWhile isToken
    let (name, suffix) := splitSuffix subtype
    let found (parameters : List (String × String)) : MediaType :=
      { kind := Text.asciiLower (String.ofList (c :: kind))
        name := Text.asciiLower (String.ofList name)
        suffix := suffix.map fun s => Text.asciiLower (String.ofList s)
        parameters := parameters
        essence := String.ofList (c :: kind ++ '/' :: subtype) }
    match subtype, behind.dropWhile isToken with
    | _, [] => some (found [])
    | _ :: _, ';' :: rest => (readParameters? rest.length rest).map found
    | _, _ => none
  | _, _ => none

/-- Reads a media type that fills a text. -/
def read? (s : String) : Option MediaType :=
  readChars? s.toList

/-- Whether documents of a type are Json. -/
def isJson (type : MediaType) : Bool :=
  type.kind == "application" && (type.name == "json" || type.suffix == some "json")

/-- The boundary between the parts of documents of a type, if they are forms in parts. -/
def boundary? (type : MediaType) : Option String :=
  if type.kind = "multipart" ∧ type.name = "form-data" then type.parameters.lookup "boundary"
  else none

end MediaType

/-- A text that names a media type, without an empty list of parameters. -/
def typeName? (s : String) : Option String :=
  (MediaType.read? s).map fun type => if type.parameters.isEmpty then type.essence else s

end ContentService.Http
