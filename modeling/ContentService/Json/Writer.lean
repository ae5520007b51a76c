import ContentService.Json.Basic

/-!
# Writing Json

A document's text without white space. Strings escape quotation marks, backslashes and control
characters, and nothing else.
-/

namespace ContentService.Json

/-- The spelling of a character inside a string. -/
def writeChar (c : Char) : List Char :=
  if c = '"' then ['\\', '"']
  else if c = '\\' then ['\\', '\\']
  else if c.toNat = 8 then ['\\', 'b']
  else if c.toNat = 9 then ['\\', 't']
  else if c.toNat = 10 then ['\\', 'n']
  else if c.toNat = 12 then ['\\', 'f']
  else if c.toNat = 13 then ['\\', 'r']
  else if c.toNat < 0x20 then
    ['\\', 'u', '0', '0', (c.toNat / 16).digitChar, (c.toNat % 16).digitChar]
  else [c]

/-- A string with its quotation marks. -/
def writeString (s : String) : List Char :=
  '"' :: s.toList.flatMap writeChar ++ ['"']

/-- The name of a member with its quotation marks; what is no text writes nothing. -/
def writeName : Name → List Char
  | .text name => writeString name
  | .unpaired | .absent => []

mutual
/-- The characters of a document's text; what is not Json writes nothing. -/
def writeChars : Json → List Char
  | .null => ['n', 'u', 'l', 'l']
  | .bool true => ['t', 'r', 'u', 'e']
  | .bool false => ['f', 'a', 'l', 's', 'e']
  | .number spelling => spelling
  | .string text => writeString text
  | .unpaired => []
  | .array elements _ => '[' :: writeElements elements ++ [']']
  | .object members _ => '\x7b' :: writeMembers members ++ ['\x7d']
  | .broken => []

/-- The elements of an array, joined by commas. -/
def writeElements : List Json → List Char
  | [] => []
  | [element] => writeChars element
  | element :: next :: rest => writeChars element ++ ',' :: writeElements (next :: rest)

/-- The members of an object, joined by commas. -/
def writeMembers : List (Name × Json) → List Char
  | [] => []
  | [(name, value)] => writeName name ++ ':' :: writeChars value
  | (name, value) :: next :: rest =>
    writeName name ++ ':' :: writeChars value ++ ',' :: writeMembers (next :: rest)
end

/-- The text of a document. -/
def write (j : Json) : String :=
  String.ofList j.writeChars

end ContentService.Json
