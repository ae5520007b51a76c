/-!
# Blank characters

White space as trimming sees it: the twenty-five characters with the property White_Space.
-/

namespace ContentService.Text

/-- A character that counts as white space around a text. -/
def isBlank (c : Char) : Bool :=
  let point := c.toNat
  (9 ≤ point && point ≤ 13) || point == 0x20 || point == 0x85 || point == 0xA0 || point == 0x1680 ||
    (0x2000 ≤ point && point ≤ 0x200A) || point == 0x2028 || point == 0x2029 || point == 0x202F ||
    point == 0x205F || point == 0x3000

/-- Drops the leading characters of a kind. -/
def trimStartChars (kind : Char → Bool) (cs : List Char) : List Char :=
  cs.dropWhile kind

/-- Drops the trailing characters of a kind. -/
def trimEndChars (kind : Char → Bool) (cs : List Char) : List Char :=
  (cs.reverse.dropWhile kind).reverse

/-- Drops the white space around a list of characters. -/
def trimChars (cs : List Char) : List Char :=
  trimEndChars isBlank (trimStartChars isBlank cs)

/-- Drops the white space around a text. -/
def trim (s : String) : String :=
  String.ofList (trimChars s.toList)

end ContentService.Text
