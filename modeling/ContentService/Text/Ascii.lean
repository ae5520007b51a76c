/-!
# ASCII case

Case mappings that leave every character beyond ASCII alone.
-/

namespace ContentService.Text

/-- Lower case for the letters A to Z; every other character stays. -/
def asciiLower (s : String) : String :=
  String.ofList (s.toList.map Char.toLower)

/-- Equality that ignores the case of the letters A to Z. -/
def equalIgnoringAsciiCase (a b : String) : Bool :=
  a.toList.map Char.toLower == b.toList.map Char.toLower

/-- The ASCII letters and digits. -/
def isAsciiAlphanumeric (c : Char) : Bool :=
  c.isAlphanum

end ContentService.Text
