/-!
# Order and search

Texts in the order of their code points, which is also the order of their bytes, and the questions a
text filter asks: whether one text begins, ends or occurs in another.
-/

namespace ContentService.Text

/-- The order of code points, position by position; a proper beginning of a text comes before it. -/
def order (a b : String) : Ordering :=
  compare a.toList b.toList

/-- Whether a list of characters occurs in another without gaps. -/
def occursIn (needle : List Char) : List Char → Bool
  | [] => needle.isEmpty
  | c :: rest => needle.isPrefixOf (c :: rest) || occursIn needle rest

/-- Whether `needle` occurs in `haystack`. -/
def contains (haystack needle : String) : Bool :=
  occursIn needle.toList haystack.toList

/-- Whether `haystack` begins with `needle`. -/
def startsWith (haystack needle : String) : Bool :=
  needle.toList.isPrefixOf haystack.toList

/-- Whether `haystack` ends with `needle`. -/
def endsWith (haystack needle : String) : Bool :=
  needle.toList.isSuffixOf haystack.toList

end ContentService.Text
