import ContentService.Text.Ascii
import ContentService.Text.Blank

/-!
# File names

The name under which an uploaded file is kept: the last segment of the name it came with, in a small
alphabet that is safe in keys and addresses. What follows the last point of it is its extension.
-/

namespace ContentService.FileName

/-- A character that separates the segments of a path. -/
def isSeparator (c : Char) : Bool :=
  c = '/' || c = '\\'

/-- What follows the last separator. -/
def lastSegment (cs : List Char) : List Char :=
  (cs.reverse.takeWhile fun c => !isSeparator c).reverse

/-- The characters that a name keeps. -/
def isKept (c : Char) : Bool :=
  Text.isAsciiAlphanumeric c || c = '.' || c = '-' || c = '_'

/-- The kept form of a list of characters: every other character becomes an underscore, and there
are no points in front. -/
def cleanChars (cs : List Char) : List Char :=
  ((Text.trimChars (lastSegment cs)).map fun c => if isKept c then c else '_').dropWhile (· = '.')

/-- The kept form of a name. -/
def clean (name : String) : String :=
  String.ofList (cleanChars name.toList)

/-- The extension of a name in lower case: what follows the last point, if something precedes it. -/
def extension? (name : String) : Option String :=
  let after := name.toList.reverse.takeWhile (· ≠ '.')
  match name.toList.reverse.dropWhile (· ≠ '.') with
  | _ :: _ :: _ => some (Text.asciiLower (String.ofList after.reverse))
  | _ => none

end ContentService.FileName
