import ContentService.Text.Ascii
import ContentService.Text.Decompose
import ContentService.Text.Lowercase

/-!
# Slugs

A slug is the readable part of a record's address: words of lower-case ASCII letters and digits,
joined by single hyphens. Any text has a slug, in which accented letters keep their base letter and
all other characters separate words.
-/

namespace ContentService.Slug

/-- The combining accents that a slug leaves out. -/
def isAccent (c : Char) : Bool :=
  0x300 ≤ c.toNat && c.toNat ≤ 0x36F

/-- The letters of a text: decomposed, without accents, in lower case. -/
def letters (cs : List Char) : List Char :=
  Text.lowerChars ((Text.decomposeChars cs).filter fun c => !isAccent c)

/-- A word in front of others, unless it is empty. -/
def consWord (word : List Char) (others : List (List Char)) : List (List Char) :=
  if word.isEmpty then others else word :: others

/-- The run of ASCII letters and digits with which a list begins, which may be empty, and the words
behind it. -/
def splitWord : List Char → List Char × List (List Char)
  | [] => ([], [])
  | c :: rest =>
    let (word, others) := splitWord rest
    if Text.isAsciiAlphanumeric c then (c :: word, others) else ([], consWord word others)

/-- The words of a list of characters: its runs of ASCII letters and digits. -/
def words (cs : List Char) : List (List Char) :=
  let (word, others) := splitWord cs
  consWord word others

/-- The slug of a list of characters. -/
def ofChars (cs : List Char) : List Char :=
  ['-'].intercalate (words (letters cs))

/-- The slug of a text. -/
def ofText (s : String) : String :=
  String.ofList (ofChars s.toList)

/-- A text that is its own slug, and not empty. -/
def isCanonical (s : String) : Bool :=
  s ≠ "" && ofText s == s

/-- The greatest length of a slug in bytes. -/
def maxLength : Nat := 128

end ContentService.Slug
