import ContentService.Text.CombiningClass
import ContentService.Text.Decompositions

/-!
# Canonical decomposition

The canonical decomposition of a text: every character is replaced by its full decomposition, then
the marks that follow a base character are put in the order of their combining classes.
-/

namespace ContentService.Text

/-- A Hangul syllable falls into a leading consonant, a vowel and perhaps a trailing consonant. -/
def decomposeSyllable (index : Nat) : List Char :=
  let leading := Char.ofNat (0x1100 + index / 588)
  let vowel := Char.ofNat (0x1161 + index % 588 / 28)
  if index % 28 = 0 then [leading, vowel]
  else [leading, vowel, Char.ofNat (0x11A7 + index % 28)]

/-- The full canonical decomposition of one character. -/
def decomposeChar (c : Char) : List Char :=
  let point := c.toNat
  if point < 0xC0 then [c]
  else if 0xAC00 ≤ point ∧ point < 0xAC00 + 11172 then decomposeSyllable (point - 0xAC00)
  else if 0xF900 ≤ point ∧ point < 0xFB00 then
    [Char.ofNat ((compatibilityIdeographs[point - 0xF900]?).getD point)]
  else if 0x2F800 ≤ point then
    [Char.ofNat ((supplementaryIdeographs[point - 0x2F800]?).getD point)]
  else
    match decompositions.lookup point with
    | some points => points.map Char.ofNat
    | none => [c]

/-- Puts a mark behind the marks whose class does not exceed its own. -/
def insertMark (mark : Char) : List Char → List Char
  | [] => [mark]
  | other :: rest =>
    if combiningClass mark < combiningClass other then mark :: other :: rest
    else other :: insertMark mark rest

/-- Orders the marks after each base character; `marks` holds those met since the last one. -/
def orderMarksFrom (marks : List Char) : List Char → List Char
  | [] => marks
  | c :: rest =>
    if combiningClass c = 0 then marks ++ c :: orderMarksFrom [] rest
    else orderMarksFrom (insertMark c marks) rest

/-- The canonical decomposition of a list of characters. -/
def decomposeChars (cs : List Char) : List Char :=
  orderMarksFrom [] (cs.flatMap decomposeChar)

end ContentService.Text
