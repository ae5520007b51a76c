import ContentService.Binary64.Rounding
import ContentService.Text.Blank
import ContentService.Text.Digits

/-!
# Reading decimal numbers

A decimal number is an optional sign, digits with at most one point among or around them, and
optionally an exponent; or one of the words for infinity and NaN in any case. It is read as the
nearest floating-point number.
-/

namespace ContentService.Binary64

open Text

/-- Reads an exponent: nothing, or the letter, an optional sign and at least one digit. -/
def readExponent? : List Char → Option Int
  | [] => some 0
  | letter :: rest =>
    if letter.toLower ≠ 'e' then none
    else
      match rest with
      | '-' :: digits => (readNat? digits).map fun n => -(n : Int)
      | '+' :: digits => (readNat? digits).map Int.ofNat
      | digits => (readNat? digits).map Int.ofNat

/-- Reads a number without its sign. -/
def readUnsigned? (negative : Bool) (cs : List Char) : Option Binary64 :=
  let whole := cs.takeWhile isDigit
  let afterWhole := cs.dropWhile isDigit
  let (fraction, rest) :=
    match afterWhole with
    | '.' :: tail => (tail.takeWhile isDigit, tail.dropWhile isDigit)
    | _ => ([], afterWhole)
  let digits := whole ++ fraction
  if digits.isEmpty then none
  else
    (readExponent? rest).map fun exponent =>
      ofScaled negative (digitsValue digits) digits.length (exponent - fraction.length)

/-- Reads the words for infinity and NaN. -/
def readWord? (negative : Bool) (cs : List Char) : Option Binary64 :=
  let word := String.ofList (cs.map Char.toLower)
  if word = "inf" ∨ word = "infinity" then some (infinity negative)
  else if word = "nan" then some (nan negative)
  else none

/-- Reads a decimal number that fills the whole list. -/
def readChars? (cs : List Char) : Option Binary64 :=
  let (negative, rest) :=
    match cs with
    | '-' :: rest => (true, rest)
    | '+' :: rest => (false, rest)
    | _ => (false, cs)
  (readUnsigned? negative rest).or (readWord? negative rest)

/-- Reads a decimal number that fills the whole text. -/
def read? (s : String) : Option Binary64 :=
  readChars? s.toList

/-- Reads a decimal number with white space around it. -/
def readTrimmed? (s : String) : Option Binary64 :=
  readChars? (trimChars s.toList)

end ContentService.Binary64
