import ContentService.Text.Ascii
import ContentService.Text.Digits

/-!
# Record ids

Ids are numbers of 128 bits, written as 32 lower-case hexadecimal digits in five groups.
-/

namespace ContentService

/-- The id of a record. -/
structure Uuid where
  number : Nat
  number_lt : number < 2 ^ 128
  deriving DecidableEq, Repr

namespace Uuid

open Text

/-- Numeric order, which is also the order of the texts. -/
def order (a b : Uuid) : Ordering :=
  compare a.number b.number

/-- The id with a given number, taken modulo 2^128. -/
def ofNat (n : Nat) : Uuid :=
  ⟨n % 2 ^ 128, Nat.mod_lt _ (by decide)⟩

/-- The lowest `count` hexadecimal digits of a number. -/
def hexDigits (count n : Nat) : List Char :=
  (List.range count).map fun i => (n / 16 ^ (count - 1 - i) % 16).digitChar

/-- The characters of an id's text. -/
def writeChars (id : Uuid) : List Char :=
  let digits := hexDigits 32 id.number
  digits.take 8 ++ '-' :: (digits.drop 8).take 4 ++ '-' :: (digits.drop 12).take 4 ++
    '-' :: (digits.drop 16).take 4 ++ '-' :: digits.drop 20

/-- The text of an id. -/
def write (id : Uuid) : String :=
  String.ofList id.writeChars

/-- The number that 32 hexadecimal digits denote. -/
def ofHex? (cs : List Char) : Option Uuid :=
  if cs.length = 32 then
    (cs.mapM hexValue?).map fun values => ofNat (values.foldl (fun n v => 16 * n + v) 0)
  else none

/-- Reads five groups of digits of lengths 8, 4, 4, 4 and 12 joined by hyphens. -/
def ofGroups? (cs : List Char) : Option Uuid :=
  if cs.length = 36 ∧ cs[8]? = some '-' ∧ cs[13]? = some '-' ∧ cs[18]? = some '-' ∧
      cs[23]? = some '-' then
    ofHex? (cs.take 8 ++ (cs.drop 9).take 4 ++ (cs.drop 14).take 4 ++ (cs.drop 19).take 4 ++
      cs.drop 24)
  else none

/-- Reads an id: grouped digits, bare digits, grouped digits in braces, or grouped digits behind the
name of the id namespace. -/
def readChars? (cs : List Char) : Option Uuid :=
  match cs with
  | '\x7b' :: rest =>
    if rest.getLast? = some '\x7d' then ofGroups? rest.dropLast else none
  | _ =>
    if (cs.take 9).map Char.toLower = "urn:uuid:".toList then ofGroups? (cs.drop 9)
    else if cs.length = 32 then ofHex? cs
    else ofGroups? cs

/-- Reads an id that fills the text. -/
def read? (s : String) : Option Uuid :=
  readChars? s.toList

end Uuid

end ContentService
