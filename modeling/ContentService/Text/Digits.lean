import ContentService.Power

/-!
# Digits

Whole numbers as decimal text, and back; the values of hexadecimal digits.
-/

namespace ContentService.Text

/-- The ASCII digits. -/
def isDigit (c : Char) : Bool :=
  48 ≤ c.toNat && c.toNat ≤ 57

/-- The value of a digit. -/
def digitValue (c : Char) : Nat :=
  c.toNat - 48

/-- The value of a hexadecimal digit in either case. -/
def hexValue? (c : Char) : Option Nat :=
  let lower := c.toLower
  if isDigit c then some (digitValue c)
  else if 'a'.toNat ≤ lower.toNat ∧ lower.toNat ≤ 'f'.toNat then some (lower.toNat - 87)
  else none

/-- The number that a list of digits denotes, read from the left. -/
def digitsValue (cs : List Char) : Nat :=
  cs.foldl (fun value c => 10 * value + digitValue c) 0

/-- The decimal digits of a natural number, without leading zeros. -/
def writeNat (n : Nat) : List Char :=
  Nat.toDigits 10 n

/-- The decimal digits of a natural number, with zeros in front up to the given width. -/
def writePadded (width n : Nat) : List Char :=
  let digits := writeNat n
  List.replicate (width - digits.length) '0' ++ digits

/-- A whole number in decimal, with a sign if it is negative. -/
def writeInt (n : Int) : List Char :=
  if n < 0 then '-' :: writeNat n.natAbs else writeNat n.natAbs

/-- Reads one or more digits and nothing else. -/
def readNat? (cs : List Char) : Option Nat :=
  if cs.isEmpty || !cs.all isDigit then none else some (digitsValue cs)

/-- Why a text is not a whole number of the wanted range. -/
inductive IntegerFault
  /-- There are no characters at all. -/
  | empty
  /-- Some character is not a digit, or only a sign is there. -/
  | invalidDigit
  /-- The number is above the range. -/
  | tooLarge
  /-- The number is below the range. -/
  | tooSmall
  deriving DecidableEq, Repr

/-- The wording of a fault. -/
def IntegerFault.message : IntegerFault → String
  | .empty => "cannot parse integer from empty string"
  | .invalidDigit => "invalid digit found in string"
  | .tooLarge => "number too large to fit in target type"
  | .tooSmall => "number too small to fit in target type"

/-- Reads digits behind a value; the first character that is no digit or takes the value above
`most` is at fault. -/
def readDigits (most value : Nat) : List Char → Except IntegerFault Nat
  | [] => .ok value
  | c :: rest =>
    if !isDigit c then .error .invalidDigit
    else if most < 10 * value + digitValue c then .error .tooLarge
    else readDigits most (10 * value + digitValue c) rest

/-- Reads a natural number up to `most`, with or without a plus sign. -/
def readUnsigned (most : Nat) (cs : List Char) : Except IntegerFault Nat :=
  match cs with
  | [] => .error .empty
  | ['+'] => .error .invalidDigit
  | '+' :: digits => readDigits most 0 digits
  | digits => readDigits most 0 digits

/-- Reads a whole number from `least` to `most`, with or without a sign. -/
def readSigned (least most : Int) (cs : List Char) : Except IntegerFault Int :=
  let (negative, digits) :=
    match cs with
    | '-' :: rest => (true, rest)
    | '+' :: rest => (false, rest)
    | _ => (false, cs)
  if cs.isEmpty then .error .empty
  else
    match readNat? digits with
    | none => .error .invalidDigit
    | some n =>
      let value : Int := if negative then -n else n
      if value < least then .error .tooSmall
      else if most < value then .error .tooLarge
      else .ok value

end ContentService.Text
