import ContentService.Json.Basic

/-!
# Reading Json

The document that a text begins with, and the characters behind it. Reading never fails: where the
text stops being Json, the document says so and no characters are left.
-/

namespace ContentService.Json

open Text

/-- The white space of Json. -/
def isSpace (c : Char) : Bool :=
  c = ' ' || c = '\n' || c = '\t' || c = '\r'

/-- Skips white space. -/
def skipSpace (cs : List Char) : List Char :=
  cs.dropWhile isSpace

/-- The code unit that four hexadecimal digits name. -/
def codeUnit? (a b c d : Char) : Option Nat := do
  let a ← hexValue? a
  let b ← hexValue? b
  let c ← hexValue? c
  let d ← hexValue? d
  some (((a * 16 + b) * 16 + c) * 16 + d)

/-- The character of a short escape. -/
def shortEscape? (c : Char) : Option Nat :=
  if c = '"' ∨ c = '\\' ∨ c = '/' then some c.toNat
  else if c = 'b' then some 8
  else if c = 'f' then some 12
  else if c = 'n' then some 10
  else if c = 'r' then some 13
  else if c = 't' then some 9
  else none

/-- Scans the inside of a string and its closing mark: the code points and escaped code units in
order, and the characters behind. -/
def scanUnits : List Char → Option (List Nat × List Char)
  | [] => none
  | '"' :: rest => some ([], rest)
  | '\\' :: 'u' :: a :: b :: c :: d :: rest =>
    match codeUnit? a b c d, scanUnits rest with
    | some unit, some (units, left) => some (unit :: units, left)
    | _, _ => none
  | '\\' :: escape :: rest =>
    match shortEscape? escape, scanUnits rest with
    | some point, some (units, left) => some (point :: units, left)
    | _, _ => none
  | c :: rest =>
    if c.toNat < 0x20 ∨ c = '\\' then none
    else (scanUnits rest).map fun (units, left) => (c.toNat :: units, left)

/-- Joins pairs of surrogates; a surrogate without its partner is no text. -/
def joinSurrogates : List Nat → Option (List Char)
  | [] => some []
  | high :: low :: rest =>
    if 0xD800 ≤ high ∧ high < 0xDC00 ∧ 0xDC00 ≤ low ∧ low < 0xE000 then
      (joinSurrogates rest).map
        (Char.ofNat (0x10000 + (high - 0xD800) * 0x400 + (low - 0xDC00)) :: ·)
    else if 0xD800 ≤ high ∧ high < 0xE000 then none
    else (joinSurrogates (low :: rest)).map (Char.ofNat high :: ·)
  | [unit] => if 0xD800 ≤ unit ∧ unit < 0xE000 then none else some [Char.ofNat unit]

/-- Reads a string behind its opening mark. -/
def readString (cs : List Char) : Json × List Char :=
  match scanUnits cs with
  | none => (.broken, [])
  | some (units, rest) =>
    match joinSurrogates units with
    | some text => (.string (String.ofList text), rest)
    | none => (.unpaired, rest)

/-- Reads the name of a member behind its opening mark. -/
def readName? (cs : List Char) : Option (Name × List Char) :=
  (scanUnits cs).map fun (units, rest) =>
    match joinSurrogates units with
    | some text => (.text (String.ofList text), rest)
    | none => (.unpaired, rest)

/-- Scans one or more digits. -/
def scanDigits (cs : List Char) : Option (List Char × List Char) :=
  let digits := cs.takeWhile isDigit
  if digits.isEmpty then none else some (digits, cs.dropWhile isDigit)

/-- Scans the integer part of a number: digits without a superfluous leading zero. -/
def scanWhole (cs : List Char) : Option (List Char × List Char) :=
  match cs with
  | '0' :: rest =>
    match rest with
    | c :: _ => if isDigit c then none else some (['0'], rest)
    | [] => some (['0'], rest)
  | _ => scanDigits cs

/-- Scans the fraction of a number, if a point follows. -/
def scanFraction (cs : List Char) : Option (List Char × List Char) :=
  match cs with
  | '.' :: rest => (scanDigits rest).map fun (digits, left) => ('.' :: digits, left)
  | _ => some ([], cs)

/-- Scans the exponent of a number, if its letter follows. -/
def scanExponent (cs : List Char) : Option (List Char × List Char) :=
  match cs with
  | letter :: rest =>
    if letter = 'e' ∨ letter = 'E' then
      match rest with
      | sign :: tail =>
        if sign = '+' ∨ sign = '-' then
          (scanDigits tail).map fun (digits, left) => (letter :: sign :: digits, left)
        else (scanDigits rest).map fun (digits, left) => (letter :: digits, left)
      | [] => none
    else some ([], cs)
  | [] => some ([], cs)

/-- Reads a number without its sign. -/
def readUnsigned (sign cs : List Char) : Json × List Char :=
  match do
    let (whole, cs) ← scanWhole cs
    let (fraction, cs) ← scanFraction cs
    let (exponent, cs) ← scanExponent cs
    some (sign ++ whole ++ fraction ++ exponent, cs) with
  | some (spelling, rest) => (.number spelling, rest)
  | none => (.broken, [])

/-- Reads a number or one of the three words; `cs` begins with its first character. -/
def readAtom (cs : List Char) : Json × List Char :=
  match cs with
  | 'n' :: 'u' :: 'l' :: 'l' :: rest => (.null, rest)
  | 't' :: 'r' :: 'u' :: 'e' :: rest => (.bool true, rest)
  | 'f' :: 'a' :: 'l' :: 's' :: 'e' :: rest => (.bool false, rest)
  | '-' :: rest => readUnsigned ['-'] rest
  | _ => readUnsigned [] cs

mutual
/-- Reads a value; `depth` bounds the number of nested steps. -/
def readValue (depth : Nat) (cs : List Char) : Json × List Char :=
  match depth with
  | 0 => (.broken, [])
  | depth + 1 =>
    match skipSpace cs with
    | '"' :: rest => readString rest
    | '[' :: rest =>
      match skipSpace rest with
      | ']' :: left => (.array [] true, left)
      | rest =>
        let (elements, closed, left) := readElements depth rest
        (.array elements closed, left)
    | '\x7b' :: rest =>
      match skipSpace rest with
      | '\x7d' :: left => (.object [] true, left)
      | rest =>
        let (members, closed, left) := readMembers depth rest
        (.object members closed, left)
    | rest => readAtom rest

/-- Reads one or more elements and the closing bracket. -/
def readElements (depth : Nat) (cs : List Char) : List Json × Bool × List Char :=
  match depth with
  | 0 => ([], false, [])
  | depth + 1 =>
    let (element, rest) := readValue depth cs
    match skipSpace rest with
    | ']' :: left => ([element], true, left)
    | ',' :: rest =>
      let (elements, closed, left) := readElements depth rest
      (element :: elements, closed, left)
    | _ => ([element], false, [])

/-- Reads one or more members and the closing brace. -/
def readMembers (depth : Nat) (cs : List Char) : List (Name × Json) × Bool × List Char :=
  match depth with
  | 0 => ([], false, [])
  | depth + 1 =>
    match skipSpace cs with
    | '"' :: rest =>
      match readName? rest with
      | some (name, rest) =>
        match skipSpace rest with
        | ':' :: rest =>
          let (value, rest) := readValue depth rest
          match skipSpace rest with
          | '\x7d' :: left => ([(name, value)], true, left)
          | ',' :: rest =>
            let (members, closed, left) := readMembers depth rest
            ((name, value) :: members, closed, left)
          | _ => ([(name, value)], false, [])
        | _ => ([(name, .broken)], false, [])
      | none => ([], false, [])
    | rest => ([(.absent, (readValue depth rest).1)], false, [])
end

/-- The document at the beginning of a text, and what follows it. -/
def readFirst (cs : List Char) : Json × List Char :=
  readValue (2 * cs.length + 2) cs

/-- The document that fills a text, white space aside; broken if something follows it. -/
def read (s : String) : Json :=
  let (document, rest) := readFirst s.toList
  if (skipSpace rest).isEmpty then document else .broken

end ContentService.Json
