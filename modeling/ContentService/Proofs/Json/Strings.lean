import ContentService.Json.Reader
import ContentService.Json.Writer
import ContentService.Proofs.Text.Ids

/-! # Strings are read back

What a string is written as between its quotation marks is scanned as its code points, escaped or
not, and code points of characters are never halves of surrogate pairs. So every text, and every
name of a member, is read as it was before it was written.
-/

namespace ContentService.Json

open Text

/-! ## Characters -/

/-- One more code unit in front of what a scan gave. -/
def withUnit (unit : Nat) (scanned : Option (List Nat × List Char)) :
    Option (List Nat × List Char) :=
  scanned.map fun (units, left) => (unit :: units, left)

/-- A character that needs no escape stands for itself. -/
theorem scanUnits_plain {c : Char} (mark : c ≠ '"') (escape : c ≠ '\\') (printable : 0x20 ≤ c.toNat)
    (rest : List Char) : scanUnits (c :: rest) = withUnit c.toNat (scanUnits rest) := by
  rw [scanUnits]
  · rw [if_neg (not_or.mpr ⟨Nat.not_lt.mpr printable, escape⟩)]
    rfl
  · exact mark
  · exact fun _ _ _ _ _ begins _ => escape begins
  · exact fun _ _ begins _ => escape begins

/-- A short escape stands for its code point. -/
theorem scanUnits_short {letter : Char} {point : Nat} (short : shortEscape? letter = some point)
    (rest : List Char) :
    scanUnits ('\\' :: letter :: rest) = withUnit point (scanUnits rest) := by
  rw [scanUnits]
  · rw [short]
    cases scanUnits rest <;> rfl
  · rintro a b c d left rfl rfl
    exact absurd short (by simp [shortEscape?])

/-- A long escape stands for the number of its digits. -/
theorem scanUnits_long {a b c d : Char} {unit : Nat} (digits : codeUnit? a b c d = some unit)
    (rest : List Char) :
    scanUnits ('\\' :: 'u' :: a :: b :: c :: d :: rest) = withUnit unit (scanUnits rest) := by
  rw [scanUnits, digits]
  cases scanUnits rest <;> rfl

/-- The first two of four digits are zeros for a unit below 256. -/
theorem codeUnit?_digitChar {n : Nat} (small : n < 256) :
    codeUnit? '0' '0' (n / 16).digitChar (n % 16).digitChar = some n := by
  have high : hexValue? (n / 16).digitChar = some (n / 16) := hexValue?_digitChar (by omega)
  have low : hexValue? (n % 16).digitChar = some (n % 16) := hexValue?_digitChar (by omega)
  have zero : hexValue? '0' = some 0 := by decide
  simp only [codeUnit?, zero, high, low, Option.bind_eq_bind, Option.bind_some]
  exact congrArg some (by omega)

/-- A character is scanned as its code point, whether its spelling is an escape or not. -/
theorem scanUnits_writeChar (c : Char) (rest : List Char) :
    scanUnits (writeChar c ++ rest) = withUnit c.toNat (scanUnits rest) := by
  unfold writeChar
  split
  · subst c
    exact scanUnits_short (by decide) rest
  split
  · subst c
    exact scanUnits_short (by decide) rest
  -- The five control characters with a short escape.
  iterate 5
    split
    · rename_i point
      rw [point]
      exact scanUnits_short (by decide) rest
  split
  · rename_i control
    exact scanUnits_long (codeUnit?_digitChar (Nat.lt_trans control (by decide))) rest
  · rename_i mark escape _ _ _ _ _ printable
    exact scanUnits_plain mark escape (Nat.not_lt.mp printable) rest

/-- The inside of a string is scanned as the code points of its characters, up to the mark that
closes it. -/
theorem scanUnits_flatMap_writeChar (cs rest : List Char) :
    scanUnits (cs.flatMap writeChar ++ '"' :: rest) = some (cs.map Char.toNat, rest) := by
  induction cs with
  | nil => rw [List.flatMap_nil, List.nil_append, scanUnits, List.map_nil]
  | cons c cs ih =>
      rw [List.flatMap_cons, List.append_assoc, scanUnits_writeChar, ih]
      rfl

/-! ## Texts -/

/-- No character is half of a surrogate pair. -/
theorem not_surrogate (c : Char) : ¬(0xD800 ≤ c.toNat ∧ c.toNat < 0xE000) := by
  have valid : c.toNat < 0xD800 ∨ 0xDFFF < c.toNat ∧ c.toNat < 0x110000 := c.valid
  omega

theorem joinSurrogates_map_toNat (cs : List Char) :
    joinSurrogates (cs.map Char.toNat) = some cs := by
  induction cs with
  | nil => rw [List.map_nil, joinSurrogates]
  | cons c cs ih =>
      have single := not_surrogate c
      cases cs with
      | nil =>
          rw [List.map_cons, List.map_nil, joinSurrogates, if_neg single, Char.ofNat_toNat]
      | cons next cs =>
          rw [List.map_cons, List.map_cons, joinSurrogates, if_neg (by omega), if_neg single,
            ← List.map_cons, ih, Option.map_some, Char.ofNat_toNat]

/-- A string is read back, whatever follows its closing mark. -/
theorem readString_writeString (s : String) (rest : List Char) :
    readString (s.toList.flatMap writeChar ++ '"' :: rest) = (.string s, rest) := by
  simp only [readString, scanUnits_flatMap_writeChar, joinSurrogates_map_toNat,
    String.ofList_toList]

/-- The name of a member is read back, whatever follows its closing mark. -/
theorem readName?_writeString (name : String) (rest : List Char) :
    readName? (name.toList.flatMap writeChar ++ '"' :: rest) = some (.text name, rest) := by
  simp only [readName?, scanUnits_flatMap_writeChar, Option.map_some, joinSurrogates_map_toNat,
    String.ofList_toList]

end ContentService.Json
