/-!
# Bytes

Lists of bytes, as files and messages have them, and the texts that they encode.
-/

namespace ContentService

/-- A list of bytes. -/
abbrev Bytes := List UInt8

namespace Bytes

/-- The bytes of characters in UTF-8. -/
def ofChars (cs : List Char) : Bytes :=
  cs.flatMap String.utf8EncodeChar

/-- The bytes of a text in UTF-8. -/
def ofText (s : String) : Bytes :=
  ofChars s.toList

/-- The text that bytes are in UTF-8. -/
def text? (bytes : Bytes) : Option String :=
  String.fromUTF8? ⟨bytes.toArray⟩

/-- What stands before and behind the first occurrence of `mark`. -/
def breakOn? (mark : Bytes) : Bytes → Option (Bytes × Bytes)
  | [] => if mark.isEmpty then some ([], []) else none
  | byte :: rest =>
    if mark.isPrefixOf (byte :: rest) then some ([], (byte :: rest).drop mark.length)
    else (breakOn? mark rest).map fun (before, behind) => (byte :: before, behind)

/-- The two parts and the mark between them are all there is. -/
theorem eq_append_of_breakOn? {mark bytes before behind : Bytes}
    (found : breakOn? mark bytes = some (before, behind)) : bytes = before ++ mark ++ behind := by
  induction bytes generalizing before with
  | nil =>
    rw [breakOn?] at found
    split at found <;> simp_all
  | cons byte rest ih =>
    rw [breakOn?] at found
    split at found
    case isTrue starts =>
      obtain ⟨tail, eq⟩ := List.isPrefixOf_iff_prefix.1 starts
      simp only [Option.some.injEq, Prod.mk.injEq] at found
      rw [← found.1, ← found.2, ← eq]
      simp
    case isFalse =>
      obtain ⟨⟨start, tail⟩, later, eq⟩ := Option.map_eq_some_iff.1 found
      simp only [Prod.mk.injEq] at eq
      rw [← eq.1, ih (eq.2 ▸ later)]
      rfl

/-- Bytes are longer than what stands behind a mark in them. -/
theorem length_lt_of_breakOn? {mark bytes before behind : Bytes}
    (found : breakOn? mark bytes = some (before, behind)) (nonempty : 0 < mark.length) :
    behind.length < bytes.length := by
  have := congrArg List.length (eq_append_of_breakOn? found)
  simp only [List.length_append] at this
  omega

end Bytes

end ContentService
