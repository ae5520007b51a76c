import ContentService.Text.CaseProperties
import ContentService.Text.CaseRuns

/-!
# Lower case

Full lower-casing of a text. Each character is mapped on its own, except that a capital sigma at the
end of a word becomes the final form of the letter.
-/

namespace ContentService.Text

/-- The capital Greek letter sigma. -/
def capitalSigma : Char := Char.ofNat 0x3A3

/-- The small sigma of the middle of a word. -/
def smallSigma : Char := Char.ofNat 0x3C3

/-- The small sigma of the end of a word. -/
def finalSigma : Char := Char.ofNat 0x3C2

/-- The lower case of one character out of context; the dotted capital I keeps its dot as a mark. -/
def lowerChar (c : Char) : List Char :=
  if c.toNat < 0x80 then [c.toLower]
  else if c.toNat = 0x130 then ['i', Char.ofNat 0x307]
  else
    match caseRuns.find? (·.covers c.toNat) with
    | some run => [Char.ofNat (c.toNat + run.shift).toNat]
    | none => [c]

/-- Whether a cased character comes first once the case-ignorable ones are passed. -/
def meetsCased (cs : List Char) : Bool :=
  match cs.dropWhile isCaseIgnorable with
  | c :: _ => isCased c
  | [] => false

/-- Lower-cases the rest of a text; `before` holds what precedes it, nearest first. -/
def lowerFrom (before : List Char) : List Char → List Char
  | [] => []
  | c :: rest =>
    let mapped :=
      if c = capitalSigma then
        [if meetsCased before && !meetsCased rest then finalSigma else smallSigma]
      else lowerChar c
    mapped ++ lowerFrom (c :: before) rest

/-- Lower-cases a list of characters. -/
def lowerChars (cs : List Char) : List Char :=
  lowerFrom [] cs

/-- Lower-cases a text. -/
def lowercase (s : String) : String :=
  String.ofList (lowerChars s.toList)

end ContentService.Text
