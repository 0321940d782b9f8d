import Pushdown.Text.CaseData
import Pushdown.Text.LetterData

/-!
# `Text.Case` — upper and lower case of whole texts

Case is mapped character by character, and a character may become several. The one rule that looks at its
surroundings is the Greek capital sigma, whose lower case at the end of a word is the final form.

## Contents

* `upperChar`, `lowerChar` — the mapping of one character.
* `isUppercase` — the property Uppercase.
* `upper`, `lower` — the mapping of a text.
-/

namespace Pushdown.Text

/-- The mapping that a table of ranges and a table of expansions describe together. -/
def mapChar (ranges : List ShiftedRange) (expansions : List (Nat × List Nat)) (c : Char) : List Char :=
  match ranges.find? (·.domain.contains c.toNat) with
  | some r => [Char.ofNat (r.image c.toNat)]
  | none =>
    match expansions.lookup c.toNat with
    | some ns => ns.map Char.ofNat
    | none => [c]

/-- Upper case of one character. -/
def upperChar (c : Char) : List Char := mapChar upperRanges upperExpansions c

/-- Lower case of one character, wherever it stands. -/
def lowerChar (c : Char) : List Char := mapChar lowerRanges lowerExpansions c

/-- A character with the property Uppercase. -/
def isUppercase (c : Char) : Bool := inRanges uppercaseRanges c

/-- A character with the property Cased. -/
def isCased (c : Char) : Bool := inRanges casedRanges c

/-- A character with the property Case_Ignorable. -/
def isCaseIgnorable (c : Char) : Bool := inRanges caseIgnorableRanges c

/-- The nearest character that is not ignorable for case is a cased letter. -/
def startsCased (cs : List Char) : Bool :=
  match cs.dropWhile isCaseIgnorable with
  | [] => false
  | c :: _ => isCased c

/-- Greek capital sigma, the one letter whose lower case depends on its place. -/
def capitalSigma : Char := 'Σ'

/-- Lower case of a text, given the characters already passed, the nearest first. -/
def lowerChars (passed : List Char) : List Char → List Char
  | [] => []
  | c :: r =>
    (if c = capitalSigma then
      [if startsCased passed && !startsCased r then 'ς' else 'σ']
     else lowerChar c) ++ lowerChars (c :: passed) r

/-- Upper case of a text. -/
def upper (s : String) : String := String.ofList (s.toList.flatMap upperChar)

/-- Lower case of a text. -/
def lower (s : String) : String := String.ofList (lowerChars [] s.toList)

/-- Some character of the text has the property Uppercase. -/
def hasUppercase (s : String) : Bool := s.toList.any isUppercase

end Pushdown.Text
