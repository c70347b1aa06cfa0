import EditorShell.Text.CaseData
import EditorShell.Text.Ranges

/-!
# Lower case

The lower case of a text over the whole of Unicode.  Characters are mapped one by one, with two
exceptions: capital I with dot above becomes two characters, and a capital sigma becomes the final
small sigma at the end of a word and the ordinary one elsewhere.

A sigma ends a word when the nearest character before it that is not case-ignorable is cased, and
the nearest such character after it is not.
-/

namespace EditorShell.Text

open CaseData

/-- The lower case of one code point by a table of runs in ascending order. -/
def lowerCode (code : Nat) : List (Nat × Nat × Nat × Int) → Nat
  | [] => code
  | (first, last, step, offset) :: rest =>
    if code < first then code
    else if code ≤ last ∧ (code - first) % step = 0 then (code + offset).toNat
    else lowerCode code rest

/-- Whether a character has case and is not skipped when the end of a word is looked for. -/
def isCased (c : Char) : Bool := inRanges c.toNat casedRanges

/-- Whether a character is skipped when the end of a word is looked for. -/
def isCaseIgnorable (c : Char) : Bool := inRanges c.toNat ignorableRanges

/-- The lower case of a character that is not a capital sigma. -/
def lowerChars (c : Char) : List Char :=
  if c = '\u0130' then ['i', '\u0307'] else [Char.ofNat (lowerCode c.toNat lowerRuns)]

/-- Whether the first character that is not case-ignorable is cased. -/
def startsCased : List Char → Bool
  | [] => false
  | c :: rest => if isCaseIgnorable c then startsCased rest else isCased c

/-- The lower case of a text that follows `before`, which is given last character first. -/
def lowerAfter (before : List Char) : List Char → List Char
  | [] => []
  | c :: rest =>
    if c = '\u03A3' then
      (if startsCased before && !startsCased rest then '\u03C2' else '\u03C3') ::
        lowerAfter (c :: before) rest
    else lowerChars c ++ lowerAfter (c :: before) rest

/-- The lower case of a text. -/
def lowercase (text : List Char) : List Char := lowerAfter [] text

end EditorShell.Text
