/-!
# Blank characters

White space as the Unicode property `White_Space` has it: twenty-five characters, among them the
no-break space and the line separators.  Texts are trimmed and split by this set.

The functions work on lists of characters; `String.toList` and `String.ofList` lead there and back.
-/

namespace EditorShell.Text

/-- Whether a character is white space, over the whole of Unicode. -/
def isBlank (c : Char) : Bool :=
  let code := c.toNat
  (0x09 ≤ code && code ≤ 0x0D) || code == 0x20 || code == 0x85 || code == 0xA0 ||
    code == 0x1680 || (0x2000 ≤ code && code ≤ 0x200A) || code == 0x2028 || code == 0x2029 ||
    code == 0x202F || code == 0x205F || code == 0x3000

/-- A text without the blanks at its start. -/
def trimStart (text : List Char) : List Char := text.dropWhile isBlank

/-- A text without the blanks at its end. -/
def trimEnd (text : List Char) : List Char := (text.reverse.dropWhile isBlank).reverse

/-- A text without the blanks around it. -/
def trim (text : List Char) : List Char := trimEnd (trimStart text)

/-- The text before the first blank and the text after it; `none` if nothing is blank. -/
def splitBlank? (text : List Char) : Option (List Char × List Char) :=
  match text.dropWhile (fun c => !isBlank c) with
  | [] => none
  | _ :: rest => some (text.takeWhile (fun c => !isBlank c), rest)

end EditorShell.Text
