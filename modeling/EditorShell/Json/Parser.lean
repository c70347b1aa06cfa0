import EditorShell.Json.Document

/-!
# Reading documents

Strict JSON: no comments, no trailing commas, no leading zeros, no control characters in strings.
Blanks are the space, the tab, the line feed and the carriage return.

The reader works on the characters that are left and returns what it read with the characters after
it.  Its fuel bounds the number of nested calls; two units for each character are always enough, and
`Document.read?` provides them.

A string is read in two steps.  The first finds its end and takes escapes apart (`Piece`); the
second joins surrogate pairs and refuses a half that stands alone.
-/

namespace EditorShell.Json

/-- One element of a string: a character, or a UTF-16 unit written as four hexadecimal digits. -/
inductive Piece where
  | char (c : Char)
  | unit (code : Nat)
  deriving DecidableEq

/-- The value of a hexadecimal digit. -/
def hexValue? (c : Char) : Option Nat :=
  let code := c.toNat
  if 48 ≤ code ∧ code ≤ 57 then some (code - 48)
  else if 97 ≤ code ∧ code ≤ 102 then some (code - 87)
  else if 65 ≤ code ∧ code ≤ 70 then some (code - 55)
  else none

/-- The unit that four hexadecimal digits stand for. -/
def hexUnit? (a b c d : Char) : Option Nat := do
  let a ← hexValue? a
  let b ← hexValue? b
  let c ← hexValue? c
  let d ← hexValue? d
  some (((a * 16 + b) * 16 + c) * 16 + d)

/-- The character that a one-letter escape stands for. -/
def escaped? (c : Char) : Option Char :=
  if c = '"' then some '"'
  else if c = '\\' then some '\\'
  else if c = '/' then some '/'
  else if c = 'b' then some '\x08'
  else if c = 'f' then some '\x0C'
  else if c = 'n' then some '\n'
  else if c = 'r' then some '\r'
  else if c = 't' then some '\t'
  else none

/-- Reads the rest of a string after its opening quote, up to and with the closing one. -/
def readPieces? : List Char → Option (List Piece × List Char)
  | [] => none
  | '"' :: rest => some ([], rest)
  | '\\' :: 'u' :: a :: b :: c :: d :: rest => do
    let code ← hexUnit? a b c d
    let (pieces, rest) ← readPieces? rest
    some (.unit code :: pieces, rest)
  | '\\' :: c :: rest => do
    let c ← escaped? c
    let (pieces, rest) ← readPieces? rest
    some (.char c :: pieces, rest)
  | c :: rest =>
    if c.toNat < 0x20 then none
    else do
      let (pieces, rest) ← readPieces? rest
      some (.char c :: pieces, rest)

/-- Whether a UTF-16 unit is the first half of a surrogate pair. -/
def isHighHalf (code : Nat) : Bool := 0xD800 ≤ code && code ≤ 0xDBFF

/-- Whether a UTF-16 unit is the second half of a surrogate pair. -/
def isLowHalf (code : Nat) : Bool := 0xDC00 ≤ code && code ≤ 0xDFFF

/-- The characters of a string; `none` if half of a surrogate pair stands alone. -/
def joinPieces? : List Piece → Option (List Char)
  | [] => some []
  | .char c :: rest => (joinPieces? rest).map (c :: ·)
  | .unit high :: .unit low :: rest =>
    if isHighHalf high then
      if isLowHalf low then
        (joinPieces? rest).map
          (Char.ofNat (0x10000 + (high - 0xD800) * 0x400 + (low - 0xDC00)) :: ·)
      else none
    else if isLowHalf high then none
    -- A unit that is a character by itself does not use up the next one.
    else (joinPieces? (.unit low :: rest)).map (Char.ofNat high :: ·)
  | .unit code :: rest =>
    if isHighHalf code || isLowHalf code then none
    else (joinPieces? rest).map (Char.ofNat code :: ·)

/-- The text of the pieces of a string; `none` if half of a surrogate pair stands alone. -/
def piecesText? (pieces : List Piece) : Option String := (joinPieces? pieces).map String.ofList

/-- Whether a character may stand between two tokens. -/
def isSpace (c : Char) : Bool := c == ' ' || c == '\t' || c == '\n' || c == '\r'

/-- The text behind the white space at its start. -/
def skipSpace (text : List Char) : List Char := text.dropWhile isSpace

namespace Document

/-- Reads a number; one that is too large is kept as such. -/
def readNumber? (text : List Char) : Option (Document × List Char) := do
  let (lexeme, rest) ← Lexeme.read? text
  some (.number lexeme.value?, rest)

mutual

/-- Reads a value behind white space; the fuel bounds how deep the readings of values and lists call
each other. -/
def readValue? : Nat → List Char → Option (Document × List Char)
  | 0, _ => none
  | fuel + 1, text =>
    match skipSpace text with
    | 'n' :: 'u' :: 'l' :: 'l' :: rest => some (.null, rest)
    | 't' :: 'r' :: 'u' :: 'e' :: rest => some (.bool true, rest)
    | 'f' :: 'a' :: 'l' :: 's' :: 'e' :: rest => some (.bool false, rest)
    | '"' :: rest => do
      let (pieces, rest) ← readPieces? rest
      some (.string (piecesText? pieces), rest)
    | '[' :: rest =>
      match skipSpace rest with
      | ']' :: rest => some (.array [], rest)
      | rest => do
        let (items, rest) ← readItems? fuel rest
        some (.array items, rest)
    | '{' :: rest =>
      match skipSpace rest with
      | '}' :: rest => some (.object [], rest)
      | rest => do
        let (members, rest) ← readMembers? fuel rest
        some (.object members, rest)
    | text => readNumber? text

/-- Reads the items of an array from the first one on, with the closing bracket. -/
def readItems? : Nat → List Char → Option (List Document × List Char)
  | 0, _ => none
  | fuel + 1, text => do
    let (item, rest) ← readValue? fuel text
    match skipSpace rest with
    | ']' :: rest => some ([item], rest)
    | ',' :: rest => do
      let (items, rest) ← readItems? fuel rest
      some (item :: items, rest)
    | _ => none

/-- Reads the members of an object from the first one on, with the closing brace. -/
def readMembers? : Nat → List Char → Option (List (Option String × Document) × List Char)
  | 0, _ => none
  | fuel + 1, text =>
    match skipSpace text with
    | '"' :: rest => do
      let (pieces, rest) ← readPieces? rest
      match skipSpace rest with
      | ':' :: rest => do
        let (item, rest) ← readValue? fuel rest
        match skipSpace rest with
        | '}' :: rest => some ([(piecesText? pieces, item)], rest)
        | ',' :: rest => do
          let (members, rest) ← readMembers? fuel rest
          some ((piecesText? pieces, item) :: members, rest)
        | _ => none
      | _ => none
    | _ => none

end

/-- Reads a text that holds one document and nothing else. -/
def read? (text : List Char) : Option Document := do
  let (document, rest) ← readValue? (2 * text.length + 2) text
  if (skipSpace rest).isEmpty then some document else none

/-- The document that a text is. -/
def parse? (text : String) : Option Document := read? text.toList

end Document

/-- The value that a text is. -/
def Value.parse? (text : String) : Option Value := do
  let document ← Document.parse? text
  document.value? Document.maxDepth

end EditorShell.Json
