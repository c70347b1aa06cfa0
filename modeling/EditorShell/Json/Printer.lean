import EditorShell.Json.Value

/-!
# Writing values

Two forms of the same grammar: the compact one without any blank, and the indented one with two
blanks for each level, a line for each item, and `[]` and `{}` for what is empty.

A string escapes the quote, the backslash and the characters below U+0020; nothing else.
-/

namespace EditorShell.Json

/-- The character of a hexadecimal digit. -/
def hexDigit (digit : Nat) : Char :=
  if digit < 10 then Char.ofNat (48 + digit) else Char.ofNat (87 + digit)

/-- A character as it is written between quotes. -/
def escapeChar (c : Char) : List Char :=
  if c = '"' then ['\\', '"']
  else if c = '\\' then ['\\', '\\']
  else if c = '\x08' then ['\\', 'b']
  else if c = '\x0C' then ['\\', 'f']
  else if c = '\n' then ['\\', 'n']
  else if c = '\r' then ['\\', 'r']
  else if c = '\t' then ['\\', 't']
  else if c.toNat < 0x20 then
    ['\\', 'u', '0', '0', hexDigit (c.toNat / 16), hexDigit (c.toNat % 16)]
  else [c]

/-- A text in quotes. -/
def quote (text : String) : List Char := '"' :: (text.toList.flatMap escapeChar ++ ['"'])

namespace Value

mutual

/-- A value on one line without blanks. -/
def compact : Value → List Char
  | null => ['n', 'u', 'l', 'l']
  | bool true => ['t', 'r', 'u', 'e']
  | bool false => ['f', 'a', 'l', 's', 'e']
  | number value => value.text
  | string text => quote text
  | array items => '[' :: compactItems items
  | object members => '{' :: compactMembers members

/-- The items of an array from the first one on, with the closing bracket. -/
def compactItems : List Value → List Char
  | [] => [']']
  | item :: items => compact item ++ compactMoreItems items

/-- The further items of an array, each after a comma, with the closing bracket. -/
def compactMoreItems : List Value → List Char
  | [] => [']']
  | item :: items => ',' :: (compact item ++ compactMoreItems items)

/-- The members of an object from the first one on, with the closing brace. -/
def compactMembers : List (String × Value) → List Char
  | [] => ['}']
  | (name, item) :: members => quote name ++ ':' :: (compact item ++ compactMoreMembers members)

/-- The further members of an object, each after a comma, with the closing brace. -/
def compactMoreMembers : List (String × Value) → List Char
  | [] => ['}']
  | (name, item) :: members =>
    ',' :: (quote name ++ ':' :: (compact item ++ compactMoreMembers members))

end

/-- The start of a line at a level of nesting. -/
def newLine (level : Nat) : List Char := '\n' :: List.replicate (2 * level) ' '

mutual

/-- The indented text of a value at a level of nesting. -/
def indented (level : Nat) : Value → List Char
  | null => ['n', 'u', 'l', 'l']
  | bool true => ['t', 'r', 'u', 'e']
  | bool false => ['f', 'a', 'l', 's', 'e']
  | number value => value.text
  | string text => quote text
  | array items => '[' :: indentedItems level items
  | object members => '{' :: indentedMembers level members

/-- The items of an array, each on its own line, and the closing bracket. -/
def indentedItems (level : Nat) : List Value → List Char
  | [] => [']']
  | item :: items =>
    newLine (level + 1) ++ (indented (level + 1) item ++ indentedMoreItems level items)

/-- The items behind the first one, and the closing bracket. -/
def indentedMoreItems (level : Nat) : List Value → List Char
  | [] => newLine level ++ [']']
  | item :: items =>
    ',' :: (newLine (level + 1) ++ (indented (level + 1) item ++ indentedMoreItems level items))

/-- The members of an object, each on its own line, and the closing brace. -/
def indentedMembers (level : Nat) : List (String × Value) → List Char
  | [] => ['}']
  | (name, item) :: members =>
    newLine (level + 1) ++ (quote name ++ ':' :: ' ' ::
      (indented (level + 1) item ++ indentedMoreMembers level members))

/-- The members behind the first one, and the closing brace. -/
def indentedMoreMembers (level : Nat) : List (String × Value) → List Char
  | [] => newLine level ++ ['}']
  | (name, item) :: members =>
    ',' :: (newLine (level + 1) ++ (quote name ++ ':' :: ' ' ::
      (indented (level + 1) item ++ indentedMoreMembers level members)))

end

/-- The text of a value on one line. -/
def compactText (value : Value) : String := String.ofList value.compact

/-- The text of a value on lines of its own, which are indented. -/
def indentedText (value : Value) : String := String.ofList (value.indented 0)

end Value

end EditorShell.Json
