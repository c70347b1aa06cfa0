import EditorShell.Text.Alphanumeric
import EditorShell.Text.Blank

/-!
# Patterns in log filters

A field of a log filter may give a regular expression for its value, and a filter with a malformed
one is refused.  `isPattern` checks an expression in one pass over its characters; what an
expression matches does not matter here.

An expression is about characters unless the flag `u` is taken away, and then about bytes.

* Filters know no properties of characters beyond ASCII.  So the classes `\d`, `\s` and `\w`, the
  boundaries of words, and letters under the flag `i` are for bytes only.
* An expression about bytes must not match half of a character.  So it has no dot, no negated class,
  and no byte or member of a class beyond ASCII.
* A counted repetition is refused, because its closing brace would end the field.

Under the flag `x` blanks count for nothing, and a number sign starts a comment up to the end of
the line.

An expression must not be nested too deeply.  Groups, classes in brackets, repetitions, and rows of
several parts, alternatives or items each put what they hold one level deeper.
-/

namespace EditorShell.LogFilter

/-- How far a class in brackets has been read. -/
inductive ClassPlace where
  | opened
  /-- The bracket was opened and perhaps the class was negated; it has no item. -/
  | empty
  /-- There are only dashes so far, which stand for themselves. -/
  | dashes
  | between
  /-- An item was read; if it is a character, it may start a range. -/
  | item (code? : Option Nat)
  /-- The dash after an item was read, and perhaps blanks. -/
  | dash (first? : Option Nat) (spaced : Bool)
  /-- A character was read that is an operator if it comes twice. -/
  | mark (c : Char)

/-- What a character is read for. -/
inductive CharUse where
  | plain
  | item
  /-- It comes after an item of a class and a dash. -/
  | rangeEnd (first? : Option Nat)

/-- How far an expression has been read. -/
inductive PatternPlace where
  /-- Outside of everything that takes more than one character. -/
  | body
  /-- After a sign of repetition, which a question mark may follow. -/
  | repeated
  /-- After `(`. -/
  | opened
  /-- After `(?`. -/
  | asked
  /-- After `(?P`. -/
  | askedName
  /-- In the name of a group, which is kept last character first. -/
  | name (soFar : List Char)
  /-- In the flags of a group, which are kept last one first. -/
  | flags (soFar : List Char)
  | escape (use : CharUse)
  /-- In a code point, or in a byte, that has some more digits. -/
  | hex (isByte : Bool) (more code : Nat) (use : CharUse)
  | set (place : ClassPlace)

/-- The flags that decide what is well-formed. -/
structure PatternMode where
  caseless : Bool
  /-- Whether the expression is about characters and not about bytes. -/
  unicode : Bool
  verbose : Bool

namespace PatternMode

/-- The value of a flag after some flags, given last one first; `old` is the value before. -/
def flagAfter (flags : List Char) (flag : Char) (old : Bool) : Bool :=
  if (flags.reverse.takeWhile fun c => c != '-').contains flag then true
  else if flags.contains flag then false
  else old

/-- The mode after some flags, which are given last one first. -/
def withFlags (mode : PatternMode) (flags : List Char) : PatternMode where
  caseless := flagAfter flags 'i' mode.caseless
  unicode := flagAfter flags 'u' mode.unicode
  verbose := flagAfter flags 'x' mode.verbose

/-- Whether characters would have to be compared without regard to their case. -/
def foldsChars (mode : PatternMode) : Bool := mode.caseless && mode.unicode

end PatternMode

/-! ## Depth -/

/-- How deep the parts of a row are nested. -/
structure Row where
  count : Nat
  last : Nat
  deepest : Nat

namespace Row

/-- A row without parts. -/
def empty : Row := ⟨0, 0, 0⟩

/-- The row with one more part, of a depth. -/
def push (row : Row) (depth : Nat) : Row :=
  ⟨row.count + 1, depth, Nat.max row.deepest depth⟩

/-- The row after its last part was repeated, which puts that one level deeper. -/
def repeatLast (row : Row) : Row :=
  ⟨row.count, row.last + 1, Nat.max row.deepest (row.last + 1)⟩

/-- The depth of the row; one part alone is no level. -/
def depth (row : Row) : Nat := if row.count ≤ 1 then row.deepest else row.deepest + 1

end Row

/-- What has been read of a group. -/
structure Branches where
  /-- The alternatives before the last one. -/
  before : Row
  /-- The parts of the last alternative. -/
  parts : Row

namespace Branches

/-- A group of which nothing was read. -/
def empty : Branches := ⟨.empty, .empty⟩

/-- The depth of the group as far as it was read. -/
def depth (branches : Branches) : Nat := (branches.before.push branches.parts.depth).depth

/-- After the sign that starts another alternative. -/
def split (branches : Branches) : Branches := ⟨branches.before.push branches.parts.depth, .empty⟩

end Branches

/-- What has been read of a class in brackets. -/
structure ClassFrame where
  /-- The depth of the operands before the last operator. -/
  operands? : Option Nat
  /-- The items since then. -/
  items : Row
  /-- The text of the class, last character first. -/
  text : List Char

namespace ClassFrame

/-- A class of which nothing was read. -/
def empty : ClassFrame := ⟨none, .empty, []⟩

/-- The depth of the class as far as it was read; an operator is one level. -/
def depth (frame : ClassFrame) : Nat :=
  match frame.operands? with
  | none => frame.items.depth
  | some depth => Nat.max depth frame.items.depth + 1

/-- After an operator of classes. -/
def split (frame : ClassFrame) : ClassFrame := ⟨some frame.depth, .empty, frame.text⟩

/-- The names of the classes that have one. -/
def names : List String :=
  ["alnum", "alpha", "ascii", "blank", "cntrl", "digit", "graph", "lower", "print", "punct",
    "space", "upper", "word", "xdigit"]

/-- Whether a class that is about to end is one with a name after `start`. -/
def isNamed (frame : ClassFrame) (start : String) : Bool :=
  names.any fun name => frame.text.reverse == (start ++ name ++ ":").toList

end ClassFrame

/-! ## The scan -/

/-- What has been learned from the start of an expression. -/
structure PatternScan where
  place : PatternPlace
  /-- Whether a comment is being passed over. -/
  inComment : Bool
  /-- Whether a repetition may come next. -/
  repeatable : Bool
  mode : PatternMode
  /-- What has been read of the innermost group. -/
  branches : Branches
  /-- The flags that hold around each open group and what has been read there, innermost first. -/
  groups : List (PatternMode × Branches)
  /-- The open classes, innermost first. -/
  classes : List ClassFrame
  names : List (List Char)

namespace PatternScan

/-- The scan before the first character. -/
def start : PatternScan := ⟨.body, false, false, ⟨false, true, false⟩, .empty, [], [], []⟩

/-- The scan at another place. -/
def goTo (scan : PatternScan) (place : PatternPlace) : PatternScan := { scan with place := place }

/-- The scan at another place of the innermost class. -/
def inClass (scan : PatternScan) (place : ClassPlace) : PatternScan := scan.goTo (.set place)

/-- The scan after a part of the group that ends here. -/
def afterPart (scan : PatternScan) (depth : Nat) : PatternScan :=
  { scan with place := .body
              branches := { scan.branches with parts := scan.branches.parts.push depth } }

/-- The scan after a part that may be repeated. -/
def afterAtom (scan : PatternScan) (depth : Nat) : PatternScan :=
  { scan.afterPart depth with repeatable := true }

/-- The scan after a sign of repetition, which is about the part before it. -/
def afterRepetition (scan : PatternScan) : PatternScan :=
  { scan with place := .repeated
              branches := { scan.branches with parts := scan.branches.parts.repeatLast } }

/-- The scan inside of a group that opens here. -/
def inGroup (scan : PatternScan) (mode : PatternMode) : PatternScan :=
  { scan with
    place := .body, repeatable := false, mode := mode
    branches := .empty, groups := (scan.mode, scan.branches) :: scan.groups }

/-- Changes what was read of the innermost class. -/
def changeClass (scan : PatternScan) (f : ClassFrame → ClassFrame) : PatternScan :=
  { scan with classes := scan.classes.modify 0 f }

/-- Adds an item to the innermost class. -/
def withItem (scan : PatternScan) (depth : Nat) : PatternScan :=
  scan.changeClass fun frame => { frame with items := frame.items.push depth }

/-! ## Characters -/

/-- Takes a character that stands for itself. -/
def literal? (scan : PatternScan) (use : CharUse) (code : Nat) : Option PatternScan :=
  let fitsClass := if scan.mode.unicode then !scan.mode.caseless else code < 0x80
  match use with
  | .plain => if scan.mode.foldsChars then none else some (scan.afterAtom 0)
  | .item => if fitsClass then some ((scan.withItem 0).inClass (.item (some code))) else none
  | .rangeEnd (some first) =>
    if fitsClass && first ≤ code then some (scan.inClass .between) else none
  | .rangeEnd none => none

/-- Takes a byte that stands for itself. -/
def byte? (scan : PatternScan) (use : CharUse) (code : Nat) : Option PatternScan :=
  if scan.mode.unicode || code < 0x80 then scan.literal? use code else none

/-- Takes a class that is written as a letter. -/
def shortClass? (scan : PatternScan) : CharUse → Option PatternScan
  | .plain => some (scan.afterAtom 0)
  | .item => some ((scan.withItem 0).inClass (.item none))
  | .rangeEnd _ => none

/-- Takes a condition on the place of a match. -/
def anchor? (scan : PatternScan) : CharUse → Option PatternScan
  | .plain => some (scan.afterAtom 0)
  | .item | .rangeEnd _ => none

/-- The characters that a letter after a backslash stands for. -/
def controls : List (Char × Nat) :=
  [('a', 0x07), ('t', 0x09), ('n', 0x0A), ('v', 0x0B), ('f', 0x0C), ('r', 0x0D)]

/-- The number of digits of a code point after a letter. -/
def hexLengths : List (Char × Nat) := [('x', 2), ('u', 4), ('U', 8)]

/-- Whether a character stands for itself after a backslash. -/
def isEscapable (c : Char) : Bool := c.toNat < 0x80 && !c.isAlphanum && c != '<' && c != '>'

/-- Takes the letter or the sign after a backslash that stands for something else. -/
def special? (scan : PatternScan) (use : CharUse) (c : Char) : Option PatternScan :=
  if ['A', 'z'].contains c then scan.anchor? use
  else if scan.mode.unicode then none
  else if ['b', 'B', '<', '>'].contains c then scan.anchor? use
  else if ['d', 's', 'w'].contains c then scan.shortClass? use
  else none

/-- Takes the character after a backslash. -/
def escape? (scan : PatternScan) (use : CharUse) (c : Char) : Option PatternScan :=
  if isEscapable c then scan.literal? use c.toNat
  else
    match controls.lookup c, hexLengths.lookup c with
    | some code, _ => scan.literal? use code
    | none, some digits => some (scan.goTo (.hex (c == 'x') digits 0 use))
    | none, none => scan.special? use c

/-- The value of a hexadecimal digit. -/
def hexValue? (c : Char) : Option Nat :=
  if c.isDigit then some (c.toNat - 48)
  else if 'a' ≤ c ∧ c ≤ 'f' then some (c.toNat - 87)
  else if 'A' ≤ c ∧ c ≤ 'F' then some (c.toNat - 55)
  else none

/-- Takes a digit of a code point that has `more` digits from here on. -/
def hex? (scan : PatternScan) (isByte : Bool) (more code : Nat) (use : CharUse) (c : Char) :
    Option PatternScan := do
  let digit ← hexValue? c
  let code := code * 16 + digit
  if 1 < more then some (scan.goTo (.hex isByte (more - 1) code use))
  else if isByte then scan.byte? use code
  else if code < 0xD800 ∨ (0xDFFF < code ∧ code < 0x110000) then scan.literal? use code
  else none

/-! ## Classes -/

/-- Opens a class in brackets. -/
def openClass (scan : PatternScan) : PatternScan :=
  { scan with classes := .empty :: scan.classes }.inClass .opened

/-- Closes the innermost class.  A class with a name is no level. -/
def closeClass? (scan : PatternScan) : Option PatternScan :=
  match scan.classes with
  | [] => none
  | [frame] => some ({ scan with classes := [] }.afterAtom (frame.depth + 1))
  | frame :: outer =>
    let around := { scan with classes := outer }.inClass .between
    if frame.isNamed "[:" then some (around.withItem 0)
    else if frame.isNamed "[:^" then if scan.mode.unicode then some (around.withItem 0) else none
    else some (around.withItem (frame.depth + 1))

/-- Takes a character of a class that does not follow a dash or an operator. -/
def betweenItems? (scan : PatternScan) (c : Char) : Option PatternScan :=
  match c with
  | '[' => some scan.openClass
  | ']' => scan.closeClass?
  | '\\' => some (scan.goTo (.escape .item))
  | '&' | '-' | '~' => some (scan.inClass (.mark c))
  | c => scan.literal? .item c.toNat

/-- Takes the first character of a class; a dash or a closing bracket stands for itself there. -/
def firstItem? (scan : PatternScan) (c : Char) : Option PatternScan :=
  if c = '-' ∨ c = ']' then
    (scan.literal? .item c.toNat).map fun scan =>
      scan.inClass (if c = '-' then .dashes else .between)
  else scan.betweenItems? c

/-- Takes the character after an item; a dash may make the item the start of a range. -/
def afterItem? (scan : PatternScan) (code? : Option Nat) (c : Char) : Option PatternScan :=
  if c = '-' then some (scan.inClass (.dash code? false)) else scan.betweenItems? c

/-- Takes a character after an item and a dash.  A dash before the closing bracket stands for
itself, and so does one before another dash, unless the two are an operator. -/
def afterDash? (scan : PatternScan) (first? : Option Nat) (spaced : Bool) (c : Char) :
    Option PatternScan :=
  match c with
  | ']' => (scan.withItem 0).closeClass?
  | '-' =>
    if spaced then some ((scan.withItem 0).inClass (.dash (some '-'.toNat) false))
    else some ((scan.changeClass ClassFrame.split).inClass .between)
  | '\\' => some (scan.goTo (.escape (.rangeEnd first?)))
  | c => scan.literal? (.rangeEnd first?) c.toNat

/-- Takes a character inside of a class. -/
def class? (scan : PatternScan) (c : Char) : ClassPlace → Option PatternScan
  | .opened =>
    if c ≠ '^' then scan.firstItem? c
    else if scan.mode.unicode then some (scan.inClass .empty)
    else none
  | .empty => scan.firstItem? c
  | .dashes =>
    if c = '-' then some ((scan.withItem 0).inClass .dashes) else scan.betweenItems? c
  | .between => scan.betweenItems? c
  | .item code? => scan.afterItem? code? c
  | .dash first? spaced => scan.afterDash? first? spaced c
  | .mark other =>
    if c = other then some ((scan.changeClass ClassFrame.split).inClass .between)
    else (scan.literal? .item other.toNat).bind fun scan =>
      scan.afterItem? (some other.toNat) c

/-! ## Groups -/

/-- Whether a character may come next in the name of a group. -/
def isNamePart (soFar : List Char) (c : Char) : Bool :=
  c == '_' || (Text.isAlphanumeric c && !(soFar.isEmpty && c.isDigit)) ||
    (!soFar.isEmpty && (c == '.' || c == '[' || c == ']'))

/-- Takes a character of the name of a group; no name may be given twice. -/
def name? (scan : PatternScan) (soFar : List Char) (c : Char) : Option PatternScan :=
  if c = '>' then
    if soFar.isEmpty || scan.names.contains soFar then none
    else some { scan.inGroup scan.mode with names := soFar :: scan.names }
  else if isNamePart soFar c then some (scan.goTo (.name (c :: soFar)))
  else none

/-- Takes a character of the flags of a group; no flag may be given twice. -/
def flags? (scan : PatternScan) (soFar : List Char) (c : Char) : Option PatternScan :=
  if c = ':' ∨ c = ')' then
    let mode := scan.mode.withFlags soFar
    if soFar.head? = some '-' then none
    else if c = ':' then some (scan.inGroup mode)
    else if soFar.isEmpty then none
    else some { scan.afterPart 0 with repeatable := false, mode := mode }
  else if ['i', 'm', 's', 'U', 'u', 'R', 'x', '-'].contains c && !soFar.contains c then
    some (scan.goTo (.flags (c :: soFar)))
  else none

/-- Closes the innermost group. -/
def closeGroup? (scan : PatternScan) : Option PatternScan :=
  match scan.groups with
  | [] => none
  | (mode, around) :: groups =>
    let outside := { scan with mode := mode, branches := around, groups := groups }
    some (outside.afterAtom (scan.branches.depth + 1))

/-! ## The whole -/

/-- Takes a character outside of everything that takes more than one character. -/
def body? (scan : PatternScan) (c : Char) : Option PatternScan :=
  match c with
  | '(' => some (scan.goTo .opened)
  | ')' => scan.closeGroup?
  | '[' => some scan.openClass
  | '|' => some { scan with repeatable := false, branches := scan.branches.split }
  | '?' | '*' | '+' => if scan.repeatable then some scan.afterRepetition else none
  | '{' => none
  | '\\' => some (scan.goTo (.escape .plain))
  | '.' => if scan.mode.unicode then some (scan.afterAtom 0) else none
  | '^' | '$' => some (scan.afterAtom 0)
  | c => scan.literal? .plain c.toNat

/-- Takes a character that counts. -/
def take? (scan : PatternScan) (c : Char) : Option PatternScan :=
  match scan.place with
  | .body => scan.body? c
  | .repeated => if c = '?' then some (scan.goTo .body) else (scan.goTo .body).body? c
  | .opened =>
    if c = '?' then some (scan.goTo .asked) else (scan.inGroup scan.mode).body? c
  | .asked =>
    if c = 'P' then some (scan.goTo .askedName)
    else if c = '<' then some (scan.goTo (.name []))
    else scan.flags? [] c
  | .askedName => if c = '<' then some (scan.goTo (.name [])) else none
  | .name soFar => scan.name? soFar c
  | .flags soFar => scan.flags? soFar c
  | .escape use => scan.escape? use c
  | .hex isByte more code use => scan.hex? isByte more code use c
  | .set place => scan.class? c place

/-- Whether a blank counts at a place although it counts for nothing elsewhere. -/
def countsBlanks : PatternPlace → Bool
  | .asked | .askedName | .name _ | .flags _ | .escape _ => true
  | .body | .repeated | .opened | .hex _ _ _ _ | .set _ => false

/-- Passes over a blank or the start of a comment. -/
def blank? (scan : PatternScan) : Option PatternScan :=
  match scan.place with
  | .repeated => some (scan.goTo .body)
  | .set (.mark c) => scan.literal? .item c.toNat
  | .set (.dash first? _) => some (scan.inClass (.dash first? true))
  | _ => some scan

/-- Takes the next character of an expression; `none` if the expression is malformed. -/
def next? (scan : PatternScan) (c : Char) : Option PatternScan :=
  let next? :=
    if scan.inComment then some { scan with inComment := c != '\n' }
    else if scan.mode.verbose && (Text.isBlank c || c == '#') && !countsBlanks scan.place then
      scan.blank?.map fun scan => { scan with inComment := c == '#' }
    else scan.take? c
  next?.map fun scan => scan.changeClass fun frame => { frame with text := c :: frame.text }

/-- How deep an expression may be nested. -/
def maxDepth : Nat := 250

/-- Whether the expression may end here. -/
def isComplete (scan : PatternScan) : Bool :=
  match scan.place with
  | .body | .repeated => scan.groups.isEmpty && scan.branches.depth ≤ maxDepth
  | _ => false

end PatternScan

/-- Whether a text is a well-formed expression. -/
def isPattern (text : List Char) : Bool :=
  (text.foldlM PatternScan.next? PatternScan.start).any PatternScan.isComplete

end EditorShell.LogFilter
