import EditorShell.Decimal.Digits
import EditorShell.LogFilter.Pattern
import EditorShell.Text.Blank
import EditorShell.Text.Parts

/-!
# Log filters

A log filter is a list of directives between commas; empty ones count for nothing.  A directive is a
level alone, or a target, a condition in brackets, or both, and after `=` perhaps a level.  A
condition names a span and may have a field in braces, with a value after `=`.

A level is a name in letters of any case or a number up to five.

Blanks around a directive are left out when its parts are told apart.  The parts are then taken from
the directive as it stands, at the bytes where they were found: so a blank at the end belongs to the
level, and a blank in front moves every part.  If it takes several bytes, a part may then start or
end inside a character, and cannot be taken at all.

Directives are read in order, and so are the parts of each; the first fault counts.
-/

namespace EditorShell.LogFilter

/-- Why a filter is refused. -/
inductive Fault where
  | malformed
  /-- A part of it would start or end inside a character. -/
  | splitCharacter
  deriving DecidableEq

/-- Refuses a filter unless a condition holds. -/
def require (condition : Bool) : Except Fault Unit :=
  if condition then .ok () else .error .malformed

/-- The levels by name, the quietest first. -/
def levelNames : List String := ["off", "error", "warn", "info", "debug", "trace"]

/-- Whether a text is a level; no text at all stands for the default. -/
def isLevel (text : List Char) : Bool :=
  text.isEmpty || levelNames.contains (String.ofList (text.map Char.toLower)) ||
    (Decimal.word? text).any fun number => number ≤ 5

/-- Whether a text is nothing, or an exponent with its letter. -/
def isExponent : List Char → Bool
  | [] => true
  | c :: text =>
    let digits := match text with
      | '+' :: digits | '-' :: digits => digits
      | digits => digits
    (c == 'e' || c == 'E') && !digits.isEmpty && digits.all Char.isDigit

/-- Whether a text is a decimal number without a sign. -/
def isDecimal (text : List Char) : Bool :=
  let whole := text.takeWhile Char.isDigit
  match text.dropWhile Char.isDigit with
  | '.' :: rest =>
    !(whole ++ rest.takeWhile Char.isDigit).isEmpty && isExponent (rest.dropWhile Char.isDigit)
  | rest => !whole.isEmpty && isExponent rest

/-- Whether a text is a number with a plus sign.  Other numbers are patterns for themselves. -/
def isPlusNumber : List Char → Bool
  | '+' :: text =>
    isDecimal text ||
      ["inf", "infinity", "nan"].contains (String.ofList (text.map Char.toLower))
  | _ => false

/-- Whether a text is a field, with or without a value. -/
def isField (text : List Char) : Bool :=
  match text.dropWhile fun c => c != '=' with
  | [] => !text.isEmpty
  | _ :: rest =>
    let value := rest.takeWhile fun c => c != '='
    isPlusNumber value || isPattern value

/-- Whether a target may start with a character. -/
def opensTarget (c : Char) : Bool :=
  Text.isAlphanumeric c || c == '-' || c == ':' || c == '_'

/-- The number of bytes of a text. -/
def byteCount (text : List Char) : Nat := text.foldl (fun count c => count + c.utf8Size) 0

/-- The first `count` bytes of a text; `none` if they end inside a character. -/
def takeBytes? (count : Nat) : List Char → Option (List Char)
  | [] => if count = 0 then some [] else none
  | c :: rest =>
    if count = 0 then some []
    else if c.utf8Size ≤ count then (takeBytes? (count - c.utf8Size) rest).map (c :: ·)
    else none

/-- One of the directives between the commas of a filter. -/
structure Directive where
  text : List Char

namespace Directive

/-- The directive without the blanks around it. -/
def bare (directive : Directive) : List Char := Text.trim directive.text

/-- The text as it stands, from where `rest` starts in the bare one. -/
def after (directive : Directive) (rest : List Char) : Except Fault (List Char) :=
  match Text.behindBytes? (byteCount directive.bare - byteCount rest) directive.text with
  | some text => .ok text
  | none => .error .splitCharacter

/-- The text as it stands, from where `rest` starts in the bare one to where `mark` starts. -/
def between (directive : Directive) (rest mark : List Char) : Except Fault (List Char) := do
  let text ← directive.after rest
  match takeBytes? (byteCount rest - byteCount mark) text with
  | some text => .ok text
  | none => .error .splitCharacter

/-- Reads the end of a directive: nothing more, or a level. -/
def readEnd (directive : Directive) : List Char → Except Fault Unit
  | [] => .ok ()
  | '=' :: level => do
    let text ← directive.after level
    require (isLevel text)
  | _ :: _ => .error .malformed

/-- Reads on after the brace that opens a field. -/
def readField (directive : Directive) (rest : List Char) : Except Fault Unit :=
  match rest.dropWhile fun c => c != '}' with
  | [] => .error .malformed
  | mark :: rest' => do
    let field ← directive.between rest (mark :: rest')
    require (isField field)
    match rest' with
    | ']' :: rest' => directive.readEnd rest'
    | _ => .error .malformed

/-- Reads on after the bracket that opens a condition. -/
def readCondition (directive : Directive) (rest : List Char) : Except Fault Unit :=
  match rest.dropWhile fun c => c != ']' && c != '{' with
  | [] => .error .malformed
  | mark :: rest' => do
    let _ ← directive.between rest (mark :: rest')
    if mark = ']' then directive.readEnd rest' else directive.readField rest'

/-- Reads a directive that starts with a level or a target. -/
def readTarget (directive : Directive) (text : List Char) : Except Fault Unit :=
  match text.dropWhile fun c => c != '[' && c != '=' with
  | [] => .ok ()
  | mark :: rest => do
    let _ ← directive.between text (mark :: rest)
    if mark = '[' then directive.readCondition rest else directive.readEnd (mark :: rest)

/-- Checks a directive. -/
def read (directive : Directive) : Except Fault Unit :=
  match directive.bare with
  | [] => .error .malformed
  | '[' :: rest => directive.readCondition rest
  | c :: rest => do
    require (opensTarget c)
    directive.readTarget (c :: rest)

end Directive

/-- Checks all directives; empty ones are passed over. -/
def readAll : List (List Char) → Except Fault Unit
  | [] => .ok ()
  | text :: rest => do
    if text.isEmpty then readAll rest
    else
      Directive.read ⟨text⟩
      readAll rest

/-- Checks a filter. -/
def read (filter : String) : Except Fault Unit := readAll (List.splitOn ',' filter.toList)

end EditorShell.LogFilter
