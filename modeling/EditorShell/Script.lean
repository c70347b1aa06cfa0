import EditorShell.Chord
import EditorShell.Json.Parser
import EditorShell.Time

/-!
# Key scripts

A script drives a shell line by line.  A line is a chord, `wait` with a delay, `show` with a panel,
or `run` with a command and a JSON argument.  A number sign starts a comment at the start of a line
and after a blank; blank lines do nothing.

The first bad line is reported with its number, counted from one over all lines.
-/

namespace EditorShell

open Json

/-- A step of a script. -/
inductive ScriptStep where
  | key (chord : Chord)
  | wait (span : Duration)
  /-- A panel is shown; an empty name hides all panels. -/
  | showPanel (panel : String)
  | run (command : String) (args : Value)
  deriving DecidableEq

/-- Why a script is refused. -/
inductive ScriptError where
  | invalidChord (line : Nat) (cause : ChordError)
  /-- The delay is not a number with a unit. -/
  | invalidDelay (line : Nat) (delay : String)
  /-- The argument of a command is not a JSON value.  What the parser says of it is not kept; the
  argument alone decides that. -/
  | invalidArgs (line : Nat)
  /-- More than a chord is on the line. -/
  | trailingText (line : Nat) (text : String)
  | missingCommand (line : Nat)
  | noSteps
  deriving DecidableEq

/-- What is wrong with a script, and in which line. -/
def ScriptError.message : ScriptError → String
  | invalidChord line cause => "line " ++ Decimal.text line ++ ": " ++ cause.message
  | invalidDelay line delay => "line " ++ Decimal.text line ++ ": invalid delay '" ++ delay ++ "'"
  | invalidArgs line => "line " ++ Decimal.text line ++ ": invalid command argument"
  | trailingText line text =>
    "line " ++ Decimal.text line ++ ": unexpected text after chord: '" ++ text ++ "'"
  | missingCommand line => "line " ++ Decimal.text line ++ ": run needs a command name"
  | noSteps => "script has no steps"

namespace Script

/-- Whether a comment may start after this character. -/
def opensComment (c : Char) : Bool :=
  c == ' ' || c == '\t' || c == '\n' || c == '\x0C' || c == '\r'

/-- The part of a line before its comment; `mayStart` says whether a comment may start here. -/
def beforeComment (mayStart : Bool) : List Char → List Char
  | [] => []
  | c :: rest => if mayStart && c == '#' then [] else c :: beforeComment (opensComment c) rest

/-- The first word of a text and what follows it, without the blanks around. -/
def splitWord (text : List Char) : List Char × List Char :=
  match Text.splitBlank? text with
  | some (word, rest) => (word, Text.trim rest)
  | none => (text, [])

/-- A delay such as `100ms` or `2s`. -/
def delay? (text : List Char) : Option Duration :=
  let text := (Text.trim text).map Char.toLower
  -- Asked first, as milliseconds end in the letter of seconds too.
  match Text.beforeEnding? ['m', 's'] text with
  | some millis => (Decimal.word? (Text.trim millis)).map Duration.mk
  | none =>
    match Text.beforeEnding? ['s'] text with
    | some seconds => (Decimal.word? (Text.trim seconds)).map Duration.ofSeconds
    | none => none

/-- Reads the command that a line runs, with its argument. -/
def runStep (line : Nat) (text : List Char) : Except ScriptError ScriptStep :=
  let (command, args) := splitWord text
  if command.isEmpty then .error (.missingCommand line)
  else if args.isEmpty then .ok (.run (String.ofList command) .null)
  else
    match Value.parse? (String.ofList args) with
    | some args => .ok (.run (String.ofList command) args)
    | none => .error (.invalidArgs line)

/-- Reads a line from which the comment and the blanks around it were taken. -/
def lineStep (line : Nat) (text : List Char) : Except ScriptError ScriptStep :=
  let (word, rest) := splitWord text
  if word = ['w', 'a', 'i', 't'] then
    match delay? rest with
    | some span => .ok (.wait span)
    | none => .error (.invalidDelay line (String.ofList rest))
  else if word = ['s', 'h', 'o', 'w'] then .ok (.showPanel (String.ofList rest))
  else if word = ['r', 'u', 'n'] then runStep line rest
  else if rest ≠ [] then .error (.trailingText line (String.ofList rest))
  else
    match Chord.parse (String.ofList word) with
    | .ok chord => .ok (.key chord)
    | .error cause => .error (.invalidChord line cause)

/-- The steps of the lines from number `line` on. -/
def stepsFrom (line : Nat) : List (List Char) → Except ScriptError (List ScriptStep)
  | [] => .ok []
  | text :: rest =>
    let text := Text.trim (beforeComment true text)
    if text.isEmpty then stepsFrom (line + 1) rest
    else
      match lineStep line text with
      | .error cause => .error cause
      | .ok step => (stepsFrom (line + 1) rest).map (step :: ·)

/-- Reads a script.  A carriage return at the end of a line is a blank, so both kinds of line ends
give the same steps. -/
def parse (text : String) : Except ScriptError (List ScriptStep) :=
  match stepsFrom 1 (List.splitOn '\n' text.toList) with
  | .error cause => .error cause
  | .ok [] => .error .noSteps
  | .ok steps => .ok steps

end Script

end EditorShell
