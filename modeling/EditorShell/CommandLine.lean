import EditorShell.LogFilter
import EditorShell.Session.Engine

/-!
# The command line program

The program starts a shell on a line host, ticks once, and plays a script if one is given.  Nothing
is read back from the host, so no handle ever arrives.

Everything that can go wrong goes wrong before the shell starts, in this order: the arguments are
not understood, the configuration cannot be read or is refused, the log filter is not taken, the
script cannot be read or is refused.
-/

namespace EditorShell.CommandLine

/-- A file that was named on the command line. -/
structure Source where
  path : String
  /-- What it holds, or why it could not be read. -/
  contents : Except String String

/-- What a start is given. -/
structure Options where
  config? : Option Source
  script? : Option Source
  /-- The log filter; it replaces the one of the configuration. -/
  logFilter? : Option String

/-- Why a start is refused. -/
inductive StartError where
  | unreadableConfig (path reason : String)
  | config (cause : ConfigError)
  | logFilter (filter : String) (fault : LogFilter.Fault)
  | unreadableScript (path reason : String)
  | script (cause : ScriptError)

/-- What a refused start says. -/
def StartError.message : StartError → String
  | unreadableConfig path reason => "cannot read config " ++ path ++ ": " ++ reason
  | config cause => cause.message
  | logFilter filter _ => "invalid log filter '" ++ filter ++ "'"
  | unreadableScript path reason => "cannot read " ++ path ++ ": " ++ reason
  | script cause => cause.message

/-- The configuration in effect. -/
def readConfig : Option Source → Except StartError ShellConfig
  | none => .ok .default
  | some source =>
    match source.contents with
    | .error reason => .error (.unreadableConfig source.path reason)
    | .ok text => (ShellConfig.parse text).mapError .config

/-- Refuses a log filter that cannot be read. -/
def checkFilter (filter : String) : Except StartError Unit :=
  (LogFilter.read filter).mapError (.logFilter filter)

/-- The steps of a script; without a script there are none. -/
def readScript : Option Source → Except StartError (List ScriptStep)
  | none => .ok []
  | some source =>
    match source.contents with
    | .error reason => .error (.unreadableScript source.path reason)
    | .ok text => (Script.parse text).mapError .script

/-- What a shell writes to its host from its start to the end of a script. -/
def output (config : ShellConfig) (steps : List ScriptStep) : String :=
  let started := Code.plain.launch config (.fresh .lines true) ()
  let session := (Code.plain.run (do let _ ← Session.tick; Session.play steps) started).2
  session.host.wire.output

/-- Reads the configuration, checks the log filter, reads the script and runs it; the first of these
that is refused ends the start. -/
def run (options : Options) : Except StartError String := do
  let config ← readConfig options.config?
  checkFilter (options.logFilter?.getD config.logFilter)
  let steps ← readScript options.script?
  pure (output config steps)

/-! ## The end -/

/-- How the process ends. -/
structure Exit where
  code : Nat
  output : String
  /-- The line that says what went wrong. -/
  error? : Option String

namespace Exit

/-- The exit when the words on the command line are not understood. -/
def misused : Exit := ⟨2, "", none⟩

/-- The end of the program after what `run` gives.  A log filter that would be cut inside a
character stops the program at once, before it can say so. -/
def ofRun : Except StartError String → Exit
  | .ok text => ⟨0, text, none⟩
  | .error (.logFilter _ .splitCharacter) => ⟨101, "", none⟩
  | .error error => ⟨1, "", some ("Error: " ++ error.message)⟩

end Exit

/-! ## Arguments -/

/-- The values of the options that were given. -/
structure Arguments where
  config? : Option String
  script? : Option String
  logFilter? : Option String

namespace Arguments

/-- Whether an argument is taken for the name of an option: it has a dash and more. -/
def isOption (word : String) : Bool :=
  match word.toList with
  | '-' :: _ :: _ => true
  | _ => false

/-- Reads arguments, on from what has been read; `none` if one is not understood. -/
def readOn (arguments : Arguments) : List String → Option Arguments
  | [] => some arguments
  | option :: value :: rest =>
    if isOption value then none
    else
      match option with
      | "--config" | "-c" => readOn { arguments with config? := some value } rest
      | "--script" | "-s" => readOn { arguments with script? := some value } rest
      | "--log" => readOn { arguments with logFilter? := some value } rest
      | _ => none
  | [_] => none

/-- The options that the words give, unless a word is none or its value is missing. -/
def read (words : List String) : Option Arguments := readOn ⟨none, none, none⟩ words

end Arguments

/-- How the program is called. -/
def usage : String := "usage: [--config FILE] [--script FILE] [--log FILTER]"

end EditorShell.CommandLine
