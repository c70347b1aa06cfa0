import EditorShell.CommandLine

/-!
# The outer layer

Reads the files that the arguments name, and prints what the program writes.
-/

namespace EditorShell.CommandLine

/-- What is said of a file that cannot be read. -/
def readFailure : IO.Error → String
  | .noFileOrDirectory _ _ _ => "No such file or directory (os error 2)"
  | .permissionDenied _ _ _ => "Permission denied (os error 13)"
  | error => error.toString

/-- Reads a file that has to be a text. -/
def readSource (path : String) : IO Source := do
  match ← (IO.FS.readBinFile path).toBaseIO with
  | .error error => return ⟨path, .error (readFailure error)⟩
  | .ok bytes =>
    match String.fromUTF8? bytes with
    | some text => return ⟨path, .ok text⟩
    | none => return ⟨path, .error "stream did not contain valid UTF-8"⟩

end EditorShell.CommandLine

open EditorShell.CommandLine

/-- Starts the program with the words of its command line. -/
def main (words : List String) : IO UInt32 := do
  match Arguments.read words with
  | none =>
    IO.eprintln usage
    return Exit.misused.code.toUInt32
  | some arguments =>
    let options : Options :=
      ⟨← arguments.config?.mapM readSource, ← arguments.script?.mapM readSource,
        arguments.logFilter?⟩
    let exit := Exit.ofRun (run options)
    IO.print exit.output
    if let some line := exit.error? then IO.eprintln line
    return exit.code.toUInt32
