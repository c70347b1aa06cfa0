import EditorShell.Codec
import EditorShell.Json.Printer

/-!
# Keymaps

A keymap is a list of bindings, each from a chord to a command with or without arguments.  As a
document it is either the bare list or an object with the format's version and the list.

Reading a keymap keeps every well-formed entry and counts the others, so that one mistake does not
discard the rest.  A document of an unknown version is refused as a whole.
-/

namespace EditorShell

open Json

/-- A chord and the command it runs. -/
structure KeyBinding where
  keys : Chord
  command : String
  /-- The arguments the command gets; without them it gets `null`. -/
  args : Option Value
  deriving DecidableEq

namespace KeyBinding

/-- Reads a binding; arguments that are `null` count as missing. -/
def decoder : Decoder KeyBinding :=
  .record ["keys", "command", "args"] fun fields room =>
    match fields with
    | [keys, command, args] => do
      let keys ← keys.required Chord.decoder room
      let command ← command.required .text room
      let args ← args.orDefault (.nullable .value) none room
      some ⟨keys, command, args⟩
    | _ => none

/-- Writes a binding; missing arguments are left out. -/
def toJson (binding : KeyBinding) : Value :=
  .object <|
    [("keys", binding.keys.toJson), ("command", .string binding.command)] ++
    (binding.args.map fun args => ("args", args)).toList

end KeyBinding

/-- A keymap as it is written. -/
structure KeymapDocument where
  version : Nat
  bindings : List KeyBinding
  deriving DecidableEq

namespace KeymapDocument

/-- The only version that is read. -/
def currentVersion : Nat := 1

/-- The keymap of some bindings in the current version. -/
def ofBindings (bindings : List KeyBinding) : KeymapDocument := ⟨currentVersion, bindings⟩

/-- Reads a versioned keymap in which every entry is well-formed. -/
def decoder : Decoder KeymapDocument :=
  .record ["version", "bindings"] fun fields room =>
    match fields with
    | [version, bindings] => do
      let version ← version.required .word room
      let bindings ← bindings.required (.list KeyBinding.decoder) room
      some ⟨version, bindings⟩
    | _ => none

/-- A keymap is written as the record of its fields. -/
def toJson (document : KeymapDocument) : Value :=
  .object [("version", .ofNat document.version),
    ("bindings", .array (document.bindings.map KeyBinding.toJson))]

/-- The text of a keymap. -/
def text (document : KeymapDocument) : String := document.toJson.indentedText

end KeymapDocument

/-- Why a keymap is refused as a whole. -/
inductive KeymapError where
  /-- The text is no JSON.  What the parser says of it is not kept; the text alone decides that. -/
  | notJson
  | unsupportedVersion (version : Nat)
  /-- There is no list of bindings. -/
  | unexpectedShape
  deriving DecidableEq

/-- What is wrong with a keymap. -/
def KeymapError.message : KeymapError → String
  | notJson => "keymap is not valid JSON"
  | unsupportedVersion version => "unsupported keymap version: " ++ Decimal.text version
  | unexpectedShape =>
    "keymap must be an array of bindings or an object with a 'bindings' array"

/-- What was read of a keymap. -/
structure ParsedKeymap where
  /-- The well-formed entries in their order. -/
  bindings : List KeyBinding
  /-- The number of the other entries. -/
  skipped : Nat
  deriving DecidableEq

namespace Keymap

/-- The version that a keymap object states.  Anything but a 64-bit word states nothing, and then
the current version is taken. -/
def statedVersion (keymap : Value) : Nat :=
  ((keymap.member? "version").bind Value.asWord?).getD KeymapDocument.currentVersion

/-- The entries of a keymap: it is an array of them, or an object of the current version that holds
one. -/
def entries : Value → Except KeymapError (List Value)
  | .array entries => .ok entries
  | .object members =>
    let version := statedVersion (.object members)
    if version ≠ KeymapDocument.currentVersion then .error (.unsupportedVersion version)
    else
      match Table.find? "bindings" members with
      | some (.array entries) => .ok entries
      | _ => .error .unexpectedShape
  | _ => .error .unexpectedShape

/-- Keeps the entries that are bindings. -/
def ofEntries (entries : List Value) : ParsedKeymap :=
  let bindings := entries.filterMap (Value.decode? KeyBinding.decoder)
  ⟨bindings, entries.length - bindings.length⟩

/-- Reads a keymap; an entry that is not well-formed is left out and counted. -/
def parse (text : String) : Except KeymapError ParsedKeymap :=
  match Value.parse? text with
  | none => .error .notJson
  | some keymap => (entries keymap).map ofEntries

end Keymap

end EditorShell
