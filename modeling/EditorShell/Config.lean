import EditorShell.Keymap

/-!
# Configuration

What a shell is started with.  Every setting has a default, so the empty object is a configuration.
The version of the format is checked after the whole document has been read.
-/

namespace EditorShell

open Json

/-- The settings a shell starts with. -/
structure ShellConfig where
  version : Nat
  /-- How long a repeated chord counts as the same press, in milliseconds. -/
  dedupeWindowMillis : Nat
  logFilter : String
  /-- The extensions to activate, in order. -/
  extensions : List String
  /-- The user's bindings; they replace defaults. -/
  keymap : List KeyBinding
  /-- The panel to show at the start; empty for none. -/
  initialPanel : String
  deriving DecidableEq

/-- Why a configuration is refused. -/
inductive ConfigError where
  /-- The text is no configuration.  What the parser says of it is not kept; the text alone decides
  that. -/
  | malformed
  /-- The text is a configuration of another version. -/
  | unsupportedVersion (version : Nat)
  deriving DecidableEq

/-- What is wrong with a configuration. -/
def ConfigError.message : ConfigError → String
  | malformed => "invalid config"
  | unsupportedVersion version => "unsupported config version: " ++ Decimal.text version

namespace ShellConfig

/-- The only version that is read. -/
def currentVersion : Nat := 1

/-- The window within which a repeated chord is suppressed unless another one is set. -/
def defaultWindow : Duration := ⟨150⟩

/-- The configuration when none is given, or where one leaves a field out. -/
def default : ShellConfig where
  version := currentVersion
  dedupeWindowMillis := defaultWindow.millis
  logFilter := "info"
  extensions := ["editor-status"]
  keymap := []
  initialPanel := ""

/-- Reads a configuration of any version. -/
def decoder : Decoder ShellConfig :=
  .record ["version", "dedupe_window_ms", "log_filter", "extensions", "keymap", "initial_panel"]
    fun fields room =>
      match fields with
      | [version, window, filter, extensions, keymap, panel] => do
        let version ← version.orDefault (.natBelow (Nat.pow 2 32)) default.version room
        let window ← window.orDefault .word default.dedupeWindowMillis room
        let filter ← filter.orDefault .text default.logFilter room
        let extensions ← extensions.orDefault (.list .text) default.extensions room
        let keymap ← keymap.orDefault (.list KeyBinding.decoder) default.keymap room
        let panel ← panel.orDefault .text default.initialPanel room
        some ⟨version, window, filter, extensions, keymap, panel⟩
      | _ => none

/-- Reads a configuration of the current version. -/
def parse (text : String) : Except ConfigError ShellConfig :=
  match decode? decoder text with
  | none => .error .malformed
  | some config =>
    if config.version ≠ currentVersion then .error (.unsupportedVersion config.version)
    else .ok config

/-- A configuration is written as the record of its fields. -/
def toJson (config : ShellConfig) : Value :=
  .object [("version", .ofNat config.version),
    ("dedupe_window_ms", .ofNat config.dedupeWindowMillis),
    ("log_filter", .string config.logFilter),
    ("extensions", .ofTexts config.extensions),
    ("keymap", .array (config.keymap.map KeyBinding.toJson)),
    ("initial_panel", .string config.initialPanel)]

/-- The text of a configuration, which reads back as it. -/
def text (config : ShellConfig) : String := config.toJson.indentedText

/-- The configured window for repeats. -/
def window (config : ShellConfig) : Duration := ⟨config.dedupeWindowMillis⟩

end ShellConfig

end EditorShell
