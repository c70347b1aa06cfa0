import EditorShell.Builtin.EditorStatus
import EditorShell.Builtin.HelloWorld
import EditorShell.Builtin.Panels
import EditorShell.Config
import EditorShell.Script
import EditorShell.Session.Extensions
import EditorShell.Session.Pass

/-!
# The shell

A shell starts from a configuration, takes keys and interactions, and brings the host up to date in
ticks.  A tick runs the deferred work that is due and then renders, unless the version is the one
that the last render was composed for.

Showing a panel asks for the handle of the input of that panel, which the next pass delivers.  An
input with a handle is then focused; one that is not mounted by then is left alone.

A closed shell leaves the other objects of its session in place.
-/

namespace EditorShell.Session

open Json

variable {κ S : Type}

/-! ## Focus on show -/

/-- The id of the input of a panel, which need not have one. -/
def inputOf (panel : String) : NodeId := panel ++ "::input"

/-- Asks for the handle of the input of the shown panel, in order to focus it. -/
def focusShown (payload : Value) : Act κ S (Except HandlerError Unit) := do
  let panel := (payload.asText?).getD ""
  .when (!panel.isEmpty) (resolveHandle (inputOf panel) (.focusAndSelect (inputOf panel)))
  pure (.ok ())

/-- Focuses a widget and selects its text, if it has a handle. -/
def focusAndSelect (id : NodeId) : Option WidgetHandle → Act κ S Unit
  | none => pure ()
  | some _ => do
    let _ ← invoke id .focus
    let _ ← invoke id .selectAll

/-! ## Start -/

/-- Makes another copy of a built-in extension. -/
def newBuiltin : Builtin → Act κ S (Extension κ)
  | .panels => do
    let copy ← newPanels
    pure (.builtin .panels copy)
  | .editorStatus => do
    let copy ← newEditorStatus
    pure (.builtin .editorStatus copy)
  | .helloWorld => do
    let copy ← newHelloWorld
    pure (.builtin .helloWorld copy)

/-- Registers a new copy of each built-in extension. -/
def registerBuiltins : List Builtin → Act κ S Unit
  | [] => pure ()
  | kind :: rest => do
    let extension ← newBuiltin kind
    register kind.name extension
    registerBuiltins rest

/-- Opens a shell that has rendered nothing yet. -/
def openShell (focusListener : SubscriptionId) : Act κ S Unit := do
  .change fun session => { session with shell? := some ⟨none, focusListener⟩ }
  .note .started

/-- Starts a shell in a fresh session: the built-in `panels` extension and those of the
configuration are activated, then the keymap is loaded, then the initial panel is shown. -/
def start (config : ShellConfig) : Act κ S Unit := do
  setWindow config.window
  let focusListener ← subscribe showPanelEvent .focusInput
  registerBuiltins Builtin.all
  openShell focusListener
  let _ ← activate Builtin.panels.name
  let _ ← activateAll config.extensions
  -- Loaded after the extensions, so the keymap wins over their default chords.
  let _ ← loadMap config.keymap
  .when (!config.initialPanel.isEmpty) do
    let _ ← showPanel config.initialPanel

/-! ## Keys -/

/-- Dispatches a chord if it has a modifier and says whether it is bound. -/
def pressHeld (chord : Chord) : Act κ S Bool :=
  if chord.hasModifiers then press chord.text else pure false

/-- Takes a pressed key and says whether a binding consumed it.  Only chords with a modifier are
dispatched; every chord is then told to all that listen for keys. -/
def handleKey (raw : String) : Act κ S Bool :=
  match Chord.parse? raw with
  | none => pure false
  | some chord => do
    let consumed ← pressHeld chord
    let _ ← emit keyPressedEvent (.string chord.text)
    pure consumed

/-! ## Ticks -/

/-- What a tick did. -/
structure TickReport where
  tasksRun : Nat
  /-- What the render did, if there was one. -/
  render? : Option RenderReport
  deriving DecidableEq

/-- The version that the last render was composed for. -/
def renderedVersion? (session : Session κ S) : Option UInt64 :=
  session.shell?.bind ShellState.renderedVersion?

/-- Remembers which version the latest render has shown. -/
def setRenderedVersion (version : UInt64) : Act κ S Unit :=
  .change fun session =>
    { session with
      shell? := session.shell?.map fun shell => { shell with renderedVersion? := some version } }

/-- Composes the tree and brings the host in line with it. -/
def renderPanels : Act κ S RenderReport := do
  let tree ← compose
  render tree

/-- Runs the deferred work that is due, and renders if the version has moved. -/
def tick : Act κ S TickReport := do
  let tasksRun ← runDue
  -- Read before the tree is composed: a change by a component that renders is for the next tick.
  let version ← .read fun session => session.panelHost.ui.version
  if (← .read renderedVersion?) = some version then pure ⟨tasksRun, none⟩
  else
    let panels ← .read Session.panelHost
    .note (.rendering panels)
    let report ← renderPanels
    setRenderedVersion version
    .note .rendered
    pure ⟨tasksRun, some report⟩

/-! ## Scripts -/

/-- What a script did. -/
structure PlayReport where
  steps : Nat
  keysConsumed : Nat
  commandsRun : Nat
  commandFailures : Nat
  renders : Nat
  deriving DecidableEq

/-- The report before the first step. -/
def PlayReport.zero : PlayReport := ⟨0, 0, 0, 0, 0⟩

/-- Plays one step of a script, without the tick after it. -/
def playStep (report : PlayReport) : ScriptStep → Act κ S PlayReport
  | .key chord => do
    if ← handleKey chord.text then pure { report with keysConsumed := report.keysConsumed + 1 }
    else pure report
  | .wait span => do
    advance span
    pure report
  | .showPanel panel => do
    let _ ← showPanel panel
    pure report
  | .run command args => do
    match ← execute command args with
    | .ok .executed => pure { report with commandsRun := report.commandsRun + 1 }
    | .ok .unknown | .ok .disabled => pure report
    | .error _ => pure { report with commandFailures := report.commandFailures + 1 }

/-- Plays steps, each followed by a tick, on from what was reported of the steps before. -/
def playFrom (report : PlayReport) : List ScriptStep → Act κ S PlayReport
  | [] => pure report
  | step :: rest => do
    let report ← playStep report step
    let ticked ← tick
    playFrom
      { report with
        steps := report.steps + 1
        renders := if ticked.render?.isSome then report.renders + 1 else report.renders } rest

/-- Plays the steps of a script. -/
def play (steps : List ScriptStep) : Act κ S PlayReport := playFrom .zero steps

/-! ## Close -/

/-- Closes the shell and says whether there was one: every active extension is deactivated, and no
input is focused any more. -/
def close : Act κ S Bool := do
  match ← .read Session.shell? with
  | none => pure false
  | some shell =>
    -- Closed before anything is deactivated, so a second close from inside does nothing.
    .change fun session => { session with shell? := none, closed := true }
    deactivateAll
    let _ ← unsubscribe showPanelEvent shell.focusListener
    pure true

end EditorShell.Session
