import EditorShell.Session.Commands
import EditorShell.Session.Panels

/-!
# The panels extension

The escape key hides every panel, and the command `show_panel` shows one.
-/

namespace EditorShell.Session

open Json

variable {κ S : Type}

/-- Makes another copy of the extension, which listens to nothing yet. -/
def newPanels : Act κ S InstanceId := do
  let copy ← .read fun session => session.builtins.panels.length
  .change fun session =>
    { session with
      builtins := { session.builtins with panels := session.builtins.panels ++ [⟨none⟩] } }
  pure copy

/-- Remembers the subscription of a copy to pressed keys, or that there is none. -/
def setKeyListener (copy : InstanceId) (listener? : Option SubscriptionId) : Act κ S Unit :=
  .change fun session =>
    { session with
      builtins :=
        { session.builtins with panels := session.builtins.panels.set copy ⟨listener?⟩ } }

/-- The name of the command that shows a panel. -/
def showPanelCommand : String := "show_panel"

/-- Starts to listen for keys and registers the command. -/
def activatePanels (copy : InstanceId) : Act κ S (Except ExtensionError Unit) := do
  let listener ← subscribe keyPressedEvent .hideOnEscape
  setKeyListener copy (some listener)
  match ← registerCommand showPanelCommand none .showPanel with
  | .ok () => pure (.ok ())
  | .error cause => pure (.error (.command cause))

/-- Ends a subscription to pressed keys, if there is one. -/
def forgetKeys : Option SubscriptionId → Act κ S Unit
  | some listener => do
    let _ ← unsubscribe keyPressedEvent listener
  | none => pure ()

/-- Stops to listen for keys and removes the command. -/
def deactivatePanels (copy : InstanceId) : Act κ S (Except ExtensionError Unit) := do
  let listener? ← .read fun session => (session.builtins.panels[copy]?).bind PanelsState.listener?
  setKeyListener copy none
  forgetKeys listener?
  let _ ← unregisterCommand showPanelCommand
  pure (.ok ())

/-- Hides every panel when the pressed key is the escape key. -/
def hideOnEscape (payload : Value) : Act κ S (Except HandlerError Unit) := do
  .when (payload.asText? == some "esc") do
    let _ ← showPanel ""
  pure (.ok ())

/-- Shows the panel of the argument; without an argument every panel is hidden. -/
def runShowPanel (args : Value) : Act κ S (Except HandlerError Unit) := do
  match args with
  | .string panel =>
    let _ ← showPanel panel
    pure (.ok ())
  | .null =>
    let _ ← showPanel ""
    pure (.ok ())
  | _ => pure (.error ⟨"show_panel expects a panel id"⟩)

end EditorShell.Session
