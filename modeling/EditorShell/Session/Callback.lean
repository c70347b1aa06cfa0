import EditorShell.Bridge.State
import EditorShell.Event.Bus
import EditorShell.Extension.State
import EditorShell.Host.Transport
import EditorShell.Panel.State

/-!
# Callbacks

A session stores callbacks and calls them later: listeners of events, actions of commands, deferred
tasks, handlers of interactions, components, extensions, and receivers of handles.  A stored
callback is plain data.  It names either one of the shell's own callbacks with what that one has to
remember, or a callback of the embedding program by a key.

`κ` is the type of the embedding program's keys.  What a key does is told by that program's code and
not stored anywhere, so that sessions can be compared and reasoned about.
-/

namespace EditorShell

open Json

/-- The extensions that come with the program. -/
inductive Builtin where
  /-- The key that hides panels and the command that shows them. -/
  | panels
  /-- The readout of cursor and language in the status bar. -/
  | editorStatus
  /-- A demonstration with a command, a chord and a panel. -/
  | helloWorld
  deriving DecidableEq

namespace Builtin

/-- The name under which a built-in extension is configured. -/
def name : Builtin → String
  | panels => "panels"
  | editorStatus => "editor-status"
  | helloWorld => "hello-world"

/-- Every built-in extension, in the order in which a shell registers them. -/
def all : List Builtin := [panels, editorStatus, helloWorld]

/-- The built-in extension of a name. -/
def ofName? (wanted : String) : Option Builtin := all.find? fun builtin => builtin.name == wanted

end Builtin

/-- The number of one copy of a built-in extension; every copy has a state of its own. -/
abbrev InstanceId := Nat

/-- Debouncers are known by numbers. -/
abbrev DebouncerId := Nat

/-- What is subscribed to an event. -/
inductive Listener (κ : Type) where
  /-- Makes the panel of the payload the current one. -/
  | showPanel
  /-- Focuses the input of the panel of the payload. -/
  | focusInput
  | hideOnEscape
  | cursor (readout : InstanceId)
  | language (readout : InstanceId)
  | user (key : κ)

/-- What a command does. -/
inductive ActionBody (κ : Type) where
  | showPanel
  | sayHello (greeter : InstanceId)
  | user (key : κ)

/-- What a task does. -/
inductive TaskBody (κ : Type) where
  | settleName (greeter : InstanceId) (name : String)
  | user (key : κ)

/-- What gets the handle of a widget. -/
inductive Receiver (κ : Type) where
  | focusAndSelect (id : NodeId)
  | user (key : κ)

/-- What handles an interaction. -/
inductive Handler (κ : Type) where
  | nameTyped (greeter : InstanceId) (debouncer : DebouncerId)
  | greet
  | user (key : κ)

/-- What renders a node. -/
inductive Component (κ : Type) where
  | readout (readout : InstanceId)
  | greeting (greeter : InstanceId) (debouncer : DebouncerId)
  | user (key : κ)

/-- What an extension is made of. -/
inductive Extension (κ : Type) where
  | builtin (kind : Builtin) (copy : InstanceId)
  | user (key : κ)

/-- What waits in the scheduler. -/
inductive Job (κ : Type) where
  | task (body : TaskBody κ)
  /-- The task of the latest call of a debouncer. -/
  | debounced (debouncer : DebouncerId) (body : TaskBody κ)
  /-- Picks up the handle that was requested for a widget. -/
  | resolveHandle (id : NodeId)
  /-- Hands the handle of a widget over. -/
  | deliverHandle (id : NodeId) (receiver : Receiver κ)

/-- What gets the default chords of registered commands. -/
inductive ChordSink where
  /-- The dispatcher, which binds them. -/
  | dispatcher
  /-- The embedding program. -/
  | observer
  | nobody
  deriving DecidableEq

/-- A callback panicked; the panic ends at the boundary at which the callback was called. -/
structure Panic where
  message : String
  deriving DecidableEq

/-- The result of a callback, unless it panicked. -/
abbrev Guarded (α : Type) := Except Panic α

/-- One call of a callback, with everything it is given. -/
inductive Call (κ : Type) where
  | action (command : String) (action : Action (ActionBody κ)) (args : Value)
  | listener (event : String) (subscription : Subscription (Listener κ)) (payload : Value)
  | task (id : TaskId) (body : TaskBody κ)
  /-- A receiver gets the handle of a widget, if there is one. -/
  | delivery (id : TaskId) (receiver : Receiver κ) (handle? : Option WidgetHandle)
  | interaction (handler : Handler κ) (event : UiEvent)
  | component (id : String) (component : Component κ) (context : RenderContext)
  | listing (name : String) (generation : Nat) (extension : Extension κ)
  | activate (name : String) (generation : Nat) (extension : Extension κ)
  | deactivate (name : String) (generation : Nat) (extension : Extension κ)
  /-- The host is about to act on a message; it may refuse. -/
  | host (message : HostMessage)
  /-- The embedding program learns of a default chord. -/
  | announce (chord : Chord) (command : String)

/-- What a call gives back when it does not panic. -/
abbrev Call.Result {κ : Type} : Call κ → Type
  | .action _ _ _ => Except HandlerError Unit
  | .listener _ _ _ => Except HandlerError Unit
  | .task _ _ => Unit
  | .delivery _ _ _ => Unit
  | .interaction _ _ => Unit
  | .component _ _ _ => Node (Handler κ)
  | .listing _ _ _ => List (Contribution (ActionBody κ))
  | .activate _ _ _ => Except ExtensionError Unit
  | .deactivate _ _ _ => Except ExtensionError Unit
  | .host _ => Except HostError Unit
  | .announce _ _ => Unit

end EditorShell
