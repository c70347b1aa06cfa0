import EditorShell.Session.Callback

/-!
# Sessions

A session is the whole state of a running shell: the clock, the deferred work, the registries, the
bridge to the host, the panels and the extensions, and the state `S` of the embedding program.

A session also keeps a journal of what happened, newest entry first.  Nothing reads it while the
shell runs; laws about the order of events are stated on it.
-/

namespace EditorShell

open Json

/-- The panels, the status components and the state they are rendered by. -/
structure PanelHost (κ : Type) where
  ui : UiState
  panels : ComponentRegistry (Component κ)
  status : ComponentRegistry (Component κ)

/-- One thing that happened in a session. -/
inductive Entry (κ : Type) where
  | called (call : Call κ)
  /-- The callback that was called last and has not returned yet returned. -/
  | returned (call : Call κ) (outcome : Guarded call.Result)
  /-- A node is about to be mounted or updated. -/
  | declared (id : NodeId) (node : Node (Handler κ))
  /-- A mounted widget is about to be unmounted. -/
  | withdrawn (id : NodeId)
  /-- The host left a handle in the slot of a widget. -/
  | published (id : NodeId) (handle : WidgetHandle)
  | sent (message : HostMessage) (accepted : Bool)
  | emitBegan (event : String) (payload : Value)
  /-- The event that began last and has not ended yet was delivered. -/
  | emitEnded (event : String) (report : EmitReport)
  | scheduled (task : Task (Job κ))
  | passBegan (now : Instant)
  /-- The turn of a deferred job came. -/
  | ran (id : TaskId)
  /-- The pass that began last and has not ended yet ended. -/
  | passEnded (count : Nat)
  | pressBegan (raw : String)
  /-- The command bound to a chord is about to be executed. -/
  | dispatched (chord : Chord) (time : Instant) (command : String) (args : Value)
  /-- The press that began last and has not ended yet ended. -/
  | pressEnded (raw : String) (handled : Bool)
  /-- The version of the panels moved. -/
  | moved
  | started
  /-- A tick is about to compose the tree of these panels, and to render it. -/
  | rendering (panels : PanelHost κ)
  /-- The render that began last and has not ended yet ended. -/
  | rendered

/-- What the extension of the panels remembers. -/
structure PanelsState where
  /-- Its listener for keys. -/
  listener? : Option SubscriptionId

/-- What the readout of the editor remembers. -/
structure EditorStatusState where
  /-- The line of the cursor, counted from zero. -/
  line : Nat
  /-- The column of the cursor, counted from zero. -/
  column : Nat
  language : String
  subscriptions : List (String × SubscriptionId)

/-- What the demonstration remembers. -/
structure HelloWorldState where
  /-- How often the greeting command has run. -/
  greetings : Nat
  /-- The name that is greeted; empty for none. -/
  name : String
  /-- The debouncer of typed names, while the extension is active. -/
  debouncer? : Option DebouncerId

/-- The states of all copies of the built-in extensions. -/
structure Builtins where
  panels : List PanelsState
  editorStatus : List EditorStatusState
  helloWorld : List HelloWorldState

/-- What a shell keeps besides its registries. -/
structure ShellState where
  /-- The version that the last render was composed for. -/
  renderedVersion? : Option UInt64
  /-- The listener that focuses the input of a shown panel. -/
  focusListener : SubscriptionId

/-- All that changes while the program runs. -/
structure Session (κ S : Type) where
  clock : Instant
  scheduler : Scheduler (Job κ)
  /-- The debouncers, by number. -/
  debouncers : List Debouncer
  events : EventBus (Listener κ)
  commands : CommandRegistry (ActionBody κ)
  chordSink : ChordSink
  keys : KeyDispatcher
  slots : HandleSlots
  host : Host
  /-- Whether the host is acting on a message of the bridge. -/
  hostBusy : Bool
  bridge : Bridge (Handler κ)
  panelHost : PanelHost κ
  extensions : ExtensionRegistry (Extension κ) (ActionBody κ)
  builtins : Builtins
  shell? : Option ShellState
  /-- Whether there was a shell that has been closed. -/
  closed : Bool
  app : S
  /-- What happened, newest first. -/
  journal : List (Entry κ)

namespace Session

variable {κ S : Type}

/-- The event whose payload is a panel to show. -/
def showPanelEvent : String := "showPanel"

/-- The event whose payload is a pressed chord. -/
def keyPressedEvent : String := "keyPressed"

/-- The session after an entry was noted. -/
def noting (session : Session κ S) (entry : Entry κ) : Session κ S :=
  { session with journal := entry :: session.journal }

/-- A session in which only the panel host listens. -/
def fresh (sink : ChordSink) (host : Host) (app : S) : Session κ S where
  clock := .start
  scheduler := .empty
  debouncers := []
  events := (EventBus.empty.subscribe showPanelEvent .showPanel).2
  commands := .empty
  chordSink := sink
  keys := .ofWindow ⟨150⟩
  slots := .empty
  host := host
  hostBusy := false
  bridge := .empty
  panelHost := ⟨.initial, .empty, .empty⟩
  extensions := .empty
  builtins := ⟨[], [], []⟩
  shell? := none
  closed := false
  app := app
  journal := []

end Session

end EditorShell
