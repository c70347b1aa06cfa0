import EditorShell.Session.Commands
import EditorShell.Session.Panels
import EditorShell.Session.Tasks
import EditorShell.Text.Blank

/-!
# The greeting extension

A demonstration: a panel greets a name that can be typed into it.  A typed name counts once nothing
more has been typed for a while.  The extension contributes a command, with a default chord, that
counts greetings; a button in the panel runs it.
-/

namespace EditorShell.Session

open Json

variable {κ S : Type}

/-- The name of the command that greets. -/
def sayHelloCommand : String := "hello_world.say_hello"

/-- The id of the panel, which is also the id of its root widget. -/
def greetingPanelId : String := "panel::hello-world"

/-- How long typing has to pause before a name counts. -/
def namePause : Duration := ⟨300⟩

/-- A copy that has greeted nobody yet. -/
def freshGreeter : HelloWorldState := ⟨0, "", none⟩

/-- Makes another copy of the extension, which has greeted nobody yet. -/
def newHelloWorld : Act κ S InstanceId := do
  let copy ← .read fun session => session.builtins.helloWorld.length
  .change fun session =>
    { session with
      builtins :=
        { session.builtins with helloWorld := session.builtins.helloWorld ++ [freshGreeter] } }
  pure copy

/-- The state of a copy. -/
def greeter (session : Session κ S) (copy : InstanceId) : HelloWorldState :=
  (session.builtins.helloWorld[copy]?).getD freshGreeter

/-- Changes the state of a copy. -/
def changeGreeter (copy : InstanceId) (f : HelloWorldState → HelloWorldState) : Act κ S Unit :=
  .change fun session =>
    { session with
      builtins :=
        { session.builtins with helloWorld := session.builtins.helloWorld.modify copy f } }

/-- The commands that a copy contributes. -/
def greetingCommands (copy : InstanceId) : Act κ S (List (Contribution (ActionBody κ))) := do
  let action ← newAction (.sayHello copy)
  pure [⟨sayHelloCommand, action, some "ctrl+alt+h"⟩]

/-- Replaces the debouncer of a copy; the previous one is gone. -/
def setNameDebouncer (copy : InstanceId) (debouncer? : Option DebouncerId) : Act κ S Unit := do
  let previous? ← .read fun session => (session.greeter copy).debouncer?
  changeGreeter copy fun state => { state with debouncer? := debouncer? }
  match previous? with
  | some previous => dropDebouncer previous
  | none => pure ()

/-- Registers the panel, with a new debouncer for the name that is typed in it. -/
def activateHelloWorld (copy : InstanceId) : Act κ S (Except ExtensionError Unit) := do
  let debouncer ← newDebouncer namePause
  setNameDebouncer copy (some debouncer)
  registerPanel greetingPanelId (.greeting copy debouncer)
  pure (.ok ())

/-- Removes the panel; a typed name that does not count yet is forgotten. -/
def deactivateHelloWorld (copy : InstanceId) : Act κ S (Except ExtensionError Unit) := do
  setNameDebouncer copy none
  let _ ← unregisterPanel greetingPanelId
  pure (.ok ())

/-- Counts one more greeting. -/
def sayHello (copy : InstanceId) : Act κ S (Except HandlerError Unit) := do
  changeGreeter copy fun state => { state with greetings := state.greetings + 1 }
  pure (.ok ())

/-- The name that was typed: the text of the interaction without blanks around it. -/
def typedName (event : UiEvent) : String :=
  String.ofList (Text.trim ((event.value.asText?).getD "").toList)

/-- Takes a typed name once typing has paused. -/
def nameTyped (copy : InstanceId) (debouncer : DebouncerId) (event : UiEvent) : Act κ S Unit :=
  debounce debouncer (.settleName copy (typedName event))

/-- Makes a name the one that is greeted. -/
def settleName (copy : InstanceId) (name : String) : Act κ S Unit := do
  changeGreeter copy fun state => { state with name := name }
  touch

/-- Executes the command of the panel; how that ends is not looked at. -/
def greet : Act κ S Unit := do
  let _ ← execute sayHelloCommand .null

/-- The text of the panel for a name. -/
def greeting (name : String) : String :=
  if name.isEmpty then "Hello World" else "Hello, " ++ name

/-- The panel with its text, its input and its button. -/
def greetingPanel (copy : InstanceId) (debouncer : DebouncerId) (name : String) :
    Node (Handler κ) :=
  ((Node.ofKind .view).withId greetingPanelId).withChildren
    [(Node.ofText (greeting name)).withId "panel::hello-world::text",
      (((Node.ofKind .textInput).withId "panel::hello-world::input").withProp "placeholder"
        (.string "Your name")).withHandler .changeText (.nameTyped copy debouncer),
      (((Node.ofKind .button).withId "panel::hello-world::button").withProp "text"
        (.string "Click Me")).withHandler .click .greet]

/-- Renders the panel of a copy with the name that it knows. -/
def renderGreeting (copy : InstanceId) (debouncer : DebouncerId) : Act κ S (Node (Handler κ)) := do
  let name ← .read fun session => (session.greeter copy).name
  pure (greetingPanel copy debouncer name)

end EditorShell.Session
