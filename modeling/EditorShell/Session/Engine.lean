import EditorShell.Session.Program

/-!
# Running a session

The code of an embedding program says for each role what the callback behind a key does.  Together
with the shell's own callbacks this answers every call.

Callbacks may nest: a listener can emit an event, an action can press a key.  A running program
nests to a bounded depth; a call below that depth panics without having done anything, as a program
that runs out of stack would.
-/

namespace EditorShell

open Json

/-- What the callbacks of an embedding program do. -/
structure Code (κ S : Type) where
  action : κ → String → Value → Program κ S (Except HandlerError Unit)
  listener : κ → String → Value → Program κ S (Except HandlerError Unit)
  task : κ → Program κ S Unit
  delivery : κ → Option WidgetHandle → Program κ S Unit
  interaction : κ → UiEvent → Program κ S Unit
  component : κ → String → RenderContext → Program κ S (Node (Handler κ))
  listing : κ → Program κ S (List (Contribution (ActionBody κ)))
  activate : κ → Program κ S (Except ExtensionError Unit)
  deactivate : κ → Program κ S (Except ExtensionError Unit)
  /-- The host is about to act on a message; it may refuse. -/
  host : HostMessage → Program κ S (Except HostError Unit)
  announce : Chord → String → Program κ S Unit

namespace Code

variable {κ S : Type}

/-- The code of a program without callbacks of its own, whose host refuses nothing by itself. -/
def plain : Code Empty S where
  action := nofun
  listener := nofun
  task := nofun
  delivery := nofun
  interaction := nofun
  component := nofun
  listing := nofun
  activate := nofun
  deactivate := nofun
  host := fun _ => .done (.ok ())
  announce := fun _ _ => .done ()

/-- An act of the shell's own callbacks; these never panic. -/
def own {α : Type} (act : Act κ S α) : Act κ S (Guarded α) := do
  let value ← act
  pure (.ok value)

/-- Does what a call asks for: what is built in does its part, and the embedding program the rest.
-/
def respond (code : Code κ S) : (call : Call κ) → Act κ S (Guarded call.Result)
  | .action command action args =>
    match action.body with
    | .showPanel => own (Session.runShowPanel args)
    | .sayHello copy => own (Session.sayHello copy)
    | .user key => (code.action key command args).toAct
  | .listener event subscription payload =>
    match subscription.listener with
    | .showPanel => own (Session.takeShown payload)
    | .focusInput => own (Session.focusShown payload)
    | .hideOnEscape => own (Session.hideOnEscape payload)
    | .cursor copy => own (Session.followCursor copy payload)
    | .language copy => own (Session.followLanguage copy payload)
    | .user key => (code.listener key event payload).toAct
  | .task _ body =>
    match body with
    | .settleName copy name => own (Session.settleName copy name)
    | .user key => (code.task key).toAct
  | .delivery _ receiver handle? =>
    match receiver with
    | .focusAndSelect id => own (Session.focusAndSelect id handle?)
    | .user key => (code.delivery key handle?).toAct
  | .interaction handler event =>
    match handler with
    | .nameTyped copy debouncer => own (Session.nameTyped copy debouncer event)
    | .greet => own Session.greet
    | .user key => (code.interaction key event).toAct
  | .component id component context =>
    match component with
    | .readout copy => own (Session.renderReadout copy)
    | .greeting copy debouncer => own (Session.renderGreeting copy debouncer)
    | .user key => (code.component key id context).toAct
  | .listing _ _ extension =>
    match extension with
    | .builtin .panels _ | .builtin .editorStatus _ => own (pure [])
    | .builtin .helloWorld copy => own (Session.greetingCommands copy)
    | .user key => (code.listing key).toAct
  | .activate _ _ extension =>
    match extension with
    | .builtin .panels copy => own (Session.activatePanels copy)
    | .builtin .editorStatus copy => own (Session.activateEditorStatus copy)
    | .builtin .helloWorld copy => own (Session.activateHelloWorld copy)
    | .user key => (code.activate key).toAct
  | .deactivate _ _ extension =>
    match extension with
    | .builtin .panels copy => own (Session.deactivatePanels copy)
    | .builtin .editorStatus copy => own (Session.deactivateEditorStatus copy)
    | .builtin .helloWorld copy => own (Session.deactivateHelloWorld copy)
    | .user key => (code.deactivate key).toAct
  | .host message => (code.host message).toAct
  | .announce chord command => (code.announce chord command).toAct

/-- Calls callbacks that nest at most `depth` deep. -/
def caller (code : Code κ S) : Nat → Caller κ S
  | 0 => ⟨fun _ session => (.error ⟨"callbacks nest too deep"⟩, session), fun _ _ => []⟩
  | depth + 1 =>
    ⟨fun call session => (code.respond call).run (code.caller depth) session,
      fun call session => (code.respond call).moments (code.caller depth) session⟩

/-- How deep the callbacks of a run may nest. -/
def nestingLimit : Nat := 200

/-- Runs an act with the callbacks of a code. -/
def run {α : Type} (code : Code κ S) (act : Act κ S α) (session : Session κ S) :
    α × Session κ S :=
  act.run (code.caller nestingLimit) session

/-- A session in which a shell has started. -/
def launch (code : Code κ S) (config : ShellConfig) (host : Host) (app : S) : Session κ S :=
  (code.run (Session.start config) (.fresh .dispatcher host app)).2

end Code

end EditorShell
