import EditorShell.Session.Engine

/-!
# What acts are made of

Every act of a session is put together from a few basic ones by sequencing.  `Act.MadeOf` says so
for a class of basic acts.  Whatever goes through sequencing and holds of the basic acts therefore
holds of every act (`Act.MadeOf.covered`), and what the acts are made of has to be shown only once.

Which acts are basic is left open.  A law about the whole of an operation takes the operation as
basic; a law that does not look at it takes it apart.  The structures below list the operations by
the part of a session that they change, and for each part there is a lemma that takes its operations
apart as far as possible.
-/

namespace EditorShell

variable {κ S α β : Type}

/-- A class of acts. -/
abbrev Act.Class (κ S : Type) := (α : Type) → Act κ S α → Prop

/-- An act is put together from acts of a class. -/
inductive Act.MadeOf (Parts : Act.Class κ S) : {α : Type} → Act κ S α → Prop where
  | part {α : Type} {act : Act κ S α} (mem : Parts α act) : MadeOf Parts act
  | pure {α : Type} (value : α) : MadeOf Parts (Pure.pure value)
  | read {α : Type} (view : Session κ S → α) : MadeOf Parts (.read view)
  | look {α : Type} {next : Session κ S → Act κ S α}
      (hnext : ∀ session, MadeOf Parts (next session)) : MadeOf Parts (.look next)
  | bind {α β : Type} {first : Act κ S α} {next : α → Act κ S β} (hfirst : MadeOf Parts first)
      (hnext : ∀ value, MadeOf Parts (next value)) : MadeOf Parts (first >>= next)

namespace Act.MadeOf

variable {Parts : Act.Class κ S}

theorem ite {condition : Prop} [Decidable condition] {first second : Act κ S α}
    (hfirst : first.MadeOf Parts) (hsecond : second.MadeOf Parts) :
    (if condition then first else second).MadeOf Parts := by
  split
  · exact hfirst
  · exact hsecond

theorem when {condition : Bool} {act : Act κ S Unit} (hact : act.MadeOf Parts) :
    (Act.when condition act).MadeOf Parts := by
  cases condition
  · exact .pure ()
  · exact hact

/-- A class that goes through sequencing has every act that is made of its members. -/
theorem covered {act : Act κ S α} (hact : act.MadeOf Parts)
    (hpure : ∀ {α : Type} (value : α), Parts α (Pure.pure value))
    (hread : ∀ {α : Type} (view : Session κ S → α), Parts α (.read view))
    (hlook : ∀ {α : Type} {next : Session κ S → Act κ S α}, (∀ session, Parts α (next session)) →
      Parts α (.look next))
    (hbind : ∀ {α β : Type} {first : Act κ S α} {next : α → Act κ S β}, Parts α first →
      (∀ value, Parts β (next value)) → Parts β (first >>= next)) : Parts α act := by
  induction hact with
  | part mem => exact mem
  | pure value => exact hpure value
  | read view => exact hread view
  | look _ ih => exact hlook ih
  | bind _ _ hfirst hnext => exact hbind hfirst hnext

end Act.MadeOf

/-! ## Kinds of calls, entries and requests -/

/-- Whether a call asks the host to act on a message. -/
def Call.isHost : Call κ → Bool
  | .host _ => true
  | _ => false

/-- Whether a call is one of those that an extension gets. -/
def Call.isLifecycle : Call κ → Bool
  | .listing _ _ _ | .activate _ _ _ | .deactivate _ _ _ => true
  | _ => false

/-- Whether a call is one that a job makes in its turn. -/
def Call.isJob : Call κ → Bool
  | .task _ _ | .delivery _ _ _ => true
  | _ => false

/-- Whether a call tells a listener of an event. -/
def Call.isListener : Call κ → Bool
  | .listener _ _ _ => true
  | _ => false

/-- Whether a call passes an interaction to its handler. -/
def Call.isInteraction : Call κ → Bool
  | .interaction _ _ => true
  | _ => false

/-- Whether a call lets the panel host take an event. -/
def Call.isShowing : Call κ → Bool
  | .listener _ ⟨_, .showPanel⟩ _ => true
  | _ => false

theorem Call.isLifecycle_of_isJob {call : Call κ} (hjob : call.isJob = true) :
    call.isLifecycle = false := by
  cases call <;> first | rfl | cases hjob

/-- Whether an entry is noted outside the core: the call of a callback but the host, an event,
a press, or what a shell shows. -/
def Entry.isPlain : Entry κ → Bool
  | .called call | .returned call _ => !call.isHost
  | .emitBegan _ _ | .emitEnded _ _ | .pressBegan _ | .dispatched _ _ _ _ | .pressEnded _ _ | .moved
  | .started | .rendering _ | .rendered => true
  | _ => false

/-- Whether an entry tells of an event. -/
def Entry.isEvent : Entry κ → Bool
  | .emitBegan _ _ | .emitEnded _ _ => true
  | _ => false

/-- Whether an entry tells of a press. -/
def Entry.isPress : Entry κ → Bool
  | .pressBegan _ | .dispatched _ _ _ _ | .pressEnded _ _ => true
  | _ => false

/-- Whether an entry tells what a shell shows. -/
def Entry.isDisplay : Entry κ → Bool
  | .moved | .started | .rendering _ | .rendered => true
  | _ => false

/-- Whether an entry tells of a pass. -/
def Entry.isPass : Entry κ → Bool
  | .passBegan _ | .ran _ | .passEnded _ => true
  | _ => false

theorem Entry.isPlain_of_isEvent {entry : Entry κ} (hevent : entry.isEvent = true) :
    entry.isPlain = true := by
  cases entry <;> first | rfl | cases hevent

theorem Entry.isPlain_of_isPress {entry : Entry κ} (hpress : entry.isPress = true) :
    entry.isPlain = true := by
  cases entry <;> first | rfl | cases hpress

theorem Entry.isPlain_of_isDisplay {entry : Entry κ} (hdisplay : entry.isDisplay = true) :
    entry.isPlain = true := by
  cases entry <;> first | rfl | cases hdisplay

/-- Whether an entry tells of one of the calls that an extension gets. -/
def Entry.isLifecycle : Entry κ → Bool
  | .called call | .returned call _ => call.isLifecycle
  | _ => false

/-- Whether a request reads or changes the core itself. -/
def Request.isCore : Request κ → Bool
  | .scheduleAt _ _ | .scheduleAfter _ _ | .scheduleNext _ | .cancelTask _ _ | .clearTasks
  | .runDue | .newDebouncer _ | .debounce _ _ | .cancelDebounced _ | .dropDebouncer _
  | .publish _ _ | .takeHandle _ | .mount _ _ _ | .update _ _ | .unmount _ | .unmountSubtree _
  | .render _ | .resolveHandle _ _ | .invoke _ _ | .dispatchEvent _ | .sendDirectly _ | .failOp _
  | .recoverOp _ | .clearRecording | .setWireFault _ => true
  | _ => false

/-! ## The operations of a session by the part they change -/

namespace Act.Class

variable (Parts : Act.Class κ S)

/-- Commands act, components render, and the embedding program learns of chords. -/
structure Acting : Prop where
  call : ∀ call : Call κ, call.isHost = false → call.isLifecycle = false → call.isJob = false →
    call.isListener = false → call.isInteraction = false → (Act.call (S := S) call).MadeOf Parts

/-- Callbacks of the program other than extensions, jobs and listeners are called. -/
structure Ordinary : Prop extends Parts.Acting where
  interact : ∀ handler event, (Act.call (S := S) (.interaction handler event)).MadeOf Parts

/-- What belongs to no other part: the clock, the built-in extensions and the state of the embedding
program. -/
structure Outer : Prop where
  clock : ∀ f : Session κ S → Instant,
    (Act.change fun session => { session with clock := f session }).MadeOf Parts
  builtins : ∀ f : Session κ S → Builtins,
    (Act.change fun session => { session with builtins := f session }).MadeOf Parts
  app : ∀ app, (Act.change fun session => { session with app := app }).MadeOf Parts

/-- Events. -/
structure Events : Prop where
  subscribe : ∀ event listener, (Session.subscribe (S := S) event listener).MadeOf Parts
  unsubscribe : ∀ event id, (Session.unsubscribe event id).MadeOf Parts
  clearEvent : ∀ event, (Session.clearEvent event).MadeOf Parts
  emit : ∀ event payload, (Session.emit event payload).MadeOf Parts

/-- What is bound of keys. -/
structure Binding : Prop where
  bindKeys : ∀ binding, (Session.bindKeys binding).MadeOf Parts
  unbind : ∀ keys, (Session.unbind keys).MadeOf Parts
  releaseChord : ∀ command chord, (Session.releaseChord command chord).MadeOf Parts
  loadMap : ∀ bindings, (Session.loadMap bindings).MadeOf Parts
  setWindow : ∀ window, (Session.setWindow window).MadeOf Parts

/-- What is registered and bound of commands and keys. -/
structure Registering : Prop extends Parts.Binding where
  newAction : ∀ body, (Session.newAction (S := S) body).MadeOf Parts
  registerAction : ∀ descriptor action,
    (Session.registerAction (S := S) descriptor action).MadeOf Parts
  unregisterCommand : ∀ name, (Session.unregisterCommand name).MadeOf Parts
  unregisterAction : ∀ name action, (Session.unregisterAction (S := S) name action).MadeOf Parts
  setEnabled : ∀ name enabled, (Session.setEnabled name enabled).MadeOf Parts

/-- Commands and keys. -/
structure Commands : Prop extends Parts.Registering where
  execute : ∀ name args, (Session.execute name args).MadeOf Parts
  press : ∀ raw, (Session.press raw).MadeOf Parts

/-- Panels. -/
structure Panels : Prop where
  registerPanel : ∀ id component, (Session.registerPanel (S := S) id component).MadeOf Parts
  unregisterPanel : ∀ id, (Session.unregisterPanel id).MadeOf Parts
  registerStatus : ∀ id component, (Session.registerStatus (S := S) id component).MadeOf Parts
  unregisterStatus : ∀ id, (Session.unregisterStatus id).MadeOf Parts
  setCurrentPanel : ∀ panel, (Session.setCurrentPanel panel).MadeOf Parts
  touch : Session.touch.MadeOf Parts
  compose : Session.compose.MadeOf Parts

/-- Extensions. -/
structure Extensions : Prop where
  register : ∀ name extension, (Session.register (S := S) name extension).MadeOf Parts
  unregister : ∀ name, (Session.unregister name).MadeOf Parts
  activate : ∀ name, (Session.activate name).MadeOf Parts
  deactivate : ∀ name, (Session.deactivate name).MadeOf Parts

/-- The core, as far as `allowed` requests and the shell itself touch it, but for renders. -/
structure Inner (allowed : Request κ → Prop) : Prop where
  request : ∀ request : Request κ, request.isCore = true → allowed request →
    (request.perform (S := S)).MadeOf Parts
  runDue : Session.runDue.MadeOf Parts
  resolveHandle : ∀ id receiver, (Session.resolveHandle (S := S) id receiver).MadeOf Parts
  invoke : ∀ id command, (Session.invoke id command).MadeOf Parts
  newDebouncer : ∀ delay, (Session.newDebouncer delay).MadeOf Parts
  debounce : ∀ id body, (Session.debounce (S := S) id body).MadeOf Parts
  dropDebouncer : ∀ id, (Session.dropDebouncer id).MadeOf Parts

/-- The core, renders of any tree included. -/
structure Core (allowed : Request κ → Prop) : Prop extends Parts.Inner allowed where
  render : ∀ root, (Session.render (S := S) root).MadeOf Parts

/-- The shell itself. -/
structure Shell : Prop where
  openShell : ∀ focusListener, (Session.openShell focusListener).MadeOf Parts
  tick : Session.tick.MadeOf Parts
  closeShell :
    (Act.change fun session : Session κ S =>
      { session with shell? := none, closed := true }).MadeOf Parts

/-- Everything that a session of a program with `allowed` requests does is made of `Parts`. -/
structure Covers (allowed : Request κ → Prop) : Prop extends Parts.Outer, Parts.Events,
    Parts.Commands, Parts.Panels, Parts.Extensions, Parts.Inner allowed, Parts.Shell where
  renderPanels : allowed .renderPanels → Session.renderPanels.MadeOf Parts

end Act.Class

end EditorShell
