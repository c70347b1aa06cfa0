import EditorShell.Session.Act

/-!
# Commands and keys in a session

Registering a command announces its default chord to the chord sink.  Executing a command that is
not there or is disabled does nothing; a failure or panic of its action comes back as an error.

A pressed chord is handled when it is bound.  A repeat of the last dispatch counts as handled and
does nothing else.  A dispatch is remembered before its command runs, so that a command which
presses its own chord again meets the window.
-/

namespace EditorShell.Session

open Json

variable {κ S : Type}

/-! ## Bindings -/

/-- Binds a chord; another binding of the chord is replaced. -/
def bindKeys (binding : KeyBinding) : Act κ S Unit :=
  .change fun session => { session with keys := session.keys.bind binding }

/-- Binds a chord that is given in any spelling. -/
def bind (keys command : String) (args : Option Value) : Act κ S (Except KeybindingError Unit) :=
  match Chord.parse keys with
  | .error cause => pure (.error (.invalidChord cause))
  | .ok chord => do
    bindKeys ⟨chord, command, args⟩
    pure (.ok ())

/-- The binding of a chord that is given in any spelling. -/
def binding? (session : Session κ S) (keys : String) : Option KeyBinding :=
  (Chord.parse? keys).bind session.keys.binding?

/-- Removes the binding of a chord in any spelling, and gives it back. -/
def unbind (keys : String) : Act κ S (Option KeyBinding) :=
  match Chord.parse? keys with
  | none => pure none
  | some chord => do
    let binding? ← .read fun session => session.keys.binding? chord
    .change fun session => { session with keys := session.keys.unbind chord }
    pure binding?

/-- Makes bindings in order and says how many. -/
def loadMap (bindings : List KeyBinding) : Act κ S Nat := do
  .change fun session => { session with keys := session.keys.load bindings }
  pure bindings.length

/-- Makes the bindings of a keymap and says how many; a keymap that is refused changes nothing. -/
def loadKeymap (text : String) : Act κ S (Except KeymapError Nat) :=
  match Keymap.parse text with
  | .error cause => pure (.error cause)
  | .ok keymap => do
    let count ← loadMap keymap.bindings
    pure (.ok count)

/-- Sets the window within which a repeat is suppressed. -/
def setWindow (window : Duration) : Act κ S Unit :=
  .change fun session => { session with keys := { session.keys with window := window } }

/-! ## Registration -/

/-- Makes an action, which is equal to no other one. -/
def newAction (body : ActionBody κ) : Act κ S (Action (ActionBody κ)) := do
  let action ← .read fun session => (session.commands.newAction body).1
  .change fun session => { session with commands := (session.commands.newAction body).2 }
  pure action

/-- Tells the chord sink of the default chord of a command.  A sink of the embedding program is
taken to return: should it panic, the registration goes on, where the panic would end the
registration and go to whoever registers the command. -/
def announce (chord : Chord) (command : String) : Act κ S Unit := do
  match ← .read Session.chordSink with
  | .dispatcher => bindKeys ⟨chord, command, none⟩
  | .observer =>
    let _ ← Act.call (.announce chord command)
    pure ()
  | .nobody => pure ()

/-- Registers a command with an action, in place of any other one of its name, and announces its
chord. -/
def registerAction (descriptor : CommandDescriptor) (action : Action (ActionBody κ)) :
    Act κ S Unit := do
  .change fun session => { session with commands := session.commands.insert ⟨descriptor, action⟩ }
  match descriptor.keys with
  | some chord => announce chord descriptor.name
  | none => pure ()

/-- Registers a command with an action of its own. -/
def registerDescriptor (descriptor : CommandDescriptor) (body : ActionBody κ) : Act κ S Unit := do
  let action ← newAction body
  registerAction descriptor action

/-- Registers a command by name, perhaps with a default chord in any spelling; one that is not a
chord refuses the registration. -/
def registerCommand (name : String) (keys : Option String) (body : ActionBody κ) :
    Act κ S (Except CommandError Unit) :=
  match keys with
  | none => do
    registerDescriptor (.named name) body
    pure (.ok ())
  | some keys =>
    match Chord.parse keys with
    | .error cause => pure (.error (.invalidChord name cause))
    | .ok chord => do
      registerDescriptor { CommandDescriptor.named name with keys := some chord } body
      pure (.ok ())

/-- Removes a command and says whether it was there. -/
def unregisterCommand (name : String) : Act κ S Bool := do
  let found ← .read fun session => (session.commands.unregister name).1
  .change fun session => { session with commands := (session.commands.unregister name).2 }
  pure found

/-- Removes a command if this very action is still registered for it. -/
def unregisterAction (name : String) (action : Action (ActionBody κ)) : Act κ S Bool := do
  let found ← .read fun session => (session.commands.unregisterAction name action).1
  .change fun session =>
    { session with commands := (session.commands.unregisterAction name action).2 }
  pure found

/-- Enables or disables a command and says whether it is there. -/
def setEnabled (name : String) (enabled : Bool) : Act κ S Bool := do
  let found ← .read fun session => (session.commands.setEnabled name enabled).1
  .change fun session => { session with commands := (session.commands.setEnabled name enabled).2 }
  pure found

/-! ## Execution -/

/-- What the result of an action means for its command. -/
def commandResult (name : String) :
    Guarded (Except HandlerError Unit) → Except CommandError CommandOutcome
  | .ok (.ok ()) => .ok .executed
  | .ok (.error cause) => .error (.handlerFailed name cause)
  | .error panic => .error (.handlerPanicked name panic.message)

/-- Executes a command; one that is unknown or disabled is passed over. -/
def execute (name : String) (args : Value) : Act κ S (Except CommandError CommandOutcome) := do
  match ← .read fun session => session.commands.get? name with
  | none => pure (.ok .unknown)
  | some command =>
    if !command.descriptor.enabled then pure (.ok .disabled)
    else
      -- The command is looked up once, so its action may replace or remove it.
      let outcome ← Act.call (.action name command.action args)
      pure (commandResult name outcome)

/-- Dispatches a bound chord unless it is a repeat. -/
def dispatchBound (chord : Chord) (binding : KeyBinding) : Act κ S Unit := do
  let now ← .read Session.clock
  if ← .read fun session => session.keys.isRepeat chord now then pure ()
  else
    -- Before the command runs, which may press its own chord again.
    .change fun session => { session with keys := session.keys.record chord now }
    let args := binding.args.getD .null
    .note (.dispatched chord now binding.command args)
    let _ ← execute binding.command args
    pure ()

/-- Dispatches a chord and says whether it is bound. -/
def pressChord (chord : Chord) : Act κ S Bool := do
  match ← .read fun session => session.keys.binding? chord with
  | none => pure false
  | some binding =>
    dispatchBound chord binding
    pure true

/-- Presses a chord that is given in any spelling, and says whether it was handled. -/
def pressText (raw : String) : Act κ S Bool :=
  match Chord.parse? raw with
  | none => pure false
  | some chord => pressChord chord

/-- Dispatches a pressed chord in any spelling and says whether it was handled. -/
def press (raw : String) : Act κ S Bool := do
  .note (.pressBegan raw)
  let handled ← pressText raw
  .note (.pressEnded raw handled)
  pure handled

end EditorShell.Session
