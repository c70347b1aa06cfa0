import EditorShell.Session.Commands

/-!
# Activating and deactivating extensions

Activating an extension registers the commands that it contributes and then calls it.  A default
chord is bound only if nothing holds it.  When anything fails on the way, what has been registered
so far is withdrawn, and the extension can be activated again.

Withdrawing takes back only what is still as it was registered: a chord that is bound to the command
without arguments, and a command whose action is the one that was contributed.

An extension may act on the registry from inside its own activation.  So the entry is looked up
again afterwards, and it becomes active only if it still is the registration that was brought up.
-/

namespace EditorShell.Session

variable {κ S : Type}

/-- Changes the registered extensions. -/
def changeExtensions
    (f : ExtensionRegistry (Extension κ) (ActionBody κ) →
      ExtensionRegistry (Extension κ) (ActionBody κ)) : Act κ S Unit :=
  .change fun session => { session with extensions := f session.extensions }

/-! ## Contributions -/

/-- Registers a command under its default chord if that is free; says what was registered. -/
def contribute (contribution : Contribution (ActionBody κ)) (chord? : Option Chord) :
    Act κ S (Contributed (ActionBody κ)) := do
  let free? ← .read fun session =>
    chord?.filter fun chord => (session.keys.binding? chord).isNone
  registerAction { CommandDescriptor.named contribution.name with keys := free? }
    contribution.action
  pure ⟨contribution.name, contribution.action, free?⟩

/-- Registers commands in order, up to the first with a default chord that is none.  Gives what was
registered, and why not all of them were. -/
def contributeAll : List (Contribution (ActionBody κ)) →
    Act κ S (List (Contributed (ActionBody κ)) × Except ExtensionError Unit)
  | [] => pure ([], .ok ())
  | contribution :: rest =>
    match contribution.keys.mapM Chord.parse with
    | .error cause => pure ([], .error (.command (.invalidChord contribution.name cause)))
    | .ok chord? => do
      let first ← contribute contribution chord?
      let (others, outcome) ← contributeAll rest
      pure (first :: others, outcome)

/-- Whether a chord is bound to a command as by default. -/
def isDefaultBinding (session : Session κ S) (chord : Chord) (command : String) : Bool :=
  (session.keys.binding? chord).any fun binding =>
    binding.command == command && binding.args.isNone

/-- Unbinds a chord that is bound to a command as by default. -/
def releaseChord (command : String) (chord : Chord) : Act κ S Unit := do
  let inPlace ← .read fun session => session.isDefaultBinding chord command
  .when inPlace (.change fun session => { session with keys := session.keys.unbind chord })

/-- Releases the default chord of a contribution. -/
def releaseDefault (item : Contributed (ActionBody κ)) : Act κ S Unit :=
  match item.chord with
  | some chord => releaseChord item.name chord
  | none => pure ()

/-- Takes back a contribution as far as it is in place. -/
def withdraw (item : Contributed (ActionBody κ)) : Act κ S Unit := do
  releaseDefault item
  let _ ← unregisterAction item.name item.action

/-- Withdraws contributions in order. -/
def withdrawAll : List (Contributed (ActionBody κ)) → Act κ S Unit
  | [] => pure ()
  | item :: rest => do
    withdraw item
    withdrawAll rest

/-! ## Deactivation -/

/-- What the result of a call means for the extension that was called. -/
def callResult (phase : ExtensionPhase) :
    Guarded (Except ExtensionError Unit) → Except ExtensionError Unit
  | .ok result => result
  | .error panic => .error (.panicked phase panic.message)

/-- Tells an extension that it is deactivated, and takes back its contributions. -/
def shutDown (name : String) (entry : ExtensionEntry (Extension κ) (ActionBody κ)) :
    Act κ S (Except ExtensionError Unit) := do
  let outcome ← Act.call (.deactivate name entry.generation entry.extension)
  -- Also after a failure or a panic.
  withdrawAll entry.contributed
  pure (callResult .deactivate outcome)

/-- Deactivates an extension and says whether it was active; a failure does not keep it active. -/
def deactivate (name : String) : Act κ S (Except ExtensionError Bool) := do
  match ← .read fun session => session.extensions.get? name with
  | none => pure (.error (.unknown name))
  | some entry =>
    if entry.state ≠ .active then pure (.ok false)
    else
      -- It is inactive before it is told, so a deactivation from inside its own body does nothing.
      changeExtensions fun registry => registry.setInactive name
      let result ← shutDown name entry
      pure (result.map fun _ => true)

/-! ## Registration -/

/-- Takes an extension out, deactivates it whatever its state, and says whether there was one. -/
def unregister (name : String) : Act κ S Bool := do
  let entry? ← .read fun session => session.extensions.get? name
  -- It is out of the registry before it is told, so its body finds the name free.
  changeExtensions fun registry => registry.remove name
  match entry? with
  | some entry =>
    let _ ← shutDown name entry
    pure true
  | none => pure false

/-- Registers an extension; one of the same name is taken out and deactivated first. -/
def register (name : String) (extension : Extension κ) : Act κ S Unit := do
  let _ ← unregister name
  changeExtensions fun registry => registry.add name extension

/-! ## Activation -/

/-- Registers the contributions of an extension and tells it that it is activated.  Gives what was
registered, and the result. -/
def bringUp (name : String) (entry : ExtensionEntry (Extension κ) (ActionBody κ)) :
    Act κ S (List (Contributed (ActionBody κ)) × Except ExtensionError Unit) := do
  match ← Act.call (.listing name entry.generation entry.extension) with
  | .error panic => pure ([], .error (.panicked .activate panic.message))
  | .ok contributions =>
    let (contributed, outcome) ← contributeAll contributions
    match outcome with
    | .error cause => pure (contributed, .error cause)
    | .ok () =>
      let outcome ← Act.call (.activate name entry.generation entry.extension)
      pure (contributed, callResult .activate outcome)

/-- Ends an activation.  `contributed` was registered on the way, and `result` is how it went. -/
def settle (name : String) (generation : Nat) (contributed : List (Contributed (ActionBody κ)))
    (result : Except ExtensionError Unit) : Act κ S (Except ExtensionError Bool) := do
  let held ← .read fun session => session.extensions.holds name generation
  -- An entry that was removed or replaced on the way keeps nothing, even after a success.
  match result with
  | .ok () =>
    .when held (changeExtensions fun registry => registry.setActive name contributed)
    .when (!held) (withdrawAll contributed)
    pure (.ok held)
  | .error cause =>
    .when held (changeExtensions fun registry => registry.setState name .registered)
    withdrawAll contributed
    pure (.error cause)

/-- Activates an extension and says whether it is active now through this call. -/
def activate (name : String) : Act κ S (Except ExtensionError Bool) := do
  match ← .read fun session => session.extensions.get? name with
  | none => pure (.error (.unknown name))
  | some entry =>
    if entry.state ≠ .registered then pure (.ok false)
    else
      changeExtensions fun registry => registry.setState name .activating
      let (contributed, result) ← bringUp name entry
      settle name entry.generation contributed result

/-! ## Several extensions -/

/-- Activates extensions in order and says how many have become active, counting on from `count`. -/
def activateFrom (count : Nat) : List String → Act κ S Nat
  | [] => pure count
  | name :: rest => do
    match ← activate name with
    | .ok true => activateFrom (count + 1) rest
    | .ok false | .error _ => activateFrom count rest

/-- Activates extensions in order, skips those that fail, and says how many have become active. -/
def activateAll (names : List String) : Act κ S Nat := activateFrom 0 names

/-- Deactivates those of the extensions that are active, in order. -/
def deactivateEach : List String → Act κ S Unit
  | [] => pure ()
  | name :: rest => do
    let active ← .read fun session => session.extensions.isActive name
    .when active do
      let _ ← deactivate name
    deactivateEach rest

/-- Deactivates every active extension, in the reverse order of the names. -/
def deactivateAll : Act κ S Unit := do
  -- The names are fixed here, but whether one is active is asked when its turn comes.
  let names ← .read fun session => session.extensions.entries.names
  deactivateEach names.reverse

/-- Registers and activates an extension, and says whether it was activated. -/
def loadExtension (name : String) (extension : Extension κ) : Act κ S Bool := do
  register name extension
  match ← activate name with
  | .ok activated => pure activated
  | .error _ => pure false

end EditorShell.Session
