import EditorShell.Command.Registry
import EditorShell.Key.Dispatcher

/-!
# Extensions and their states

An extension is registered under a name and later activated.  While it is being activated it is in a
state of its own, so that an activation from inside does nothing.  Every registration gets a number
(its *generation*), by which an entry is told from one that replaced it under the same name.

The commands that an extension contributes are registered on its behalf and remembered with the
default chords that were in fact bound for them.

`E` is the type of extensions and `B` that of what actions do.
-/

namespace EditorShell

/-- The two calls an extension gets. -/
inductive ExtensionPhase where
  | activate
  | deactivate
  deriving DecidableEq

/-- The word for a phase in messages. -/
def ExtensionPhase.name : ExtensionPhase → String
  | activate => "activate"
  | deactivate => "deactivate"

/-- Why an activation or a deactivation failed. -/
inductive ExtensionError where
  | unknown (name : String)
  | command (cause : CommandError)
  | keybinding (cause : KeybindingError)
  | handler (cause : HandlerError)
  | panicked (phase : ExtensionPhase) (message : String)
  deriving DecidableEq

/-- What went wrong. -/
def ExtensionError.message : ExtensionError → String
  | unknown name => "unknown extension: " ++ name
  | command cause => cause.message
  | keybinding cause => cause.message
  | handler cause => cause.message
  | panicked phase message => "extension panicked during " ++ phase.name ++ ": " ++ message

/-- Where an extension is in its life. -/
inductive ExtensionState where
  /-- It is known, and not active. -/
  | registered
  /-- It is being activated. -/
  | activating
  | active
  deriving DecidableEq

/-- The word for a state. -/
def ExtensionState.name : ExtensionState → String
  | registered => "Registered"
  | activating => "Activating"
  | active => "Active"

/-- A command that an extension wants registered while it is active. -/
structure Contribution (B : Type) where
  name : String
  action : Action B
  /-- Its default chord, in any spelling. -/
  keys : Option String

/-- A contribution that was registered. -/
structure Contributed (B : Type) where
  name : String
  action : Action B
  /-- The default chord, if it was free and has been bound. -/
  chord : Option Chord

/-- A registered extension. -/
structure ExtensionEntry (E B : Type) where
  extension : E
  state : ExtensionState
  /-- The number of its registration. -/
  generation : Nat
  /-- What was registered on its behalf. -/
  contributed : List (Contributed B)

/-- The registered extensions by name. -/
structure ExtensionRegistry (E B : Type) where
  lastGeneration : Nat
  entries : Table (ExtensionEntry E B)

namespace ExtensionRegistry

variable {E B : Type}

/-- A registry without extensions. -/
def empty : ExtensionRegistry E B := ⟨0, .empty⟩

/-- The extension registered under a name. -/
def get? (registry : ExtensionRegistry E B) (name : String) : Option (ExtensionEntry E B) :=
  registry.entries.get? name

/-- The state of the extension under a name. -/
def state? (registry : ExtensionRegistry E B) (name : String) : Option ExtensionState :=
  (registry.get? name).map ExtensionEntry.state

/-- Whether an extension is registered and active. -/
def isActive (registry : ExtensionRegistry E B) (name : String) : Bool :=
  registry.state? name = some .active

/-- Drops the entry of a name. -/
def remove (registry : ExtensionRegistry E B) (name : String) : ExtensionRegistry E B :=
  { registry with entries := registry.entries.erase name }

/-- Stores an extension that is not active, as a new registration. -/
def add (registry : ExtensionRegistry E B) (name : String) (extension : E) :
    ExtensionRegistry E B :=
  let generation := registry.lastGeneration + 1
  ⟨generation, registry.entries.insert name ⟨extension, .registered, generation, []⟩⟩

/-- Puts the extension of a name in a state. -/
def setState (registry : ExtensionRegistry E B) (name : String) (state : ExtensionState) :
    ExtensionRegistry E B :=
  { registry with entries := registry.entries.modify name fun entry =>
    { entry with state := state } }

/-- Whether the entry of a name is the one of this registration. -/
def holds (registry : ExtensionRegistry E B) (name : String) (generation : Nat) : Bool :=
  (registry.get? name).any fun entry => entry.generation == generation

/-- Makes an entry active, with what was registered on its behalf. -/
def setActive (registry : ExtensionRegistry E B) (name : String)
    (contributed : List (Contributed B)) : ExtensionRegistry E B :=
  { registry with
    entries := registry.entries.modify name fun entry =>
      { entry with state := .active, contributed := contributed } }

/-- Makes an entry inactive; nothing is registered on its behalf any more. -/
def setInactive (registry : ExtensionRegistry E B) (name : String) : ExtensionRegistry E B :=
  { registry with
    entries := registry.entries.modify name fun entry =>
      { entry with state := .registered, contributed := [] } }

/-! ## What a name has after a change -/

/-- Changes the entry of a name. -/
def modify (registry : ExtensionRegistry E B) (name : String)
    (change : ExtensionEntry E B → ExtensionEntry E B) : ExtensionRegistry E B :=
  { registry with entries := registry.entries.modify name change }

theorem get?_modify (registry : ExtensionRegistry E B) (name : String)
    (change : ExtensionEntry E B → ExtensionEntry E B) (wanted : String) :
    (registry.modify name change).get? wanted =
      if wanted = name then (registry.get? name).map change else registry.get? wanted :=
  Table.get?_modify _ _ _ _

theorem get?_modify_self {registry : ExtensionRegistry E B} {name : String}
    {entry : ExtensionEntry E B} (hget : registry.get? name = some entry)
    (change : ExtensionEntry E B → ExtensionEntry E B) :
    (registry.modify name change).get? name = some (change entry) := by
  rw [get?_modify, if_pos rfl, hget]
  rfl

theorem get?_modify_of_ne (registry : ExtensionRegistry E B) {name wanted : String}
    (hne : wanted ≠ name) (change : ExtensionEntry E B → ExtensionEntry E B) :
    (registry.modify name change).get? wanted = registry.get? wanted := by
  rw [get?_modify, if_neg hne]

theorem get?_remove (registry : ExtensionRegistry E B) (name wanted : String) :
    (registry.remove name).get? wanted = if wanted = name then none else registry.get? wanted :=
  Table.get?_erase _ _ _

theorem get?_add (registry : ExtensionRegistry E B) (name : String) (extension : E)
    (wanted : String) : (registry.add name extension).get? wanted =
      if wanted = name then some ⟨extension, .registered, registry.lastGeneration + 1, []⟩
      else registry.get? wanted :=
  Table.get?_insert _ _ _ _

theorem holds_iff {registry : ExtensionRegistry E B} {name : String} {generation : Nat} :
    registry.holds name generation = true ↔
      ∃ entry, registry.get? name = some entry ∧ entry.generation = generation := by
  unfold holds
  cases registry.get? name <;> simp

end ExtensionRegistry

end EditorShell
