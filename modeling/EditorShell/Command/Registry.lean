import EditorShell.Command.Descriptor
import EditorShell.Sorting
import EditorShell.Table

/-!
# Registered commands

A command is a descriptor with an action.  Registering a name again replaces the command in place.

An action has an identity apart from what it does: two actions made separately differ even if they
do the same.  Whoever registered an action can therefore take back exactly that one
(`unregisterAction`), and not one that someone else put in its place.

`B` is the type of what actions do.
-/

namespace EditorShell

/-- What a command does, with its identity. -/
structure Action (B : Type) where
  id : Nat
  body : B

/-- A registered command: what is shown of it and what it does. -/
structure Command (B : Type) where
  descriptor : CommandDescriptor
  action : Action B

/-- A callback reports that it could not do its work. -/
structure HandlerError where
  message : String
  deriving DecidableEq

/-- What executing a command came to. -/
inductive CommandOutcome where
  | executed
  | unknown
  | disabled
  deriving DecidableEq

/-- Why the execution or the registration of a command failed. -/
inductive CommandError where
  | handlerFailed (command : String) (cause : HandlerError)
  | handlerPanicked (command : String) (message : String)
  | invalidChord (command : String) (cause : ChordError)
  deriving DecidableEq

/-- What is wrong, with the name of the command. -/
def CommandError.message : CommandError → String
  | handlerFailed command cause => "command '" ++ command ++ "' failed: " ++ cause.message
  | handlerPanicked command message => "command '" ++ command ++ "' panicked: " ++ message
  | invalidChord command cause =>
    "command '" ++ command ++ "' has an invalid default chord: " ++ cause.message

/-- The registered commands by name. -/
structure CommandRegistry (B : Type) where
  /-- The identity of the next action. -/
  nextAction : Nat
  commands : Table (Command B)

namespace CommandRegistry

variable {B : Type}

/-- A registry without commands. -/
def empty : CommandRegistry B := ⟨0, .empty⟩

/-- Makes an action that differs from every other one. -/
def newAction (registry : CommandRegistry B) (body : B) : Action B × CommandRegistry B :=
  (⟨registry.nextAction, body⟩, { registry with nextAction := registry.nextAction + 1 })

/-- The command registered under a name. -/
def get? (registry : CommandRegistry B) (name : String) : Option (Command B) :=
  registry.commands.get? name

/-- Registers a command under the name in its descriptor. -/
def insert (registry : CommandRegistry B) (command : Command B) : CommandRegistry B :=
  { registry with commands := registry.commands.insert command.descriptor.name command }

/-- Removes a command and says whether it was there. -/
def unregister (registry : CommandRegistry B) (name : String) : Bool × CommandRegistry B :=
  if registry.commands.contains name then
    (true, { registry with commands := registry.commands.erase name })
  else (false, registry)

/-- Whether this very action is registered under a name. -/
def holdsAction (registry : CommandRegistry B) (name : String) (action : Action B) : Bool :=
  (registry.get? name).any fun command => command.action.id == action.id

/-- Removes a command if this very action is still registered for it. -/
def unregisterAction (registry : CommandRegistry B) (name : String) (action : Action B) :
    Bool × CommandRegistry B :=
  if registry.holdsAction name action then
    (true, { registry with commands := registry.commands.erase name })
  else (false, registry)

/-- Enables or disables a command, and says whether it is registered. -/
def setEnabled (registry : CommandRegistry B) (name : String) (enabled : Bool) :
    Bool × CommandRegistry B :=
  match registry.get? name with
  | none => (false, registry)
  | some command =>
    let descriptor := { command.descriptor with enabled := enabled }
    (true, { registry with
      commands := registry.commands.insert name { command with descriptor := descriptor } })

/-- The descriptors of all registered commands, in the order of their names. -/
def descriptors (registry : CommandRegistry B) : List CommandDescriptor :=
  registry.commands.values.map Command.descriptor

/-- Whether a command comes no later than another one in the answer to a query. -/
def ranksBefore (query : String) (first second : CommandDescriptor) : Bool :=
  second.score query < first.score query ||
    (first.score query == second.score query && first.name ≤ second.name)

/-- The commands that match a query, best first, and by name among equally good ones. -/
def find (registry : CommandRegistry B) (query : String) : List CommandDescriptor :=
  Sorting.sort (ranksBefore query)
    (registry.descriptors.filter fun descriptor => descriptor.isMatch query)

/-! ## What is registered after a change -/

theorem get?_newAction (registry : CommandRegistry B) (body : B) (name : String) :
    (registry.newAction body).2.get? name = registry.get? name := rfl

theorem get?_insert (registry : CommandRegistry B) (command : Command B) (name : String) :
    (registry.insert command).get? name =
      if name = command.descriptor.name then some command else registry.get? name :=
  Table.get?_insert _ _ _ _

theorem get?_unregister (registry : CommandRegistry B) (name wanted : String) :
    (registry.unregister name).2.get? wanted =
      if wanted = name then none else registry.get? wanted := by
  unfold unregister
  split
  · exact Table.get?_erase _ _ _
  · rename_i hnone
    split
    · rename_i heq
      rw [heq]
      exact Table.contains_eq_false_iff.1 (Bool.eq_false_iff.2 hnone)
    · rfl

theorem get?_unregisterAction (registry : CommandRegistry B) (name : String) (action : Action B)
    (wanted : String) :
    (registry.unregisterAction name action).2.get? wanted =
      if wanted = name ∧ registry.holdsAction name action = true then none
      else registry.get? wanted := by
  unfold unregisterAction
  split
  · rename_i hholds
    simp only [hholds, and_true]
    exact Table.get?_erase _ _ _
  · rename_i hholds
    simp [hholds]

theorem get?_setEnabled (registry : CommandRegistry B) (name : String) (enabled : Bool)
    (wanted : String) :
    (registry.setEnabled name enabled).2.get? wanted =
      if wanted = name then (registry.get? name).map fun command =>
        { command with descriptor := { command.descriptor with enabled := enabled } }
      else registry.get? wanted := by
  unfold setEnabled
  split
  · rename_i hnone
    split
    · rename_i heq
      rw [heq, hnone]
      rfl
    · rfl
  · rename_i command hfound
    rw [hfound]
    exact Table.get?_insert _ _ _ _

/-- The changes that a registry can undergo. -/
inductive Changes (registry : CommandRegistry B) : CommandRegistry B → Prop where
  | newAction (body : B) : Changes registry (registry.newAction body).2
  | insert (command : Command B) : Changes registry (registry.insert command)
  | unregister (name : String) : Changes registry (registry.unregister name).2
  | unregisterAction (name : String) (action : Action B) :
      Changes registry (registry.unregisterAction name action).2
  | setEnabled (name : String) (enabled : Bool) :
      Changes registry (registry.setEnabled name enabled).2

/-- The registries that come of an empty one. -/
inductive Reached : CommandRegistry B → Prop where
  | empty : Reached .empty
  | change {registry later : CommandRegistry B} (reached : Reached registry)
      (changes : registry.Changes later) : Reached later

end CommandRegistry

end EditorShell
