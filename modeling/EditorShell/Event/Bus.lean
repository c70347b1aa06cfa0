import EditorShell.Decimal.Digits
import EditorShell.Table

/-!
# Events

Listeners subscribe to events by name.  Each subscription has a number of its own that is never
given out again, and the listeners of one event are kept in the order in which they subscribed.
An event without listeners is not in the table.

`L` is the type of listeners.
-/

namespace EditorShell

/-- Subscriptions are known by numbers, later ones by larger ones. -/
abbrev SubscriptionId := Nat

/-- How a subscription reads in a message. -/
def subscriptionText (id : SubscriptionId) : String := "sub:" ++ Decimal.text id

/-- A listener under its number. -/
structure Subscription (L : Type) where
  id : SubscriptionId
  listener : L

/-- What became of one event. -/
structure EmitReport where
  /-- The number of listeners that accepted it. -/
  delivered : Nat
  failed : Nat
  deriving DecidableEq

/-- The listeners by event. -/
structure EventBus (L : Type) where
  nextId : SubscriptionId
  /-- The listeners of each event that has any. -/
  byEvent : Table (List (Subscription L))

namespace EventBus

variable {L : Type}

/-- A bus without listeners. -/
def empty : EventBus L := ⟨0, .empty⟩

/-- The listeners of an event, first subscribed first. -/
def listeners (bus : EventBus L) (event : String) : List (Subscription L) :=
  (bus.byEvent.get? event).getD []

/-- Adds a listener behind the others of the event, and says its number. -/
def subscribe (bus : EventBus L) (event : String) (listener : L) : SubscriptionId × EventBus L :=
  (bus.nextId,
    { nextId := bus.nextId + 1
      byEvent := bus.byEvent.insert event (bus.listeners event ++ [⟨bus.nextId, listener⟩]) })

/-- Replaces the listeners of an event; without any, the event is forgotten. -/
def setListeners (bus : EventBus L) (event : String) (list : List (Subscription L)) : EventBus L :=
  { bus with
    byEvent := if list.isEmpty then bus.byEvent.erase event else bus.byEvent.insert event list }

/-- Removes one subscription of an event and says whether it was there. -/
def unsubscribe (bus : EventBus L) (event : String) (id : SubscriptionId) : Bool × EventBus L :=
  let rest := (bus.listeners event).filter fun subscription => subscription.id != id
  if rest.length = (bus.listeners event).length then (false, bus)
  else (true, bus.setListeners event rest)

/-- Drops all listeners of an event. -/
def clear (bus : EventBus L) (event : String) : EventBus L :=
  { bus with byEvent := bus.byEvent.erase event }

/-- The number of listeners of an event. -/
def count (bus : EventBus L) (event : String) : Nat := (bus.listeners event).length

theorem listeners_subscribe (bus : EventBus L) (event other : String) (listener : L) :
    (bus.subscribe event listener).2.listeners other =
      if other = event then bus.listeners event ++ [⟨bus.nextId, listener⟩]
      else bus.listeners other := by
  simp only [subscribe, listeners, Table.get?_insert]
  split <;> simp

theorem nextId_subscribe (bus : EventBus L) (event : String) (listener : L) :
    (bus.subscribe event listener).2.nextId = bus.nextId + 1 := rfl

theorem listeners_clear (bus : EventBus L) (event other : String) :
    (bus.clear event).listeners other = if other = event then [] else bus.listeners other := by
  simp only [clear, listeners, Table.get?_erase]
  split <;> simp

theorem listeners_setListeners (bus : EventBus L) (event other : String)
    (list : List (Subscription L)) :
    (bus.setListeners event list).listeners other =
      if other = event then list else bus.listeners other := by
  cases list with
  | nil =>
      simp only [setListeners, listeners, List.isEmpty_nil, if_true, Table.get?_erase]
      split <;> simp
  | cons first rest =>
      simp only [setListeners, listeners, List.isEmpty_cons, Bool.false_eq_true, if_false,
        Table.get?_insert]
      split <;> simp

end EventBus

end EditorShell
