import EditorShell.Session.Act

/-!
# Delivering events

An event goes to the listeners that its name has when it begins to be delivered, in the order in
which they subscribed.  What a listener changes about subscriptions counts for the next event.  A
listener that fails or panics is counted and does not stop the others.
-/

namespace EditorShell.Session

open Json

variable {κ S : Type}

/-- Subscribes to an event and says the number of the subscription. -/
def subscribe (event : String) (listener : Listener κ) : Act κ S SubscriptionId := do
  let id ← .read fun session => session.events.nextId
  .change fun session => { session with events := (session.events.subscribe event listener).2 }
  pure id

/-- Ends a subscription and says whether there was one. -/
def unsubscribe (event : String) (id : SubscriptionId) : Act κ S Bool := do
  let found ← .read fun session => (session.events.unsubscribe event id).1
  .change fun session => { session with events := (session.events.unsubscribe event id).2 }
  pure found

/-- Ends all subscriptions to an event. -/
def clearEvent (event : String) : Act κ S Unit :=
  .change fun session => { session with events := session.events.clear event }

/-- Counts a listener by how it took the event. -/
def tally (report : EmitReport) : Guarded (Except HandlerError Unit) → EmitReport
  | .ok (.ok ()) => { report with delivered := report.delivered + 1 }
  | .ok (.error _) | .error _ => { report with failed := report.failed + 1 }

/-- Delivers an event to a list of listeners, counting on from `report`. -/
def deliver (event : String) (payload : Value) (report : EmitReport) :
    List (Subscription (Listener κ)) → Act κ S EmitReport
  | [] => pure report
  | subscription :: rest => do
    let outcome ← Act.call (.listener event subscription payload)
    deliver event payload (tally report outcome) rest

/-- Delivers an event to those that are subscribed when it begins, and says how that went. -/
def emit (event : String) (payload : Value) : Act κ S EmitReport := do
  -- Fixed here: who subscribes or leaves while it is delivered changes nothing for this event.
  let listeners ← .read fun session => session.events.listeners event
  .note (.emitBegan event payload)
  let report ← deliver event payload ⟨0, 0⟩ listeners
  .note (.emitEnded event report)
  pure report

end EditorShell.Session
