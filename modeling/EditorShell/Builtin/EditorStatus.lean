import EditorShell.Session.Panels

/-!
# The editor status extension

A readout in the status bar shows the cursor and the language of the current tab.  It follows three
events.  A cursor event whose payload is not a pair of counts is refused and changes nothing.  The
readout outlives a deactivation.
-/

namespace EditorShell.Session

open Json

variable {κ S : Type}

/-- The event that tells where the cursor stands. -/
def cursorEvent : String := "cursorPositionChanged"

/-- The event that tells which tab is shown, and in which language. -/
def tabSelectedEvent : String := "tabSelected"

/-- The event that tells that a tab was closed. -/
def tabClosedEvent : String := "tabClosed"

/-- The id under which the readout stands in the status bar. -/
def readoutId : String := "status::editor"

/-- A copy that has heard nothing yet. -/
def freshReadout : EditorStatusState := ⟨0, 0, "", []⟩

/-- Makes another copy of the extension, which has seen nothing yet. -/
def newEditorStatus : Act κ S InstanceId := do
  let copy ← .read fun session => session.builtins.editorStatus.length
  .change fun session =>
    { session with
      builtins :=
        { session.builtins with
          editorStatus := session.builtins.editorStatus ++ [freshReadout] } }
  pure copy

/-- The state of a copy. -/
def editorStatus (session : Session κ S) (copy : InstanceId) : EditorStatusState :=
  (session.builtins.editorStatus[copy]?).getD freshReadout

/-- Changes the state of a copy. -/
def changeEditorStatus (copy : InstanceId) (f : EditorStatusState → EditorStatusState) :
    Act κ S Unit :=
  .change fun session =>
    { session with
      builtins :=
        { session.builtins with
          editorStatus := session.builtins.editorStatus.modify copy f } }

/-- Listens to an event and remembers the subscription. -/
def followEvent (copy : InstanceId) (event : String) (listener : Listener κ) : Act κ S Unit := do
  let id ← subscribe event listener
  changeEditorStatus copy fun state =>
    { state with subscriptions := state.subscriptions ++ [(event, id)] }

/-- Puts the readout into the status bar and follows the events. -/
def activateEditorStatus (copy : InstanceId) : Act κ S (Except ExtensionError Unit) := do
  registerStatus readoutId (.readout copy)
  followEvent copy cursorEvent (.cursor copy)
  followEvent copy tabSelectedEvent (.language copy)
  followEvent copy tabClosedEvent (.language copy)
  pure (.ok ())

/-- Ends subscriptions in order. -/
def unsubscribeEach : List (String × SubscriptionId) → Act κ S Unit
  | [] => pure ()
  | (event, id) :: rest => do
    let _ ← unsubscribe event id
    unsubscribeEach rest

/-- Stops following the events and removes the readout. -/
def deactivateEditorStatus (copy : InstanceId) : Act κ S (Except ExtensionError Unit) := do
  let subscriptions ← .read fun session => (session.editorStatus copy).subscriptions
  changeEditorStatus copy fun state => { state with subscriptions := [] }
  unsubscribeEach subscriptions
  let _ ← unregisterStatus readoutId
  pure (.ok ())

/-- The pair of counts that a payload is. -/
def position? : Value → Option (Nat × Nat)
  | .array [line, column] => do
    let line ← line.asWord?
    let column ← column.asWord?
    some (line, column)
  | _ => none

/-- Takes over the position of a payload and asks for a new rendering; any other payload is refused.
-/
def followCursor (copy : InstanceId) (payload : Value) : Act κ S (Except HandlerError Unit) := do
  match position? payload with
  | none => pure (.error ⟨"invalid payload"⟩)
  | some (line, column) =>
    changeEditorStatus copy fun state => { state with line := line, column := column }
    touch
    pure (.ok ())

/-- Follows the language of the current tab; a payload without one empties it. -/
def followLanguage (copy : InstanceId) (payload : Value) : Act κ S (Except HandlerError Unit) := do
  let language := ((payload.member? "language").bind Value.asText?).getD ""
  changeEditorStatus copy fun state => { state with language := language }
  touch
  pure (.ok ())

/-- A count from zero as it is shown, which is from one on.  The sum is one of machine words: it
comes around to zero after the largest of them.  A build that checks its sums panics there instead.
-/
def shownCount (count : Nat) : String := Decimal.text ((count + 1) % UInt64.size)

theorem shownCount_eq {count : Nat} (hcount : count + 1 < UInt64.size) :
    shownCount count = Decimal.text (count + 1) := by
  unfold shownCount
  rw [Nat.mod_eq_of_lt hcount]

/-- The readout of a state.  Lines and columns are shown counting from one. -/
def readout {ι : Type} (state : EditorStatusState) : Node ι :=
  (((Node.ofKind .view).withId readoutId).withStyle "flexDirection" (.string "row")).withChildren
    [((Node.ofText ("Line: " ++ shownCount state.line ++ " Column: " ++
        shownCount state.column)).withId "status::cursor").withStyle "minWidth" (.ofNat 120),
      ((Node.ofText state.language).withId "status::language").withStyle "minWidth" (.ofNat 80)]

/-- Renders the readout of a copy from its state. -/
def renderReadout (copy : InstanceId) : Act κ S (Node (Handler κ)) := do
  let state ← .read fun session => session.editorStatus copy
  pure (readout state)

end EditorShell.Session
