import EditorShell.Session.Tasks

/-!
# Keeping the host in step

Every message to the host goes through `callHost`, which counts it and absorbs every failure.  A
host that calls back into the bridge while it is acting on a message finds it closed: such a nested
message is refused.

A handle takes three steps.  A request goes to the host at once; the host leaves the handle in a
slot at any time; a job in the next pass picks it up.  An update asks once for each mount, whether
the host ever answers or not.

`render` walks a tree, mounts what is new with its parent before its children, updates every node,
and then unmounts what the walk did not meet, children before parents.
-/

namespace EditorShell.Session

open Json

variable {κ S : Type}

/-- Changes what the bridge knows. -/
def changeBridge (f : Bridge (Handler κ) → Bridge (Handler κ)) : Act κ S Unit :=
  .change fun session => { session with bridge := f session.bridge }

/-- Changes the slots in which handles are published. -/
def changeSlots (f : HandleSlots → HandleSlots) : Act κ S Unit :=
  .change fun session => { session with slots := f session.slots }

/-- Takes the handle that waits for a widget out of its slot. -/
def takeHandle (id : NodeId) : Act κ S (Option WidgetHandle) := do
  let handle? ← .read fun session => session.slots.peek? id
  changeSlots fun slots => slots.discard id
  pure handle?

/-! ## Messages -/

/-- The entry for the handle that the host leaves when it takes a message, if it leaves one. -/
def publicationEntry (host : Host) (message : HostMessage) : List (Entry κ) :=
  match host.publication? message with
  | some (id, handle) => [.published id handle]
  | none => []

/-- Lets the host take a message, and notes the handle that it publishes for it. -/
def letHostAct (message : HostMessage) : Act κ S (Except HostError Unit) := do
  let answer ← .read fun session => (session.host.take session.slots message).1
  .change fun session =>
    { session with
      host := (session.host.take session.slots message).2.1
      slots := (session.host.take session.slots message).2.2
      journal := publicationEntry session.host message ++ session.journal }
  pure answer

/-- Hands a message to the host, past the bridge.  The host may refuse or panic before it acts. -/
def sendDirectly (message : HostMessage) : Act κ S (Guarded (Except HostError Unit)) := do
  match ← Act.call (.host message) with
  | .ok (.ok ()) =>
    let answer ← letHostAct message
    pure (.ok answer)
  | .ok (.error refusal) => pure (.ok (.error refusal))
  | .error panic => pure (.error panic)

/-- Changes the recording host. -/
def changeRecording (f : Recording → Recording) : Act κ S Unit :=
  .change fun session =>
    { session with host := { session.host with recording := f session.host.recording } }

/-- Sets the fault of the line host, or takes it away. -/
def setWireFault (fault? : Option WireFault) : Act κ S Unit :=
  .change fun session =>
    { session with
      host := { session.host with wire := { session.host.wire with fault? := fault? } } }

/-- Notes whether the host is acting on a message. -/
def setHostBusy (busy : Bool) : Act κ S Unit :=
  .change fun session => { session with hostBusy := busy }

/-- Hands a message to the host and says whether it accepted it; a panic is a refusal. -/
def attempt (message : HostMessage) : Act κ S Bool := do
  match ← sendDirectly message with
  | .ok (.ok ()) => pure true
  | .ok (.error _) | .error _ => pure false

/-- Lets the host act on a message, unless it is acting on another one, and says whether it accepted
the message. -/
def offer (message : HostMessage) : Act κ S Bool := do
  -- The host takes one message at a time: what it sends from inside another one is refused.
  if ← .read Session.hostBusy then pure false
  else
    setHostBusy true
    let accepted ← attempt message
    setHostBusy false
    pure accepted

/-- Counts a refusal and notes the message with its answer. -/
def conclude (message : HostMessage) (accepted : Bool) : Act κ S Unit :=
  .change fun session =>
    { session with
      bridge := session.bridge.countAnswer accepted
      journal := .sent message accepted :: session.journal }

/-- Sends a message and says whether it was accepted. -/
def callHost (message : HostMessage) : Act κ S Bool := do
  changeBridge fun bridge => bridge.countCall message.op
  let accepted ← offer message
  conclude message accepted
  pure accepted

/-! ## Handles -/

/-- Asks the host for a handle; the next pass picks it up. -/
def requestHandle (id : NodeId) : Act κ S Bool := do
  if ← callHost (.requestHandle id) then
    -- One job for each widget: it replaces the job of a request that is under way.
    let task ← scheduleNext (.resolveHandle id)
    let previous? ← .read fun session => session.bridge.pending.get? id
    changeBridge fun bridge => { bridge with pending := bridge.pending.insert id task }
    cancelTask? previous? .superseded
    pure true
  else pure false

/-- Picks up the handle that was requested for a widget, if the host has published one. -/
def resolveRequested (id : NodeId) : Act κ S Unit := do
  let published? ← takeHandle id
  changeBridge fun bridge => bridge.settle id published?

/-- Hands the handle of a widget to a receiver in the next pass.  If the widget is mounted, and has
no handle and no request under way, the host is asked first. -/
def resolveHandle (id : NodeId) (receiver : Receiver κ) : Act κ S Unit := do
  let bridge ← .read Session.bridge
  .when (bridge.isMounted id && !bridge.handles.contains id && !bridge.pending.contains id) do
    let _ ← requestHandle id
  -- Scheduled behind the request, so its turn comes when the handle has been picked up.
  let _ ← scheduleNext (.deliverHandle id receiver)

/-- The handle that a receiver gets. -/
def deliverable? (session : Session κ S) (id : NodeId) : Option WidgetHandle :=
  if session.bridge.isMounted id then session.bridge.handles.get? id else none

/-- Tells a widget to do something; without a handle nothing is sent. -/
def invoke (id : NodeId) (command : WidgetCommand) : Act κ S Bool := do
  match ← .read fun session => session.bridge.handles.get? id with
  | none => pure false
  | some handle => callHost (.invoke handle command)

/-! ## Single widgets -/

/-- Mounts a node; one that is mounted already is left alone. -/
def mount (id : NodeId) (node : Node (Handler κ)) (placement : Placement) : Act κ S Bool := do
  if ← .read fun session => session.bridge.isMounted id then pure false
  else
    -- A handle that an earlier widget of this id has left must not pass for one of the new widget.
    changeSlots fun slots => slots.discard id
    .note (.declared id node)
    if ← callHost (.mount (.ofNode node id (some placement))) then
      changeBridge fun bridge => bridge.recordMount id node.kind placement node.handlers
      pure true
    else pure false

/-- Asks for the handle of a mounted widget, unless it has one, one is under way, or an update has
asked before. -/
def askOnce (id : NodeId) : Act κ S Unit := do
  let wanted ← .read fun session => session.bridge.wantsHandle id
  .when wanted do
    let asked ← requestHandle id
    .when asked (changeBridge fun bridge =>
      { bridge with requested := bridge.requested.insert id () })

/-- Sends the attributes of a node again, at its recorded place. -/
def updateInPlace (id : NodeId) (node : Node (Handler κ)) : Act κ S Bool := do
  let place? ← .read fun session => (session.bridge.mounted.get? id).map MountRecord.placement
  .note (.declared id node)
  let accepted ← callHost (.update (.ofNode node id place?))
  -- For a widget that is not mounted the message is sent all the same, and nothing is recorded.
  .when place?.isSome do
    .when accepted (changeBridge fun bridge =>
      { bridge with handlers := bridge.handlers.insert id node.handlers })
    askOnce id
  pure accepted

/-- Updates a node that may have moved. -/
def updateAt (id : NodeId) (node : Node (Handler κ)) (placement : Placement) : Act κ S Bool := do
  changeBridge fun bridge => bridge.place id placement
  updateInPlace id node

/-- The message that unmounts a widget, at its latest place. -/
def unmountMessage (id : NodeId) (record : MountRecord) : HostMessage :=
  .unmount ⟨id, record.kind, record.placement.parent, some record.placement.order, .empty, .empty⟩

/-- Unmounts a widget and forgets everything about it, whether the host accepts it or not. -/
def unmount (id : NodeId) : Act κ S Bool := do
  let record? ← .read fun session => session.bridge.mounted.get? id
  let pending? ← .read fun session => session.bridge.pending.get? id
  .when record?.isSome (.note (.withdrawn id))
  -- It is forgotten first, so the host finds it gone while it acts on the message.
  changeBridge fun bridge => bridge.evict id
  cancelTask? pending? .targetUnmounted
  changeSlots fun slots => slots.discard id
  match record? with
  | none => pure false
  | some record => callHost (unmountMessage id record)

/-- Unmounts widgets in order. -/
def unmountAll : List NodeId → Act κ S Unit
  | [] => pure ()
  | id :: rest => do
    let _ ← unmount id
    unmountAll rest

/-- Unmounts a widget and everything below it, deepest first, and says which. -/
def unmountSubtree (id : NodeId) : Act κ S (List NodeId) := do
  -- Fixed before the first one goes, since the tree is read off the mounted widgets.
  let doomed ← .read fun session => session.bridge.subtree id
  unmountAll doomed
  pure doomed

/-! ## Trees -/

/-- How far a walk over a tree has come. -/
structure Walk where
  seen : Table Unit
  /-- The ids mounted, latest first. -/
  mounted : List NodeId
  updated : Nat
  /-- The number of nodes skipped because their id had been met. -/
  duplicates : Nat

/-- The walk before the first node. -/
def Walk.start : Walk := ⟨.empty, [], 0, 0⟩

/-- The place of the child of a parent at an index; without a parent it is that of a root. -/
def placeUnder (parent : Option NodeId) (index : Nat) : Placement :=
  match parent with
  | some parent => .childOf parent index
  | none => .root

/-- Makes sure that a node is mounted and says whether it is; a new id is noted in the walk. -/
def ensureMounted (id : NodeId) (node : Node (Handler κ)) (placement : Placement) (walk : Walk) :
    Act κ S (Bool × Walk) := do
  if ← .read fun session => session.bridge.isMounted id then pure (true, walk)
  else if ← mount id node placement then
    pure (true, { walk with mounted := id :: walk.mounted })
  else pure (false, walk)

/-- Visits one node.  Gives its id if the walk goes on to its children. -/
def visit (parent : Option NodeId) (index : Nat) (node : Node (Handler κ)) (walk : Walk) :
    Act κ S (Option NodeId × Walk) := do
  let id := node.effectiveId parent index
  if walk.seen.contains id then pure (none, { walk with duplicates := walk.duplicates + 1 })
  else
    let placement := placeUnder parent index
    let walk := { walk with seen := walk.seen.insert id () }
    let (mounted, walk) ← ensureMounted id node placement walk
    -- Below a widget that could not be mounted there is nothing to attach children to.
    if mounted then
      let _ ← updateAt id node placement
      pure (some id, { walk with updated := walk.updated + 1 })
    else pure (none, walk)

mutual

/-- Walks over a tree, each node before its children. -/
def walkTree (parent : Option NodeId) (index : Nat) (walk : Walk) :
    Node (Handler κ) → Act κ S Walk
  -- The node is taken apart, since the recursion is on its children.
  | ⟨id, kind, style, props, handlers, children, data⟩ => do
    let (entered?, walk) ← visit parent index
      ⟨id, kind, style, props, handlers, children, data⟩ walk
    match entered? with
    | some id => walkChildren id 0 walk children
    | none => pure walk

/-- Walks over the children of a node, from number `index` on. -/
def walkChildren (parent : NodeId) (index : Nat) (walk : Walk) :
    List (Node (Handler κ)) → Act κ S Walk
  | [] => pure walk
  | child :: children => do
    let walk ← walkTree (some parent) index walk child
    walkChildren parent (index + 1) walk children

end

/-- Brings the host in line with a tree. -/
def render (root : Node (Handler κ)) : Act κ S RenderReport := do
  let walk ← walkTree none 0 .start root
  let vanished ← .read fun session =>
    session.bridge.unmountOrder fun id => !walk.seen.contains id
  unmountAll vanished
  pure ⟨walk.mounted.reverse, walk.updated, vanished, walk.duplicates⟩

/-! ## Interactions -/

/-- Passes an interaction to the handler of a widget and says whether the widget is mounted. -/
def dispatchEvent (event : UiEvent) : Act κ S Bool := do
  let bridge ← .read Session.bridge
  if !bridge.isMounted event.node then pure false
  else
    match (bridge.handlers.get? event.node).bind fun handlers => handlers event.kind with
    | none => pure true
    | some handler =>
      match ← Act.call (.interaction handler event) with
      | .ok () => pure true
      | .error _ =>
        changeBridge Bridge.countHandlerFailure
        pure true

end EditorShell.Session
