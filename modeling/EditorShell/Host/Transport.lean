import EditorShell.Host.Slots

/-!
# Hosts

Two hosts that messages can go to.

The *recording host* keeps every message it gets, knows which widgets are alive, and answers
requests for handles by publishing numbers counted from one.  It can be told to fail an operation: a
message of that operation is still recorded, and nothing else happens.

The *line host* writes every message as one line of JSON.  A write error while the message itself is
written loses the message; an error at the line end or at the flush comes after the message.
-/

namespace EditorShell

/-- Why a host did not take a message. -/
inductive HostError where
  | rejected (op : HostOp) (id : NodeId) (reason : String)
  /-- The message could not be written. -/
  | encode (detail : String)
  /-- The line could not be finished. -/
  | io (detail : String)
  deriving DecidableEq

/-- What the host says when it does not accept a message. -/
def HostError.message : HostError → String
  | rejected op id reason => "host rejected " ++ op.name ++ " for " ++ id ++ ": " ++ reason
  | encode detail => "encode error: " ++ detail
  | io detail => "I/O error: " ++ detail

/-- What a recording host knows. -/
structure Recording where
  /-- The messages, oldest first. -/
  calls : List HostMessage
  live : Table Unit
  failing : List HostOp
  /-- Whether handles are published. -/
  publishes : Bool
  lastHandle : Nat

namespace Recording

/-- A recording host that has seen nothing. -/
def fresh (publishes : Bool) : Recording := ⟨[], .empty, [], publishes, 0⟩

/-- Lets the messages of a kind fail from now on. -/
def fail (recording : Recording) (op : HostOp) : Recording :=
  { recording with failing := if recording.failing.contains op then recording.failing
      else op :: recording.failing }

/-- Lets the messages of a kind pass again. -/
def recover (recording : Recording) (op : HostOp) : Recording :=
  { recording with failing := recording.failing.filter fun other => other != op }

/-- Forgets the recorded messages, and nothing else. -/
def clear (recording : Recording) : Recording := { recording with calls := [] }

/-- The operations and targets of the recorded messages; a message without a target shows none. -/
def trace (recording : Recording) : List (String × String) :=
  recording.calls.map fun message => (message.op.name, message.target?.getD "")

/-- Acts on a message that is recorded and does not fail. -/
def perform (recording : Recording) (slots : HandleSlots) : HostMessage → Recording × HandleSlots
  | .mount node => ({ recording with live := recording.live.insert node.id () }, slots)
  | .unmount node => ({ recording with live := recording.live.erase node.id }, slots)
  | .requestHandle id =>
    if recording.live.contains id then
      let number := recording.lastHandle + 1
      ({ recording with lastHandle := number },
        if recording.publishes then slots.publish id ⟨number⟩ else slots)
    else (recording, slots)
  | .update _ | .invoke _ _ => (recording, slots)

/-- The handle that is published when a message is taken, with the widget it is for. -/
def publication? (recording : Recording) : HostMessage → Option (NodeId × WidgetHandle)
  | .requestHandle id =>
    if !recording.failing.contains .requestHandle && recording.live.contains id &&
        recording.publishes then
      some (id, ⟨recording.lastHandle + 1⟩)
    else none
  | .mount _ | .update _ | .unmount _ | .invoke _ _ => none

/-- Records a message and acts on it; a kind that was made to fail is refused. -/
def take (recording : Recording) (slots : HandleSlots) (message : HostMessage) :
    Except HostError Unit × Recording × HandleSlots :=
  let recorded := { recording with calls := recording.calls ++ [message] }
  if recorded.failing.contains message.op then
    (.error (.rejected message.op (message.target?.getD "") "injected failure"), recorded, slots)
  else (.ok (), recorded.perform slots message)

end Recording

/-- Where writing to the output of a line host fails. -/
inductive WireFault where
  | write
  /-- At the line ends. -/
  | newline
  /-- At the flush after a line. -/
  | flush
  deriving DecidableEq

/-- A host that writes lines. -/
structure Wire where
  /-- What was written, newest piece first. -/
  pieces : List String
  fault? : Option WireFault

namespace Wire

/-- A wire on which nothing was written. -/
def fresh : Wire := ⟨[], none⟩

/-- All that was written. -/
def output (wire : Wire) : String := String.join wire.pieces.reverse

/-- Writes a message as a line of its own; a fault can hit before, within or behind it. -/
def take (wire : Wire) (message : HostMessage) : Except HostError Unit × Wire :=
  match wire.fault? with
  | some .write => (.error (.encode "disk full"), wire)
  | some .newline =>
    (.error (.io "disk full"), { wire with pieces := message.line :: wire.pieces })
  | some .flush =>
    (.error (.io "pipe closed"), { wire with pieces := "\n" :: message.line :: wire.pieces })
  | none => (.ok (), { wire with pieces := "\n" :: message.line :: wire.pieces })

end Wire

/-- Which of the two hosts gets the messages. -/
inductive HostKind where
  | recording
  | lines
  deriving DecidableEq

/-- The hosts of a shell, of which one is in use. -/
structure Host where
  kind : HostKind
  recording : Recording
  wire : Wire

namespace Host

/-- The handle that the host publishes for a message. -/
def publication? (host : Host) (message : HostMessage) : Option (NodeId × WidgetHandle) :=
  match host.kind with
  | .recording => host.recording.publication? message
  | .lines => none

/-- A host of a kind that has seen nothing. -/
def fresh (kind : HostKind) (publishes : Bool) : Host := ⟨kind, .fresh publishes, .fresh⟩

/-- Hands a message to the host. -/
def take (host : Host) (slots : HandleSlots) (message : HostMessage) :
    Except HostError Unit × Host × HandleSlots :=
  match host.kind with
  | .recording =>
    let (answer, recording, slots) := host.recording.take slots message
    (answer, { host with recording := recording }, slots)
  | .lines =>
    let (answer, wire) := host.wire.take message
    (answer, { host with wire := wire }, slots)

end Host

end EditorShell
