import EditorShell.Json.Printer
import EditorShell.Widget.Node

/-!
# Messages to the host

A host sees one flat node at a time, never a tree and never a handler.  `HostNode.ofNode` leaves out
whatever a message must not carry: children, data, handlers, and every attribute whose name is a
field of the message or a callback.

A message is written as one object whose member `op` comes first and names the operation.
-/

namespace EditorShell

open Json

/-- A host's reference to a live widget. -/
structure WidgetHandle where
  number : Nat
  deriving DecidableEq

namespace WidgetHandle

/-- How a handle reads in a message. -/
def text (handle : WidgetHandle) : String := "widget#" ++ Decimal.text handle.number

/-- Reads a handle from its number. -/
def decoder : Decoder WidgetHandle := Decoder.word.map WidgetHandle.mk

/-- A handle is written as its number. -/
def toJson (handle : WidgetHandle) : Value := .ofNat handle.number

end WidgetHandle

/-- Something a live widget can be told to do. -/
inductive WidgetCommand where
  | focus
  | blur
  | selectAll
  | setText (text : String)
  deriving DecidableEq

namespace WidgetCommand

/-- The name of a command without its argument. -/
inductive Name where
  | focus
  | blur
  | selectAll
  | setText

/-- The names of the commands. -/
def Name.all : List Name := [focus, blur, selectAll, setText]

/-- The command name that a text is. -/
def Name.ofName? (name : String) : Option Name :=
  if name = "focus" then some focus
  else if name = "blur" then some blur
  else if name = "selectAll" then some selectAll
  else if name = "setText" then some setText
  else none

/-- A command without an argument takes `null` for one. -/
def plain (command : WidgetCommand) : Document → Option WidgetCommand
  | .null => some command
  | _ => none

/-- The command of a name with its argument, if the argument fits. -/
def Name.withArg (name : Name) (arg : Document) : Option WidgetCommand :=
  match name with
  | focus => plain .focus arg
  | blur => plain .blur arg
  | selectAll => plain .selectAll arg
  | setText =>
    match arg with
    | .string text? => text?.map .setText
    | _ => none

/-- Reads a command: an object with the name and perhaps an argument, or an array of both.  In the
array the name stands bare. -/
def decoder (reading : Reading) : Decoder WidgetCommand := fun room document =>
  if room = 0 then none
  else
    match document with
    | .object members => do
      let fields ← fieldsOfMembers? ["command", "arg"] members
      match fields with
      | [.given name, .given arg] => do
        let name ← Decoder.choice reading Name.ofName? (room - 1) name
        name.withArg arg
      | [.given name, _] => do
        let name ← Decoder.choice reading Name.ofName? (room - 1) name
        name.withArg .null
      | _ => none
    | .array [name, arg] => do
      let name ← Decoder.bareName reading Name.all Name.ofName? (room - 1) name
      name.withArg arg
    | _ => none

/-- A command is written by its name, with its argument if it has one. -/
def toJson : WidgetCommand → Value
  | focus => .object [("command", .string "focus")]
  | blur => .object [("command", .string "blur")]
  | selectAll => .object [("command", .string "selectAll")]
  | setText text => .object [("command", .string "setText"), ("arg", .string text)]

end WidgetCommand

/-- A widget as the host is told of it. -/
structure HostNode where
  id : NodeId
  kind : WidgetKind
  parent : Option NodeId
  order : Option Nat
  style : Table Value
  props : Table Value
  deriving DecidableEq

namespace HostNode

/-- The fields that a host node has besides its attributes. -/
def fieldNames : List String := ["id", "type", "parent", "order", "style"]

/-- The attributes that a host never sees. -/
def withheldProps : List String :=
  ["children", "data"] ++ fieldNames ++ Interaction.all.map Interaction.callbackName

/-- The flat form of a node under an id. -/
def ofNode {ι : Type} (node : Node ι) (id : NodeId) (placement : Option Placement) : HostNode where
  id := id
  kind := node.kind
  parent := placement.bind Placement.parent
  order := placement.map Placement.order
  style := node.style
  props := node.props.filter fun name _ => !withheldProps.contains name

/-- Reads a host node; every member that is not a field is an attribute. -/
def decoder (reading : Reading) : Decoder HostNode := fun room document =>
  match document with
  | .object members => do
    if room = 0 then none
    let fields ← fieldsOfMembers? fieldNames members
    match fields with
    | [id, kind, parent, order, style] => do
      let id ← id.required .text (room - 1)
      let kind ← kind.required (WidgetKind.decoder reading) (room - 1)
      let parent ← parent.orDefault (.nullable .text) none (room - 1)
      let order ← order.orDefault (.nullable .word) none (room - 1)
      let style ← style.orDefault .table .empty (room - 1)
      let isProp := fun (member : Option String × Document) =>
        !(member.1.any fun name => fieldNames.contains name)
      let props ← Document.memberValues? (room - 1) (members.filter isProp)
      some ⟨id, kind, parent, order, style, .ofList props⟩
    | _ => none
  | _ => none

/-- Writes a host node; what is missing or empty is left out. -/
def toJson (node : HostNode) : Value :=
  .object <|
    [("id", .string node.id), ("type", node.kind.toJson)] ++
    (node.parent.map fun parent => ("parent", Value.string parent)).toList ++
    (node.order.map fun order => ("order", Value.ofNat order)).toList ++
    (if node.style.isEmpty then [] else [("style", .ofTable node.style)]) ++
    node.props.entries

end HostNode

/-- What the host is asked to do. -/
inductive HostMessage where
  | mount (node : HostNode)
  /-- Sends the attributes of a widget again. -/
  | update (node : HostNode)
  | unmount (node : HostNode)
  | requestHandle (id : NodeId)
  | invoke (handle : WidgetHandle) (command : WidgetCommand)
  deriving DecidableEq

/-- The kinds of messages. -/
inductive HostOp where
  | mount
  | update
  | unmount
  | requestHandle
  | invoke
  deriving DecidableEq

namespace HostOp

/-- The name of a kind of message on the wire. -/
def name : HostOp → String
  | mount => "mount"
  | update => "update"
  | unmount => "unmount"
  | requestHandle => "requestHandle"
  | invoke => "invoke"

/-- The kinds of messages. -/
def all : List HostOp := [mount, update, unmount, requestHandle, invoke]

/-- The kind of message that a text names. -/
def ofName? (wanted : String) : Option HostOp := all.find? fun op => op.name == wanted

theorem ofName?_name (op : HostOp) : ofName? op.name = some op := by cases op <;> rfl

end HostOp

namespace HostMessage

/-- The kind of a message. -/
def op : HostMessage → HostOp
  | mount _ => .mount
  | update _ => .update
  | unmount _ => .unmount
  | requestHandle _ => .requestHandle
  | invoke _ _ => .invoke

/-- The id that a message is about; none for a command, which goes to a handle. -/
def target? : HostMessage → Option NodeId
  | mount node | update node | unmount node => some node.id
  | requestHandle id => some id
  | invoke _ _ => none

/-- The fields of a message besides its kind. -/
def fieldNames : HostOp → List String
  | .mount | .update | .unmount => ["node"]
  | .requestHandle => ["id"]
  | .invoke => ["handle", "command"]

/-- The message of an operation and its fields, which are buffered. -/
def ofFields (op : HostOp) (fields : List Field) (room : Nat) : Option HostMessage :=
  match op, fields with
  | .mount, [node] => (node.required (HostNode.decoder .buffered) room).map mount
  | .update, [node] => (node.required (HostNode.decoder .buffered) room).map update
  | .unmount, [node] => (node.required (HostNode.decoder .buffered) room).map unmount
  | .requestHandle, [id] => (id.required .text room).map requestHandle
  | .invoke, [handle, command] => do
    let handle ← handle.required WidgetHandle.decoder room
    let command ← command.required (WidgetCommand.decoder .buffered) room
    some (invoke handle command)
  | _, _ => none

/-- Reads a message.  The operation may stand anywhere among the members, so all of them are read as
values first. -/
def decoder : Decoder HostMessage := fun room document => do
  let _ ← document.value? room
  match document with
  | .object members => do
    let fields ← fieldsOfMembers? ["op"] members
    match fields with
    | [.given (.string (some name))] => do
      let op ← HostOp.ofName? name
      let fields ← fieldsOfMembers? (fieldNames op)
        (members.filter fun member => member.1 ≠ some "op")
      ofFields op fields (room - 1)
    | _ => none
  | .array (.string (some name) :: items) => do
    let op ← HostOp.ofName? name
    let fields ← fieldsOfItems? (fieldNames op) items
    ofFields op fields (room - 1)
  | _ => none

/-- Writes a message, the operation first. -/
def toJson (message : HostMessage) : Value :=
  .object <| ("op", .string message.op.name) ::
    match message with
    | mount node | update node | unmount node => [("node", node.toJson)]
    | requestHandle id => [("id", .string id)]
    | invoke handle command => [("handle", handle.toJson), ("command", command.toJson)]

/-- The message as one line of text. -/
def line (message : HostMessage) : String := message.toJson.compactText

end HostMessage

end EditorShell
