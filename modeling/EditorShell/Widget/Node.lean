import EditorShell.Widget.Kind

/-!
# Declarative nodes

A node describes one widget and, through its children, a tree of them.  Components build nodes anew
for every render; only the id says which widget a node is.  A node without an id of its own gets one
from its place: its parent's id, its index and its kind.
-/

namespace EditorShell

open Json

/-- One node of a declared tree; `ι` is the type of the handlers bound to interactions. -/
structure Node (ι : Type) where
  /-- The id, if the node has one of its own. -/
  id : Option NodeId
  kind : WidgetKind
  style : Table Value
  props : Table Value
  handlers : Interaction → Option ι
  children : List (Node ι)
  /-- Anything a component keeps with the node; a host never sees it. -/
  data : Option Value

namespace Node

variable {ι : Type}

/-- A node of a kind with nothing set. -/
def ofKind (kind : WidgetKind) : Node ι where
  id := none
  kind := kind
  style := .empty
  props := .empty
  handlers := fun _ => none
  children := []
  data := none

instance : Inhabited (Node ι) := ⟨ofKind .view⟩

/-- A node that shows a text. -/
def ofText (text : String) : Node ι :=
  { ofKind .text with props := Table.empty.insert "text" (.string text) }

/-- The node with an id of its own. -/
def withId (node : Node ι) (id : NodeId) : Node ι := { node with id := some id }

/-- The node with an attribute of its style set. -/
def withStyle (node : Node ι) (name : String) (value : Value) : Node ι :=
  { node with style := node.style.insert name value }

/-- The node with a property set. -/
def withProp (node : Node ι) (name : String) (value : Value) : Node ι :=
  { node with props := node.props.insert name value }

/-- The node with a handler for an interaction. -/
def withHandler (node : Node ι) (kind : Interaction) (handler : ι) : Node ι :=
  { node with handlers := fun other => if other = kind then some handler else node.handlers other }

/-- The node with children added at the end. -/
def withChildren (node : Node ι) (children : List (Node ι)) : Node ι :=
  { node with children := node.children ++ children }

/-- The id that the `index`-th child of `parent` has by its place. -/
def childId (parent : NodeId) (index : Nat) (kind : String) : NodeId :=
  parent ++ "/" ++ Decimal.text index ++ ":" ++ kind

/-- The id of a node as child `index` of `parent`, or as a root. -/
def effectiveId (node : Node ι) (parent : Option NodeId) (index : Nat) : NodeId :=
  match node.id, parent with
  | some id, _ => id
  | none, some parent => childId parent index node.kind.name
  | none, none => node.kind.name ++ ":" ++ Decimal.text index

/-- The interactions for which the node has handlers. -/
def boundInteractions (node : Node ι) : List Interaction :=
  Interaction.all.filter fun kind => (node.handlers kind).isSome

/-- The text of a property, if it is one. -/
def propText? (node : Node ι) (name : String) : Option String :=
  (node.props.get? name).bind Value.asText?

mutual

/-- The first node with this id of its own, each node before its children. -/
def find? (wanted : NodeId) (node : Node ι) : Option (Node ι) :=
  match node with
  | ⟨id, kind, style, props, handlers, children, data⟩ =>
    if id = some wanted then some ⟨id, kind, style, props, handlers, children, data⟩
    else findIn? wanted children

/-- The first node with this id of its own among some nodes and what is below them. -/
def findIn? (wanted : NodeId) : List (Node ι) → Option (Node ι)
  | [] => none
  | node :: nodes =>
    match find? wanted node with
    | some found => some found
    | none => findIn? wanted nodes

end

end Node

/-- Where a node sits among the mounted ones. -/
structure Placement where
  /-- The id of the parent; none for a root. -/
  parent : Option NodeId
  order : Nat
  deriving DecidableEq

namespace Placement

/-- The place of a root. -/
def root : Placement := ⟨none, 0⟩

/-- The place of a child of a parent. -/
def childOf (parent : NodeId) (order : Nat) : Placement := ⟨some parent, order⟩

/-- Reads a placement from the record of its fields. -/
def decoder : Decoder Placement :=
  .record ["parent", "order"] fun fields room =>
    match fields with
    | [parent, order] => do
      let parent ← parent.optional .text room
      let order ← order.required .word room
      some ⟨parent, order⟩
    | _ => none

/-- A placement is written as the record of its fields. -/
def toJson (placement : Placement) : Value :=
  .object [("parent", (placement.parent.map Value.string).getD .null),
    ("order", .ofNat placement.order)]

end Placement

end EditorShell
