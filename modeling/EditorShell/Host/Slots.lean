import EditorShell.Host.Message

/-!
# Handle slots

A host answers a request for a handle by leaving the handle in a slot, and the bridge picks it up
once.  The name of a slot is made from the id of the node; ids that differ only in colons and
underscores share a slot.
-/

namespace EditorShell

/-- The slot into which a host publishes the handle of a widget; colons cannot stand in it. -/
def slotName (id : NodeId) : String :=
  "$widgets_" ++ String.ofList (id.toList.map fun c => if c = ':' then '_' else c)

/-- The handles that wait to be picked up. -/
structure HandleSlots where
  slots : Table WidgetHandle

namespace HandleSlots

/-- No slot holds a handle. -/
def empty : HandleSlots := ⟨.empty⟩

/-- Leaves a handle for a node, replacing one that was not picked up. -/
def publish (slots : HandleSlots) (id : NodeId) (handle : WidgetHandle) : HandleSlots :=
  ⟨slots.slots.insert (slotName id) handle⟩

/-- The handle that waits for a node. -/
def peek? (slots : HandleSlots) (id : NodeId) : Option WidgetHandle :=
  slots.slots.get? (slotName id)

/-- Empties the slot of a widget. -/
def discard (slots : HandleSlots) (id : NodeId) : HandleSlots := ⟨slots.slots.erase (slotName id)⟩

theorem get?_publish (slots : HandleSlots) (id : NodeId) (handle : WidgetHandle) (name : String) :
    (slots.publish id handle).slots.get? name =
      if name = slotName id then some handle else slots.slots.get? name :=
  Table.get?_insert _ _ _ _

theorem get?_discard (slots : HandleSlots) (id : NodeId) (name : String) :
    (slots.discard id).slots.get? name =
      if name = slotName id then none else slots.slots.get? name :=
  Table.get?_erase _ _ _

end HandleSlots

end EditorShell
