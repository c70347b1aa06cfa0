import EditorShell.Session.Events

/-!
# Panels in a session

Registering, replacing and removing a component moves the version, and so does a change of the
current panel.  `compose` renders every registered component, whichever panel is current; a
component that panics leaves an empty view.  The id under which a component is registered becomes
the id of its node.
-/

namespace EditorShell.Session

open Json

variable {κ S : Type}

/-- Changes what the panels and the status bar show. -/
def changePanels (f : PanelHost κ → PanelHost κ) : Act κ S Unit :=
  .change fun session => { session with panelHost := f session.panelHost }

/-- Asks for a new rendering. -/
def touch : Act κ S Unit := do
  changePanels fun host => { host with ui := host.ui.touch }
  .note .moved

/-! ## Registration -/

/-- Registers a panel under an id, in place of another one of this id. -/
def registerPanel (id : String) (component : Component κ) : Act κ S Unit := do
  changePanels fun host => { host with panels := (host.panels.insert id component).2 }
  touch

/-- Removes a panel and says whether it was there. -/
def unregisterPanel (id : String) : Act κ S Bool := do
  let found ← .read fun session => session.panelHost.panels.contains id
  .when found do
    changePanels fun host => { host with panels := (host.panels.remove id).2 }
    touch
  pure found

/-- Registers a component of the status bar under an id, in place of another one of this id. -/
def registerStatus (id : String) (component : Component κ) : Act κ S Unit := do
  changePanels fun host => { host with status := (host.status.insert id component).2 }
  touch

/-- Removes a component of the status bar and says whether it was there. -/
def unregisterStatus (id : String) : Act κ S Bool := do
  let found ← .read fun session => session.panelHost.status.contains id
  .when found do
    changePanels fun host => { host with status := (host.status.remove id).2 }
    touch
  pure found

/-! ## The current panel -/

/-- Makes a panel the current one and says whether another one was. -/
def setCurrentPanel (panel : String) : Act κ S Bool := do
  let changed ← .read fun session => (session.panelHost.ui.setCurrentPanel panel).1
  changePanels fun host => { host with ui := (host.ui.setCurrentPanel panel).2 }
  .when changed (.note .moved)
  pure changed

/-- Asks all that listen to show a panel; the empty text hides every panel. -/
def showPanel (panel : String) : Act κ S EmitReport := emit showPanelEvent (.string panel)

/-- Shows the panel that a payload names; any other payload is refused. -/
def takeShown (payload : Value) : Act κ S (Except HandlerError Unit) :=
  match payload.asText? with
  | none => pure (.error ⟨"showPanel payload must be a panel id string"⟩)
  | some panel => do
    let _ ← setCurrentPanel panel
    pure (.ok ())

/-! ## The composed tree -/

/-- Renders a component under its id; one that panics leaves an empty view there. -/
def renderComponent (context : RenderContext) (id : String) (component : Component κ) :
    Act κ S (Node (Handler κ)) := do
  match ← Act.call (.component id component context) with
  | .ok node => pure (node.withId id)
  | .error _ => pure ((Node.ofKind .view).withId id)

/-- Renders components in the order in which they stand. -/
def renderComponents (context : RenderContext) :
    List (String × Component κ) → Act κ S (List (Node (Handler κ)))
  | [] => pure []
  | (id, component) :: rest => do
    let node ← renderComponent context id component
    let nodes ← renderComponents context rest
    pure (node :: nodes)

/-- The stack of all panels, which shows the current one. -/
def panelStack (context : RenderContext) (panels : List (Node (Handler κ))) : Node (Handler κ) :=
  ((((Node.ofKind .stackedView).withId "panels").withProp "current"
    (.string context.currentPanel)).withStyle "visible"
    (.bool !context.currentPanel.isEmpty)).withChildren panels

/-- The bar of all that is shown of the status. -/
def statusBar (status : List (Node (Handler κ))) : Node (Handler κ) :=
  ((Node.ofKind .statusBar).withId "statusBar").withChildren status

/-- The whole tree that is rendered. -/
def shellTree (context : RenderContext) (panels status : List (Node (Handler κ))) :
    Node (Handler κ) :=
  ((Node.ofKind .view).withId "shell::root").withChildren
    [panelStack context panels, statusBar status]

/-- Renders the whole tree, in the context of the moment at which it begins. -/
def compose : Act κ S (Node (Handler κ)) := do
  let context ← .read fun session => session.panelHost.ui
  let panels ← .read fun session => session.panelHost.panels.entries
  let panels ← renderComponents context panels
  -- What a panel changes about the status bar while it renders is in this tree already.
  let status ← .read fun session => session.panelHost.status.entries
  let status ← renderComponents context status
  pure (shellTree context panels status)

end EditorShell.Session
