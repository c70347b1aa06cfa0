import EditorShell.Proofs.Run.Everyday

/-!
# What requests and callbacks are made of

When a class of acts covers the operations of a session, everything is made of it that comes of
them: the built-in extensions, the shell, every request that the embedding program is allowed to
make (`Act.Class.Covers.perform`), and every callback (`Act.Class.Covers.respond`).
-/

namespace EditorShell

open Json

variable {κ S R : Type} {allowed : Request κ → Prop}

/-! ## What extensions set up -/

/-- Whether a call activates or deactivates the greeting extension. -/
def Call.equipsGreeter : Call κ → Bool
  | .activate _ _ (.builtin .helloWorld _) | .deactivate _ _ (.builtin .helloWorld _) => true
  | _ => false

namespace Act.Class

variable (Parts : Act.Class κ S)

/-- What the `panels` and the editor status extension set up and take back is made of `Parts`. -/
structure Equipping : Prop where
  subscribe : ∀ event listener, (Session.subscribe (S := S) event listener).MadeOf Parts
  unsubscribe : ∀ event id, (Session.unsubscribe event id).MadeOf Parts
  newAction : ∀ body, (Session.newAction (S := S) body).MadeOf Parts
  registerCommand : ∀ name keys body,
    (Session.registerCommand (S := S) name keys body).MadeOf Parts
  unregisterCommand : ∀ name, (Session.unregisterCommand name).MadeOf Parts
  registerStatus : ∀ id component, (Session.registerStatus (S := S) id component).MadeOf Parts
  unregisterStatus : ∀ id, (Session.unregisterStatus id).MadeOf Parts
  setKeyListener : ∀ copy listener?, (Session.setKeyListener copy listener?).MadeOf Parts
  /-- A readout shows the same as before. -/
  changeEditorStatus : ∀ copy (f : EditorStatusState → EditorStatusState),
    (∀ state, ∃ subscriptions, f state = { state with subscriptions := subscriptions }) →
      (Session.changeEditorStatus (S := S) copy f).MadeOf Parts

/-- What the greeting extension sets up and takes back is made of `Parts` too. -/
structure EquippingGreeter : Prop extends Parts.Equipping where
  registerPanel : ∀ id component, (Session.registerPanel (S := S) id component).MadeOf Parts
  unregisterPanel : ∀ id, (Session.unregisterPanel id).MadeOf Parts
  newDebouncer : ∀ delay, (Session.newDebouncer delay).MadeOf Parts
  dropDebouncer : ∀ id, (Session.dropDebouncer id).MadeOf Parts
  /-- The same name is greeted as before. -/
  changeGreeter : ∀ copy (f : HelloWorldState → HelloWorldState),
    (∀ state, ∃ debouncer?, f state = { state with debouncer? := debouncer? }) →
      (Session.changeGreeter (S := S) copy f).MadeOf Parts

variable {Parts}

namespace Equipping

variable (equipping : Parts.Equipping)

include equipping

theorem followEvent (copy : InstanceId) (event : String) (listener : Listener κ) :
    (Session.followEvent (S := S) copy event listener).MadeOf Parts := by
  refine .bind (equipping.subscribe _ _) fun _ => ?_
  exact equipping.changeEditorStatus copy _ fun _ => ⟨_, rfl⟩

theorem activateEditorStatus (copy : InstanceId) :
    (Session.activateEditorStatus copy : Act κ S (Except ExtensionError Unit)).MadeOf Parts := by
  refine .bind (equipping.registerStatus _ _) fun _ => ?_
  refine .bind (equipping.followEvent _ _ _) fun _ => ?_
  refine .bind (equipping.followEvent _ _ _) fun _ => ?_
  refine .bind (equipping.followEvent _ _ _) fun _ => ?_
  exact .pure _

theorem unsubscribeEach (subscriptions : List (String × SubscriptionId)) :
    (Session.unsubscribeEach subscriptions : Act κ S Unit).MadeOf Parts := by
  induction subscriptions with
  | nil => exact .pure ()
  | cons subscription rest ih => exact .bind (equipping.unsubscribe _ _) fun _ => ih

theorem deactivateEditorStatus (copy : InstanceId) :
    (Session.deactivateEditorStatus copy : Act κ S (Except ExtensionError Unit)).MadeOf Parts := by
  unfold Session.deactivateEditorStatus
  refine .bind (.read _) fun subscriptions => ?_
  refine .bind (equipping.changeEditorStatus copy _ fun _ => ⟨_, rfl⟩) fun _ => ?_
  refine .bind (equipping.unsubscribeEach subscriptions) fun _ => ?_
  exact .bind (equipping.unregisterStatus _) fun _ => .pure _

theorem greetingCommands (copy : InstanceId) :
    (Session.greetingCommands (κ := κ) (S := S) copy).MadeOf Parts := by
  refine .bind (equipping.newAction _) fun _ => ?_
  exact .pure _

theorem forgetKeys (listener? : Option SubscriptionId) :
    (Session.forgetKeys listener? : Act κ S Unit).MadeOf Parts := by
  cases listener? with
  | none => exact .pure ()
  | some listener => exact .bind (equipping.unsubscribe _ _) fun _ => .pure ()

theorem activatePanels (copy : InstanceId) :
    (Session.activatePanels copy : Act κ S (Except ExtensionError Unit)).MadeOf Parts := by
  unfold Session.activatePanels
  refine .bind (equipping.subscribe _ _) fun listener => ?_
  refine .bind (equipping.setKeyListener copy _) fun _ => ?_
  refine .bind (equipping.registerCommand _ _ _) fun result => ?_
  cases result with
  | ok _ => exact .pure _
  | error cause => exact .pure _

theorem deactivatePanels (copy : InstanceId) :
    (Session.deactivatePanels copy : Act κ S (Except ExtensionError Unit)).MadeOf Parts := by
  unfold Session.deactivatePanels
  refine .bind (.read _) fun listener? => ?_
  refine .bind (equipping.setKeyListener copy none) fun _ => ?_
  refine .bind (equipping.forgetKeys _) fun _ => ?_
  exact .bind (equipping.unregisterCommand _) fun _ => .pure _

/-- What the `panels` and the editor status extension are called for, and the listing of the
greeting extension, when the programs of the embedding program are given. -/
theorem respond (program : ∀ {R : Type} {program : Program κ S R}, program.Uses allowed →
      program.toAct.MadeOf Parts) {code : Code κ S} (within : code.Within allowed) (call : Call κ)
    (hlifecycle : call.isLifecycle = true) (hgreeter : call.equipsGreeter = false) :
    (code.respond call).MadeOf Parts := by
  cases call with
  | listing name generation extension =>
      cases extension with
      | builtin kind copy =>
          cases kind with
          | panels => exact .own (.pure [])
          | editorStatus => exact .own (.pure [])
          | helloWorld => exact .own (equipping.greetingCommands copy)
      | user key => exact program (within.listing key)
  | activate name generation extension =>
      cases extension with
      | builtin kind copy =>
          cases kind with
          | panels => exact .own (equipping.activatePanels copy)
          | editorStatus => exact .own (equipping.activateEditorStatus copy)
          -- Of the built-in extensions this one makes a debouncer, which is not among these parts.
          | helloWorld => cases hgreeter
      | user key => exact program (within.activate key)
  | deactivate name generation extension =>
      cases extension with
      | builtin kind copy =>
          cases kind with
          | panels => exact .own (equipping.deactivatePanels copy)
          | editorStatus => exact .own (equipping.deactivateEditorStatus copy)
          | helloWorld => cases hgreeter
      | user key => exact program (within.deactivate key)
  | _ => cases hlifecycle

end Equipping

namespace EquippingGreeter

variable (equipping : Parts.EquippingGreeter)

include equipping

theorem setNameDebouncer (copy : InstanceId) (debouncer? : Option DebouncerId) :
    (Session.setNameDebouncer copy debouncer? : Act κ S Unit).MadeOf Parts := by
  unfold Session.setNameDebouncer
  refine .bind (.read _) fun previous? => ?_
  refine .bind (equipping.changeGreeter copy _ fun _ => ⟨_, rfl⟩) fun _ => ?_
  cases previous? with
  | none => exact .pure ()
  | some previous => exact equipping.dropDebouncer previous

theorem activateHelloWorld (copy : InstanceId) :
    (Session.activateHelloWorld copy : Act κ S (Except ExtensionError Unit)).MadeOf Parts := by
  refine .bind (equipping.newDebouncer _) fun _ => ?_
  refine .bind (equipping.setNameDebouncer copy _) fun _ => ?_
  refine .bind (equipping.registerPanel _ _) fun _ => ?_
  exact .pure _

theorem deactivateHelloWorld (copy : InstanceId) :
    (Session.deactivateHelloWorld copy : Act κ S (Except ExtensionError Unit)).MadeOf Parts := by
  refine .bind (equipping.setNameDebouncer copy none) fun _ => ?_
  refine .bind (equipping.unregisterPanel _) fun _ => ?_
  exact .pure _

/-- Every callback of an extension, when the programs of the embedding program are given. -/
theorem respond (program : ∀ {R : Type} {program : Program κ S R}, program.Uses allowed →
      program.toAct.MadeOf Parts) {code : Code κ S} (within : code.Within allowed) (call : Call κ)
    (hlifecycle : call.isLifecycle = true) : (code.respond call).MadeOf Parts := by
  cases hgreeter : call.equipsGreeter with
  | false => exact equipping.toEquipping.respond program within call hlifecycle hgreeter
  | true =>
      cases call with
      | activate name generation extension =>
          cases extension with
          | builtin kind copy =>
              cases kind with
              | helloWorld => exact .own (equipping.activateHelloWorld copy)
              | _ => cases hgreeter
          | user key => cases hgreeter
      | deactivate name generation extension =>
          cases extension with
          | builtin kind copy =>
              cases kind with
              | helloWorld => exact .own (equipping.deactivateHelloWorld copy)
              | _ => cases hgreeter
          | user key => cases hgreeter
      | _ => cases hgreeter

end EquippingGreeter

end Act.Class

namespace Act.Class.Covers

variable {Parts : Act.Class κ S} (covers : Parts.Covers allowed)

include covers

/-! ## The built-in extensions -/

theorem newPanels : (Session.newPanels : Act κ S InstanceId).MadeOf Parts := by
  unfold Session.newPanels
  refine .bind (.read _) fun copy => ?_
  exact .bind (covers.builtins _) fun _ => .pure copy

theorem newEditorStatus : (Session.newEditorStatus : Act κ S InstanceId).MadeOf Parts := by
  unfold Session.newEditorStatus
  refine .bind (.read _) fun copy => ?_
  exact .bind (covers.builtins _) fun _ => .pure copy

theorem newHelloWorld : (Session.newHelloWorld : Act κ S InstanceId).MadeOf Parts := by
  unfold Session.newHelloWorld
  refine .bind (.read _) fun copy => ?_
  exact .bind (covers.builtins _) fun _ => .pure copy

theorem newBuiltin (kind : Builtin) : (Session.newBuiltin (S := S) kind).MadeOf Parts := by
  cases kind with
  | panels => exact .bind covers.newPanels fun copy => .pure _
  | editorStatus => exact .bind covers.newEditorStatus fun copy => .pure _
  | helloWorld => exact .bind covers.newHelloWorld fun copy => .pure _

theorem equippingGreeter : Parts.EquippingGreeter where
  subscribe := covers.subscribe
  unsubscribe := covers.unsubscribe
  newAction := covers.newAction
  registerCommand := covers.registerCommand
  unregisterCommand := covers.unregisterCommand
  registerStatus := covers.registerStatus
  unregisterStatus := covers.unregisterStatus
  setKeyListener _ _ := covers.builtins _
  changeEditorStatus _ _ _ := covers.builtins _
  registerPanel := covers.registerPanel
  unregisterPanel := covers.unregisterPanel
  newDebouncer := covers.newDebouncer
  dropDebouncer := covers.dropDebouncer
  changeGreeter _ _ _ := covers.builtins _

/-! ## The shell -/

/-- What goes on from day to day is covered too. -/
theorem everyday : Parts.Everyday where
  clock := covers.clock
  sayHello := sayHello_of_change fun _ _ _ => covers.builtins _
  showPanel _ := covers.emit _ _
  tellKey := covers.emit _
  emit := covers.emit
  followCursor := followCursor_of_change (fun _ _ _ => covers.builtins _) covers.touch
  followLanguage := followLanguage_of_change (fun _ _ _ => covers.builtins _) covers.touch
  settleName := settleName_of_change (fun _ _ _ => covers.builtins _) covers.touch
  execute := covers.execute
  press := covers.press
  setCurrentPanel := covers.setCurrentPanel
  resolveHandle := covers.resolveHandle
  invoke := covers.invoke
  debounce := covers.debounce
  tick := covers.tick

theorem registerBuiltins (kinds : List Builtin) :
    (Session.registerBuiltins kinds : Act κ S Unit).MadeOf Parts := by
  induction kinds with
  | nil => exact .pure ()
  | cons kind rest ih =>
      refine .bind (covers.newBuiltin kind) fun extension => ?_
      exact .bind (covers.register _ _) fun _ => ih

theorem start (config : ShellConfig) : (Session.start config : Act κ S Unit).MadeOf Parts := by
  unfold Session.start
  refine .bind (covers.setWindow _) fun _ => ?_
  refine .bind (covers.subscribe _ _) fun focusListener => ?_
  refine .bind (covers.registerBuiltins _) fun _ => ?_
  refine .bind (covers.openShell _) fun _ => ?_
  refine .bind (covers.activate _) fun _ => ?_
  refine .bind (covers.activateFrom 0 _) fun _ => ?_
  refine .bind (covers.loadMap _) fun _ => .when ?_
  exact .bind (covers.showPanel _) fun _ => .pure ()

theorem close : (Session.close : Act κ S Bool).MadeOf Parts := by
  unfold Session.close
  refine .bind (.read _) fun shell? => ?_
  cases shell? with
  | none => exact .pure false
  | some shell =>
      refine .bind covers.closeShell fun _ => ?_
      refine .bind covers.deactivateAll fun _ => ?_
      exact .bind (covers.unsubscribe _ _) fun _ => .pure true

/-! ## All requests -/

/-- Every allowed request keeps the covers. -/
theorem perform (request : Request κ) (permitted : allowed request) :
    (request.perform (S := S)).MadeOf Parts := by
  by_cases hcore : request.isCore = true
  · exact covers.request request hcore permitted
  cases request <;> try exact absurd rfl hcore
  case advance span => exact covers.clock _
  case setClock now => exact covers.clock _
  case subscribe event listener => exact covers.subscribe _ _
  case unsubscribe event id => exact covers.unsubscribe _ _
  case clearEvent event => exact covers.clearEvent _
  case emit event payload => exact covers.emit _ _
  case newAction body => exact covers.newAction _
  case registerAction descriptor action => exact covers.registerAction _ _
  case registerDescriptor descriptor body => exact covers.registerDescriptor _ _
  case registerCommand name keys body => exact covers.registerCommand _ _ _
  case unregisterCommand name => exact covers.unregisterCommand _
  case unregisterAction name action => exact covers.unregisterAction _ _
  case setEnabled name enabled => exact covers.setEnabled _ _
  case execute name args => exact covers.execute _ _
  case bind keys command args => exact covers.bind _ _ _
  case unbind keys => exact covers.unbind _
  case loadMap bindings => exact covers.loadMap _
  case loadKeymap text => exact covers.loadKeymap _
  case setWindow window => exact covers.setWindow _
  case press raw => exact covers.press _
  case registerPanel id component => exact covers.registerPanel _ _
  case unregisterPanel id => exact covers.unregisterPanel _
  case registerStatus id component => exact covers.registerStatus _ _
  case unregisterStatus id => exact covers.unregisterStatus _
  case showPanel panel => exact covers.showPanel _
  case setCurrentPanel panel => exact covers.setCurrentPanel _
  case touch => exact covers.touch
  case compose => exact covers.compose
  case renderPanels => exact covers.renderPanels permitted
  case newBuiltin kind => exact covers.newBuiltin _
  case register name extension => exact covers.register _ _
  case unregister name => exact covers.unregister _
  case activate name => exact covers.activate _
  case deactivate name => exact covers.deactivate _
  case activateAll names => exact covers.activateFrom 0 _
  case deactivateAll => exact covers.deactivateAll
  case loadExtension name extension => exact covers.loadExtension _ _
  case handleKey raw => exact covers.everyday.handleKey _
  case tick => exact covers.tick
  case play steps => exact covers.everyday.playFrom _ _
  case close => exact covers.close

/-! ## Callbacks -/

/-- What a callback does is made of the class. -/
theorem respond {code : Code κ S} (within : code.Within allowed) (call : Call κ) :
    (code.respond call).MadeOf Parts := by
  have program : ∀ {R : Type} {program : Program κ S R}, program.Uses allowed →
      program.toAct.MadeOf Parts := fun uses => .program covers.app covers.perform uses
  cases hlifecycle : call.isLifecycle with
  | false => exact covers.everyday.respond program within call hlifecycle
  | true => exact covers.equippingGreeter.respond program within call hlifecycle

theorem undertaking {α : Type} {act : Act κ S α} (undertaken : Undertaking allowed act) :
    act.MadeOf Parts := by
  cases undertaken with
  | request request permitted => exact covers.perform request permitted
  | start config => exact covers.start config

end Act.Class.Covers

end EditorShell
