import EditorShell.Session.Shell

/-!
# What an embedding program can ask for

A request is one operation on a session as the embedding program, or one of its callbacks, can ask
for it.  The operations themselves stand in the modules before this one; here they become data, so
that what a callback does can be told step by step and a law can be stated for every callback.
-/

namespace EditorShell

open Json

/-- One operation; `Request.perform` says what it does. -/
inductive Request (κ : Type) where
  | advance (span : Duration)
  | setClock (now : Instant)
  | scheduleAt (deadline : Instant) (task : κ)
  | scheduleAfter (delay : Duration) (task : κ)
  | scheduleNext (task : κ)
  | cancelTask (id : TaskId) (reason : CancellationReason)
  | clearTasks
  | runDue
  | newDebouncer (delay : Duration)
  | debounce (id : DebouncerId) (task : κ)
  | cancelDebounced (id : DebouncerId)
  | dropDebouncer (id : DebouncerId)
  | subscribe (event : String) (listener : κ)
  | unsubscribe (event : String) (id : SubscriptionId)
  | clearEvent (event : String)
  | emit (event : String) (payload : Value)
  | newAction (body : κ)
  | registerAction (descriptor : CommandDescriptor) (action : Action (ActionBody κ))
  | registerDescriptor (descriptor : CommandDescriptor) (body : κ)
  | registerCommand (name : String) (keys : Option String) (body : κ)
  | unregisterCommand (name : String)
  | unregisterAction (name : String) (action : Action (ActionBody κ))
  | setEnabled (name : String) (enabled : Bool)
  | execute (name : String) (args : Value)
  | bind (keys command : String) (args : Option Value)
  | unbind (keys : String)
  | loadMap (bindings : List KeyBinding)
  | loadKeymap (text : String)
  | setWindow (window : Duration)
  | press (raw : String)
  | publish (id : NodeId) (handle : WidgetHandle)
  | takeHandle (id : NodeId)
  | mount (id : NodeId) (node : Node (Handler κ)) (placement : Placement)
  | update (id : NodeId) (node : Node (Handler κ))
  | unmount (id : NodeId)
  | unmountSubtree (id : NodeId)
  | render (root : Node (Handler κ))
  | resolveHandle (id : NodeId) (receiver : κ)
  | invoke (id : NodeId) (command : WidgetCommand)
  | dispatchEvent (event : UiEvent)
  | sendDirectly (message : HostMessage)
  | failOp (op : HostOp)
  | recoverOp (op : HostOp)
  | clearRecording
  | setWireFault (fault? : Option WireFault)
  | registerPanel (id : String) (component : κ)
  | unregisterPanel (id : String)
  | registerStatus (id : String) (component : κ)
  | unregisterStatus (id : String)
  | showPanel (panel : String)
  | setCurrentPanel (panel : String)
  | touch
  | compose
  | renderPanels
  | newBuiltin (kind : Builtin)
  | register (name : String) (extension : Extension κ)
  | unregister (name : String)
  | activate (name : String)
  | deactivate (name : String)
  | activateAll (names : List String)
  | deactivateAll
  | loadExtension (name : String) (extension : Extension κ)
  | handleKey (raw : String)
  | tick
  | play (steps : List ScriptStep)
  | close

namespace Request

variable {κ S : Type}

/-- What a request is answered with. -/
abbrev Reply : Request κ → Type
  | advance _ | setClock _ | cancelTask _ _ | clearTasks | debounce _ _ | cancelDebounced _
  | dropDebouncer _ | clearEvent _ | registerAction _ _ | registerDescriptor _ _ | setWindow _
  | publish _ _ | resolveHandle _ _ | failOp _ | recoverOp _
  | clearRecording | setWireFault _ | registerPanel _ _ | registerStatus _ _
  | touch | register _ _ | deactivateAll => Unit
  | scheduleAt _ _ | scheduleAfter _ _ | scheduleNext _ => TaskId
  | newDebouncer _ => DebouncerId
  | subscribe _ _ => SubscriptionId
  | runDue | loadMap _ | activateAll _ => Nat
  | unsubscribe _ _ | unregisterCommand _ | unregisterAction _ _ | setEnabled _ _ | press _
  | mount _ _ _ | update _ _ | unmount _ | invoke _ _ | dispatchEvent _ | unregisterPanel _
  | unregisterStatus _ | setCurrentPanel _ | unregister _ | loadExtension _ _ | handleKey _
  | close => Bool
  | emit _ _ | showPanel _ => EmitReport
  | newAction _ => Action (ActionBody κ)
  | registerCommand _ _ _ => Except CommandError Unit
  | execute _ _ => Except CommandError CommandOutcome
  | bind _ _ _ => Except KeybindingError Unit
  | unbind _ => Option KeyBinding
  | loadKeymap _ => Except KeymapError Nat
  | takeHandle _ => Option WidgetHandle
  | unmountSubtree _ => List NodeId
  | render _ | renderPanels => RenderReport
  | sendDirectly _ => Guarded (Except HostError Unit)
  | compose => Node (Handler κ)
  | newBuiltin _ => Extension κ
  | activate _ | deactivate _ => Except ExtensionError Bool
  | tick => Session.TickReport
  | play _ => Session.PlayReport

/-- Does what is requested. -/
def perform : (request : Request κ) → Act κ S request.Reply
  | advance span => Session.advance span
  | setClock now => Session.setClock now
  | scheduleAt deadline task => Session.scheduleAt deadline (.task (.user task))
  | scheduleAfter delay task => Session.scheduleAfter delay (.task (.user task))
  | scheduleNext task => Session.scheduleNext (.task (.user task))
  | cancelTask id reason => Session.cancelTask id reason
  | clearTasks => Session.clearTasks
  | runDue => Session.runDue
  | newDebouncer delay => Session.newDebouncer delay
  | debounce id task => Session.debounce id (.user task)
  | cancelDebounced id => Session.cancelDebounced id
  | dropDebouncer id => Session.dropDebouncer id
  | subscribe event listener => Session.subscribe event (.user listener)
  | unsubscribe event id => Session.unsubscribe event id
  | clearEvent event => Session.clearEvent event
  | emit event payload => Session.emit event payload
  | newAction body => Session.newAction (.user body)
  | registerAction descriptor action => Session.registerAction descriptor action
  | registerDescriptor descriptor body => Session.registerDescriptor descriptor (.user body)
  | registerCommand name keys body => Session.registerCommand name keys (.user body)
  | unregisterCommand name => Session.unregisterCommand name
  | unregisterAction name action => Session.unregisterAction name action
  | setEnabled name enabled => Session.setEnabled name enabled
  | execute name args => Session.execute name args
  | bind keys command args => Session.bind keys command args
  | unbind keys => Session.unbind keys
  | loadMap bindings => Session.loadMap bindings
  | loadKeymap text => Session.loadKeymap text
  | setWindow window => Session.setWindow window
  | press raw => Session.press raw
  | publish id handle => Session.changeSlots fun slots => slots.publish id handle
  | takeHandle id => Session.takeHandle id
  | mount id node placement => Session.mount id node placement
  | update id node => Session.updateInPlace id node
  | unmount id => Session.unmount id
  | unmountSubtree id => Session.unmountSubtree id
  | render root => Session.render root
  | resolveHandle id receiver => Session.resolveHandle id (.user receiver)
  | invoke id command => Session.invoke id command
  | dispatchEvent event => Session.dispatchEvent event
  | sendDirectly message => Session.sendDirectly message
  | failOp op => Session.changeRecording fun recording => recording.fail op
  | recoverOp op => Session.changeRecording fun recording => recording.recover op
  | clearRecording => Session.changeRecording Recording.clear
  | setWireFault fault? => Session.setWireFault fault?
  | registerPanel id component => Session.registerPanel id (.user component)
  | unregisterPanel id => Session.unregisterPanel id
  | registerStatus id component => Session.registerStatus id (.user component)
  | unregisterStatus id => Session.unregisterStatus id
  | showPanel panel => Session.showPanel panel
  | setCurrentPanel panel => Session.setCurrentPanel panel
  | touch => Session.touch
  | compose => Session.compose
  | renderPanels => Session.renderPanels
  | newBuiltin kind => Session.newBuiltin kind
  | register name extension => Session.register name extension
  | unregister name => Session.unregister name
  | activate name => Session.activate name
  | deactivate name => Session.deactivate name
  | activateAll names => Session.activateAll names
  | deactivateAll => Session.deactivateAll
  | loadExtension name extension => Session.loadExtension name extension
  | handleKey raw => Session.handleKey raw
  | tick => Session.tick
  | play steps => Session.play steps
  | close => Session.close

end Request

end EditorShell
