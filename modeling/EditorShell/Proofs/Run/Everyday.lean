import EditorShell.Proofs.Run.Reaching
import EditorShell.Proofs.Run.Registries

/-!
# What goes on from day to day

A shell takes keys and interactions, tells of events, runs commands and deferred work, and ticks.
Its own callbacks do no more than that, but for those of extensions that are activated or
deactivated.  `Act.Class.Everyday` lists the operations that all this is made of.  None of them
registers anything.
-/

namespace EditorShell

open Json

variable {κ S α R : Type}

/-- Whether a request only keeps a shell going. -/
def Request.isEveryday : Request κ → Bool
  | .advance _ | .setClock _ | .emit _ _ | .execute _ _ | .press _ | .dispatchEvent _
  | .showPanel _ | .handleKey _ | .tick => true
  | _ => false

/-- Whether a request sets the clock. -/
def Request.setsClock : Request κ → Bool
  | .advance _ | .setClock _ => true
  | _ => false

/-- Whether a request adjusts keys, commands or what is displayed, and registers nothing. -/
def Request.isAdjusting : Request κ → Bool
  | .bind _ _ _ | .unbind _ | .loadMap _ | .loadKeymap _ | .setWindow _ | .setEnabled _ _
  | .setCurrentPanel _ | .touch | .compose => true
  | _ => false

/-- The operations that come of what is told, but for taking it up and for ticks, are made of
`Parts`.  What the shell and its extensions take up is a panel to show, a position, a language, a
name that is typed or one that counts. -/
structure Act.Class.Reacting (Parts : Act.Class κ S) : Prop where
  sayHello : ∀ copy, (Session.sayHello copy).MadeOf Parts
  showPanel : ∀ panel, (Session.showPanel panel).MadeOf Parts
  tellKey : ∀ payload, (Session.emit (S := S) Session.keyPressedEvent payload).MadeOf Parts
  execute : ∀ name args, (Session.execute name args).MadeOf Parts
  press : ∀ raw, (Session.press raw).MadeOf Parts
  resolveHandle : ∀ id receiver, (Session.resolveHandle (S := S) id receiver).MadeOf Parts
  invoke : ∀ id command, (Session.invoke id command).MadeOf Parts

/-- The operations that go on from day to day are made of `Parts`, but for the change of the current
panel. -/
structure Act.Class.Ongoing (Parts : Act.Class κ S) : Prop extends Parts.Reacting where
  clock : ∀ f : Session κ S → Instant,
    (Act.change fun session => { session with clock := f session }).MadeOf Parts
  emit : ∀ event payload, (Session.emit (S := S) event payload).MadeOf Parts
  followCursor : ∀ copy payload, (Session.followCursor copy payload).MadeOf Parts
  followLanguage : ∀ copy payload, (Session.followLanguage copy payload).MadeOf Parts
  debounce : ∀ id body, (Session.debounce (S := S) id body).MadeOf Parts
  settleName : ∀ copy name, (Session.settleName copy name).MadeOf Parts
  tick : Session.tick.MadeOf Parts

/-- The operations that go on from day to day are made of `Parts`. -/
structure Act.Class.Everyday (Parts : Act.Class κ S) : Prop extends Parts.Ongoing where
  setCurrentPanel : ∀ panel, (Session.setCurrentPanel panel).MadeOf Parts

/-- The shell's own callbacks add nothing to the act they do. -/
theorem Act.MadeOf.own {Parts : Act.Class κ S} {act : Act κ S α} (hact : act.MadeOf Parts) :
    (Code.own act).MadeOf Parts := by
  refine .bind hact fun _ => ?_
  exact .pure _

/-- A program is made of its requests and of what it stores. -/
theorem Act.MadeOf.program {Parts : Act.Class κ S} {allowed : Request κ → Prop}
    (store : ∀ app, (Act.change fun session : Session κ S =>
      { session with app := app }).MadeOf Parts)
    (perform : ∀ request, allowed request → (request.perform (S := S)).MadeOf Parts)
    {program : Program κ S R} (uses : program.Uses allowed) : program.toAct.MadeOf Parts := by
  induction program with
  | done result => exact .pure _
  | panic message => exact .pure _
  | look next ih => exact .look fun session => ih session (uses session)
  | store app rest ih => exact .bind (store app) fun _ => ih uses
  | request operation next ih =>
      exact .bind (perform operation uses.1) fun reply => ih reply (uses.2 reply)

namespace Act.Class

/-! ## What is taken up -/

section

variable {Parts : Act.Class κ S}
  (readouts : ∀ copy (f : EditorStatusState → EditorStatusState),
    (∀ state, (f state).subscriptions = state.subscriptions) →
      (Session.changeEditorStatus (S := S) copy f).MadeOf Parts)
  (greeters : ∀ copy (f : HelloWorldState → HelloWorldState),
    (∀ state, (f state).debouncer? = state.debouncer?) →
      (Session.changeGreeter (S := S) copy f).MadeOf Parts)
  (touch : (Session.touch : Act κ S Unit).MadeOf Parts)

theorem takeShown_of_setCurrentPanel
    (setCurrentPanel : ∀ panel, (Session.setCurrentPanel (S := S) panel).MadeOf Parts)
    (payload : Value) :
    (Session.takeShown payload : Act κ S (Except HandlerError Unit)).MadeOf Parts := by
  unfold Session.takeShown
  split
  · exact .pure _
  · exact .bind (setCurrentPanel _) fun _ => .pure _

include readouts touch in
theorem followCursor_of_change (copy : InstanceId) (payload : Value) :
    (Session.followCursor copy payload : Act κ S (Except HandlerError Unit)).MadeOf Parts := by
  unfold Session.followCursor
  split
  · exact .pure _
  · refine .bind (readouts copy _ fun _ => rfl) fun _ => ?_
    exact .bind touch fun _ => .pure _

include readouts touch in
theorem followLanguage_of_change (copy : InstanceId) (payload : Value) :
    (Session.followLanguage copy payload : Act κ S (Except HandlerError Unit)).MadeOf Parts := by
  refine .bind (readouts copy _ fun _ => rfl) fun _ => ?_
  refine .bind touch fun _ => ?_
  exact .pure _

include greeters in
theorem sayHello_of_change (copy : InstanceId) :
    (Session.sayHello copy : Act κ S (Except HandlerError Unit)).MadeOf Parts := by
  refine .bind (greeters copy _ fun _ => rfl) fun _ => ?_
  exact .pure _

include greeters touch in
theorem settleName_of_change (copy : InstanceId) (name : String) :
    (Session.settleName copy name : Act κ S Unit).MadeOf Parts := by
  refine .bind (greeters copy _ fun _ => rfl) fun _ => ?_
  exact touch

end

namespace Reacting

variable {Parts : Act.Class κ S} (reacting : Parts.Reacting)

include reacting

/-! ## Listeners -/

theorem focusShown (payload : Value) :
    (Session.focusShown payload : Act κ S (Except HandlerError Unit)).MadeOf Parts := by
  refine .bind (.when (reacting.resolveHandle _ _)) fun _ => ?_
  exact .pure _

theorem focusAndSelect (id : NodeId) (handle? : Option WidgetHandle) :
    (Session.focusAndSelect id handle? : Act κ S Unit).MadeOf Parts := by
  cases handle? with
  | none => exact .pure ()
  | some _ =>
      refine .bind (reacting.invoke id .focus) fun _ => ?_
      exact .bind (reacting.invoke id .selectAll) fun _ => .pure ()

theorem hideOnEscape (payload : Value) :
    (Session.hideOnEscape payload : Act κ S (Except HandlerError Unit)).MadeOf Parts := by
  refine .bind (.when ?_) fun _ => .pure _
  exact .bind (reacting.showPanel "") fun _ => .pure ()

/-! ## Commands and keys -/

theorem runShowPanel (args : Value) :
    (Session.runShowPanel args : Act κ S (Except HandlerError Unit)).MadeOf Parts := by
  unfold Session.runShowPanel
  split
  · exact .bind (reacting.showPanel _) fun _ => .pure _
  · exact .bind (reacting.showPanel _) fun _ => .pure _
  · exact .pure _

theorem greet : (Session.greet : Act κ S Unit).MadeOf Parts := by
  refine .bind (reacting.execute _ _) fun _ => ?_
  exact .pure ()

theorem handleKey (raw : String) : (Session.handleKey raw : Act κ S Bool).MadeOf Parts := by
  unfold Session.handleKey Session.pressHeld
  split
  · exact .pure false
  · refine .bind (.ite (reacting.press _) (.pure false)) fun consumed => ?_
    exact .bind (reacting.tellKey _) fun _ => .pure consumed

/-! ## Requests and callbacks -/

/-- The requests of every day, when the clock, events, interactions and ticks are given. -/
theorem perform {request : Request κ} (heveryday : request.isEveryday = true)
    (clock : ∀ f : Session κ S → Instant, request.setsClock = true →
      (Act.change fun session => { session with clock := f session }).MadeOf Parts)
    (emit : ∀ event payload, request = .emit event payload →
      (Session.emit (S := S) event payload).MadeOf Parts)
    (dispatchEvent : ∀ event, request = .dispatchEvent event →
      (Session.dispatchEvent event).MadeOf Parts)
    (tick : request = .tick → Session.tick.MadeOf Parts) :
    (request.perform (S := S)).MadeOf Parts := by
  cases request with
  | advance span => exact clock _ rfl
  | setClock now => exact clock _ rfl
  | emit event payload => exact emit event payload rfl
  | execute name args => exact reacting.execute name args
  | press raw => exact reacting.press raw
  | dispatchEvent event => exact dispatchEvent event rfl
  | showPanel panel => exact reacting.showPanel panel
  | handleKey raw => exact reacting.handleKey raw
  | tick => exact tick rfl
  | _ => cases heveryday

/-- Every callback but those of extensions, when the programs of the embedding program are given and
also what is done with the things that are taken up. -/
theorem respond {allowed : Request κ → Prop}
    (program : ∀ {R : Type} {program : Program κ S R}, program.Uses allowed →
      program.toAct.MadeOf Parts) {code : Code κ S} (within : code.Within allowed) (call : Call κ)
    (hlifecycle : call.isLifecycle = false)
    (takeShown : ∀ event id payload, call = .listener event ⟨id, .showPanel⟩ payload →
      (Session.takeShown payload : Act κ S (Except HandlerError Unit)).MadeOf Parts)
    (followCursor : ∀ event id copy payload, call = .listener event ⟨id, .cursor copy⟩ payload →
      (Session.followCursor copy payload : Act κ S (Except HandlerError Unit)).MadeOf Parts)
    (followLanguage : ∀ event id copy payload, call = .listener event ⟨id, .language copy⟩ payload →
      (Session.followLanguage copy payload : Act κ S (Except HandlerError Unit)).MadeOf Parts)
    (nameTyped : ∀ copy debouncer event, call = .interaction (.nameTyped copy debouncer) event →
      (Session.nameTyped copy debouncer event : Act κ S Unit).MadeOf Parts)
    (settleName : ∀ id copy name, call = .task id (.settleName copy name) →
      (Session.settleName copy name : Act κ S Unit).MadeOf Parts) :
    (code.respond call).MadeOf Parts := by
  cases call with
  | action command action args =>
      unfold Code.respond
      dsimp only
      split
      · exact .own (reacting.runShowPanel args)
      · exact .own (reacting.sayHello _)
      · exact program (within.action _ command args)
  | listener event subscription payload =>
      obtain ⟨id, listener⟩ := subscription
      cases listener with
      | focusInput => exact .own (reacting.focusShown payload)
      | hideOnEscape => exact .own (reacting.hideOnEscape payload)
      | showPanel => exact .own (takeShown event id payload rfl)
      | cursor copy => exact .own (followCursor event id copy payload rfl)
      | language copy => exact .own (followLanguage event id copy payload rfl)
      | user key => exact program (within.listener key event payload)
  | task id body =>
      cases body with
      | settleName copy name => exact .own (settleName id copy name rfl)
      | user key => exact program (within.task key)
  | delivery id receiver handle? =>
      cases receiver with
      | focusAndSelect id => exact .own (reacting.focusAndSelect id handle?)
      | user key => exact program (within.delivery key handle?)
  | interaction handler event =>
      cases handler with
      | nameTyped copy debouncer => exact .own (nameTyped copy debouncer event rfl)
      | greet => exact .own reacting.greet
      | user key => exact program (within.interaction key event)
  | component id component context =>
      cases component with
      | readout copy => exact .own (.bind (.read _) fun _ => .pure _)
      | greeting copy debouncer => exact .own (.bind (.read _) fun _ => .pure _)
      | user key => exact program (within.component key id context)
  | host message => exact program (within.host message)
  | announce chord command => exact program (within.announce chord command)
  | listing name generation extension => cases hlifecycle
  | activate name generation extension => cases hlifecycle
  | deactivate name generation extension => cases hlifecycle

end Reacting

namespace Ongoing

variable {Parts : Act.Class κ S} (ongoing : Parts.Ongoing)

include ongoing

/-- The requests of every day, when interactions are given. -/
theorem perform (dispatchEvent : ∀ event, (Session.dispatchEvent event).MadeOf Parts)
    (request : Request κ) (heveryday : request.isEveryday = true) :
    (request.perform (S := S)).MadeOf Parts := by
  apply ongoing.toReacting.perform heveryday
  · exact fun _ _ => ongoing.clock _
  · exact fun _ _ _ => ongoing.emit _ _
  · exact fun _ _ => dispatchEvent _
  · exact fun _ => ongoing.tick

/-- Every callback but those of extensions and the panel host's own listener, when the programs of
the embedding program are given. -/
theorem respond {allowed : Request κ → Prop}
    (program : ∀ {R : Type} {program : Program κ S R}, program.Uses allowed →
      program.toAct.MadeOf Parts) {code : Code κ S} (within : code.Within allowed) (call : Call κ)
    (hlifecycle : call.isLifecycle = false) (hshowing : call.isShowing = false) :
    (code.respond call).MadeOf Parts := by
  apply ongoing.toReacting.respond program within call hlifecycle
  · rintro event id payload rfl
    cases hshowing
  · exact fun _ _ copy payload _ => ongoing.followCursor copy payload
  · exact fun _ _ copy payload _ => ongoing.followLanguage copy payload
  · exact fun _ debouncer _ _ => ongoing.debounce debouncer _
  · exact fun _ copy name _ => ongoing.settleName copy name

/-! ## Scripts -/

theorem playStep (report : Session.PlayReport) (step : ScriptStep) :
    (Session.playStep report step : Act κ S Session.PlayReport).MadeOf Parts := by
  cases step with
  | key chord => exact .bind (ongoing.handleKey _) fun consumed => .ite (.pure _) (.pure _)
  | wait span => exact .bind (ongoing.clock _) fun _ => .pure _
  | showPanel panel => exact .bind (ongoing.showPanel _) fun _ => .pure _
  | run command args =>
      refine .bind (ongoing.execute _ _) fun outcome => ?_
      split <;> exact .pure _

theorem playFrom (report : Session.PlayReport) (steps : List ScriptStep) :
    (Session.playFrom report steps : Act κ S Session.PlayReport).MadeOf Parts := by
  induction steps generalizing report with
  | nil => exact .pure report
  | cons step rest ih =>
      refine .bind (ongoing.playStep report step) fun report => ?_
      exact .bind ongoing.tick fun ticked => ih _

end Ongoing

/-- The requests that adjust something, when the commands and the state of the panels are given. -/
theorem Binding.perform {Parts : Act.Class κ S} (binding : Parts.Binding)
    (acting : Parts.Acting) {request : Request κ} (hadjusting : request.isAdjusting = true)
    (setEnabled : ∀ name enabled, request = .setEnabled name enabled →
      (Session.setEnabled (S := S) name enabled).MadeOf Parts)
    (setCurrentPanel : ∀ panel, (Session.setCurrentPanel (S := S) panel).MadeOf Parts)
    (touch : (Session.touch : Act κ S Unit).MadeOf Parts) :
    (request.perform (S := S)).MadeOf Parts := by
  cases request with
  | bind keys command args => exact binding.bind keys command args
  | unbind keys => exact binding.unbind keys
  | loadMap bindings => exact binding.loadMap bindings
  | loadKeymap text => exact binding.loadKeymap text
  | setWindow window => exact binding.setWindow window
  | setEnabled name enabled => exact setEnabled name enabled rfl
  | setCurrentPanel panel => exact setCurrentPanel panel
  | touch => exact touch
  | compose => exact acting.compose
  | _ => cases hadjusting

namespace Everyday

variable {Parts : Act.Class κ S} (everyday : Parts.Everyday)

include everyday

/-- Every callback but those of extensions, when the programs of the embedding program are given. -/
theorem respond {allowed : Request κ → Prop}
    (program : ∀ {R : Type} {program : Program κ S R}, program.Uses allowed →
      program.toAct.MadeOf Parts) {code : Code κ S} (within : code.Within allowed) (call : Call κ)
    (hlifecycle : call.isLifecycle = false) : (code.respond call).MadeOf Parts := by
  apply everyday.toReacting.respond program within call hlifecycle
  · exact fun _ _ payload _ => takeShown_of_setCurrentPanel everyday.setCurrentPanel payload
  · exact fun _ _ copy payload _ => everyday.followCursor copy payload
  · exact fun _ _ copy payload _ => everyday.followLanguage copy payload
  · exact fun _ debouncer _ _ => everyday.debounce debouncer _
  · exact fun _ copy name _ => everyday.settleName copy name

end Everyday

end Act.Class

end EditorShell
