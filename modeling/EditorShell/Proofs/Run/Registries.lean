import EditorShell.Proofs.Run.Making

/-!
# What the operations of the registries are made of

Events, commands, keys, panels and extensions change their own part of a session and call callbacks.
For each of these parts there is a lemma that takes its operations apart into such changes and
calls, for laws that do not look at the part, and there are the operations that are made of other
ones.
-/

namespace EditorShell

open Json

variable {κ S : Type} {Parts : Act.Class κ S}

namespace Act.Class

/-! ## Events -/

/-- A delivery is made of the calls of its listeners. -/
theorem deliver_of_call {event : String} {payload : Value}
    {listeners : List (Subscription (Listener κ))}
    (call : ∀ subscription ∈ listeners,
      (Act.call (S := S) (.listener event subscription payload)).MadeOf Parts)
    (report : EmitReport) :
    (Session.deliver (S := S) event payload report listeners).MadeOf Parts := by
  induction listeners generalizing report with
  | nil => exact .pure report
  | cons subscription rest ih =>
      refine .bind (call subscription List.mem_cons_self) fun outcome => ?_
      exact ih (fun other hother => call other (List.mem_cons_of_mem subscription hother)) _

theorem emit_of_call
    (call : ∀ event subscription payload,
      (Act.call (S := S) (.listener event subscription payload)).MadeOf Parts)
    (note : ∀ entry : Entry κ, entry.isEvent = true → (Act.note (S := S) entry).MadeOf Parts)
    (event : String) (payload : Value) :
    (Session.emit event payload : Act κ S EmitReport).MadeOf Parts := by
  unfold Session.emit
  refine .bind (.read _) fun listeners => ?_
  refine .bind (note _ rfl) fun _ => ?_
  refine .bind (deliver_of_call (fun subscription _ => call event subscription payload) _)
    fun report => ?_
  exact .bind (note _ rfl) fun _ => .pure report

/-- Any change of the event bus is made of `Parts`. -/
theorem Events.of_change
    (call : ∀ event subscription payload,
      (Act.call (S := S) (.listener event subscription payload)).MadeOf Parts)
    (note : ∀ entry : Entry κ, entry.isEvent = true → (Act.note (S := S) entry).MadeOf Parts)
    (change : ∀ f : Session κ S → EventBus (Listener κ),
      (Act.change fun session => { session with events := f session }).MadeOf Parts) :
    Parts.Events where
  subscribe event listener := by
    unfold Session.subscribe
    refine .bind (.read _) fun id => ?_
    exact .bind (change _) fun _ => .pure id
  unsubscribe event id := by
    unfold Session.unsubscribe
    refine .bind (.read _) fun found => ?_
    exact .bind (change _) fun _ => .pure found
  clearEvent event := change _
  emit := emit_of_call call note

theorem Events.showPanel (events : Parts.Events) (panel : String) :
    (Session.showPanel panel : Act κ S EmitReport).MadeOf Parts := events.emit _ _

/-! ## Commands and keys -/

/-! When commands may change as they do, and keys in any way, but for the dispatch that is
remembered. -/

section

variable
  (call : ∀ chord command, (Act.call (S := S) (Call.announce (κ := κ) chord command)).MadeOf Parts)
  (commands : ∀ f : Session κ S → CommandRegistry (ActionBody κ),
    (∀ session : Session κ S, session.commands.Changes (f session)) →
      (Act.change fun session => { session with commands := f session }).MadeOf Parts)
  (bindings : ∀ f : Session κ S → KeyDispatcher,
    (∀ session, (f session).lastDispatch? = session.keys.lastDispatch?) →
      (Act.change fun session => { session with keys := f session }).MadeOf Parts)

include call bindings

theorem announce_of_bindings (chord : Chord) (command : String) :
    (Session.announce chord command : Act κ S Unit).MadeOf Parts := by
  unfold Session.announce
  refine .bind (.read _) fun sink => ?_
  cases sink with
  | dispatcher => exact bindings _ fun _ => rfl
  | observer => exact .bind (call _ _) fun _ => .pure ()
  | nobody => exact .pure ()

omit call in
/-- Any change of the bindings is made of `Parts`. -/
theorem Binding.of_bindings : Parts.Binding where
  bindKeys binding := bindings _ fun _ => rfl
  unbind text := by
    unfold Session.unbind
    split
    · exact .pure _
    · refine .bind (.read _) fun binding => ?_
      exact .bind (bindings _ fun _ => rfl) fun _ => .pure binding
  releaseChord command chord := by
    unfold Session.releaseChord
    exact .bind (.read _) fun inPlace => .when (bindings _ fun _ => rfl)
  loadMap loaded := by
    refine .bind (bindings _ fun session => ?_) fun _ => .pure _
    exact KeyDispatcher.lastDispatch?_load _ _
  setWindow window := bindings _ fun _ => rfl

include commands

/-- Any change of the commands and of the bindings is made of `Parts`. -/
theorem Registering.of_bindings : Parts.Registering where
  toBinding := .of_bindings bindings
  newAction body := by
    unfold Session.newAction
    refine .bind (.read _) fun action => ?_
    refine .bind (commands _ fun _ => ?_) fun _ => .pure action
    exact .newAction body
  registerAction descriptor action := by
    unfold Session.registerAction
    refine .bind (commands _ fun _ => .insert _) fun _ => ?_
    split
    · exact announce_of_bindings call bindings _ _
    · exact .pure ()
  unregisterCommand name := by
    unfold Session.unregisterCommand
    refine .bind (.read _) fun found => ?_
    refine .bind (commands _ fun _ => ?_) fun _ => .pure found
    exact .unregister name
  unregisterAction name action := by
    unfold Session.unregisterAction
    refine .bind (.read _) fun found => ?_
    refine .bind (commands _ fun _ => ?_) fun _ => .pure found
    exact .unregisterAction name action
  setEnabled name enabled := by
    unfold Session.setEnabled
    refine .bind (.read _) fun found => ?_
    refine .bind (commands _ fun _ => ?_) fun _ => .pure found
    exact .setEnabled name enabled

end

namespace Commands

section

variable (acting : Parts.Acting)

include acting

theorem execute_of_call (name : String) (args : Value) :
    (Session.execute name args : Act κ S (Except CommandError CommandOutcome)).MadeOf Parts := by
  unfold Session.execute
  refine .bind (.read _) fun command? => ?_
  cases command? with
  | none => exact .pure _
  | some command =>
      apply MadeOf.ite
      · exact .pure _
      · exact .bind (acting.call _ rfl rfl rfl rfl rfl) fun outcome => .pure _

/-- Any change of the commands and of the bindings is made of `Parts`, and so are presses. -/
theorem of_bindings
    (commands : ∀ f : Session κ S → CommandRegistry (ActionBody κ),
      (∀ session : Session κ S, session.commands.Changes (f session)) →
        (Act.change fun session => { session with commands := f session }).MadeOf Parts)
    (bindings : ∀ f : Session κ S → KeyDispatcher,
      (∀ session, (f session).lastDispatch? = session.keys.lastDispatch?) →
        (Act.change fun session => { session with keys := f session }).MadeOf Parts)
    (press : ∀ raw, (Session.press raw : Act κ S Bool).MadeOf Parts) : Parts.Commands where
  toRegistering :=
    .of_bindings (fun _ _ => acting.call _ rfl rfl rfl rfl rfl) commands bindings
  execute := execute_of_call acting
  press := press

end

/-! When the tables may change in any way. -/

section

variable (acting : Parts.Acting)
  (note : ∀ entry : Entry κ, entry.isPress = true → (Act.note (S := S) entry).MadeOf Parts)
  (keys : ∀ f : Session κ S → KeyDispatcher,
    (Act.change fun session => { session with keys := f session }).MadeOf Parts)

include acting note keys

theorem press_of_change (raw : String) : (Session.press raw : Act κ S Bool).MadeOf Parts := by
  unfold Session.press Session.pressText
  refine .bind (note _ rfl) fun _ => ?_
  refine .bind ?_ fun handled => .bind (note _ rfl) fun _ => .pure handled
  split
  · exact .pure false
  · unfold Session.pressChord
    refine .bind (.read _) fun binding? => ?_
    cases binding? with
    | none => exact .pure false
    | some binding =>
        refine .bind ?_ fun _ => .pure true
        unfold Session.dispatchBound
        refine .bind (.read _) fun now => ?_
        refine .bind (.read _) fun repeated => .ite (.pure ()) ?_
        -- The dispatch is remembered before the command runs.
        refine .bind (keys _) fun _ => ?_
        refine .bind (note _ rfl) fun _ => ?_
        exact .bind (execute_of_call acting _ _) fun _ => .pure ()

/-- Any change of the commands and of the keys is made of `Parts`. -/
theorem of_change
    (commands : ∀ f : Session κ S → CommandRegistry (ActionBody κ),
      (Act.change fun session => { session with commands := f session }).MadeOf Parts) :
    Parts.Commands := by
  apply of_bindings acting
  · exact fun f _ => commands f
  · exact fun f _ => keys f
  · exact press_of_change acting note keys

end

end Commands

namespace Binding

variable (binding : Parts.Binding)

include binding

theorem bind (keys command : String) (args : Option Value) :
    (Session.bind keys command args : Act κ S (Except KeybindingError Unit)).MadeOf Parts := by
  unfold Session.bind
  split
  · exact .pure _
  · exact .bind (binding.bindKeys _) fun _ => .pure _

theorem loadKeymap (text : String) :
    (Session.loadKeymap text : Act κ S (Except KeymapError Nat)).MadeOf Parts := by
  unfold Session.loadKeymap
  split
  · exact .pure _
  · exact .bind (binding.loadMap _) fun _ => .pure _

end Binding

namespace Registering

variable (registering : Parts.Registering)

include registering

theorem registerDescriptor (descriptor : CommandDescriptor) (body : ActionBody κ) :
    (Session.registerDescriptor (S := S) descriptor body).MadeOf Parts := by
  refine .bind (registering.newAction body) fun action => ?_
  exact registering.registerAction descriptor action

theorem registerCommand (name : String) (keys : Option String) (body : ActionBody κ) :
    (Session.registerCommand (S := S) name keys body).MadeOf Parts := by
  unfold Session.registerCommand
  cases keys with
  | none => exact .bind (registering.registerDescriptor _ body) fun _ => .pure _
  | some keys =>
      dsimp only
      split
      · exact .pure _
      · exact .bind (registering.registerDescriptor _ body) fun _ => .pure _

end Registering

/-! ## Panels -/

theorem Acting.renderComponent (acting : Parts.Acting) (context : RenderContext) (id : String)
    (component : Component κ) :
    (Session.renderComponent (S := S) context id component).MadeOf Parts := by
  unfold Session.renderComponent
  refine .bind (acting.call _ rfl rfl rfl rfl rfl) fun outcome => ?_
  cases outcome with
  | ok node => exact .pure _
  | error panic => exact .pure _

theorem Acting.renderComponents (acting : Parts.Acting) (context : RenderContext)
    (components : List (String × Component κ)) :
    (Session.renderComponents (S := S) context components).MadeOf Parts := by
  induction components with
  | nil => exact .pure []
  | cons entry rest ih =>
      refine .bind (acting.renderComponent context _ _) fun node => ?_
      exact .bind ih fun nodes => .pure _

theorem Acting.compose (acting : Parts.Acting) :
    (Session.compose : Act κ S (Node (Handler κ))).MadeOf Parts := by
  unfold Session.compose
  refine .bind (.read _) fun context => ?_
  refine .bind (.read _) fun panels => ?_
  refine .bind (acting.renderComponents context panels) fun panels => ?_
  refine .bind (.read _) fun status => ?_
  exact .bind (acting.renderComponents context status) fun status => .pure _

/-- Any change of the panel host is made of `Parts`. -/
theorem Panels.of_change (acting : Parts.Acting)
    (note : (Act.note (κ := κ) (S := S) .moved).MadeOf Parts)
    (change : ∀ f : Session κ S → PanelHost κ,
      (Act.change fun session => { session with panelHost := f session }).MadeOf Parts) :
    Parts.Panels where
  registerPanel id component := by
    refine .bind (change _) fun _ => ?_
    exact .bind (change _) fun _ => note
  -- Where nothing was registered under the name, nothing is said to have moved.
  unregisterPanel id := by
    unfold Session.unregisterPanel
    refine .bind (.read _) fun found => .bind (.when ?_) fun _ => .pure found
    refine .bind (change _) fun _ => ?_
    exact .bind (change _) fun _ => note
  registerStatus id component := by
    refine .bind (change _) fun _ => ?_
    exact .bind (change _) fun _ => note
  unregisterStatus id := by
    unfold Session.unregisterStatus
    refine .bind (.read _) fun found => .bind (.when ?_) fun _ => .pure found
    refine .bind (change _) fun _ => ?_
    exact .bind (change _) fun _ => note
  setCurrentPanel panel := by
    unfold Session.setCurrentPanel
    refine .bind (.read _) fun changed => ?_
    refine .bind (change _) fun _ => ?_
    exact .bind (.when note) fun _ => .pure changed
  touch := .bind (change _) fun _ => note
  compose := acting.compose

/-! ## Extensions -/

theorem Registering.contributeAll (registering : Parts.Registering)
    (contributions : List (Contribution (ActionBody κ))) :
    (Session.contributeAll (S := S) contributions).MadeOf Parts := by
  induction contributions with
  | nil => exact .pure _
  | cons contribution rest ih =>
      unfold Session.contributeAll
      split
      · exact .pure _
      · refine .bind ?_ fun first => .bind ih fun others => .pure _
        unfold Session.contribute
        refine .bind (.read _) fun free? => ?_
        exact .bind (registering.registerAction _ _) fun _ => .pure _

theorem Registering.withdraw (registering : Parts.Registering) (item : Contributed (ActionBody κ)) :
    (Session.withdraw (S := S) item).MadeOf Parts := by
  refine .bind ?_ fun _ => .bind (registering.unregisterAction _ _) fun _ => .pure ()
  unfold Session.releaseDefault
  split
  · exact registering.releaseChord _ _
  · exact .pure ()

theorem Registering.withdrawAll (registering : Parts.Registering)
    (items : List (Contributed (ActionBody κ))) :
    (Session.withdrawAll (S := S) items).MadeOf Parts := by
  induction items with
  | nil => exact .pure ()
  | cons item rest ih => exact .bind (registering.withdraw item) fun _ => ih

namespace Extensions

/-! When the registry may change in any way, and its extensions may be called. -/

section

theorem shutDown_of_call (withdrawAll : ∀ items, (Session.withdrawAll (S := S) items).MadeOf Parts)
    (name : String) (entry : ExtensionEntry (Extension κ) (ActionBody κ))
    (deactivate : (Act.call (S := S)
      (.deactivate name entry.generation entry.extension)).MadeOf Parts) :
    (Session.shutDown (S := S) name entry).MadeOf Parts := by
  refine .bind deactivate fun _ => ?_
  refine .bind (withdrawAll _) fun _ => ?_
  exact .pure _

theorem bringUp_of_call
    (contributeAll : ∀ contributions,
      (Session.contributeAll (S := S) contributions).MadeOf Parts)
    (name : String) (entry : ExtensionEntry (Extension κ) (ActionBody κ))
    (listing : (Act.call (S := S) (.listing name entry.generation entry.extension)).MadeOf Parts)
    (activate : (Act.call (S := S)
      (.activate name entry.generation entry.extension)).MadeOf Parts) :
    (Session.bringUp (S := S) name entry).MadeOf Parts := by
  unfold Session.bringUp
  refine .bind listing fun listed => ?_
  cases listed with
  | error panic => exact .pure _
  | ok contributions =>
      refine .bind (contributeAll contributions) fun contributed => ?_
      obtain ⟨contributed, outcome⟩ := contributed
      cases outcome with
      | error cause => exact .pure _
      | ok _ => exact .bind activate fun outcome => .pure _

/-- Only the entry of the extension is replaced in the registry. -/
theorem settle_of_modify (withdrawAll : ∀ items, (Session.withdrawAll (S := S) items).MadeOf Parts)
    (name : String)
    (modify : ∀ f, (Session.changeExtensions (κ := κ) (S := S) fun registry =>
      registry.modify name f).MadeOf Parts) (generation : Nat)
    (contributed : List (Contributed (ActionBody κ))) (result : Except ExtensionError Unit) :
    (Session.settle (S := S) name generation contributed result).MadeOf Parts := by
  unfold Session.settle
  refine .bind (.read _) fun held => ?_
  cases result with
  | ok _ =>
      refine .bind (.when (modify _)) fun _ => ?_
      exact .bind (.when (withdrawAll _)) fun _ => .pure _
  | error cause =>
      refine .bind (.when (modify _)) fun _ => ?_
      exact .bind (withdrawAll _) fun _ => .pure _

variable (registering : Parts.Registering)
  (change : ∀ f, (Session.changeExtensions (κ := κ) (S := S) f).MadeOf Parts)
  (call : ∀ call : Call κ, call.isLifecycle = true → (Act.call (S := S) call).MadeOf Parts)

include registering change call

theorem unregister_of_change (name : String) :
    (Session.unregister name : Act κ S Bool).MadeOf Parts := by
  unfold Session.unregister
  refine .bind (.read _) fun entry? => ?_
  refine .bind (change _) fun _ => ?_
  cases entry? with
  | none => exact .pure false
  | some entry =>
      exact .bind (shutDown_of_call registering.withdrawAll name entry (call _ rfl)) fun _ =>
        .pure true

/-- Any change of the registry is made of `Parts`, and so is every call of an extension. -/
theorem of_change : Parts.Extensions where
  register name extension := by
    -- An entry under the name is taken out first.
    refine .bind (unregister_of_change registering change call name) fun _ => ?_
    exact change _
  unregister := unregister_of_change registering change call
  activate name := by
    unfold Session.activate
    refine .bind (.read _) fun entry? => ?_
    cases entry? with
    | none => exact .pure _
    | some entry =>
        apply MadeOf.ite
        · exact .pure _
        have bringUp := bringUp_of_call registering.contributeAll name entry
          (call _ rfl) (call _ rfl)
        refine .bind (change _) fun _ => .bind bringUp fun brought => ?_
        exact settle_of_modify registering.withdrawAll _ (fun _ => change _) _ _ _
  deactivate name := by
    unfold Session.deactivate
    refine .bind (.read _) fun entry? => ?_
    cases entry? with
    | none => exact .pure _
    | some entry =>
        apply MadeOf.ite
        · exact .pure _
        have shutDown := shutDown_of_call registering.withdrawAll name entry (call _ rfl)
        refine .bind (change _) fun _ => ?_
        exact .bind shutDown fun _ => .pure _

end

variable (extensions : Parts.Extensions)

include extensions

theorem activateFrom (count : Nat) (names : List String) :
    (Session.activateFrom count names : Act κ S Nat).MadeOf Parts := by
  induction names generalizing count with
  | nil => exact .pure count
  | cons name rest ih =>
      refine .bind (extensions.activate name) fun result => ?_
      split
      · exact ih _
      · exact ih _
      · exact ih _

theorem deactivateEach (names : List String) :
    (Session.deactivateEach names : Act κ S Unit).MadeOf Parts := by
  induction names with
  | nil => exact .pure ()
  | cons name rest ih =>
      refine .bind (.read _) fun active => .bind (.when ?_) fun _ => ih
      exact .bind (extensions.deactivate name) fun _ => .pure ()

theorem deactivateAll : (Session.deactivateAll : Act κ S Unit).MadeOf Parts := by
  refine .bind (.read _) fun names => ?_
  exact extensions.deactivateEach names.reverse

theorem loadExtension (name : String) (extension : Extension κ) :
    (Session.loadExtension (S := S) name extension).MadeOf Parts := by
  unfold Session.loadExtension
  refine .bind (extensions.register name extension) fun _ => ?_
  refine .bind (extensions.activate name) fun result => ?_
  cases result with
  | ok activated => exact .pure activated
  | error cause => exact .pure false

end Extensions

/-! ## The shell -/

section

variable
  (note : ∀ entry : Entry κ, entry.isDisplay = true → (Act.note (S := S) entry).MadeOf Parts)
  (change : ∀ (f : Session κ S → Option ShellState) (g : Session κ S → Bool),
    (Act.change fun session =>
      { session with shell? := f session, closed := g session }).MadeOf Parts)

include note change

/-- Ticks are made of passes and renders of the panels. -/
theorem tick_of_change (runDue : (Session.runDue : Act κ S Nat).MadeOf Parts)
    (renderPanels : (Session.renderPanels : Act κ S RenderReport).MadeOf Parts) :
    (Session.tick : Act κ S Session.TickReport).MadeOf Parts := by
  unfold Session.tick
  refine .bind runDue fun tasksRun => ?_
  refine .bind (.read _) fun version => ?_
  refine .bind (.read _) fun displayed => .ite (.pure _) ?_
  refine .bind (.read _) fun context => ?_
  refine .bind (note _ rfl) fun _ => ?_
  refine .bind renderPanels fun report => ?_
  refine .bind (change _ fun session => session.closed) fun _ => ?_
  exact .bind (note _ rfl) fun _ => .pure _

end

section

variable {allowed : Request κ → Prop} (panels : Parts.Panels) (core : Parts.Core allowed)

include panels core

theorem Panels.renderPanels : (Session.renderPanels : Act κ S RenderReport).MadeOf Parts := by
  refine .bind panels.compose fun tree => ?_
  exact core.render tree

/-- Any change of the shell is made of `Parts`. -/
theorem Shell.of_change
    (note : ∀ entry : Entry κ, entry.isDisplay = true → (Act.note (S := S) entry).MadeOf Parts)
    (change : ∀ (f : Session κ S → Option ShellState) (g : Session κ S → Bool),
      (Act.change fun session =>
        { session with shell? := f session, closed := g session }).MadeOf Parts) :
    Parts.Shell where
  openShell _ := .bind (change _ _) fun _ => note _ rfl
  tick := tick_of_change note change core.runDue (panels.renderPanels core)
  closeShell := change _ _

/-- A class that has renders of any tree has those of the panels. -/
theorem Covers.of_core (outer : Parts.Outer) (events : Parts.Events) (commands : Parts.Commands)
    (extensions : Parts.Extensions) (shell : Parts.Shell) : Parts.Covers allowed := by
  refine ⟨outer, events, commands, panels, extensions, core.toInner, shell, fun _ => ?_⟩
  exact panels.renderPanels core

end

end Act.Class

end EditorShell
