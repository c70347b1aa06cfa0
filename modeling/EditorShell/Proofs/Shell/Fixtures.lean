import EditorShell.Proofs.Run.Everyday
import EditorShell.Proofs.Run.Views

/-!
# What the built-in extensions set up

The built-in extensions listen for events, register commands and components, and remember in a state
of their own what they have to take back.  `Session.fixtures` is all of this, sorted by extension.

What goes on from day to day leaves the fixtures alone (`Code.fixtures_perform`).  The callbacks
that it calls may call others, but none that an extension gets for its activation or
deactivation.
-/

namespace EditorShell

variable {κ S α : Type}

/-! ## Fixtures -/

/-- The fixtures of the `panels` extension. -/
structure KeyFixtures (κ : Type) where
  copies : List PanelsState
  /-- Who listens for keys. -/
  heard : List (Subscription (Listener κ))
  command? : Option (Command (ActionBody κ))

/-- The fixtures of the editor status extension. -/
structure ReadoutFixtures (κ : Type) where
  /-- What each copy has to unsubscribe. -/
  subscriptions : List (List (String × SubscriptionId))
  /-- Who listens for cursor positions. -/
  cursor : List (Subscription (Listener κ))
  /-- Who listens for tabs that are selected. -/
  selected : List (Subscription (Listener κ))
  /-- Who listens for tabs that are closed. -/
  closed : List (Subscription (Listener κ))
  status : List (String × Component κ)

/-- The fixtures of the greeting extension, but for its command. -/
structure GreetingFixtures (κ : Type) where
  /-- The debouncer of each copy. -/
  owned : List (Option DebouncerId)
  /-- Which debouncers have been dropped, by number. -/
  dropped : List Bool
  panels : List (String × Component κ)

/-- The events that a shell and its built-in extensions listen for. -/
def Session.knownEvents : List String :=
  [showPanelEvent, keyPressedEvent, cursorEvent, tabSelectedEvent, tabClosedEvent]

/-- Who listens for other events than these. -/
def EventBus.others {L : Type} (bus : EventBus L) (event : String) : List (Subscription L) :=
  if event ∈ Session.knownEvents then [] else bus.listeners event

/-- What the extensions have set up. -/
structure Fixtures (κ : Type) where
  extensions : ExtensionRegistry (Extension κ) (ActionBody κ)
  sink : ChordSink
  /-- Who listens for panels that are shown. -/
  shown : List (Subscription (Listener κ))
  /-- Who listens for events that are not known. -/
  others : String → List (Subscription (Listener κ))
  keys : KeyFixtures κ
  readout : ReadoutFixtures κ
  greeting : GreetingFixtures κ
  /-- The command of the greeting extension. -/
  command? : Option (Command (ActionBody κ))

/-- The fixtures as they are in a session. -/
def Session.fixtures (session : Session κ S) : Fixtures κ where
  extensions := session.extensions
  sink := session.chordSink
  shown := session.events.listeners showPanelEvent
  others := session.events.others
  keys :=
    { copies := session.builtins.panels
      heard := session.events.listeners keyPressedEvent
      command? := session.commands.get? showPanelCommand }
  readout :=
    { subscriptions := session.builtins.editorStatus.map EditorStatusState.subscriptions
      cursor := session.events.listeners cursorEvent
      selected := session.events.listeners tabSelectedEvent
      closed := session.events.listeners tabClosedEvent
      status := session.panelHost.status.entries }
  greeting :=
    { owned := session.builtins.helloWorld.map HelloWorldState.debouncer?
      dropped := session.debouncers.map Debouncer.dropped
      panels := session.panelHost.panels.entries }
  command? := session.commands.get? sayHelloCommand

/-! ## Acts that leave the fixtures alone -/

/-- Callbacks other than those of extensions leave the fixtures alone. -/
def Caller.Spares (caller : Caller κ S) : Prop :=
  ∀ call session, call.isLifecycle = false →
    (caller.answer call session).2.fixtures = session.fixtures

/-- The acts that leave the fixtures alone if their callbacks do, and activate and deactivate
nothing. -/
def Sparing : Act.Class κ S := fun _ act =>
  ∀ caller : Caller κ S, caller.Spares → ∀ session,
    (act.run caller session).2.fixtures = session.fixtures

namespace Sparing

theorem of_madeOf {act : Act κ S α} (hact : act.MadeOf Sparing) : Sparing α act := by
  refine hact.covered (fun _ _ _ _ => rfl) (fun _ _ _ _ => rfl) (fun hnext => ?_)
    fun {_ _ first next} hfirst hnext => ?_
  · exact fun caller spares session => hnext session caller spares session
  · exact fun caller spares session =>
      (hnext _ caller spares _).trans (hfirst caller spares session)

theorem sees : (Sparing (κ := κ) (S := S)).Sees Session.fixtures Entry.isLifecycle where
  change f hf := .part fun _ _ session => (hf session).view_eq
  note entry _ _ := .part fun _ _ _ => rfl
  call call hcall := .part fun caller spares session => by
    rw [Act.run_call]
    exact spares call (session.noting (.called call)) hcall.1

theorem ordinary : (Sparing (κ := κ) (S := S)).Ordinary :=
  sees.ordinary fun _ _ hlifecycle _ _ => ⟨hlifecycle, fun _ => hlifecycle⟩

theorem note {entry : Entry κ} (hcall : entry.isCall = false) :
    (Act.note (S := S) entry).MadeOf Sparing :=
  sees.note entry hcall (by cases entry <;> first | rfl | cases hcall)

/-! ### The states of copies -/

theorem map_modify {β γ : Type} {f : β → β} {g : β → γ} (hf : ∀ value, g (f value) = g value)
    (list : List β) (index : Nat) : (list.modify index f).map g = list.map g := by
  induction list generalizing index with
  | nil => cases index <;> rfl
  | cons head rest ih =>
      cases index with
      | zero => simp [hf]
      | succ index => simp [ih]

theorem changeEditorStatus (copy : InstanceId) {f : EditorStatusState → EditorStatusState}
    (hf : ∀ state, (f state).subscriptions = state.subscriptions) :
    (Session.changeEditorStatus copy f : Act κ S Unit).MadeOf Sparing := by
  refine sees.aside (fun session => ?_) fun _ => rfl
  unfold Session.fixtures
  dsimp only
  rw [map_modify hf]

theorem changeGreeter (copy : InstanceId) {f : HelloWorldState → HelloWorldState}
    (hf : ∀ state, (f state).debouncer? = state.debouncer?) :
    (Session.changeGreeter copy f : Act κ S Unit).MadeOf Sparing := by
  refine sees.aside (fun session => ?_) fun _ => rfl
  unfold Session.fixtures
  dsimp only
  rw [map_modify hf]

/-! ### Debouncers -/

/-- A debouncer may change as long as it stays dropped or stays. -/
theorem fixtures_setDebouncer (session : Session κ S) (id : DebouncerId) {debouncer : Debouncer}
    (hdropped : debouncer.dropped = (session.debouncer id).dropped) :
    ({ session with debouncers := session.debouncers.set id debouncer } : Session κ S).fixtures =
      session.fixtures := by
  have hmap : (session.debouncers.set id debouncer).map Debouncer.dropped =
      session.debouncers.map Debouncer.dropped := by
    rw [List.map_set, hdropped]
    unfold Session.debouncer
    apply List.ext_getElem?
    intro other
    rw [List.getElem?_set]
    by_cases heq : id = other
    · subst heq
      by_cases hlt : id < session.debouncers.length <;> simp [hlt]
    · simp [heq]
  unfold Session.fixtures
  dsimp only
  rw [hmap]

theorem markStarted (id : DebouncerId) (task : TaskId) :
    (Session.markStarted id task : Act κ S Unit).MadeOf Sparing := by
  refine .part fun caller _ session => ?_
  unfold Session.markStarted
  simp only [Act.run_bind, Act.run_read, Act.run_ite]
  split
  · exact fixtures_setDebouncer session id rfl
  · rfl

theorem debounce (id : DebouncerId) (body : TaskBody κ) :
    (Session.debounce id body : Act κ S Unit).MadeOf Sparing := by
  refine .part fun caller _ session => ?_
  unfold Session.debounce
  simp only [Act.run_bind, Act.run_read, Act.run_ite]
  split
  · rfl
  · cases (session.debouncer id).latest? with
    | none => exact fixtures_setDebouncer session id rfl
    | some latest => exact fixtures_setDebouncer session id rfl

/-! ### The bridge and passes -/

theorem exchange (f : Session κ S → Session κ S)
    (hf : ∀ session : Session κ S, session.Exchanges (f session)) :
    (Act.change f).MadeOf Sparing := by
  refine sees.change f fun session => ?_
  obtain ⟨heq, noted, hjournal, hnoted⟩ := hf session
  refine ⟨by rw [heq]; rfl, noted, hjournal, fun entry hentry => ⟨(hnoted entry hentry).1, ?_⟩⟩
  have hrecord := (hnoted entry hentry).1
  cases entry <;> first | rfl | cases hrecord

theorem host (message : HostMessage) :
    (Act.call (S := S) (Call.host (κ := κ) message)).MadeOf Sparing :=
  sees.call _ ⟨rfl, fun _ => rfl⟩

theorem cancelTask (id : TaskId) (reason : CancellationReason) :
    (Session.cancelTask id reason : Act κ S Unit).MadeOf Sparing :=
  sees.aside (fun _ => rfl) fun _ => rfl

theorem bridged : (Sparing (κ := κ) (S := S)).Bridged := by
  refine .of_exchange exchange host (fun deadline job _ => ?_) cancelTask fun _ _ => note rfl
  refine .bind (.read _) fun id => .bind (sees.change _ fun session => ⟨rfl, ?_⟩) fun _ => .pure id
  exact ⟨[.scheduled ⟨session.scheduler.nextId, deadline, job⟩], rfl,
    by simp [Entry.isRecord, Entry.isLifecycle]⟩

theorem runDue : (Session.runDue : Act κ S Nat).MadeOf Sparing := by
  have turns : (Sparing (κ := κ) (S := S)).Turns := by
    refine ⟨markStarted, fun call hjob => ?_, bridged.resolveRequested⟩
    have hlifecycle := Call.isLifecycle_of_isJob hjob
    exact sees.call call ⟨hlifecycle, fun _ => hlifecycle⟩
  refine turns.runDue (fun entry hpass => note ?_)
    (Act.Class.takeBatch_of_change fun _ => sees.aside (fun _ => rfl) fun _ => rfl)
  cases entry <;> first | rfl | cases hpass

theorem renderPanels : (Session.renderPanels : Act κ S RenderReport).MadeOf Sparing :=
  .bind ordinary.compose fun _ => bridged.placing.render (Act.Class.unmountAll_of_unmount
    (Act.Class.unmount_of_exchange exchange host cancelTask fun _ => note rfl)) _

/-! ### Everything -/

theorem emit (event : String) (payload : Json.Value) :
    (Session.emit event payload : Act κ S EmitReport).MadeOf Sparing :=
  Act.Class.emit_of_call (fun _ _ _ => sees.call _ ⟨rfl, fun _ => rfl⟩)
    (fun entry hevent => note (by cases entry <;> first | rfl | cases hevent)) event payload

theorem touch : (Session.touch : Act κ S Unit).MadeOf Sparing :=
  .bind (sees.aside (fun _ => rfl) fun _ => rfl) fun _ => note rfl

/-- What goes on from day to day leaves the fixtures alone. -/
theorem everyday : (Sparing (κ := κ) (S := S)).Everyday where
  clock _ := sees.aside (fun _ => rfl) fun _ => rfl
  sayHello := Act.Class.sayHello_of_change fun copy _ hf => changeGreeter copy hf
  showPanel _ := emit _ _
  tellKey := emit _
  emit := emit
  followCursor := Act.Class.followCursor_of_change (fun copy _ hf => changeEditorStatus copy hf)
    touch
  followLanguage := Act.Class.followLanguage_of_change (fun copy _ hf => changeEditorStatus copy hf)
    touch
  settleName := Act.Class.settleName_of_change (fun copy _ hf => changeGreeter copy hf) touch
  execute := Act.Class.Commands.execute_of_call ordinary.toActing
  press := Act.Class.Commands.press_of_change ordinary.toActing
    (fun entry hpress => note (by cases entry <;> first | rfl | cases hpress))
    fun _ => sees.aside (fun _ => rfl) fun _ => rfl
  setCurrentPanel panel := by
    refine .bind (.read _) fun changed => .bind (sees.aside (fun _ => rfl) fun _ => rfl) fun _ => ?_
    exact .bind (.when (note rfl)) fun _ => .pure changed
  resolveHandle := bridged.resolveHandle
  invoke := bridged.invoke
  debounce := debounce
  tick := Act.Class.tick_of_change
    (fun entry hdisplay => note (by cases entry <;> first | rfl | cases hdisplay))
    (fun _ _ => sees.aside (fun _ => rfl) fun _ => rfl) runDue renderPanels

theorem perform (request : Request κ) (heveryday : request.isEveryday = true) :
    (request.perform (S := S)).MadeOf Sparing :=
  everyday.perform (ordinary.dispatchEvent bridged.countHandlerFailure) request heveryday

end Sparing

/-- Callbacks that only keep a shell going leave the fixtures alone, however deep they nest. -/
theorem Code.spares {code : Code κ S}
    (within : code.Within fun request => request.isEveryday = true) (depth : Nat) :
    (code.caller depth).Spares := by
  induction depth with
  | zero => exact fun _ _ _ => rfl
  | succ depth ih =>
      intro call session hlifecycle
      have hrespond : (code.respond call).MadeOf Sparing :=
        Sparing.everyday.respond (fun uses => .program (fun _ => Sparing.sees.aside (fun _ => rfl)
          fun _ => rfl) Sparing.perform uses) within call hlifecycle
      exact Sparing.of_madeOf hrespond (code.caller depth) ih session

/-- An everyday request leaves the fixtures alone. -/
theorem Code.fixtures_perform {code : Code κ S}
    (within : code.Within fun request => request.isEveryday = true) {request : Request κ}
    (heveryday : request.isEveryday = true) (session : Session κ S) :
    (code.run request.perform session).2.fixtures = session.fixtures :=
  Sparing.of_madeOf (Sparing.perform request heveryday) _ (Code.spares within _) session

end EditorShell
