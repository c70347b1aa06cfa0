import EditorShell.Proofs.Shell.Displaying
import EditorShell.Proofs.Shell.Managing
import EditorShell.Proofs.Widget.Interaction

/-!
# What leaves names alone

A name is greeted when it has been typed and typing has paused.  What this depends on is the
`Naming` of a session: the clock, the debouncers, the greeters, and whether the greeting extension
is still the one that was activated.

No callback touches it but the handler of typed names, the jobs and the extension itself
(`Code.namesStay_plain`).  So nothing that is asked of a shell does, apart from ticks, typing and
the clock, and what activates or deactivates the greeting extension (`Session.namesStay_perform`).
-/

namespace EditorShell

open Session

variable {κ S α : Type}

/-! ## What names depend on -/

/-- What the greeting of names depends on. -/
structure Naming (κ : Type) where
  clock : Instant
  debouncers : List Debouncer
  /-- The name that each copy of the greeting extension greets, and its debouncer. -/
  greeters : List (String × Option DebouncerId)
  /-- The entry of the greeting extension. -/
  entry? : Option (ExtensionEntry (Extension κ) (ActionBody κ))

/-- The name of a greeter and its debouncer. -/
def HelloWorldState.naming (state : HelloWorldState) : String × Option DebouncerId :=
  (state.name, state.debouncer?)

/-- What a session knows of the names that are typed. -/
def Session.naming (session : Session κ S) : Naming κ where
  clock := session.clock
  debouncers := session.debouncers
  greeters := session.builtins.helloWorld.map HelloWorldState.naming
  entry? := session.extensions.get? Builtin.helloWorld.name

/-- Whether a call tells the greeting extension of a name, or that it is activated or
deactivated. -/
def Call.isNaming : Call κ → Bool
  | .interaction (.nameTyped _ _) _ | .task _ _ => true
  | call => call.equipsGreeter

/-- Whether an entry tells of such a call or of a job of an extension. -/
def Entry.isNaming : Entry κ → Bool
  | .scheduled task => task.job.isOfProgram
  | .called call | .returned call _ => call.isNaming
  | _ => false

theorem Entry.isOfTask_of_isNaming_eq_false {entry : Entry κ} (hentry : entry.isNaming = false) :
    entry.isOfTask = false := by
  cases entry with
  | scheduled task => exact hentry
  | called call => cases call <;> first | rfl | cases hentry
  | _ => rfl

namespace Session

/-- Nothing changes that names depend on, and nothing is noted of tasks. -/
structure NamesStay (before after : Session κ S) : Prop where
  naming_eq : after.naming = before.naming
  noted : ∃ noted, after.journal = noted ++ before.journal ∧
    ∀ entry ∈ noted, Entry.isOfTask entry = false

theorem NamesStay.refl (session : Session κ S) : session.NamesStay session :=
  ⟨rfl, [], rfl, by simp⟩

theorem NamesStay.trans {first second third : Session κ S} (hfirst : first.NamesStay second)
    (hsecond : second.NamesStay third) : first.NamesStay third := by
  obtain ⟨hnaming, noted, hjournal, hnoted⟩ := hfirst
  obtain ⟨hnaming', later, hjournal', hlater⟩ := hsecond
  refine ⟨hnaming'.trans hnaming, later ++ noted, ?_, fun entry hentry => ?_⟩
  · rw [hjournal', hjournal, List.append_assoc]
  · exact (List.mem_append.1 hentry).elim (hlater entry) (hnoted entry)

/-- The greeting extension is active as long as its entry stays. -/
theorem NamesStay.isActive_eq {before after : Session κ S} (stay : before.NamesStay after) :
    after.extensions.isActive Builtin.helloWorld.name =
      before.extensions.isActive Builtin.helloWorld.name := by
  have hentry : after.extensions.get? Builtin.helloWorld.name =
      before.extensions.get? Builtin.helloWorld.name := congrArg Naming.entry? stay.naming_eq
  unfold ExtensionRegistry.isActive ExtensionRegistry.state?
  rw [hentry]

end Session

/-! ## Acts and callbacks -/

/-- The acts that leave names alone, whatever they are run in. -/
def Unnaming (caller : Caller κ S) : Act.Class κ S :=
  fun _ act => ∀ session : Session κ S, session.NamesStay (act.run caller session).2

namespace Unnaming

theorem of_madeOf {caller : Caller κ S} {act : Act κ S α} (hact : act.MadeOf (Unnaming caller)) :
    Unnaming caller α act := by
  refine hact.covered (fun _ session => .refl session) (fun _ session => .refl session)
    (fun hnext session => hnext session session) fun {_ _ first next} hfirst hnext session => ?_
  exact (hfirst session).trans (hnext _ _)

variable {caller : Caller Empty S}

theorem hidden {call : Call Empty} (hcall : call.isNaming = false) :
    call.Hidden Entry.isNaming := ⟨hcall, fun _ => hcall⟩

section

variable (answers : ∀ call session, Call.isNaming call = false →
  Session.NamesStay session (caller.answer call session).2)

include answers

theorem sees : (Unnaming caller).Sees naming Entry.isNaming where
  change f hf := by
    refine .part fun session => ?_
    obtain ⟨hnaming, noted, hjournal, hnoted⟩ := hf session
    have stay : session.NamesStay (f session) := ⟨hnaming, noted, hjournal, fun entry hentry =>
      Entry.isOfTask_of_isNaming_eq_false (hnoted entry hentry).2⟩
    exact stay
  note entry _ hentry := .part fun session =>
    ⟨rfl, [entry], rfl, by simp [Entry.isOfTask_of_isNaming_eq_false hentry]⟩
  call call hcall := by
    have htask : (Entry.called call).isOfTask = false :=
      Entry.isOfTask_of_isNaming_eq_false hcall.1
    exact .bind (.part fun _ => ⟨rfl, [_], rfl, by simp [htask]⟩) fun _ =>
      .bind (.part fun session => answers call session hcall.1) fun _ =>
        .bind (.part fun _ => ⟨rfl, [_], rfl, by simp [Entry.isOfTask]⟩) fun _ => .pure _

theorem acting : (Unnaming caller).Acting :=
  (sees answers).acting fun call _ hlifecycle hjob _ hinteraction => hidden (by
    cases call with
    | task id body => cases hjob
    | interaction handler event => cases hinteraction
    | activate name generation extension => cases hlifecycle
    | deactivate name generation extension => cases hlifecycle
    | _ => rfl)

theorem events : (Unnaming caller).Events :=
  (sees answers).events (fun _ _ _ => hidden rfl)
    (fun entry hevent => by cases entry <;> first | rfl | cases hevent) fun _ _ => rfl

theorem commands : (Unnaming caller).Commands :=
  .of_change (acting answers)
    ((sees answers).note_of (fun _ hpress => Entry.isCall_eq_false (.inr (.inl hpress)))
      fun entry hpress => by cases entry <;> first | rfl | cases hpress)
    (fun _ => (sees answers).aside (fun _ => rfl) fun _ => rfl)
    fun _ => (sees answers).aside (fun _ => rfl) fun _ => rfl

theorem panels : (Unnaming caller).Panels :=
  .of_change (acting answers) ((sees answers).note .moved rfl rfl)
    fun _ => (sees answers).aside (fun _ => rfl) fun _ => rfl

theorem asking : (Unnaming caller).Asking := by
  refine (sees answers).asking (fun _ => hidden rfl) (fun _ _ => rfl) (fun _ => id)
    (fun _ _ _ => rfl) fun session later hlater => ?_
  rw [hlater]
  rfl

theorem changeEditorStatus (copy : InstanceId) (f : EditorStatusState → EditorStatusState) :
    (Session.changeEditorStatus copy f).MadeOf (Unnaming caller) :=
  (sees answers).aside (fun _ => rfl) fun _ => rfl

/-- A greeter may change but for its name and its debouncer. -/
theorem changeGreeter (copy : InstanceId) {f : HelloWorldState → HelloWorldState}
    (hf : ∀ state, (f state).naming = state.naming) :
    (Session.changeGreeter copy f).MadeOf (Unnaming caller) := by
  refine (sees answers).aside (fun session => ?_) fun _ => rfl
  unfold Session.naming
  dsimp only
  rw [Sparing.map_modify hf]

theorem reacting : (Unnaming caller).Reacting where
  sayHello copy := .bind (changeGreeter answers copy fun _ => rfl) fun _ => .pure _
  showPanel panel := (events answers).showPanel panel
  tellKey payload := (events answers).emit _ payload
  execute := (commands answers).execute
  press := (commands answers).press
  resolveHandle := (asking answers).resolveHandle
  invoke := (asking answers).invoke

theorem equipping : (Unnaming caller).Equipping where
  subscribe := (events answers).subscribe
  unsubscribe := (events answers).unsubscribe
  newAction := (commands answers).newAction
  registerCommand := (commands answers).registerCommand
  unregisterCommand := (commands answers).unregisterCommand
  registerStatus := (panels answers).registerStatus
  unregisterStatus := (panels answers).unregisterStatus
  setKeyListener _ _ := (sees answers).aside (fun _ => rfl) fun _ => rfl
  changeEditorStatus copy f _ := changeEditorStatus answers copy f

theorem respond {call : Call Empty} (hcall : call.isNaming = false) :
    ((Code.plain (S := S)).respond call).MadeOf (Unnaming caller) := by
  have program : ∀ {R : Type} {program : Program Empty S R}, (program.Uses fun _ => False) →
      program.toAct.MadeOf (Unnaming caller) := fun uses =>
    .program (fun _ => (sees answers).aside (fun _ => rfl) fun _ => rfl) nofun uses
  have within := Code.within_plain (S := S) fun _ => False
  have touch := (panels answers).touch
  cases hlifecycle : call.isLifecycle with
  | true =>
      refine (equipping answers).respond program within call hlifecycle ?_
      cases call <;> first | exact hcall | rfl
  | false =>
      have readouts : ∀ copy (f : EditorStatusState → EditorStatusState),
          (∀ state, (f state).subscriptions = state.subscriptions) →
            (Session.changeEditorStatus copy f).MadeOf (Unnaming caller) :=
        fun copy f _ => changeEditorStatus answers copy f
      apply (reacting answers).respond program within call hlifecycle
      · exact fun _ _ payload _ =>
          Act.Class.takeShown_of_setCurrentPanel (panels answers).setCurrentPanel payload
      · exact fun _ _ copy payload _ =>
          Act.Class.followCursor_of_change readouts touch copy payload
      · exact fun _ _ copy payload _ =>
          Act.Class.followLanguage_of_change readouts touch copy payload
      · rintro copy debouncer event rfl
        cases hcall
      · rintro id copy name rfl
        cases hcall

end

end Unnaming

/-- Callbacks that tell the greeting extension of nothing leave the names alone, however deep they
nest. -/
theorem Code.namesStay_plain (depth : Nat) (call : Call Empty) (session : Session Empty S)
    (hcall : call.isNaming = false) :
    session.NamesStay ((Code.plain.caller depth).answer call session).2 := by
  induction depth generalizing call session with
  | zero => exact .refl session
  | succ depth ih =>
      exact Unnaming.of_madeOf (Unnaming.respond (fun call session => ih call session) hcall)
        session

/-! ## Managing extensions -/

namespace Unnaming

variable {caller : Caller Empty S} (answers : ∀ call session, Call.isNaming call = false →
  Session.NamesStay session (caller.answer call session).2) {kind : Builtin}
  (hkind : kind ≠ .helloWorld)

include answers hkind

theorem changeExtensions
    {f : ExtensionRegistry (Extension Empty) (ActionBody Empty) →
      ExtensionRegistry (Extension Empty) (ActionBody Empty)}
    (hothers : ∀ registry name, name ≠ kind.name → (f registry).get? name = registry.get? name) :
    (Session.changeExtensions f).MadeOf (Unnaming caller) := by
  refine (sees answers).aside (fun session => ?_) fun _ => rfl
  have hname : Builtin.helloWorld.name ≠ kind.name := Builtin.name_injective.ne hkind.symm
  exact congrArg (fun entry? => { session.naming with entry? := entry? })
    (hothers session.extensions _ hname)

omit answers in
theorem isNaming_eq_false (name : String) (generation : Nat) (copy : InstanceId) :
    (Call.activate (κ := Empty) name generation (.builtin kind copy)).isNaming = false ∧
      (Call.deactivate (κ := Empty) name generation (.builtin kind copy)).isNaming = false := by
  cases kind <;> first | exact ⟨rfl, rfl⟩ | exact absurd rfl hkind

theorem bringUp {entry : ExtensionEntry (Extension Empty) (ActionBody Empty)}
    (hextension : entry.extension = .builtin kind 0) :
    (Session.bringUp kind.name entry).MadeOf (Unnaming caller) := by
  refine Act.Class.Extensions.bringUp_of_call (commands answers).contributeAll _ _ ?_ ?_
  · exact (sees answers).call _ (hidden rfl)
  · rw [hextension]
    exact (sees answers).call _ (hidden (isNaming_eq_false hkind _ _ _).1)

theorem shutDown {entry : ExtensionEntry (Extension Empty) (ActionBody Empty)}
    (hextension : entry.extension = .builtin kind 0) :
    (Session.shutDown kind.name entry).MadeOf (Unnaming caller) := by
  refine Act.Class.Extensions.shutDown_of_call (commands answers).withdrawAll _ _ ?_
  rw [hextension]
  exact (sees answers).call _ (hidden (isNaming_eq_false hkind _ _ _).2)

theorem settle (generation : Nat) (contributed : List (Contributed (ActionBody Empty)))
    (result : Except ExtensionError Unit) :
    (Session.settle kind.name generation contributed result).MadeOf (Unnaming caller) :=
  Act.Class.Extensions.settle_of_modify (commands answers).withdrawAll _
    (fun f => changeExtensions answers hkind fun registry _ hname =>
      registry.get?_modify_of_ne hname f) generation contributed result

end Unnaming

namespace Session

variable {session : Session Empty S} (depth : Nat)

/-- Another extension is activated, or the greeting extension is active already. -/
theorem namesStay_activate (inOrder : session.fixtures.InOrder) {name : String}
    (hname : name = Builtin.helloWorld.name →
      session.extensions.isActive Builtin.helloWorld.name = true) :
    session.NamesStay ((activate name).run (Code.plain.caller depth) session).2 := by
  have answers := Code.namesStay_plain (S := S) depth
  by_cases hstored : session.extensions.state? name = some .registered
  · obtain ⟨entry, hentry, hstate⟩ := Option.map_eq_some_iff.1 hstored
    obtain ⟨kind, rfl, fits⟩ := exists_fits inOrder hentry
    obtain ⟨-, -, hextension⟩ := fits.has
    -- An extension that is active is not activated again, so it is another one that is brought up.
    have hkind : kind ≠ .helloWorld := by
      rintro rfl
      have hactive := of_decide_eq_true (hname rfl)
      cases hstored.symm.trans hactive
    rw [run_activate hentry hstate]
    have hactivation : (do
        changeExtensions fun registry => registry.setState kind.name .activating
        let brought ← bringUp kind.name entry
        settle kind.name entry.generation brought.1 brought.2).MadeOf
          (Unnaming (S := S) (Code.plain.caller depth)) :=
      .bind (Unnaming.changeExtensions answers hkind fun registry _ hother =>
          registry.get?_modify_of_ne hother _) fun _ =>
        .bind (Unnaming.bringUp answers hkind hextension) fun brought =>
          Unnaming.settle answers hkind _ _ _
    exact Unnaming.of_madeOf hactivation session
  · rw [run_activate_of_ne hstored]
    exact .refl session

theorem namesStay_deactivate (inOrder : session.fixtures.InOrder) {name : String}
    (hname : name ≠ Builtin.helloWorld.name) :
    session.NamesStay ((deactivate name).run (Code.plain.caller depth) session).2 := by
  have answers := Code.namesStay_plain (S := S) depth
  by_cases hstored : session.extensions.state? name = some .active
  · obtain ⟨entry, hentry, hstate⟩ := Option.map_eq_some_iff.1 hstored
    obtain ⟨kind, rfl, fits⟩ := exists_fits inOrder hentry
    obtain ⟨-, -, hextension⟩ := fits.has
    have hkind : kind ≠ .helloWorld := fun heq => hname (congrArg Builtin.name heq)
    rw [run_deactivate hentry hstate]
    have hshut : (do
        changeExtensions fun registry => registry.setInactive kind.name
        shutDown kind.name entry).MadeOf (Unnaming (S := S) (Code.plain.caller depth)) :=
      .bind (Unnaming.changeExtensions answers hkind fun registry _ hother =>
          registry.get?_modify_of_ne hother _) fun _ =>
        Unnaming.shutDown answers hkind hextension
    exact Unnaming.of_madeOf hshut session
  · rw [run_deactivate_of_ne hstored]
    exact .refl session

theorem namesStay_unregister (inOrder : session.fixtures.InOrder) {name : String}
    (hname : name ≠ Builtin.helloWorld.name) :
    session.NamesStay ((unregister name).run (Code.plain.caller depth) session).2 := by
  have answers := Code.namesStay_plain (S := S) depth
  cases hentry : session.extensions.get? name with
  | none =>
      rw [run_unregister_of_none hentry]
      have hstays := (session.extensions.get?_remove name Builtin.helloWorld.name).trans
        (if_neg hname.symm)
      exact ⟨congrArg (fun entry? => { session.naming with entry? := entry? }) hstays, [], rfl,
        by simp⟩
  | some entry =>
      obtain ⟨kind, rfl, fits⟩ := exists_fits inOrder hentry
      obtain ⟨-, -, hextension⟩ := fits.has
      have hkind : kind ≠ .helloWorld := fun heq => hname (congrArg Builtin.name heq)
      rw [run_unregister hentry]
      -- Another entry is removed and shut down, so the one that is compared stays.
      have hshut : (do
          changeExtensions fun registry => registry.remove kind.name
          shutDown kind.name entry).MadeOf (Unnaming (S := S) (Code.plain.caller depth)) :=
        .bind (Unnaming.changeExtensions answers hkind fun registry other hother =>
            (registry.get?_remove kind.name other).trans (if_neg hother)) fun _ =>
          Unnaming.shutDown answers hkind hextension
      exact Unnaming.of_madeOf hshut session

/-- An extension that is shut down has no say in what extensions there are. -/
theorem extensions_shutDown (inOrder : session.fixtures.InOrder) {kind : Builtin}
    {entry : ExtensionEntry (Extension Empty) (ActionBody Empty)}
    (hentry : session.extensions.get? kind.name = some entry)
    (extensions : ExtensionRegistry (Extension Empty) (ActionBody Empty)) :
    ((shutDown kind.name entry).run (Code.plain.caller (depth + 1))
      { session with extensions := extensions }).2.extensions = extensions := by
  have fits : session.fixtures.Fits kind (some entry) := hentry ▸ inOrder.fits kind
  obtain ⟨_, has, hextension⟩ := fits.has
  obtain ⟨same, -⟩ := has_shutDown Code.plain depth kind.name entry
    { session with extensions := extensions } (has.withExtensions extensions) hextension
  exact same.extensions_eq

/-- What has been deactivated is not active. -/
theorem isActive_deactivate (inOrder : session.fixtures.InOrder) (kind : Builtin) :
    ((deactivate kind.name).run (Code.plain.caller (depth + 1)) session).2.extensions.isActive
      kind.name = false := by
  unfold ExtensionRegistry.isActive
  rw [decide_eq_false_iff_not]
  by_cases hstored : session.extensions.state? kind.name = some .active
  · obtain ⟨entry, hentry, hstate⟩ := Option.map_eq_some_iff.1 hstored
    have hinactive : (session.extensions.setInactive kind.name).get? kind.name =
        some { entry with state := .registered, contributed := [] } :=
      ExtensionRegistry.get?_modify_self hentry _
    rw [run_deactivate hentry hstate, extensions_shutDown depth inOrder hentry,
      ExtensionRegistry.state?, hinactive]
    simp
  · rw [run_deactivate_of_ne hstored]
    exact hstored

/-- What has been unregistered is not active. -/
theorem isActive_unregister (inOrder : session.fixtures.InOrder) (kind : Builtin) :
    ((unregister kind.name).run (Code.plain.caller (depth + 1)) session).2.extensions.isActive
      kind.name = false := by
  have hremoved : ((unregister kind.name).run (Code.plain.caller (depth + 1))
      session).2.extensions = session.extensions.remove kind.name := by
    cases hentry : session.extensions.get? kind.name with
    | none => rw [run_unregister_of_none hentry]
    | some entry => rw [run_unregister hentry, extensions_shutDown depth inOrder hentry]
  rw [hremoved]
  unfold ExtensionRegistry.isActive ExtensionRegistry.state?
  rw [ExtensionRegistry.get?_remove, if_pos rfl]
  rfl

theorem namesStay_activateFrom (inOrder : session.fixtures.InOrder)
    (hactive : session.extensions.isActive Builtin.helloWorld.name = true) (count : Nat)
    (names : List String) : session.NamesStay
      ((activateFrom count names).run (Code.plain.caller (depth + 1)) session).2 := by
  induction names generalizing session count with
  | nil => exact .refl session
  | cons name rest ih =>
      have stay := namesStay_activate (depth + 1) inOrder
        fun _ : name = Builtin.helloWorld.name => hactive
      have activated := inOrder_activate Code.plain depth inOrder name
      have hstill := stay.isActive_eq.trans hactive
      unfold activateFrom
      rw [Act.run_bind]
      split
      · exact stay.trans (ih activated hstill (count + 1))
      · exact stay.trans (ih activated hstill count)
      · exact stay.trans (ih activated hstill count)

/-- Extensions are deactivated, but the greeting extension stays active. -/
theorem namesStay_deactivateEach (inOrder : session.fixtures.InOrder) {names : List String}
    (hactive : ((deactivateEach names).run (Code.plain.caller (depth + 1))
      session).2.extensions.isActive Builtin.helloWorld.name = true) :
    session.NamesStay
      ((deactivateEach names).run (Code.plain.caller (depth + 1)) session).2 := by
  induction names generalizing session with
  | nil => exact .refl session
  | cons name rest ih =>
      unfold deactivateEach at hactive ⊢
      simp only [Act.run_bind, Act.run_read, Act.run_when] at hactive ⊢
      split at hactive
      · rename_i hstored
        rw [if_pos hstored]
        have later := ih (inOrder_deactivate Code.plain depth inOrder name) hactive
        have hstill := later.isActive_eq.symm.trans hactive
        refine .trans (namesStay_deactivate (depth + 1) inOrder ?_) later
        rintro rfl
        cases hstill.symm.trans (isActive_deactivate depth inOrder .helloWorld)
      · rename_i hstored
        rw [if_neg hstored]
        exact ih inOrder hactive

/-- Managing extensions leaves names alone if the greeting extension is active before and after. -/
theorem namesStay_manage {request : Request Empty} (hmanaging : request.isManaging = true)
    (inOrder : session.fixtures.InOrder)
    (hactive : session.extensions.isActive Builtin.helloWorld.name = true)
    (hstill : (request.perform.run (Code.plain.caller (depth + 1)) session).2.extensions.isActive
      Builtin.helloWorld.name = true) :
    session.NamesStay (request.perform.run (Code.plain.caller (depth + 1)) session).2 := by
  cases request with
  | activate name => exact namesStay_activate (depth + 1) inOrder fun _ => hactive
  | activateAll names => exact namesStay_activateFrom depth inOrder hactive 0 names
  | deactivate name =>
      refine namesStay_deactivate (depth + 1) inOrder ?_
      rintro rfl
      cases hstill.symm.trans (isActive_deactivate depth inOrder .helloWorld)
  | deactivateAll => exact namesStay_deactivateEach depth inOrder hstill
  | unregister name =>
      refine namesStay_unregister (depth + 1) inOrder ?_
      rintro rfl
      cases hstill.symm.trans (isActive_unregister depth inOrder .helloWorld)
  | _ => cases hmanaging

/-! ## Requests -/

/-- The handler of an interaction; there is none if the widget is not mounted. -/
def handlerOf? (session : Session κ S) (event : UiEvent) : Option (Handler κ) :=
  if session.bridge.isMounted event.node then
    (session.bridge.handlers.get? event.node).bind fun handlers => handlers event.kind
  else none

/-- An interaction runs the handler of its widget, and at most its panic is counted after that. -/
theorem run_dispatchEvent (caller : Caller κ S) (session : Session κ S) (event : UiEvent) :
    ((dispatchEvent event).run caller session).2 =
      match session.handlerOf? event with
      | none => session
      | some handler =>
        let called := (Act.call (.interaction handler event)).run caller session
        if called.1.isOk then called.2
        else { called.2 with bridge := called.2.bridge.countHandlerFailure } := by
  unfold handlerOf?
  cases hmounted : session.bridge.isMounted event.node with
  | false =>
      unfold dispatchEvent
      simp [hmounted]
  | true =>
      cases hbound : (session.bridge.handlers.get? event.node).bind fun handlers =>
          handlers event.kind with
      | none =>
          rw [(run_dispatchEvent_of_unbound hbound).1]
          rfl
      | some handler => rw [run_dispatchEvent_of_bound hmounted hbound rfl]; rfl

theorem namesStay_dispatchEvent {event : UiEvent}
    (hhandler : ∀ copy debouncer, session.handlerOf? event ≠ some (.nameTyped copy debouncer)) :
    session.NamesStay ((dispatchEvent event).run (Code.plain.caller depth) session).2 := by
  rw [run_dispatchEvent]
  cases hbound : session.handlerOf? event with
  | none => exact .refl session
  | some handler =>
      have hcall : (Call.interaction handler event).isNaming = false := by
        cases handler with
        | nameTyped copy debouncer => exact absurd hbound (hhandler copy debouncer)
        | _ => rfl
      have stay : session.NamesStay
          ((Act.call (.interaction handler event)).run (Code.plain.caller depth) session).2 :=
        Unnaming.of_madeOf ((Unnaming.sees (Code.namesStay_plain depth)).call _
          (Unnaming.hidden hcall)) session
      dsimp only
      split
      · exact stay
      · exact stay.trans ⟨rfl, [], rfl, by simp⟩

/-- Names stay while a shell is used, if no name is typed, if no time passes and if the greeting
extension stays active. -/
theorem namesStay_perform {request : Request Empty} (husual : request.isUsual = true)
    (htick : request ≠ .tick) (hclock : request.setsClock = false)
    (hhandler : ∀ event copy debouncer, request = .dispatchEvent event →
      session.handlerOf? event ≠ some (.nameTyped copy debouncer))
    (inOrder : session.fixtures.InOrder)
    (hactive : session.extensions.isActive Builtin.helloWorld.name = true)
    (hstill : (request.perform.run (Code.plain.caller (depth + 1)) session).2.extensions.isActive
      Builtin.helloWorld.name = true) :
    session.NamesStay (request.perform.run (Code.plain.caller (depth + 1)) session).2 := by
  have answers := Code.namesStay_plain (S := S) (depth + 1)
  by_cases hevent : ∃ event, request = .dispatchEvent event
  · obtain ⟨event, rfl⟩ := hevent
    exact namesStay_dispatchEvent (depth + 1) fun copy debouncer =>
      hhandler event copy debouncer rfl
  rcases Request.isUsual_iff.1 husual with heveryday | hmanaging | hadjusting
  · refine Unnaming.of_madeOf ((Unnaming.reacting answers).perform heveryday (fun _ hsets => ?_)
      (fun event payload _ => (Unnaming.events answers).emit event payload)
      (fun event heq => absurd ⟨event, heq⟩ hevent) fun heq => absurd heq htick) session
    cases hclock.symm.trans hsets
  · exact namesStay_manage depth hmanaging inOrder hactive hstill
  · have commands := Unnaming.commands answers
    have panels := Unnaming.panels answers
    exact Unnaming.of_madeOf (commands.perform (Unnaming.acting answers) hadjusting
      (fun name enabled _ => commands.setEnabled name enabled) panels.setCurrentPanel
        panels.touch) session

/-- A render leaves names alone. -/
theorem Redisplays.namesStay {before after : Session Empty S}
    (redisplays : before.Redisplays after) : before.NamesStay after := by
  obtain ⟨noted, hjournal, hnoted⟩ := redisplays.noted
  refine ⟨by rw [redisplays.eq]; rfl, .rendered :: (noted ++ [.rendering before.panelHost]), ?_, ?_⟩
  · rw [hjournal]
    simp
  · intro entry hentry
    rcases List.mem_cons.1 hentry with rfl | hentry
    · rfl
    · rcases List.mem_append.1 hentry with hentry | hentry
      · exact (hnoted entry hentry).2
      · obtain rfl := List.mem_singleton.1 hentry
        rfl

/-- What a tick does after its pass leaves names alone. -/
theorem namesStay_tick (session : Session Empty S) :
    (session.caughtUp (Code.plain.caller (depth + 1))).NamesStay
      (tick.run (Code.plain.caller (depth + 1)) session).2 := by
  by_cases hsame : (session.caughtUp (Code.plain.caller (depth + 1))).renderedVersion? =
      some (session.caughtUp (Code.plain.caller (depth + 1))).panelHost.ui.version
  · rw [run_tick_of_eq _ _ hsame]
    exact .refl _
  · exact (redisplays_of_ne depth session hsame).namesStay

end Session

end EditorShell
