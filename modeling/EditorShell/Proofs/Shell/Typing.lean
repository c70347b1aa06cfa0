import EditorShell.Proofs.Shell.Settling

/-!
# Typing a name

A shell starts without a name (`Session.untyped_start`) and without handlers
(`Session.unrendered_start`).  With the first render the handler of the input of the greeting panel
is there, and no other interaction types a name (`Session.TakesNames`).  A name that is typed waits
from then on, in the place of any other (`Session.Greets.typed`).

## Strategy

That no name has been typed is kept by all that leaves names alone.  Only the activation of the
greeting extension has to be looked at on its own, since it replaces the debouncer
(`Untyping.activateHelloWorld`).  Which handlers there are is read off the tree: after a render the
host is up to date, and between renders the handlers stay.
-/

namespace EditorShell

open Entry Session

variable {S α : Type}

/-! ## Before a name is typed -/

namespace Session

/-- No name has been typed: there is one greeter, which greets nobody, and if it has a debouncer
nothing has been asked of it yet. -/
structure Untyped (session : Session Empty S) : Prop where
  greeters : ∃ owned? : Option DebouncerId,
    session.builtins.helloWorld.map HelloWorldState.naming = [("", owned?)] ∧
      ∀ id, owned? = some id → session.debouncers[id]? = some (.ofDelay namePause)
  noted : ∀ entry ∈ session.journal, Entry.isOfTask entry = false

theorem Untyped.stay {before after : Session Empty S} (untyped : before.Untyped)
    (stay : before.NamesStay after) : after.Untyped := by
  obtain ⟨greeters, hbefore⟩ := untyped
  obtain ⟨hnaming, noted, hjournal, hnoted⟩ := stay
  refine ⟨?_, fun entry hentry => ?_⟩
  · have hdebouncers : after.debouncers = before.debouncers := congrArg Naming.debouncers hnaming
    have hgreeters : after.builtins.helloWorld.map HelloWorldState.naming =
        before.builtins.helloWorld.map HelloWorldState.naming := congrArg Naming.greeters hnaming
    rw [hdebouncers, hgreeters]
    exact greeters
  · rw [hjournal] at hentry
    exact (List.mem_append.1 hentry).elim (hnoted entry) (hbefore entry)

end Session

/-- The acts before which and after which no name has been typed. -/
def Untyping (caller : Caller Empty S) : Act.Class Empty S := fun _ act =>
  ∀ session : Session Empty S, session.Untyped → (act.run caller session).2.Untyped

namespace Untyping

variable {caller : Caller Empty S}

theorem of_madeOf {act : Act Empty S α} (hact : act.MadeOf (Untyping caller)) :
    Untyping caller α act :=
  hact.covered (fun _ _ => id) (fun _ _ => id) (fun hnext session => hnext session session)
    fun hfirst hnext session untyped => hnext _ _ (hfirst session untyped)

theorem of_unnaming {act : Act Empty S α} (hact : act.MadeOf (Unnaming caller)) :
    act.MadeOf (Untyping caller) :=
  .part fun session untyped => untyped.stay (Unnaming.of_madeOf hact session)

theorem changeExtensions
    (f : ExtensionRegistry (Extension Empty) (ActionBody Empty) →
      ExtensionRegistry (Extension Empty) (ActionBody Empty)) :
    (Session.changeExtensions (S := S) f).MadeOf (Untyping caller) :=
  .part fun _ untyped => ⟨untyped.greeters, untyped.noted⟩

/-- A debouncer that is dropped is none of the others. -/
theorem run_setNameDebouncer (caller : Caller Empty S) (session : Session Empty S)
    {id : DebouncerId}
    (hother : (session.greeter 0).debouncer? ≠ some id) :
    let after := ((setNameDebouncer 0 (some id)).run caller session).2
    after.builtins.helloWorld =
        session.builtins.helloWorld.modify 0 (fun state => { state with debouncer? := some id }) ∧
      after.debouncers[id]? = session.debouncers[id]? ∧ after.journal = session.journal := by
  unfold setNameDebouncer
  simp only [Act.run_bind, Act.run_read]
  cases hprevious : (session.greeter 0).debouncer? with
  | none => exact ⟨rfl, rfl, rfl⟩
  | some previous =>
      have hcore := core_dropDebouncer caller
        ((changeGreeter 0 fun state => { state with debouncer? := some id }).run caller session).2
        previous
      have hne : previous ≠ id := fun heq => hother (heq ▸ hprevious)
      refine ⟨?_, ?_, congrArg Core.journal hcore⟩
      · unfold dropDebouncer cancelDebounced setDebouncer
        simp only [Act.run_bind, Act.run_read]
        cases (Session.debouncer _ previous).latest? <;> rfl
      · exact (congrArg (fun core : Core Empty => core.debouncers[id]?) hcore).trans
          (List.getElem?_set_ne hne)

/-- The greeting extension gets a new debouncer when it is activated. -/
theorem activateHelloWorld (answers : ∀ call session, Call.isNaming call = false →
    Session.NamesStay session (caller.answer call session).2) :
    (Session.activateHelloWorld (S := S) 0).MadeOf (Untyping caller) := by
  refine .part fun session untyped => ?_
  obtain ⟨⟨owned?, hgreeters, howned⟩, hnoted⟩ := untyped
  obtain ⟨state, hstate, hnaming⟩ := List.map_eq_singleton_iff.1 hgreeters
  let made : Session Empty S :=
    { session with debouncers := session.debouncers ++ [.ofDelay namePause] }
  -- The debouncer is new, so it is not the one that the greeter may have kept from before.
  have hother : (made.greeter 0).debouncer? ≠ some session.debouncers.length := by
    have hgreeter : made.greeter 0 = state := by
      unfold Session.greeter
      rw [hstate]
      rfl
    rw [hgreeter]
    intro heq
    cases (List.getElem?_eq_none (Nat.le_refl _)).symm.trans
      (howned _ ((congrArg Prod.snd hnaming).symm.trans heq))
  obtain ⟨hgreeter, hdebouncer, hjournal⟩ := run_setNameDebouncer caller made hother
  have hname : state.name = "" := congrArg Prod.fst hnaming
  have owning : ((setNameDebouncer 0 (some session.debouncers.length)).run caller
      made).2.Untyped := by
    refine ⟨⟨some session.debouncers.length, ?_, fun id hid => ?_⟩, hjournal ▸ hnoted⟩
    · rw [hgreeter]
      simp [made, hstate, hname, HelloWorldState.naming]
    · obtain rfl := Option.some.inj hid
      exact hdebouncer.trans List.getElem?_concat_length
  exact owning.stay (Unnaming.of_madeOf ((Unnaming.panels answers).registerPanel _ _) _)

/-- The greeting extension is brought up. -/
theorem call_activate (depth : Nat) (name : String) (generation : Nat) :
    (Act.call (S := S) (.activate name generation (.builtin .helloWorld 0))).MadeOf
      (Untyping (Code.plain.caller (depth + 1))) := by
  have note : ∀ entry : Entry Empty, entry.isOfTask = false →
      (Act.note (S := S) entry).MadeOf (Untyping (Code.plain.caller (depth + 1))) := by
    refine fun entry hentry => .part fun session untyped => ⟨untyped.greeters, ?_⟩
    exact List.forall_mem_cons.2 ⟨hentry, untyped.noted⟩
  refine .bind (note _ rfl) fun _ => .bind (.part fun session untyped => ?_) fun _ =>
    .bind (note _ rfl) fun _ => .pure _
  exact of_madeOf (activateHelloWorld (Code.namesStay_plain depth)) session untyped

end Untyping

namespace Session

variable {session : Session Empty S} (depth : Nat)

/-- Activating the extensions is not typing. -/
theorem untyped_activate (inOrder : session.fixtures.InOrder) (untyped : session.Untyped)
    (name : String) :
    ((activate name).run (Code.plain.caller (depth + 1)) session).2.Untyped := by
  have answers := Code.namesStay_plain (S := S) (depth + 1)
  by_cases hname : name = Builtin.helloWorld.name
  · subst hname
    by_cases hstored : session.extensions.state? Builtin.helloWorld.name = some .registered
    · obtain ⟨entry, hentry, hstate⟩ := Option.map_eq_some_iff.1 hstored
      have fits : session.fixtures.Fits .helloWorld (some entry) :=
        hentry ▸ inOrder.fits .helloWorld
      obtain ⟨-, -, hextension⟩ := fits.has
      -- Of all that an activation does only the call of the extension sets the greeter up.
      have hactivation : (do
          changeExtensions fun registry => registry.setState Builtin.helloWorld.name .activating
          let brought ← bringUp Builtin.helloWorld.name entry
          settle Builtin.helloWorld.name entry.generation brought.1 brought.2).MadeOf
            (Untyping (S := S) (Code.plain.caller (depth + 1))) := by
        refine .bind (Untyping.changeExtensions _) fun _ => .bind ?_ fun brought =>
          Act.Class.Extensions.settle_of_modify (fun items => Untyping.of_unnaming
            ((Unnaming.commands answers).withdrawAll items)) _
              (fun _ => Untyping.changeExtensions _) _ _ _
        refine Act.Class.Extensions.bringUp_of_call (fun contributions => Untyping.of_unnaming
          ((Unnaming.commands answers).contributeAll contributions)) _ _
            (Untyping.of_unnaming ((Unnaming.sees answers).call _ (Unnaming.hidden rfl))) ?_
        rw [hextension]
        exact Untyping.call_activate depth _ _
      rw [run_activate hentry hstate]
      exact Untyping.of_madeOf hactivation session untyped
    · rw [run_activate_of_ne hstored]
      exact untyped
  · exact untyped.stay (namesStay_activate (depth + 1) inOrder fun heq => absurd heq hname)

theorem untyped_activateFrom (inOrder : session.fixtures.InOrder) (untyped : session.Untyped)
    (count : Nat) (names : List String) :
    ((activateFrom count names).run (Code.plain.caller (depth + 1)) session).2.Untyped := by
  induction names generalizing session count with
  | nil => exact untyped
  | cons name rest ih =>
      have activated := inOrder_activate Code.plain depth inOrder name
      have untyped := untyped_activate depth inOrder untyped name
      unfold activateFrom
      rw [Act.run_bind]
      split
      · exact ih activated untyped (count + 1)
      · exact ih activated untyped count
      · exact ih activated untyped count

/-- When a shell has started, no name has been typed. -/
theorem untyped_start (config : ShellConfig) (host : Host) (app : S) :
    ((Session.start config).run (Code.plain.caller (depth + 1))
      (.fresh .dispatcher host app)).2.Untyped := by
  have answers := Code.namesStay_plain (S := S) (depth + 1)
  have inOrder := inOrder_opened (Code.plain.caller (depth + 1)) config host app
  have opened : (opened (Code.plain.caller (depth + 1)) config host app).Untyped := by
    obtain ⟨extensions, hopened⟩ := opened_eq (Code.plain.caller (depth + 1)) config host app
    rw [hopened]
    exact ⟨⟨none, rfl, fun _ hid => by cases hid⟩, by simp [Entry.isOfTask]⟩
  have activated := untyped_activateFrom depth
    (inOrder_activate Code.plain depth inOrder Builtin.panels.name)
    (untyped_activate depth inOrder opened Builtin.panels.name) 0 config.extensions
  have hlater : (do
      let _ ← loadMap config.keymap
      .when (!config.initialPanel.isEmpty) do
        let _ ← showPanel config.initialPanel : Act Empty S Unit).MadeOf
          (Unnaming (Code.plain.caller (depth + 1))) :=
    .bind ((Unnaming.commands answers).loadMap _) fun _ =>
      .when (.bind ((Unnaming.events answers).showPanel _) fun _ => .pure ())
  rw [run_start]
  exact activated.stay (Unnaming.of_madeOf hlater _)

/-! ## The greeter -/

/-- The debouncer of the greeter and its panel. -/
theorem exists_owned (inOrder : session.fixtures.InOrder)
    (hactive : session.extensions.isActive Builtin.helloWorld.name = true) :
    ∃ id, session.builtins.helloWorld.map HelloWorldState.debouncer? = [some id] ∧
      session.panelHost.panels.entries = [(greetingPanelId, .greeting 0 id)] := by
  obtain ⟨_, greeting⟩ := inOrder.has .helloWorld
  have setUp : session.fixtures.greeting.SetUp true := hactive ▸ greeting.owns
  generalize hgreeting : session.fixtures.greeting = greeting at setUp
  cases setUp with
  | on id gone =>
      exact ⟨id, congrArg GreetingFixtures.owned hgreeting,
        congrArg GreetingFixtures.panels hgreeting⟩

/-- The name of a greeter and its debouncer tell the debouncer. -/
theorem map_debouncer? (session : Session Empty S) :
    (session.builtins.helloWorld.map HelloWorldState.naming).map Prod.snd =
      session.builtins.helloWorld.map HelloWorldState.debouncer? := by
  rw [List.map_map]
  rfl

/-- No name waits in a shell that has started. -/
theorem Untyped.exists_greets (untyped : session.Untyped) (inOrder : session.fixtures.InOrder)
    (hactive : session.extensions.isActive Builtin.helloWorld.name = true) :
    ∃ id, session.Greets id none := by
  obtain ⟨id, howned, -⟩ := exists_owned inOrder hactive
  obtain ⟨⟨owned?, hgreeters, hfresh⟩, hnoted⟩ := untyped
  have hid : owned? = some id := by
    rw [← map_debouncer?, hgreeters] at howned
    exact List.singleton_inj.1 howned
  have hdebouncer : session.debouncer id = .ofDelay namePause := by
    unfold Session.debouncer
    rw [hfresh id hid]
    rfl
  have hsettled := settledNames_eq_nil hnoted
  refine ⟨id, ?_, ?_, fun task hmem hprogram => ?_, ?_⟩
  · rw [hsettled, hgreeters, hid]
    rfl
  · rw [hdebouncer]
    exact ⟨rfl, rfl⟩
  · cases hprogram.symm.trans (hnoted _ hmem)
  · exact .inl (by rw [hdebouncer]; rfl)

/-- The panel that is displayed is the one of the greeter. -/
theorem Greets.panels_eq {id : DebouncerId} {waiting? : Option (Instant × String)}
    (greets : session.Greets id waiting?) (inOrder : session.fixtures.InOrder)
    (hactive : session.extensions.isActive Builtin.helloWorld.name = true) :
    session.panelHost.panels.entries = [(greetingPanelId, .greeting 0 id)] := by
  obtain ⟨other, howned, hpanels⟩ := exists_owned inOrder hactive
  rw [← map_debouncer?, greets.greeters_eq] at howned
  obtain rfl := Option.some.inj (List.singleton_inj.1 howned)
  exact hpanels

end Session

/-! ## Handlers -/

/-- Whether an interaction types a name. -/
def UiEvent.typesName (event : UiEvent) : Bool :=
  event.node == "panel::hello-world::input" && event.kind == .changeText

namespace Session

variable {session : Session Empty S} {id : DebouncerId} {waiting? : Option (Instant × String)}

/-- The handlers stay between renders. -/
theorem BetweenRenders.handlerOf?_eq {before after : Session Empty S}
    (between : before.BetweenRenders after) (event : UiEvent) :
    after.handlerOf? event = before.handlerOf? event := by
  unfold handlerOf?
  rw [between.mounted_eq, between.handlers_eq]

/-- The handlers of the tree are the ones that are kept. -/
theorem UpToDate.handlerOf?_eq_some_iff (upToDate : session.UpToDate) {event : UiEvent}
    {handler : Handler Empty} : session.handlerOf? event = some handler ↔
      ∃ handlers, (event.node, handlers) ∈
        (session.tree.members none 0).map (fun entry => (entry.1, entry.2.handlers)) ∧
          handlers event.kind = some handler := by
  have hkept : ∀ entry ∈ session.tree.members none 0, entry.1 = event.node →
      session.handlerOf? event = entry.2.handlers event.kind := by
    rintro entry hmem hid
    obtain ⟨place?, htold⟩ := upToDate.displays entry hmem
    obtain ⟨-, htold⟩ := Prod.mk.inj htold
    obtain ⟨hmounted, hhandlers⟩ := Prod.mk.inj htold
    rw [hid] at hmounted hhandlers
    unfold handlerOf?
    rw [if_pos hmounted, hhandlers]
    rfl
  constructor
  · intro hhandler
    -- Only what is mounted has a handler, and what is mounted is in the tree.
    have hmounted : session.bridge.isMounted event.node = true := by
      by_contra hunmounted
      unfold handlerOf? at hhandler
      rw [if_neg hunmounted] at hhandler
      cases hhandler
    obtain ⟨entry, hmem, hid⟩ := List.mem_map.1 (upToDate.mounted _ hmounted)
    exact ⟨entry.2.handlers, List.mem_map.2 ⟨entry, hmem, congrArg (·, _) hid⟩,
      (hkept entry hmem hid).symm.trans hhandler⟩
  · rintro ⟨handlers, hmem, hhandler⟩
    obtain ⟨entry, hentry, heq⟩ := List.mem_map.1 hmem
    obtain ⟨hid, rfl⟩ := Prod.mk.inj heq
    exact (hkept entry hentry hid).trans hhandler

/-- Names are typed into the input of the greeting panel and nowhere else. -/
def TakesNames (id : DebouncerId) (session : Session Empty S) : Prop :=
  ∀ event copy debouncer, session.handlerOf? event = some (.nameTyped copy debouncer) ↔
    event.typesName = true ∧ copy = 0 ∧ debouncer = id

theorem UpToDate.takesNames (upToDate : session.UpToDate) (inOrder : session.fixtures.InOrder)
    (hpanels : session.panelHost.panels.entries = [(greetingPanelId, .greeting 0 id)]) :
    session.TakesNames id := by
  obtain ⟨-, hstatus⟩ := entries_eq inOrder
  have hmembers : (session.tree.members none 0).map (fun entry => (entry.1, entry.2.handlers)) =
      [("shell::root", fun _ => none), ("panels", fun _ => none),
        (greetingPanelId, fun _ => none), ("panel::hello-world::text", fun _ => none),
        ("panel::hello-world::input", fun kind =>
          if kind = .changeText then some (.nameTyped 0 id) else none),
        ("panel::hello-world::button", fun kind => if kind = .click then some .greet else none),
        ("statusBar", fun _ => none)] ++
        if session.extensions.isActive Builtin.editorStatus.name then
          [(readoutId, fun _ => none), ("status::cursor", fun _ => none),
            ("status::language", fun _ => none)] else [] := by
    unfold tree
    rw [hpanels, hstatus]
    split <;> rfl
  intro event copy debouncer
  rw [upToDate.handlerOf?_eq_some_iff, hmembers]
  split <;> simp [UiEvent.typesName, and_assoc, or_and_right, exists_or, @eq_comm _ copy,
    @eq_comm _ debouncer]

theorem TakesNames.between {before after : Session Empty S} (takes : before.TakesNames id)
    (between : before.BetweenRenders after) : after.TakesNames id := by
  intro event copy debouncer
  rw [between.handlerOf?_eq]
  exact takes event copy debouncer

/-- After a render names are taken. -/
theorem Greets.takesNames_of_redisplays {before after : Session Empty S}
    (greets : after.Greets id waiting?) (redisplays : before.Redisplays after)
    (inOrder : before.fixtures.InOrder)
    (hstill : after.extensions.isActive Builtin.helloWorld.name = true)
    (unrefused : after.Unrefused) : after.TakesNames id := by
  have hfixtures : after.fixtures = before.fixtures := by
    rw [redisplays.eq]
    rfl
  have inOrder' : after.fixtures.InOrder := hfixtures ▸ inOrder
  exact (redisplays.upToDate (nodup_tree inOrder) unrefused).takesNames inOrder'
    (greets.panels_eq inOrder' hstill)

/-- After a tick names are taken if it renders or if they were taken before. -/
theorem Greets.takesNames_tick (depth : Nat)
    (greets : (tick.run (Code.plain.caller (depth + 1)) session).2.Greets id waiting?)
    (inOrder : session.fixtures.InOrder)
    (hstill : (tick.run (Code.plain.caller (depth + 1)) session).2.extensions.isActive
      Builtin.helloWorld.name = true)
    (unrefused : (tick.run (Code.plain.caller (depth + 1)) session).2.Unrefused)
    (takes : session.renderedVersion? ≠ none → session.TakesNames id) :
    (tick.run (Code.plain.caller (depth + 1)) session).2.TakesNames id := by
  have between := Offscreen.of_madeOf (Offscreen.runDue (depth + 1)) session
  by_cases hsame : (session.caughtUp (Code.plain.caller (depth + 1))).renderedVersion? =
      some (session.caughtUp (Code.plain.caller (depth + 1))).panelHost.ui.version
  · have hshell : (session.caughtUp (Code.plain.caller (depth + 1))).renderedVersion? =
        session.renderedVersion? := congrArg (·.bind ShellState.renderedVersion?) between.shell?_eq
    rw [run_tick_of_eq _ _ hsame]
    exact (takes (by rw [← hshell, hsame]; simp)).between between
  · exact greets.takesNames_of_redisplays (redisplays_of_ne depth session hsame)
      (fixtures_caughtUp (depth + 1) session ▸ inOrder) hstill unrefused

/-- Nothing has been rendered, and no interaction has a handler. -/
structure Unrendered (session : Session Empty S) : Prop where
  handlerOf?_eq : ∀ event, session.handlerOf? event = none
  renderedVersion?_eq : session.renderedVersion? = none

theorem Unrendered.between {before after : Session Empty S} (unrendered : before.Unrendered)
    (between : before.BetweenRenders after) : after.Unrendered := by
  refine ⟨fun event => (between.handlerOf?_eq event).trans (unrendered.handlerOf?_eq event), ?_⟩
  · unfold renderedVersion?
    rw [between.shell?_eq]
    exact unrendered.renderedVersion?_eq

theorem unrendered_start (depth : Nat) (config : ShellConfig) (host : Host) (app : S) :
    ((Session.start config).run (Code.plain.caller depth)
      (.fresh .dispatcher host app)).2.Unrendered := by
  refine Unrendered.between ?_ (betweenRenders_start depth config host app)
  obtain ⟨extensions, hopened⟩ := opened_eq (Code.plain.caller depth) config host app
  rw [hopened]
  exact ⟨fun _ => rfl, rfl⟩

/-! ## A name is typed -/

/-- Calling a debouncer changes debouncers only, of all that names depend on. -/
theorem naming_debounce (caller : Caller Empty S) (session : Session Empty S) (id : DebouncerId)
    (body : TaskBody Empty) :
    let after := ((debounce id body).run caller session).2
    after.naming = { session.naming with debouncers := after.debouncers } := by
  unfold debounce
  simp only [Act.run_bind, Act.run_read, Act.run_ite]
  split
  · rfl
  · cases (session.debouncer id).latest? <;> rfl

/-- A name that is typed waits from now on, in the place of any other. -/
theorem Greets.typed {event : UiEvent} (depth : Nat) (greets : session.Greets id waiting?)
    (hhandler : session.handlerOf? event = some (.nameTyped 0 id)) :
    let after := ((dispatchEvent event).run (Code.plain.caller (depth + 1)) session).2
    after.Greets id (some (session.clock.after namePause, typedName event)) ∧
      after.clock = session.clock ∧ settledNames after.journal = settledNames session.journal := by
  let call : Call Empty := .interaction (.nameTyped 0 id) event
  let debounced := ((debounce id (.settleName 0 (typedName event))).run (Code.plain.caller depth)
    (session.noting (.called call))).2
  have hrun : ((dispatchEvent event).run (Code.plain.caller (depth + 1)) session).2 =
      debounced.noting (.returned call (.ok ())) := by
    rw [run_dispatchEvent, hhandler]
    rfl
  -- The debouncer is there, so the name waits in a new job from now on.
  obtain ⟨hdelay, hpresent⟩ := greets.pauses
  have hthere : ((session.noting (.called call)).core.debouncer id).dropped = false := hpresent
  have hcore : debounced.core = (session.noting (.called call)).core.calling id session.clock
      (.settleName 0 (typedName event)) :=
    core_debounce _ hthere _
  have hjournal : debounced.journal = .scheduled ⟨session.scheduler.nextId,
      session.clock.after namePause, .debounced id (.settleName 0 (typedName event))⟩ ::
        .called call :: session.journal := by
    refine (congrArg Core.journal hcore).trans ((Core.journal_calling _ _ _ _).trans ?_)
    rw [← hdelay]
    rfl
  have hdebouncer : debounced.debouncer id = { session.debouncer id with
      latest? := some session.scheduler.nextId, started := false } :=
    (congrArg (fun core : Core Empty => core.debouncer id) hcore).trans
      (Core.debouncer_calling hthere _ _)
  have hnaming := naming_debounce (Code.plain.caller depth) (session.noting (.called call)) id
    (.settleName 0 (typedName event))
  have hsettled : settledNames (debounced.noting (.returned call (.ok ()))).journal =
      settledNames session.journal := by
    show settledNames (.returned call (.ok ()) :: debounced.journal) = _
    rw [hjournal]
    rfl
  dsimp only
  rw [hrun]
  have hdebouncer' : (debounced.noting (.returned call (.ok ()))).debouncer id = _ := hdebouncer
  refine ⟨⟨?_, ?_, fun task hmem hprogram => ?_, ?_⟩, congrArg Naming.clock hnaming, hsettled⟩
  · rw [hsettled]
    exact (congrArg Naming.greeters hnaming).trans greets.greeters_eq
  · rw [hdebouncer']
    exact greets.pauses
  · rcases List.mem_cons.1 hmem with heq | hmem
    · cases heq
    · rw [hjournal] at hmem
      rcases List.mem_cons.1 hmem with heq | hmem
      · cases Entry.scheduled.inj heq
        exact ⟨_, rfl⟩
      · rcases List.mem_cons.1 hmem with heq | hmem
        · cases heq
        · exact greets.jobs task hmem hprogram
  · refine ⟨by rw [hdebouncer'], session.scheduler.nextId, by rw [hdebouncer'], ?_⟩
    refine List.mem_cons_of_mem _ ?_
    rw [hjournal]
    exact List.mem_cons_self

end Session

end EditorShell
