import EditorShell.Proofs.Shell.Builtins

/-!
# A shell that has just started

A shell is started from a configuration: built-in extensions are activated, which may bind a default
chord, then the keymap is loaded, then the initial panel is shown.  What this comes to is read off
the configuration (`shells_started`), for every embedding program and every host.

## Strategy

A `Scene` is what of a session the start is about.  Each part of the start does to the scene what an
equation says, whatever else the session holds (`scene_activation`, `scene_contributeAll`,
`scene_showPanel`).  `Session.Opened` says what the scene is once the extensions of a list of names
have been activated; one activation adds one name, be it repeated, unknown or neither.
-/

namespace EditorShell

open Json Session

variable {κ S : Type}

/-! ## Scenes -/

/-- Whether an entry tells that the host was called, or that a message was sent or refused. -/
def Entry.isOfHost : Entry κ → Bool
  | .sent _ _ => true
  | .called call => call.isHost
  | _ => false

/-- What of a session the start of a shell is about. -/
structure Scene (κ : Type) where
  sink : ChordSink
  /-- Who listens for panels that are shown. -/
  shown : List (Subscription (Listener κ))
  extensions : ExtensionRegistry (Extension κ) (ActionBody κ)
  keys : KeyDispatcher
  currentPanel : String
  panels : ComponentRegistry (Component κ)
  status : ComponentRegistry (Component κ)
  /-- How many debouncers there have been. -/
  debouncers : Nat
  host : Host
  bridge : Bridge (Handler κ)
  /-- What was noted of the host. -/
  told : List (Entry κ)

/-- The scene of a session. -/
def Session.scene (session : Session κ S) : Scene κ where
  sink := session.chordSink
  shown := session.events.listeners showPanelEvent
  extensions := session.extensions
  keys := session.keys
  currentPanel := session.panelHost.ui.currentPanel
  panels := session.panelHost.panels
  status := session.panelHost.status
  debouncers := session.debouncers.length
  host := session.host
  bridge := session.bridge
  told := session.journal.filter Entry.isOfHost

/-- The default chord of the greeting extension. -/
def greetingChord : Chord := ⟨Modifiers.ctrl.union Modifiers.alt, "h"⟩

/-- The default binding of the greeting command. -/
def greetingBinding : KeyBinding := ⟨greetingChord, sayHelloCommand, none⟩

namespace Builtin

/-- The bindings once an extension has listed its commands: a default chord is bound if it is
free. -/
def offer (keys : KeyDispatcher) : Builtin → KeyDispatcher
  | .panels | .editorStatus => keys
  | .helloWorld =>
    if (keys.binding? greetingChord).isNone then keys.bind greetingBinding else keys

/-- The scene once an extension has been told that it is activated. -/
def enter (scene : Scene κ) : Builtin → Scene κ
  | .panels => scene
  | .editorStatus => { scene with status := (scene.status.insert readoutId (.readout 0)).2 }
  | .helloWorld =>
    { scene with
      panels := (scene.panels.insert greetingPanelId (.greeting 0 scene.debouncers)).2
      debouncers := scene.debouncers + 1 }

end Builtin

/-! ## The parts of the start -/

namespace Session

variable {session : Session κ S} {kind : Builtin}

theorem scene_noting {entry : Entry κ} (hentry : entry.isOfHost = false) :
    (session.noting entry).scene = session.scene := by
  simp [scene, noting, hentry]

/-- Whichever debouncer a copy owned before, it is dropped and stays counted. -/
theorem scene_setNameDebouncer (caller : Caller κ S) (session : Session κ S) (copy : InstanceId)
    (debouncer? : Option DebouncerId) :
    ((setNameDebouncer copy debouncer?).run caller session).2.scene = session.scene := by
  unfold setNameDebouncer
  simp only [Act.run_bind, Act.run_read]
  cases (session.greeter copy).debouncer? with
  | none => rfl
  | some previous =>
      unfold dropDebouncer cancelDebounced setDebouncer
      simp only [Act.run_bind, Act.run_read]
      cases (Session.debouncer _ previous).latest? <;>
        simp [changeGreeter, cancelTask?, cancelTask, scene]

theorem scene_registerPanel (caller : Caller κ S) (session : Session κ S) (id : String)
    (component : Component κ) :
    ((registerPanel id component).run caller session).2.scene =
      { session.scene with panels := (session.scene.panels.insert id component).2 } := rfl

/-- An activation succeeds, and the scene is then as `Builtin.enter` says. -/
theorem scene_activation (caller : Caller κ S) (session : Session κ S) (kind : Builtin) :
    (kind.activation.run caller session).1 = .ok () ∧
      (kind.activation.run caller session).2.scene = kind.enter session.scene := by
  cases kind with
  | panels =>
      refine ⟨rfl, ?_⟩
      simp +decide [Builtin.activation, Builtin.enter, activatePanels, subscribe, setKeyListener,
        registerCommand, registerDescriptor, registerAction, newAction, scene,
        CommandDescriptor.named, EventBus.listeners_subscribe]
  | editorStatus =>
      refine ⟨rfl, ?_⟩
      simp +decide [Builtin.activation, Builtin.enter, activateEditorStatus, subscribe, followEvent,
        changeEditorStatus, registerStatus, changePanels, touch, noting, scene, Entry.isOfHost,
        EventBus.listeners_subscribe, UiState.touch]
  | helloWorld =>
      refine ⟨rfl, ?_⟩
      simp only [Builtin.activation, activateHelloWorld, Act.run_bind, Act.run_pure,
        scene_registerPanel, scene_setNameDebouncer]
      simp [Builtin.enter, newDebouncer, scene]

theorem scene_call_activate (code : Code κ S) (depth : Nat) (session : Session κ S) (name : String)
    (generation : Nat) (kind : Builtin) :
    let called := (Act.call (.activate name generation (.builtin kind 0))).run
      (code.caller (depth + 1)) session
    called.1 = .ok (.ok ()) ∧ called.2.scene = kind.enter session.scene := by
  obtain ⟨hresult, hscene⟩ := scene_activation (code.caller depth)
    (session.noting (.called (.activate name generation (.builtin kind 0)))) kind
  refine ⟨by rw [fst_call_activate, hresult], ?_⟩
  cases kind <;> exact hscene

theorem scene_call_listing (code : Code κ S) (depth : Nat) (session : Session κ S) (name : String)
    (generation : Nat) (kind : Builtin) :
    ((Act.call (.listing name generation (.builtin kind 0))).run (code.caller (depth + 1))
      session).2.scene = session.scene := by
  cases kind <;> rfl

theorem parse_greetingChord : Chord.parse "ctrl+alt+h" = .ok greetingChord := by decide +kernel

/-- What a built-in extension lists is registered without fail. -/
theorem scene_contributeAll (caller : Caller κ S) (attached : session.scene.sink = .dispatcher)
    {contributions : List (Contribution (ActionBody κ))} (lists : kind.Lists contributions) :
    let listed := (contributeAll contributions).run caller session
    listed.1.2 = .ok () ∧
      listed.2.scene = { session.scene with keys := kind.offer session.scene.keys } := by
  cases kind with
  | panels =>
      obtain rfl : contributions = [] := lists
      exact ⟨rfl, rfl⟩
  | editorStatus =>
      obtain rfl : contributions = [] := lists
      exact ⟨rfl, rfl⟩
  | helloWorld =>
      obtain ⟨action, rfl⟩ := lists
      -- Here the chord has to be read, since the scene tells what it is bound to.
      have hlisted : (some "ctrl+alt+h").mapM Chord.parse = .ok (some greetingChord) := by
        simp [parse_greetingChord]
      obtain ⟨item, hname, hchord, hrun⟩ := run_contribute caller session attached
        ⟨sayHelloCommand, action, some "ctrl+alt+h"⟩ (some greetingChord)
      simp only [contributeAll, hlisted, Act.run_bind, Act.run_pure, hrun, true_and]
      have hscene : (session.contributing item).scene = { session.scene with
          keys := item.chord.elim session.keys fun chord =>
            session.keys.bind ⟨chord, item.name, none⟩ } := by
        unfold contributing scene
        cases item.chord <;> rfl
      have hkeys : (item.chord.elim session.keys fun chord =>
          session.keys.bind ⟨chord, item.name, none⟩) = Builtin.helloWorld.offer session.keys := by
        rw [hchord, hname, Option.filter_some]
        show _ = if (session.keys.binding? greetingChord).isNone then
          session.keys.bind greetingBinding else session.keys
        split <;> rfl
      rw [hscene, hkeys]
      rfl

/-- A built-in extension is brought up without fail. -/
theorem scene_bringUp (code : Code κ S) (depth : Nat) (session : Session κ S) (name : String)
    (entry : ExtensionEntry (Extension κ) (ActionBody κ))
    (attached : session.scene.sink = .dispatcher) (hextension : entry.extension = .builtin kind 0) :
    let brought := (bringUp name entry).run (code.caller (depth + 1)) session
    brought.1.2 = .ok () ∧ brought.2.scene =
      kind.enter { session.scene with keys := kind.offer session.scene.keys } := by
  obtain ⟨contributions, lists, hrun⟩ := run_bringUp code depth name entry session hextension
  rw [hrun]
  have hscene := scene_call_listing code depth session name entry.generation kind
  generalize ((Act.call (.listing name entry.generation (.builtin kind 0))).run
    (code.caller (depth + 1)) session).2 = listed at hscene ⊢
  rw [← hscene] at attached ⊢
  obtain ⟨hregistered, hoffered⟩ :=
    scene_contributeAll (code.caller (depth + 1)) attached lists
  generalize (contributeAll contributions).run (code.caller (depth + 1)) listed = registered
    at hregistered hoffered ⊢
  obtain ⟨⟨contributed, outcome⟩, registered⟩ := registered
  obtain rfl : outcome = .ok () := hregistered
  obtain ⟨hresult, hentered⟩ :=
    scene_call_activate code depth registered name entry.generation kind
  dsimp only at hoffered hresult hentered ⊢
  rw [hresult, hentered, hoffered]
  exact ⟨rfl, rfl⟩

theorem scene_takeShown (caller : Caller κ S) (session : Session κ S) (panel : String) :
    ((takeShown (.string panel)).run caller session).2.scene =
      { session.scene with currentPanel := panel } := by
  unfold takeShown setCurrentPanel UiState.setCurrentPanel
  by_cases hcurrent : session.panelHost.ui.currentPanel = panel
  · simp [Value.asText?, changePanels, scene, hcurrent]
  · simp [Value.asText?, changePanels, scene, hcurrent, UiState.touch, noting, Entry.isOfHost]

/-- No panel is mounted yet, so the host is not asked for a handle. -/
theorem scene_focusShown (caller : Caller κ S) (session : Session κ S)
    (unmounted : session.scene.bridge = .empty) (payload : Value) :
    ((focusShown payload).run caller session).2.scene = session.scene := by
  have hbridge : session.bridge = .empty := unmounted
  have hmounted : ∀ id, (Bridge.empty : Bridge (Handler κ)).isMounted id = false := fun _ => rfl
  unfold focusShown
  simp only [Act.run_bind, Act.run_when, Act.run_pure]
  split
  · simp [resolveHandle, hbridge, hmounted, scheduleNext, scheduleAt, scene, Entry.isOfHost]
  · rfl

theorem scene_showPanel (code : Code κ S) (depth : Nat) (session : Session κ S)
    (hshown : session.scene.shown = [⟨0, .showPanel⟩, ⟨1, .focusInput⟩])
    (unmounted : session.scene.bridge = .empty) (panel : String) :
    ((showPanel panel).run (code.caller (depth + 1)) session).2.scene =
      { session.scene with currentPanel := panel } := by
  have hlisteners : session.events.listeners showPanelEvent =
      [⟨0, .showPanel⟩, ⟨1, .focusInput⟩] := hshown
  unfold showPanel emit
  simp only [Act.run_bind, Act.run_read, Act.run_note, hlisteners, deliver, Act.run_pure]
  rw [scene_noting rfl]
  have htaken : ∀ session : Session κ S,
      ((Act.call (.listener showPanelEvent ⟨0, .showPanel⟩ (.string panel))).run
        (code.caller (depth + 1)) session).2.scene =
          { session.scene with currentPanel := panel } :=
    fun session => scene_takeShown (code.caller depth) (session.noting _) panel
  have hfocused : ∀ session : Session κ S, session.scene.bridge = .empty →
      ((Act.call (.listener showPanelEvent ⟨1, .focusInput⟩ (.string panel))).run
        (code.caller (depth + 1)) session).2.scene = session.scene :=
    fun session hempty => scene_focusShown (code.caller depth) (session.noting _) hempty _
  rw [hfocused, htaken, scene_noting rfl]
  rw [htaken, scene_noting rfl]
  exact unmounted

end Session

/-! ## Scenes of activated extensions -/

/-- The scene once the extensions of these names have been activated, before the keymap is
loaded. -/
def Scene.opened (window : Duration) (host : Host) (names : List String)
    (extensions : ExtensionRegistry (Extension κ) (ActionBody κ)) : Scene κ where
  sink := .dispatcher
  shown := [⟨0, .showPanel⟩, ⟨1, .focusInput⟩]
  extensions := extensions
  keys :=
    if Builtin.helloWorld.name ∈ names then (KeyDispatcher.ofWindow window).bind greetingBinding
    else .ofWindow window
  currentPanel := ""
  panels := ⟨if Builtin.helloWorld.name ∈ names then [(greetingPanelId, .greeting 0 0)] else []⟩
  status := ⟨if Builtin.editorStatus.name ∈ names then [(readoutId, .readout 0)] else []⟩
  debouncers := if Builtin.helloWorld.name ∈ names then 1 else 0
  host := host
  bridge := .empty
  told := []

theorem Scene.enter_opened {window : Duration} {host : Host} {names : List String}
    {extensions : ExtensionRegistry (Extension κ) (ActionBody κ)} {kind : Builtin}
    (hnew : kind.name ∉ names) :
    kind.enter { Scene.opened window host names extensions with
      keys := kind.offer (Scene.opened window host names extensions).keys } =
        Scene.opened window host (kind.name :: names) extensions := by
  cases kind with
  | panels => simp [Builtin.enter, Builtin.offer, opened, Builtin.name_injective.eq_iff]
  | editorStatus =>
      simp [Builtin.enter, Builtin.offer, opened, Builtin.name_injective.eq_iff, hnew,
        ComponentRegistry.insert, ComponentRegistry.contains, ComponentRegistry.ids]
  | helloWorld =>
      simp [Builtin.enter, Builtin.offer, opened, Builtin.name_injective.eq_iff, hnew,
        ComponentRegistry.insert, ComponentRegistry.contains, ComponentRegistry.ids,
        KeyDispatcher.binding?_ofWindow]

/-- Nothing is bound but the default chord of the greeting extension. -/
theorem Scene.binding?_opened (window : Duration) (host : Host) (names : List String)
    (extensions : ExtensionRegistry (Extension κ) (ActionBody κ)) (chord : Chord) :
    (Scene.opened window host names extensions).keys.binding? chord =
      if chord.text = "ctrl+alt+h" ∧ Builtin.helloWorld.name ∈ names then
        some ⟨greetingChord, sayHelloCommand, none⟩ else none := by
  unfold Scene.opened
  by_cases hmem : Builtin.helloWorld.name ∈ names
  · simp only [hmem, if_true, and_true, KeyDispatcher.binding?_bind]
    rfl
  · simp [hmem, KeyDispatcher.binding?_ofWindow]

namespace Session

/-- The extensions of these names have been activated, and of the built-in ones no others. -/
structure Opened (window : Duration) (host : Host) (names : List String) (session : Session κ S) :
    Prop where
  scene_eq : session.scene = .opened window host names session.extensions
  known : ∀ name, session.extensions.get? name ≠ none → ∃ kind : Builtin, kind.name = name
  stored : ∀ kind : Builtin, ∃ generation contributed, session.extensions.get? kind.name =
    some ⟨.builtin kind 0, if kind.name ∈ names then .active else .registered, generation,
      contributed⟩

variable {window : Duration} {host : Host} {names : List String} {session : Session κ S}

/-- Only the names of built-in extensions count, and these not more than once. -/
theorem Opened.congr (opened : session.Opened window host names) {others : List String}
    (hnames : ∀ kind : Builtin, kind.name ∈ others ↔ kind.name ∈ names) :
    session.Opened window host others where
  scene_eq := by
    rw [opened.scene_eq]
    simp only [Scene.opened, hnames]
  known := opened.known
  stored kind := by
    simp only [hnames]
    exact opened.stored kind

theorem Opened.state?_eq (opened : session.Opened window host names) (kind : Builtin) :
    session.extensions.state? kind.name =
      some (if kind.name ∈ names then .active else .registered) := by
  obtain ⟨generation, contributed, hget⟩ := opened.stored kind
  rw [ExtensionRegistry.state?, hget]
  rfl

theorem Opened.isActive_iff (opened : session.Opened window host names) (name : String) :
    session.extensions.isActive name = true ↔
      name ∈ names ∧ ∃ kind : Builtin, kind.name = name := by
  unfold ExtensionRegistry.isActive
  rw [decide_eq_true_eq]
  constructor
  · intro hactive
    obtain ⟨entry, hentry, -⟩ := Option.map_eq_some_iff.1 hactive
    obtain ⟨kind, rfl⟩ := opened.known name (by simp [hentry])
    rw [opened.state?_eq] at hactive
    by_cases hmem : kind.name ∈ names
    · exact ⟨hmem, kind, rfl⟩
    · simp [hmem] at hactive
  · rintro ⟨hmem, kind, rfl⟩
    rw [opened.state?_eq, if_pos hmem]

/-- The entry of one extension becomes active. -/
theorem Opened.change (opened : session.Opened window host names) {kind : Builtin}
    {after : Session κ S}
    (hscene : after.scene = .opened window host (kind.name :: names) after.extensions)
    (hothers : ∀ name, name ≠ kind.name →
      after.extensions.get? name = session.extensions.get? name)
    (hself : ∃ generation contributed, after.extensions.get? kind.name =
      some ⟨.builtin kind 0, .active, generation, contributed⟩) :
    after.Opened window host (kind.name :: names) where
  scene_eq := hscene
  known name hknown := by
    by_cases hname : name = kind.name
    · exact ⟨kind, hname.symm⟩
    · rw [hothers name hname] at hknown
      exact opened.known name hknown
  stored other := by
    by_cases hother : other = kind
    · subst hother
      rw [if_pos List.mem_cons_self]
      exact hself
    · have hname : other.name ≠ kind.name := fun heq => hother (Builtin.name_injective heq)
      rw [hothers other.name hname]
      simp only [List.mem_cons, hname, false_or]
      exact opened.stored other

/-- An extension that has been brought up becomes active. -/
theorem opened_settle (opened : session.Opened window host names) {kind : Builtin}
    {generation : Nat} {contributed : List (Contributed (ActionBody κ))}
    (hentry : session.extensions.get? kind.name =
      some ⟨.builtin kind 0, .registered, generation, contributed⟩)
    {brought : Session κ S}
    (hscene : brought.scene = .opened window host (kind.name :: names)
      (session.extensions.setState kind.name .activating))
    (caller : Caller κ S) (registered : List (Contributed (ActionBody κ))) :
    ((settle kind.name generation registered (.ok ())).run caller brought).2.Opened window host
      (kind.name :: names) := by
  -- The entry is still the one that was marked.
  have hextensions : brought.extensions = session.extensions.setState kind.name .activating :=
    congrArg Scene.extensions hscene
  have hmarked : brought.extensions.get? kind.name =
      some ⟨.builtin kind 0, .activating, generation, contributed⟩ := by
    rw [hextensions]
    exact ExtensionRegistry.get?_modify_self hentry _
  rw [run_settle_ok, if_pos (ExtensionRegistry.holds_iff.2 ⟨_, hmarked, rfl⟩)]
  refine opened.change ?_ (fun name hname => ?_) ⟨generation, registered, ?_⟩
  · show { brought.scene with extensions := brought.extensions.setActive kind.name registered } = _
    rw [hscene]
    rfl
  · refine (ExtensionRegistry.get?_modify_of_ne _ hname _).trans ?_
    rw [hextensions]
    exact ExtensionRegistry.get?_modify_of_ne _ hname _
  · exact ExtensionRegistry.get?_modify_self hmarked _

/-- One activation adds one name. -/
theorem opened_activate (code : Code κ S) (depth : Nat) (opened : session.Opened window host names)
    (name : String) :
    ((activate name).run (code.caller (depth + 1)) session).2.Opened window host
      (name :: names) := by
  by_cases hstored : session.extensions.state? name = some .registered
  · obtain ⟨entry, hentry, -⟩ := Option.map_eq_some_iff.1 hstored
    obtain ⟨kind, rfl⟩ := opened.known name (by simp [hentry])
    -- What is still to be activated is registered, so it is none of the active ones.
    have hnew : kind.name ∉ names := by
      intro hmem
      rw [opened.state?_eq, if_pos hmem] at hstored
      cases hstored
    obtain ⟨generation, contributed, hget⟩ := opened.stored kind
    rw [if_neg hnew] at hget
    obtain rfl := Option.some.inj (hentry.symm.trans hget)
    rw [run_activate hentry rfl]
    let begun : Session κ S :=
      { session with extensions := session.extensions.setState kind.name .activating }
    have hbegun : begun.scene = .opened window host names begun.extensions := by
      show { session.scene with extensions := begun.extensions } = _
      rw [opened.scene_eq]
      rfl
    obtain ⟨hresult, hscene⟩ := scene_bringUp code depth begun kind.name
      ⟨.builtin kind 0, .registered, generation, contributed⟩ (by rw [hbegun]; rfl) rfl
    rw [hbegun, Scene.enter_opened hnew] at hscene
    generalize (bringUp kind.name _).run (code.caller (depth + 1)) begun = brought
      at hresult hscene ⊢
    obtain ⟨⟨registered, result⟩, brought⟩ := brought
    obtain rfl : result = .ok () := hresult
    exact opened_settle opened hget hscene _ registered
  · rw [run_activate_of_ne hstored]
    refine opened.congr fun kind => ?_
    rw [List.mem_cons]
    refine ⟨?_, .inr⟩
    rintro (rfl | hmem)
    · by_contra hnew
      rw [opened.state?_eq, if_neg hnew] at hstored
      exact hstored rfl
    · exact hmem

theorem opened_activateFrom (code : Code κ S) (depth : Nat)
    (opened : session.Opened window host names) (count : Nat) (added : List String) :
    ((activateFrom count added).run (code.caller (depth + 1)) session).2.Opened window host
      (added ++ names) := by
  induction added generalizing session names count with
  | nil => exact opened
  | cons name rest ih =>
      have activated := opened_activate code depth opened name
      have hnames : ∀ kind : Builtin,
          kind.name ∈ name :: rest ++ names ↔ kind.name ∈ rest ++ name :: names := by
        intro kind
        simp only [List.cons_append, List.mem_cons, List.mem_append]
        tauto
      unfold activateFrom
      rw [Act.run_bind]
      split
      · exact (ih activated (count + 1)).congr hnames
      · exact (ih activated count).congr hnames
      · exact (ih activated count).congr hnames

/-! ## The whole start -/

theorem scene_subscribe_fresh (caller : Caller κ S) (window : Duration) (host : Host) (app : S) :
    ((subscribe showPanelEvent .focusInput).run caller
      ((setWindow window).run caller (.fresh .dispatcher host app)).2).2.scene =
        .opened window host [] .empty := by
  have hlisteners : (EventBus.empty : EventBus (Listener κ)).listeners showPanelEvent = [] := rfl
  have hnext : (EventBus.empty : EventBus (Listener κ)).nextId = 0 := rfl
  simp [subscribe, setWindow, scene, fresh, Scene.opened, EventBus.listeners_subscribe,
    EventBus.nextId_subscribe, hlisteners, hnext, KeyDispatcher.ofWindow, UiState.initial,
    ComponentRegistry.empty]

theorem opened_registerBuiltins (caller : Caller κ S)
    (hscene : session.scene = .opened window host [] .empty)
    (hbuiltins : session.builtins = ⟨[], [], []⟩) :
    ((registerBuiltins Builtin.all).run caller session).2.Opened window host [] := by
  have hnone : ∀ name, session.extensions.get? name = none := by
    have hextensions : session.extensions = .empty := congrArg Scene.extensions hscene
    intro name
    rw [hextensions]
    rfl
  obtain ⟨extensions, hrun, hknown, hstored⟩ := run_registerBuiltins caller hnone hbuiltins
  rw [hrun]
  refine ⟨?_, hknown, fun kind => ?_⟩
  · show { session.scene with extensions := extensions } = _
    rw [hscene]
    rfl
  · obtain ⟨generation, hget⟩ := hstored kind
    exact ⟨generation, [], hget⟩

end Session

/-- The scene of a shell that has started. -/
def Scene.started (config : ShellConfig) (host : Host)
    (extensions : ExtensionRegistry (Extension κ) (ActionBody κ)) : Scene κ :=
  let opened := Scene.opened config.window host (config.extensions ++ [Builtin.panels.name])
    extensions
  { opened with
    keys := opened.keys.load config.keymap
    currentPanel := config.initialPanel }

namespace Session

/-- After the activations the keymap is loaded, and the initial panel is shown if there is one. -/
theorem started_launch (code : Code κ S) (config : ShellConfig) (host : Host) (app : S) :
    ∃ extensions, (code.launch config host app).scene = .started config host extensions ∧
      ∀ name, extensions.isActive name = true ↔
        name ∈ config.extensions ++ [Builtin.panels.name] ∧
          ∃ kind : Builtin, kind.name = name := by
  have hfresh := scene_subscribe_fresh (code.caller 200) config.window host app
  have hbuiltins : ((subscribe showPanelEvent .focusInput).run (code.caller 200)
    ((setWindow config.window).run (code.caller 200) (.fresh .dispatcher host app)).2).2.builtins =
      ⟨[], [], []⟩ := rfl
  unfold Code.launch Code.run Code.nestingLimit start
  rw [Act.run_bind, Act.run_bind]
  generalize (subscribe showPanelEvent .focusInput).run (code.caller 200) _ = subscribed
    at hfresh hbuiltins ⊢
  have registered := opened_registerBuiltins (code.caller 200) hfresh hbuiltins
  rw [Act.run_bind]
  generalize (registerBuiltins Builtin.all).run (code.caller 200) _ = session at registered ⊢
  have opened : ((openShell subscribed.1).run (code.caller 200) session.2).2.Opened config.window
      host [] := ⟨registered.scene_eq, registered.known, registered.stored⟩
  rw [Act.run_bind]
  generalize (openShell subscribed.1).run (code.caller 200) _ = session at opened ⊢
  -- The panels extension comes first and then the configured ones, in their order.
  have activated := opened_activateFrom code 199
    (opened_activate code 199 opened Builtin.panels.name) 0 config.extensions
  rw [Act.run_bind, Act.run_bind]
  unfold activateAll
  generalize (activateFrom 0 config.extensions).run (code.caller 200) _ = session
    at activated ⊢
  refine ⟨session.2.extensions, ?_, activated.isActive_iff⟩
  have loaded : ((loadMap config.keymap).run (code.caller 200) session.2).2.scene =
      { Scene.started config host session.2.extensions with currentPanel := "" } := by
    show { session.2.scene with keys := session.2.scene.keys.load config.keymap } = _
    rw [activated.scene_eq]
    rfl
  rw [Act.run_bind, Act.run_when]
  generalize (loadMap config.keymap).run (code.caller 200) _ = after at loaded ⊢
  split
  · have hshown := scene_showPanel code 199 after.2 (by rw [loaded]; rfl) (by rw [loaded]; rfl)
      config.initialPanel
    rw [loaded] at hshown
    exact hshown
  · rename_i hempty
    have hnone : config.initialPanel = "" := by simpa using hempty
    rw [loaded, Scene.started, hnone]

end Session

/-- The last entry of a keymap for a chord; chords are told apart by their texts. -/
def lastBindingOf? (keymap : List KeyBinding) (chord : Chord) : Option KeyBinding :=
  keymap.reverse.find? fun binding => binding.keys.text == chord.text

/-- What a shell is like that has just been started is read off the configuration.

The extensions may be listed in any order, more than once, and some of them unknown.  Of the
built-in ones `panels` and those that are listed are active, and no others are.  A chord is bound as
the last entry of the keymap for it says.  A chord without an entry is bound only if it is the
default chord of the greeting extension and that one is listed.  The configured panel is on screen,
and what is registered to be rendered are the greeting panel and the readout of the extensions that
are active.  Nothing is mounted, the host is as it was, it was not called, and nothing was sent. -/
theorem shells_started (code : Code κ S) (config : ShellConfig) (host : Host) (app : S) :
    let session := code.launch config host app
    let active (kind : Builtin) : Bool := session.extensions.isActive kind.name
    (∀ name, session.extensions.isActive name = true ↔
      name = Builtin.panels.name ∨ name ∈ config.extensions ∧
        ∃ kind : Builtin, kind.name = name) ∧
    (∀ chord, session.keys.binding? chord = (lastBindingOf? config.keymap chord).or
      (if chord.text = "ctrl+alt+h" ∧ Builtin.helloWorld.name ∈ config.extensions then
        some ⟨greetingChord, sayHelloCommand, none⟩ else none)) ∧
    session.panelHost.ui.currentPanel = config.initialPanel ∧
    (session.panelHost.panels.entries =
        (if active .helloWorld then [(greetingPanelId, .greeting 0 0)] else []) ∧
      session.panelHost.status.entries =
        if active .editorStatus then [(readoutId, .readout 0)] else []) ∧
    session.bridge = .empty ∧ session.host = host ∧
      ∀ entry ∈ session.journal, entry.isOfHost = false := by
  obtain ⟨extensions, hscene, hactive⟩ := started_launch code config host app
  generalize code.launch config host app = session at hscene ⊢
  intro _ active
  -- All that is claimed is seen in the scene, so each part is read off one of its fields.
  obtain rfl : session.extensions = extensions := congrArg Scene.extensions hscene
  have hlisted : ∀ kind : Builtin, active kind = true ↔
      kind.name ∈ config.extensions ++ [Builtin.panels.name] := by
    intro kind
    rw [hactive, and_iff_left ⟨kind, rfl⟩]
  have hgreeting : Builtin.helloWorld.name ∈ config.extensions ++ [Builtin.panels.name] ↔
      Builtin.helloWorld.name ∈ config.extensions := by
    simp [Builtin.name_injective.eq_iff]
  refine ⟨fun name => ?_, fun chord => ?_, congrArg Scene.currentPanel hscene, ⟨?_, ?_⟩,
    congrArg Scene.bridge hscene, congrArg Scene.host hscene, fun entry hentry => ?_⟩
  · rw [hactive, List.mem_append, List.mem_singleton]
    constructor
    · rintro ⟨hmem | rfl, hknown⟩
      · exact .inr ⟨hmem, hknown⟩
      · exact .inl rfl
    · rintro (rfl | ⟨hmem, hknown⟩)
      · exact ⟨.inr rfl, _, rfl⟩
      · exact ⟨.inl hmem, hknown⟩
  · have hkeys : session.keys = _ := congrArg Scene.keys hscene
    rw [hkeys]
    show (KeyDispatcher.load _ config.keymap).binding? chord = _
    rw [KeyDispatcher.binding?_load, Scene.binding?_opened]
    simp only [hgreeting]
    rfl
  · have hpanels : session.panelHost.panels = _ := congrArg Scene.panels hscene
    rw [hpanels]
    show (if _ then _ else _) = if _ then _ else _
    simp only [hlisted]
  · have hstatus : session.panelHost.status = _ := congrArg Scene.status hscene
    rw [hstatus]
    show (if _ then _ else _) = if _ then _ else _
    simp only [hlisted]
  · have htold : session.journal.filter Entry.isOfHost = [] := congrArg Scene.told hscene
    exact Bool.eq_false_iff.2 (List.filter_eq_nil_iff.1 htold entry hentry)

/-- Two entries for one chord, an extension that is listed twice and one that is unknown. -/
example :
    let config : ShellConfig :=
      { ShellConfig.default with
        extensions := ["hello-world", "vim", "hello-world"]
        keymap := [⟨greetingChord, "first", none⟩, ⟨greetingChord, "second", some .null⟩]
        initialPanel := "panel::hello-world" }
    let session := Code.plain.launch config (.fresh .lines true) ()
    session.keys.binding? greetingChord = some ⟨greetingChord, "second", some .null⟩ ∧
      session.panelHost.panels.ids = ["panel::hello-world"] ∧
      session.panelHost.ui.currentPanel = "panel::hello-world" := by
  decide +kernel

end EditorShell
