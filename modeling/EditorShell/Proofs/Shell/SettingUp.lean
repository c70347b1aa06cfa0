import EditorShell.Proofs.Event.Subscriptions
import EditorShell.Proofs.Extension.Contributions
import EditorShell.Proofs.Shell.Fixtures

/-!
# Setting up and taking back

What each built-in extension has set up while it is active, and while it is not (`Fixtures.Has`).
An activation goes from the one to the other, a deactivation back, and neither touches what belongs
to the other extensions (`Fixtures.SameBut`).  Deactivating an extension that is not active changes
nothing.

Each event, each command and each component belongs to one extension.  So what an extension changes
is told by equations on its own fixtures, and the fixtures of the others stay as they are.
-/

namespace EditorShell

open Session

variable {κ S : Type}

/-! ## Fixtures of an extension that is active or not -/

/-- What the `panels` extension has set up while it is active, and while it is not. -/
inductive KeyFixtures.SetUp : Bool → KeyFixtures κ → Prop where
  | off : SetUp false ⟨[⟨none⟩], [], none⟩
  | on (listener : SubscriptionId) (command : Command (ActionBody κ)) :
      SetUp true ⟨[⟨some listener⟩], [⟨listener, .hideOnEscape⟩], some command⟩

/-- What the readout has set up: everything while it is active, and nothing otherwise. -/
inductive ReadoutFixtures.SetUp : Bool → ReadoutFixtures κ → Prop where
  | off : SetUp false ⟨[[]], [], [], [], []⟩
  | on (cursor selected closed : SubscriptionId) :
      SetUp true ⟨[[(cursorEvent, cursor), (tabSelectedEvent, selected), (tabClosedEvent, closed)]],
        [⟨cursor, .cursor 0⟩], [⟨selected, .language 0⟩], [⟨closed, .language 0⟩],
        [(readoutId, .readout 0)]⟩

/-- While the greeting extension is active, its debouncer is the only one that has not been
dropped. -/
inductive GreetingFixtures.SetUp : Bool → GreetingFixtures κ → Prop where
  | off {dropped : List Bool} (gone : ∀ id : DebouncerId, dropped[id]? ≠ some false) :
      SetUp false ⟨[none], dropped, []⟩
  | on {dropped : List Bool} (id : DebouncerId)
      (gone : ∀ other : DebouncerId, dropped[other]? = some false → other = id) :
      SetUp true ⟨[some id], dropped, [(greetingPanelId, .greeting 0 id)]⟩

/-- The command of the greeting extension is the one that was contributed on its behalf. -/
inductive Offered : Bool → List (Contributed (ActionBody κ)) → Option (Command (ActionBody κ)) →
    Prop where
  | off : Offered false [] none
  | on (command : Command (ActionBody κ)) (chord? : Option Chord) :
      Offered true [⟨sayHelloCommand, command.action, chord?⟩] (some command)

namespace Fixtures

/-- What a built-in extension has set up itself. -/
def Owns (fixtures : Fixtures κ) (active : Bool) : Builtin → Prop
  | .panels => fixtures.keys.SetUp active
  | .editorStatus => fixtures.readout.SetUp active
  | .helloWorld => fixtures.greeting.SetUp active

/-- What was contributed on behalf of a built-in extension. -/
def Offers (fixtures : Fixtures κ) (active : Bool)
    (contributed : List (Contributed (ActionBody κ))) : Builtin → Prop
  | .panels | .editorStatus => contributed = []
  | .helloWorld => Offered active contributed fixtures.command?

/-- All that a built-in extension has set up. -/
structure Has (fixtures : Fixtures κ) (active : Bool)
    (contributed : List (Contributed (ActionBody κ))) (kind : Builtin) : Prop where
  owns : fixtures.Owns active kind
  offers : fixtures.Offers active contributed kind

/-- Only what one extension has set up is changed. -/
structure SameBut (kind : Builtin) (before after : Fixtures κ) : Prop where
  extensions_eq : after.extensions = before.extensions
  sink_eq : after.sink = before.sink
  shown_eq : after.shown = before.shown
  others_eq : after.others = before.others
  keys_eq : kind ≠ .panels → after.keys = before.keys
  readout_eq : kind ≠ .editorStatus → after.readout = before.readout
  greeting_eq : kind ≠ .helloWorld → after.greeting = before.greeting
  command?_eq : kind ≠ .helloWorld → after.command? = before.command?

variable {fixtures : Fixtures κ}

theorem Offers.congr {active : Bool} {contributed : List (Contributed (ActionBody κ))}
    {kind : Builtin} (offers : fixtures.Offers active contributed kind) {after : Fixtures κ}
    (hcommand : after.command? = fixtures.command?) : after.Offers active contributed kind := by
  unfold Offers at offers ⊢
  rw [hcommand]
  exact offers

/-- An extension that is not active has contributed nothing. -/
theorem Has.contributed_eq_nil {contributed : List (Contributed (ActionBody κ))} {kind : Builtin}
    (has : fixtures.Has false contributed kind) : contributed = [] := by
  obtain ⟨-, hoffers⟩ := has
  cases kind with
  | panels => exact hoffers
  | editorStatus => exact hoffers
  | helloWorld =>
      unfold Offers at hoffers
      generalize fixtures.command? = command? at hoffers
      cases hoffers
      rfl

theorem Has.withExtensions {active : Bool} {contributed : List (Contributed (ActionBody κ))}
    {kind : Builtin} (has : fixtures.Has active contributed kind)
    (extensions : ExtensionRegistry (Extension κ) (ActionBody κ)) :
    { fixtures with extensions := extensions }.Has active contributed kind := by
  cases kind <;> exact ⟨has.owns, has.offers⟩

namespace SameBut

theorem trans {kind : Builtin} {first second third : Fixtures κ}
    (hfirst : first.SameBut kind second) (hsecond : second.SameBut kind third) :
    first.SameBut kind third where
  extensions_eq := hsecond.extensions_eq.trans hfirst.extensions_eq
  sink_eq := hsecond.sink_eq.trans hfirst.sink_eq
  shown_eq := hsecond.shown_eq.trans hfirst.shown_eq
  others_eq := hsecond.others_eq.trans hfirst.others_eq
  keys_eq hne := (hsecond.keys_eq hne).trans (hfirst.keys_eq hne)
  readout_eq hne := (hsecond.readout_eq hne).trans (hfirst.readout_eq hne)
  greeting_eq hne := (hsecond.greeting_eq hne).trans (hfirst.greeting_eq hne)
  command?_eq hne := (hsecond.command?_eq hne).trans (hfirst.command?_eq hne)

theorem refl (kind : Builtin) (fixtures : Fixtures κ) : fixtures.SameBut kind fixtures :=
  ⟨rfl, rfl, rfl, rfl, fun _ => rfl, fun _ => rfl, fun _ => rfl, fun _ => rfl⟩

theorem withKeys (keys : KeyFixtures κ) :
    fixtures.SameBut .panels { fixtures with keys := keys } :=
  ⟨rfl, rfl, rfl, rfl, fun hne => absurd rfl hne, fun _ => rfl, fun _ => rfl, fun _ => rfl⟩

theorem withReadout (readout : ReadoutFixtures κ) :
    fixtures.SameBut .editorStatus { fixtures with readout := readout } :=
  ⟨rfl, rfl, rfl, rfl, fun _ => rfl, fun hne => absurd rfl hne, fun _ => rfl, fun _ => rfl⟩

theorem withGreeting (greeting : GreetingFixtures κ) (command? : Option (Command (ActionBody κ))) :
    fixtures.SameBut .helloWorld { fixtures with greeting := greeting, command? := command? } :=
  ⟨rfl, rfl, rfl, rfl, fun _ => rfl, fun _ => rfl, fun hne => absurd rfl hne,
    fun hne => absurd rfl hne⟩

theorem withExtensions {kind : Builtin} {after : Fixtures κ} (same : fixtures.SameBut kind after)
    (extensions : ExtensionRegistry (Extension κ) (ActionBody κ)) :
    { fixtures with extensions := extensions }.SameBut kind
      { after with extensions := extensions } :=
  { same with extensions_eq := rfl }

/-- What another extension has set up stays. -/
theorem has {kind other : Builtin} {after : Fixtures κ} (same : fixtures.SameBut kind after)
    (hother : other ≠ kind) {active : Bool} {contributed : List (Contributed (ActionBody κ))}
    (has : fixtures.Has active contributed other) : after.Has active contributed other := by
  obtain ⟨owns, offers⟩ := has
  cases other with
  | panels =>
      refine ⟨?_, offers⟩
      show after.keys.SetUp active
      rw [same.keys_eq hother.symm]
      exact owns
  | editorStatus =>
      refine ⟨?_, offers⟩
      show after.readout.SetUp active
      rw [same.readout_eq hother.symm]
      exact owns
  | helloWorld =>
      refine ⟨?_, offers.congr (same.command?_eq hother.symm)⟩
      show after.greeting.SetUp active
      rw [same.greeting_eq hother.symm]
      exact owns

end SameBut

end Fixtures

/-! ## Activations and deactivations -/

theorem EventBus.others_subscribe {L : Type} (bus : EventBus L) {event : String}
    (hknown : event ∈ knownEvents) (listener : L) :
    (bus.subscribe event listener).2.others = bus.others := by
  funext other
  unfold others
  split
  · rfl
  · rename_i hother
    rw [listeners_subscribe, if_neg fun heq : other = event => hother (heq ▸ hknown)]

theorem EventBus.others_unsubscribe {L : Type} (bus : EventBus L) {event : String}
    (hknown : event ∈ knownEvents) (id : SubscriptionId) :
    (bus.unsubscribe event id).2.others = bus.others := by
  funext other
  unfold others
  split
  · rfl
  · rename_i hother
    rw [listeners_unsubscribe, if_neg fun heq : other = event => hother (heq ▸ hknown)]

section

variable {caller : Caller κ S} {session : Session κ S}

theorem setUp_activatePanels (setUp : session.fixtures.keys.SetUp false) :
    ((activatePanels 0).run caller session).1 = .ok () ∧ ∃ keys : KeyFixtures κ,
      ((activatePanels 0).run caller session).2.fixtures = { session.fixtures with keys := keys } ∧
        keys.SetUp true := by
  generalize hkeys : session.fixtures.keys = keys at setUp
  cases setUp
  simp only [Session.fixtures, KeyFixtures.mk.injEq] at hkeys
  obtain ⟨hcopies, hheard, -⟩ := hkeys
  refine ⟨rfl, _, ?_, .on session.events.nextId
    ⟨.named showPanelCommand, (session.commands.newAction .showPanel).1⟩⟩
  simp +decide [activatePanels, subscribe, setKeyListener, registerCommand, registerDescriptor,
    registerAction, newAction, Session.fixtures, CommandDescriptor.named,
    EventBus.listeners_subscribe, EventBus.others_subscribe, CommandRegistry.get?_insert,
    CommandRegistry.get?_newAction, hcopies, hheard]

theorem setUp_deactivatePanels {active : Bool} (setUp : session.fixtures.keys.SetUp active) :
    ∃ keys : KeyFixtures κ,
      ((deactivatePanels 0).run caller session).2.fixtures =
        { session.fixtures with keys := keys } ∧ keys.SetUp false := by
  refine ⟨_, ?_, .off⟩
  generalize hkeys : session.fixtures.keys = keys at setUp
  simp only [Session.fixtures] at hkeys
  cases setUp with
  | off =>
    simp only [KeyFixtures.mk.injEq] at hkeys
    obtain ⟨hcopies, hheard, hcommand⟩ := hkeys
    simp +decide [deactivatePanels, setKeyListener, unregisterCommand, forgetKeys, Session.fixtures,
      CommandRegistry.get?_unregister, hcopies, hheard]
  | on listener command =>
    simp only [KeyFixtures.mk.injEq] at hkeys
    obtain ⟨hcopies, hheard, hcommand⟩ := hkeys
    simp +decide [deactivatePanels, setKeyListener, unregisterCommand, forgetKeys, unsubscribe,
      Session.fixtures, CommandRegistry.get?_unregister, EventBus.listeners_unsubscribe,
      EventBus.others_unsubscribe, hcopies, hheard]

theorem setUp_activateEditorStatus (setUp : session.fixtures.readout.SetUp false) :
    ((activateEditorStatus 0).run caller session).1 = .ok () ∧ ∃ readout : ReadoutFixtures κ,
      ((activateEditorStatus 0).run caller session).2.fixtures =
        { session.fixtures with readout := readout } ∧ readout.SetUp true := by
  generalize hreadout : session.fixtures.readout = readout at setUp
  cases setUp
  simp only [Session.fixtures, ReadoutFixtures.mk.injEq, List.map_eq_singleton_iff] at hreadout
  obtain ⟨⟨state, hcopies, hsubscriptions⟩, hcursor, hselected, hclosed, hstatus⟩ := hreadout
  refine ⟨rfl, _, ?_, .on session.events.nextId (session.events.nextId + 1)
    (session.events.nextId + 2)⟩
  simp +decide [activateEditorStatus, subscribe, followEvent, changeEditorStatus, registerStatus,
    changePanels, touch, noting, Session.fixtures, EventBus.listeners_subscribe,
    EventBus.others_subscribe, EventBus.nextId_subscribe, ComponentRegistry.insert,
    ComponentRegistry.contains, ComponentRegistry.ids, hcopies, hsubscriptions, hcursor, hselected,
    hclosed, hstatus]

theorem setUp_deactivateEditorStatus {active : Bool}
    (setUp : session.fixtures.readout.SetUp active) : ∃ readout : ReadoutFixtures κ,
      ((deactivateEditorStatus 0).run caller session).2.fixtures =
        { session.fixtures with readout := readout } ∧ readout.SetUp false := by
  refine ⟨_, ?_, .off⟩
  generalize hreadout : session.fixtures.readout = readout at setUp
  simp only [Session.fixtures] at hreadout
  cases setUp with
  | off =>
    simp only [ReadoutFixtures.mk.injEq, List.map_eq_singleton_iff] at hreadout
    obtain ⟨⟨state, hcopies, hsubscriptions⟩, hcursor, hselected, hclosed, hstatus⟩ := hreadout
    simp +decide [deactivateEditorStatus, changeEditorStatus, unsubscribeEach, unregisterStatus,
      changePanels, touch, editorStatus, Session.fixtures, ComponentRegistry.contains,
      ComponentRegistry.ids, hcopies, hsubscriptions, hcursor, hselected, hclosed, hstatus]
  | on cursor selected closed =>
    simp only [ReadoutFixtures.mk.injEq, List.map_eq_singleton_iff] at hreadout
    obtain ⟨⟨state, hcopies, hsubscriptions⟩, hcursor, hselected, hclosed, hstatus⟩ := hreadout
    simp +decide [deactivateEditorStatus, changeEditorStatus, unsubscribeEach, unsubscribe,
      unregisterStatus, changePanels, touch, noting, editorStatus, Session.fixtures,
      EventBus.listeners_unsubscribe, EventBus.others_unsubscribe, ComponentRegistry.contains,
      ComponentRegistry.ids, ComponentRegistry.remove, hcopies, hsubscriptions, hcursor, hselected,
      hclosed, hstatus]

theorem fixtures_dropDebouncer (id : DebouncerId) :
    ((dropDebouncer id).run caller session).2.fixtures = { session.fixtures with
      greeting := { session.fixtures.greeting with
        dropped := session.fixtures.greeting.dropped.set id true } } := by
  unfold dropDebouncer cancelDebounced setDebouncer
  cases hlatest : (session.debouncer id).latest? with
  | none => simp [hlatest, cancelTask?, Session.fixtures, List.map_set]
  | some latest => simp [hlatest, cancelTask?, cancelTask, Session.fixtures, List.map_set]

theorem fixtures_unregisterPanel (id : String) :
    ((unregisterPanel id).run caller session).2.fixtures = { session.fixtures with
      greeting := { session.fixtures.greeting with
        panels := session.fixtures.greeting.panels.eraseP fun entry => entry.1 == id } } := by
  by_cases hfound : session.panelHost.panels.contains id = true
  · simp [unregisterPanel, hfound, changePanels, touch, noting, Session.fixtures,
      ComponentRegistry.remove]
  · have hnone : ∀ entry ∈ session.panelHost.panels.entries, ¬ (entry.1 == id) = true := by
      intro entry hentry heq
      refine hfound (List.contains_iff_mem.2 ?_)
      rw [← eq_of_beq heq]
      exact List.mem_map_of_mem hentry
    simp [unregisterPanel, hfound, Session.fixtures, List.eraseP_of_forall_not hnone]

/-- No debouncer but the new one is left. -/
theorem gone_append {dropped : List Bool} (gone : ∀ id : DebouncerId, dropped[id]? ≠ some false)
    (other : DebouncerId) (hother : (dropped ++ [false])[other]? = some false) :
    other = dropped.length := by
  rw [List.getElem?_append] at hother
  split at hother
  · exact absurd hother (gone other)
  · rename_i hge
    rw [List.getElem?_singleton] at hother
    split at hother
    · exact Nat.le_antisymm (Nat.le_of_sub_eq_zero ‹_›) (Nat.le_of_not_lt hge)
    · cases hother

theorem setUp_activateHelloWorld (setUp : session.fixtures.greeting.SetUp false) :
    ((activateHelloWorld 0).run caller session).1 = .ok () ∧ ∃ greeting : GreetingFixtures κ,
      ((activateHelloWorld 0).run caller session).2.fixtures =
        { session.fixtures with greeting := greeting } ∧ greeting.SetUp true := by
  generalize hgreeting : session.fixtures.greeting = greeting at setUp
  cases setUp with
  | @off dropped gone =>
  simp only [Session.fixtures, GreetingFixtures.mk.injEq, List.map_eq_singleton_iff] at hgreeting
  obtain ⟨⟨state, hcopies, howned⟩, rfl, hpanels⟩ := hgreeting
  refine ⟨rfl, _, ?_, .on _ (gone_append gone)⟩
  simp +decide [activateHelloWorld, newDebouncer, setNameDebouncer, changeGreeter, greeter,
    registerPanel, changePanels, touch, noting, Session.fixtures, Debouncer.ofDelay,
    ComponentRegistry.insert, ComponentRegistry.contains, ComponentRegistry.ids, hcopies, howned,
    hpanels]

/-- The debouncer of a copy is dropped, so none is left. -/
theorem fixtures_forgetName (caller : Caller κ S) {active : Bool}
    (setUp : session.fixtures.greeting.SetUp active) :
    ∃ dropped : List Bool, (∀ id : DebouncerId, dropped[id]? ≠ some false) ∧
      ((setNameDebouncer 0 none).run caller session).2.fixtures = { session.fixtures with
        greeting := ⟨[none], dropped, session.fixtures.greeting.panels⟩ } := by
  generalize hgreeting : session.fixtures.greeting = greeting at setUp
  simp only [Session.fixtures] at hgreeting
  cases setUp with
  | @off dropped gone =>
      simp only [GreetingFixtures.mk.injEq, List.map_eq_singleton_iff] at hgreeting
      obtain ⟨⟨state, hcopies, howned⟩, hdropped, hpanels⟩ := hgreeting
      refine ⟨dropped, gone, ?_⟩
      simp [setNameDebouncer, changeGreeter, greeter, Session.fixtures, hcopies, howned, hdropped,
        hpanels]
  | @on dropped id gone =>
      simp only [GreetingFixtures.mk.injEq, List.map_eq_singleton_iff] at hgreeting
      obtain ⟨⟨state, hcopies, howned⟩, hdropped, hpanels⟩ := hgreeting
      -- The debouncer that is forgotten is dropped, and it was the only one that was not.
      refine ⟨dropped.set id true, fun other hother => ?_, ?_⟩
      · rw [List.getElem?_set] at hother
        by_cases heq : id = other
        · simp [heq] at hother
        · rw [if_neg heq] at hother
          exact heq (gone other hother).symm
      · simp [setNameDebouncer, changeGreeter, greeter, hcopies, howned, fixtures_dropDebouncer]
        simp [Session.fixtures, hdropped, hpanels]

theorem setUp_deactivateHelloWorld {active : Bool}
    (setUp : session.fixtures.greeting.SetUp active) : ∃ greeting : GreetingFixtures κ,
      ((deactivateHelloWorld 0).run caller session).2.fixtures =
        { session.fixtures with greeting := greeting } ∧ greeting.SetUp false := by
  obtain ⟨dropped, gone, hforgotten⟩ := fixtures_forgetName caller setUp
  have hpanels : (session.fixtures.greeting.panels.eraseP fun entry =>
      entry.1 == greetingPanelId) = [] := by
    generalize session.fixtures.greeting = greeting at setUp
    cases setUp <;> simp
  refine ⟨⟨[none], dropped, []⟩, ?_, .off gone⟩
  simp only [deactivateHelloWorld, Act.run_bind, Act.run_pure, fixtures_unregisterPanel,
    hforgotten, hpanels]

end

/-! ## Calls of the extensions -/

/-- What a built-in extension does when it is activated. -/
def Builtin.activation : Builtin → Act κ S (Except ExtensionError Unit)
  | .panels => activatePanels 0
  | .editorStatus => activateEditorStatus 0
  | .helloWorld => activateHelloWorld 0

/-- What a built-in extension does when it is deactivated. -/
def Builtin.deactivation : Builtin → Act κ S (Except ExtensionError Unit)
  | .panels => deactivatePanels 0
  | .editorStatus => deactivateEditorStatus 0
  | .helloWorld => deactivateHelloWorld 0

variable {caller : Caller κ S} {session : Session κ S} {kind : Builtin} {code : Code κ S}
  {depth : Nat} {name : String} {entry : ExtensionEntry (Extension κ) (ActionBody κ)}

/-- An activation sets up what belongs to the extension, and succeeds. -/
theorem Builtin.owns_activation (caller : Caller κ S) (session : Session κ S)
    (owns : session.fixtures.Owns false kind) :
    (kind.activation.run caller session).1 = .ok () ∧
      session.fixtures.SameBut kind (kind.activation.run caller session).2.fixtures ∧
      (kind.activation.run caller session).2.fixtures.Owns true kind ∧
      (kind.activation.run caller session).2.fixtures.command? = session.fixtures.command? := by
  cases kind with
  | panels =>
      obtain ⟨hresult, keys, hkeys, setUp⟩ := setUp_activatePanels owns
      refine ⟨hresult, ?_⟩
      unfold Builtin.activation
      rw [hkeys]
      exact ⟨.withKeys keys, setUp, rfl⟩
  | editorStatus =>
      obtain ⟨hresult, readout, hreadout, setUp⟩ := setUp_activateEditorStatus owns
      refine ⟨hresult, ?_⟩
      unfold Builtin.activation
      rw [hreadout]
      exact ⟨.withReadout readout, setUp, rfl⟩
  | helloWorld =>
      obtain ⟨hresult, greeting, hgreeting, setUp⟩ := setUp_activateHelloWorld owns
      refine ⟨hresult, ?_⟩
      unfold Builtin.activation
      rw [hgreeting]
      exact ⟨.withGreeting greeting _, setUp, rfl⟩

/-- A deactivation takes back what belongs to the extension, whether it is active or not. -/
theorem Builtin.owns_deactivation (caller : Caller κ S) (session : Session κ S) {active : Bool}
    (owns : session.fixtures.Owns active kind) :
    session.fixtures.SameBut kind (kind.deactivation.run caller session).2.fixtures ∧
      (kind.deactivation.run caller session).2.fixtures.Owns false kind ∧
      (kind.deactivation.run caller session).2.fixtures.command? = session.fixtures.command? := by
  cases kind with
  | panels =>
      obtain ⟨keys, hkeys, setUp⟩ := setUp_deactivatePanels owns
      unfold Builtin.deactivation
      rw [hkeys]
      exact ⟨.withKeys keys, setUp, rfl⟩
  | editorStatus =>
      obtain ⟨readout, hreadout, setUp⟩ := setUp_deactivateEditorStatus owns
      unfold Builtin.deactivation
      rw [hreadout]
      exact ⟨.withReadout readout, setUp, rfl⟩
  | helloWorld =>
      obtain ⟨greeting, hgreeting, setUp⟩ := setUp_deactivateHelloWorld owns
      unfold Builtin.deactivation
      rw [hgreeting]
      exact ⟨.withGreeting greeting _, setUp, rfl⟩

/-- A call to activate a built-in extension gives what its activation gives. -/
theorem fst_call_activate (code : Code κ S) (depth : Nat) (session : Session κ S) (name : String)
    (generation : Nat) (kind : Builtin) :
    ((Act.call (.activate name generation (.builtin kind 0))).run
      (code.caller (depth + 1)) session).1 = .ok (kind.activation.run (code.caller depth)
        (session.noting (.called (.activate name generation (.builtin kind 0))))).1 := by
  cases kind <;> rfl

theorem owns_call_activate (code : Code κ S) (depth : Nat) (name : String) (generation : Nat)
    (owns : session.fixtures.Owns false kind) :
    let called := (Act.call (.activate name generation (.builtin kind 0))).run
      (code.caller (depth + 1)) session
    called.1 = .ok (.ok ()) ∧ session.fixtures.SameBut kind called.2.fixtures ∧
      called.2.fixtures.Owns true kind ∧
      called.2.fixtures.command? = session.fixtures.command? := by
  obtain ⟨hresult, hset⟩ := Builtin.owns_activation (code.caller depth)
    (session.noting (.called (.activate name generation (.builtin kind 0)))) owns
  refine ⟨by rw [fst_call_activate, hresult], ?_⟩
  cases kind <;> exact hset

theorem owns_call_deactivate (code : Code κ S) (depth : Nat) (name : String) (generation : Nat)
    {active : Bool} (owns : session.fixtures.Owns active kind) :
    let called := (Act.call (.deactivate name generation (.builtin kind 0))).run
      (code.caller (depth + 1)) session
    session.fixtures.SameBut kind called.2.fixtures ∧ called.2.fixtures.Owns false kind ∧
      called.2.fixtures.command? = session.fixtures.command? := by
  have hset := Builtin.owns_deactivation (code.caller depth)
    (session.noting (.called (.deactivate name generation (.builtin kind 0)))) owns
  cases kind <;> exact hset

/-! ## Contributions -/

/-- The commands that a built-in extension lists. -/
def Builtin.Lists (contributions : List (Contribution (ActionBody κ))) : Builtin → Prop
  | .panels | .editorStatus => contributions = []
  | .helloWorld => ∃ action, contributions = [⟨sayHelloCommand, action, some "ctrl+alt+h"⟩]

theorem run_call_listing (code : Code κ S) (depth : Nat) (session : Session κ S) (name : String)
    (generation : Nat) (kind : Builtin) :
    ∃ contributions, kind.Lists contributions ∧
      ((Act.call (.listing name generation (.builtin kind 0))).run (code.caller (depth + 1))
        session).1 = .ok contributions := by
  cases kind with
  | panels => exact ⟨[], rfl, rfl⟩
  | editorStatus => exact ⟨[], rfl, rfl⟩
  | helloWorld =>
      exact ⟨[⟨sayHelloCommand, ⟨session.commands.nextAction, .sayHello 0⟩, some "ctrl+alt+h"⟩],
        ⟨_, rfl⟩, rfl⟩

theorem fixtures_call_listing (code : Code κ S) (depth : Nat) (session : Session κ S)
    (name : String) (generation : Nat) (kind : Builtin) :
    ((Act.call (.listing name generation (.builtin kind 0))).run (code.caller (depth + 1))
      session).2.fixtures = session.fixtures := by
  cases kind <;> rfl

/-- Only the command that is contributed on behalf of an extension is changed, and this is what is
contributed from now on. -/
structure Fixtures.Reoffers (kind : Builtin) (before : Fixtures κ) (active : Bool)
    (contributed : List (Contributed (ActionBody κ))) (after : Fixtures κ) : Prop where
  same : before.SameBut kind after
  owns : ∀ active, before.Owns active kind → after.Owns active kind
  offers : after.Offers active contributed kind

theorem fixtures_contributing (session : Session κ S) {item : Contributed (ActionBody κ)}
    (hname : item.name = sayHelloCommand) :
    ∃ command, command.action = item.action ∧ (session.contributing item).fixtures =
      { session.fixtures with command? := some command } := by
  refine ⟨⟨{ CommandDescriptor.named item.name with keys := item.chord }, item.action⟩, rfl, ?_⟩
  simp +decide [Session.contributing, Session.fixtures, CommandRegistry.get?_insert, hname,
    CommandDescriptor.named]

theorem fixtures_takingBack {command : Command (ActionBody κ)} (chord? : Option Chord)
    (hcommand : session.fixtures.command? = some command) :
    (session.takingBack ⟨sayHelloCommand, command.action, chord?⟩).fixtures =
      { session.fixtures with command? := none } := by
  have hheld : session.commands.holdsAction sayHelloCommand command.action = true := by
    have hget : session.commands.get? sayHelloCommand = some command := hcommand
    simp [CommandRegistry.holdsAction, hget]
  have herase : ∀ name, (session.commands.unregisterAction sayHelloCommand
      command.action).2.get? name =
        if name = sayHelloCommand then none else session.commands.get? name := by
    intro name
    rw [CommandRegistry.unregisterAction, if_pos hheld]
    exact Table.get?_erase _ _ _
  simp +decide [Session.takingBack, Session.fixtures, herase]

/-- What an extension lists is registered, or the list is refused and nothing is. -/
theorem reoffers_contributeAll (caller : Caller κ S) (attached : session.chordSink = .dispatcher)
    {contributions : List (Contribution (ActionBody κ))} (lists : kind.Lists contributions)
    (offers : session.fixtures.Offers false [] kind) :
    let listed := (contributeAll contributions).run caller session
    session.fixtures.Reoffers kind listed.1.2.isOk listed.1.1 listed.2.fixtures := by
  cases kind with
  | panels =>
      obtain rfl : contributions = [] := lists
      exact ⟨.refl _ _, fun _ => id, rfl⟩
  | editorStatus =>
      obtain rfl : contributions = [] := lists
      exact ⟨.refl _ _, fun _ => id, rfl⟩
  | helloWorld =>
      obtain ⟨action, rfl⟩ := lists
      unfold contributeAll
      -- That the chord can be read is not needed here: without it nothing is offered.
      cases (some "ctrl+alt+h").mapM Chord.parse with
      | error cause => exact ⟨.refl _ _, fun _ => id, offers⟩
      | ok chord? =>
          obtain ⟨item, hname, -, hrun⟩ := run_contribute caller session attached
            ⟨sayHelloCommand, action, some "ctrl+alt+h"⟩ chord?
          obtain ⟨command, haction, hfixtures⟩ := fixtures_contributing session hname
          simp only [contributeAll, Act.run_bind, hrun, Act.run_pure, hfixtures]
          refine ⟨.withGreeting _ _, fun _ => id, ?_⟩
          obtain ⟨itemName, itemAction, chord?⟩ := item
          obtain rfl : itemName = sayHelloCommand := hname
          obtain rfl : command.action = itemAction := haction
          exact .on command chord?

/-- What was contributed on behalf of an extension is withdrawn. -/
theorem reoffers_withdrawAll (caller : Caller κ S) {active : Bool}
    {contributed : List (Contributed (ActionBody κ))}
    (offers : session.fixtures.Offers active contributed kind) :
    session.fixtures.Reoffers kind false []
      ((withdrawAll contributed).run caller session).2.fixtures := by
  rw [run_withdrawAll]
  cases kind with
  | panels =>
      obtain rfl : contributed = [] := offers
      exact ⟨.refl _ _, fun _ => id, rfl⟩
  | editorStatus =>
      obtain rfl : contributed = [] := offers
      exact ⟨.refl _ _, fun _ => id, rfl⟩
  | helloWorld =>
      unfold Fixtures.Offers at offers
      -- The command is offered by the contribution that is withdrawn, or not at all.
      generalize hcommand : session.fixtures.command? = command? at offers
      cases offers with
      | off =>
          refine ⟨.refl _ _, fun _ => id, ?_⟩
          show Offered false [] session.fixtures.command?
          rw [hcommand]
          exact .off
      | on command chord? =>
          rw [List.foldl_cons, List.foldl_nil, fixtures_takingBack chord? hcommand]
          exact ⟨.withGreeting _ _, fun _ => id, .off⟩

/-! ## Bringing up and shutting down -/

/-- What a built-in extension lists is registered, and if that succeeds, the extension is told that
it is activated. -/
theorem run_bringUp (code : Code κ S) (depth : Nat) (name : String)
    (entry : ExtensionEntry (Extension κ) (ActionBody κ)) (session : Session κ S)
    (hextension : entry.extension = .builtin kind 0) :
    let listed := (Act.call (.listing name entry.generation (.builtin kind 0))).run
      (code.caller (depth + 1)) session
    ∃ contributions, kind.Lists contributions ∧
      (bringUp name entry).run (code.caller (depth + 1)) session =
        let registered := (contributeAll contributions).run (code.caller (depth + 1)) listed.2
        match registered.1.2 with
        | .error cause => ((registered.1.1, .error cause), registered.2)
        | .ok () =>
          let called := (Act.call (.activate name entry.generation (.builtin kind 0))).run
            (code.caller (depth + 1)) registered.2
          ((registered.1.1, callResult .activate called.1), called.2) := by
  obtain ⟨contributions, lists, hlisted⟩ :=
    run_call_listing code depth session name entry.generation kind
  refine ⟨contributions, lists, ?_⟩
  unfold bringUp
  rw [Act.run_bind, hextension]
  generalize (Act.call (.listing name entry.generation (.builtin kind 0))).run
    (code.caller (depth + 1)) session = listed at hlisted ⊢
  obtain ⟨outcome, listed⟩ := listed
  obtain rfl : outcome = .ok contributions := hlisted
  dsimp only
  rw [Act.run_bind]
  generalize (contributeAll contributions).run (code.caller (depth + 1)) listed = registered
  obtain ⟨⟨contributed, outcome⟩, registered⟩ := registered
  cases outcome <;> rfl

/-- Bringing up an extension that is not active sets up all that belongs to it, or fails and sets up
nothing. -/
theorem has_bringUp (code : Code κ S) (depth : Nat) (name : String)
    (entry : ExtensionEntry (Extension κ) (ActionBody κ)) (session : Session κ S)
    (attached : session.chordSink = .dispatcher)
    (has : session.fixtures.Has false [] kind) (hextension : entry.extension = .builtin kind 0) :
    let brought := (bringUp name entry).run (code.caller (depth + 1)) session
    session.fixtures.SameBut kind brought.2.fixtures ∧
      brought.2.fixtures.Has brought.1.2.isOk brought.1.1 kind := by
  obtain ⟨contributions, lists, hrun⟩ := run_bringUp code depth name entry session hextension
  rw [hrun]
  have hsame := fixtures_call_listing code depth session name entry.generation kind
  generalize ((Act.call (.listing name entry.generation (.builtin kind 0))).run
    (code.caller (depth + 1)) session).2 = listed at hsame ⊢
  -- To list the contributions changes none of the fixtures, so they can be those of before.
  rw [← hsame] at has ⊢
  have hattached : listed.chordSink = .dispatcher :=
    (congrArg Fixtures.sink hsame).trans attached
  have reoffers := reoffers_contributeAll (code.caller (depth + 1)) hattached lists has.offers
  generalize (contributeAll contributions).run (code.caller (depth + 1)) listed = registered
    at reoffers ⊢
  obtain ⟨⟨contributed, outcome⟩, registered⟩ := registered
  cases outcome with
  | error cause => exact ⟨reoffers.same, reoffers.owns false has.owns, reoffers.offers⟩
  | ok _ =>
      obtain ⟨hresult, same, owns, hcommand⟩ := owns_call_activate code depth name
        entry.generation (reoffers.owns false has.owns)
      dsimp only at reoffers hresult same owns hcommand ⊢
      rw [hresult]
      exact ⟨reoffers.same.trans same, owns, reoffers.offers.congr hcommand⟩

/-- Shutting down an extension takes back all that belongs to it, whether it is active or not. -/
theorem has_shutDown (code : Code κ S) (depth : Nat) (name : String)
    (entry : ExtensionEntry (Extension κ) (ActionBody κ)) (session : Session κ S)
    {active : Bool} (has : session.fixtures.Has active entry.contributed kind)
    (hextension : entry.extension = .builtin kind 0) :
    let after := ((shutDown name entry).run (code.caller (depth + 1)) session).2
    session.fixtures.SameBut kind after.fixtures ∧ after.fixtures.Has false [] kind := by
  unfold shutDown
  rw [Act.run_bind, hextension]
  obtain ⟨same, owns, hcommand⟩ := owns_call_deactivate code depth name entry.generation
    has.owns
  generalize (Act.call (.deactivate name entry.generation (.builtin kind 0))).run
    (code.caller (depth + 1)) session = called at same owns hcommand ⊢
  obtain ⟨outcome, called⟩ := called
  dsimp only at same owns hcommand ⊢
  have reoffers := reoffers_withdrawAll (code.caller (depth + 1)) (has.offers.congr hcommand)
  rw [Act.run_bind, Act.run_pure]
  exact ⟨same.trans reoffers.same, reoffers.owns false owns, reoffers.offers⟩

end EditorShell
