import EditorShell.Proofs.Shell.SettingUp
import EditorShell.Proofs.Task.Debouncing

/-!
# The built-in extensions over a run

A shell registers the built-in extensions when it starts.  They may then be activated, deactivated
and unregistered by name any number of times, while the shell is used.  Between the requests each of
them that is active has set up all that belongs to it, and each of the others nothing
(`Fixtures.InOrder`).

The order is kept step by step.  Each operation on one extension replaces the entry of that
extension, and what belongs to the extension fits the new entry (`Fixtures.InOrder.change`).
-/

namespace EditorShell

open Session

variable {κ S : Type}

/-! ## Extensions and what they have set up -/

theorem Builtin.name_injective : Function.Injective Builtin.name := by
  intro first second hname
  cases first <;> cases second <;> first | rfl | exact absurd hname (by decide)

theorem KeyFixtures.SetUp.withCommand {active : Bool} {keys : KeyFixtures κ}
    (setUp : keys.SetUp active) {command? : Option (Command (ActionBody κ))}
    (hsame : command?.map Command.action = keys.command?.map Command.action) :
    { keys with command? := command? }.SetUp active := by
  cases setUp with
  | off =>
      obtain rfl : command? = none := by simpa using hsame
      exact .off
  | on listener command =>
      obtain ⟨other, rfl, -⟩ : ∃ other, command? = some other ∧ other.action = command.action := by
        simpa using hsame
      exact .on listener other

theorem Offered.withCommand {active : Bool} {contributed : List (Contributed (ActionBody κ))}
    {first? second? : Option (Command (ActionBody κ))} (offered : Offered active contributed first?)
    (hsame : second?.map Command.action = first?.map Command.action) :
    Offered active contributed second? := by
  cases offered with
  | off =>
      obtain rfl : second? = none := by simpa using hsame
      exact .off
  | on command chord? =>
      obtain ⟨other, rfl, haction⟩ : ∃ other, second? = some other ∧
          other.action = command.action := by simpa using hsame
      rw [← haction]
      exact .on other chord?

namespace Fixtures

/-- What belongs to a built-in extension fits the entry of its name. -/
inductive Fits (fixtures : Fixtures κ) (kind : Builtin) :
    Option (ExtensionEntry (Extension κ) (ActionBody κ)) → Prop where
  | absent (has : fixtures.Has false [] kind) : Fits fixtures kind none
  | registered (generation : Nat) (has : fixtures.Has false [] kind) :
      Fits fixtures kind (some ⟨.builtin kind 0, .registered, generation, []⟩)
  | active (generation : Nat) {contributed : List (Contributed (ActionBody κ))}
      (has : fixtures.Has true contributed kind) :
      Fits fixtures kind (some ⟨.builtin kind 0, .active, generation, contributed⟩)

/-- No other extensions are registered, and each has set up what it should. -/
structure InOrder (fixtures : Fixtures κ) : Prop where
  attached : fixtures.sink = .dispatcher
  shown : fixtures.shown = [⟨0, .showPanel⟩, ⟨1, .focusInput⟩]
  others : fixtures.others = fun _ => []
  known : ∀ name, fixtures.extensions.get? name ≠ none → ∃ kind : Builtin, kind.name = name
  fits : ∀ kind, fixtures.Fits kind (fixtures.extensions.get? kind.name)

variable {before after : Fixtures κ} {kind : Builtin}

theorem Fits.mono {stored? : Option (ExtensionEntry (Extension κ) (ActionBody κ))}
    (fits : before.Fits kind stored?)
    (hhas : ∀ active contributed, before.Has active contributed kind →
      after.Has active contributed kind) : after.Fits kind stored? := by
  cases fits with
  | absent has => exact .absent (hhas _ _ has)
  | registered generation has => exact .registered generation (hhas _ _ has)
  | active generation has => exact .active generation (hhas _ _ has)

/-- A built-in extension that is registered has set up what it should. -/
theorem Fits.has {entry : ExtensionEntry (Extension κ) (ActionBody κ)}
    (fits : before.Fits kind (some entry)) :
    ∃ active, before.Has active entry.contributed kind ∧ entry.extension = .builtin kind 0 := by
  cases fits with
  | registered generation has => exact ⟨false, has, rfl⟩
  | active generation has => exact ⟨true, has, rfl⟩

/-- The entry of one extension is replaced, and what belongs to the extension fits the new entry. -/
theorem InOrder.change (inOrder : before.InOrder)
    (same : { before with extensions := after.extensions }.SameBut kind after)
    (hothers : ∀ name, name ≠ kind.name → after.extensions.get? name = before.extensions.get? name)
    {stored? : Option (ExtensionEntry (Extension κ) (ActionBody κ))}
    (hget : after.extensions.get? kind.name = stored?) (fits : after.Fits kind stored?) :
    after.InOrder where
  attached := same.sink_eq.trans inOrder.attached
  shown := same.shown_eq.trans inOrder.shown
  others := same.others_eq.trans inOrder.others
  known name hknown := by
    by_cases hname : name = kind.name
    · exact ⟨kind, hname.symm⟩
    · rw [hothers name hname] at hknown
      exact inOrder.known name hknown
  fits other := by
    by_cases hother : other = kind
    · subst hother
      rw [hget]
      exact fits
    · have hname : other.name ≠ kind.name := fun heq => hother (Builtin.name_injective heq)
      rw [hothers other.name hname]
      exact (inOrder.fits other).mono fun active contributed has =>
        same.has hother (has.withExtensions after.extensions)

/-- The commands of extensions may change, but for their actions. -/
theorem InOrder.withCommands (inOrder : before.InOrder)
    {show? greet? : Option (Command (ActionBody κ))}
    (hshow : show?.map Command.action = before.keys.command?.map Command.action)
    (hgreet : greet?.map Command.action = before.command?.map Command.action) :
    { before with
      keys := { before.keys with command? := show? }, command? := greet? }.InOrder := by
  refine ⟨inOrder.attached, inOrder.shown, inOrder.others, inOrder.known, fun kind => ?_⟩
  refine (inOrder.fits kind).mono fun active contributed has => ?_
  obtain ⟨howns, hoffers⟩ := has
  cases kind with
  | panels => exact ⟨KeyFixtures.SetUp.withCommand howns hshow, hoffers⟩
  | editorStatus => exact ⟨howns, hoffers⟩
  | helloWorld => exact ⟨howns, Offered.withCommand hoffers hgreet⟩

/-- A registry with the same entries is as good. -/
theorem InOrder.withExtensions (inOrder : before.InOrder)
    {extensions : ExtensionRegistry (Extension κ) (ActionBody κ)}
    (hget : ∀ name, extensions.get? name = before.extensions.get? name) :
    { before with extensions := extensions }.InOrder where
  attached := inOrder.attached
  shown := inOrder.shown
  others := inOrder.others
  known name hknown := by
    rw [hget] at hknown
    exact inOrder.known name hknown
  fits kind := by
    rw [hget]
    exact (inOrder.fits kind).mono fun active contributed has => has.withExtensions extensions

end Fixtures

/-! ## Operations on extensions -/

namespace Session

variable (code : Code κ S) (depth : Nat) {session : Session κ S}

/-- An entry is that of a built-in extension. -/
theorem exists_fits (inOrder : session.fixtures.InOrder) {name : String}
    {entry : ExtensionEntry (Extension κ) (ActionBody κ)}
    (hentry : session.extensions.get? name = some entry) :
    ∃ kind : Builtin, kind.name = name ∧ session.fixtures.Fits kind (some entry) := by
  have hget : session.fixtures.extensions.get? name = some entry := hentry
  obtain ⟨kind, rfl⟩ := inOrder.known name (by simp [hget])
  have fits := inOrder.fits kind
  rw [hget] at fits
  exact ⟨kind, rfl, fits⟩

/-- An extension that is activated becomes active, or is left as it was. -/
theorem inOrder_settle {before session : Session κ S} {kind : Builtin} {generation : Nat}
    {contributed : List (Contributed (ActionBody κ))} {result : Except ExtensionError Unit}
    (caller : Caller κ S) (inOrder : before.fixtures.InOrder)
    (hentry : before.extensions.get? kind.name =
      some ⟨.builtin kind 0, .registered, generation, []⟩)
    (same : Fixtures.SameBut kind ({ before with
      extensions := before.extensions.setState kind.name .activating } : Session κ S).fixtures
        session.fixtures)
    (has : session.fixtures.Has result.isOk contributed kind) :
    ((settle kind.name generation contributed result).run caller session).2.fixtures.InOrder := by
  have hextensions : session.extensions = before.extensions.setState kind.name .activating :=
    same.extensions_eq
  have hbegun : session.extensions.get? kind.name =
      some ⟨.builtin kind 0, .activating, generation, []⟩ := by
    rw [hextensions]
    exact ExtensionRegistry.get?_modify_self hentry _
  have hheld : session.extensions.holds kind.name generation = true :=
    ExtensionRegistry.holds_iff.2 ⟨_, hbegun, rfl⟩
  -- The two changes of the entry of this extension touch no other one.
  have hothers : ∀ change name, name ≠ kind.name →
      (session.extensions.modify kind.name change).get? name = before.extensions.get? name := by
    intro change name hname
    rw [ExtensionRegistry.get?_modify_of_ne _ hname, hextensions]
    exact ExtensionRegistry.get?_modify_of_ne _ hname _
  cases result with
  | ok _ =>
      rw [run_settle_ok, if_pos hheld]
      exact inOrder.change (same.withExtensions _) (hothers _)
        (ExtensionRegistry.get?_modify_self hbegun _) (.active generation (has.withExtensions _))
  | error cause =>
      obtain rfl : contributed = [] := has.contributed_eq_nil
      rw [run_settle_error, if_pos hheld]
      exact inOrder.change (same.withExtensions _) (hothers _)
        (ExtensionRegistry.get?_modify_self hbegun _)
        (.registered generation (has.withExtensions _))

theorem inOrder_activate (inOrder : session.fixtures.InOrder) (name : String) :
    ((activate name).run (code.caller (depth + 1)) session).2.fixtures.InOrder := by
  by_cases hstored : session.extensions.state? name = some .registered
  · obtain ⟨entry, hentry, hstate⟩ := Option.map_eq_some_iff.1 hstored
    obtain ⟨kind, rfl, fits⟩ := exists_fits inOrder hentry
    cases fits with
    | active generation has => cases hstate
    | registered generation has =>
        rw [run_activate hentry rfl]
        obtain ⟨same, has⟩ := has_bringUp code depth kind.name
          ⟨.builtin kind 0, .registered, generation, []⟩
          { session with extensions := session.extensions.setState kind.name .activating }
          inOrder.attached (has.withExtensions _) rfl
        exact inOrder_settle (code.caller (depth + 1)) inOrder hentry same has
  · rw [run_activate_of_ne hstored]
    exact inOrder

/-- The entry of an extension is replaced, and then the extension is shut down. -/
theorem inOrder_shutDown (inOrder : session.fixtures.InOrder) {kind : Builtin}
    {entry : ExtensionEntry (Extension κ) (ActionBody κ)}
    (fits : session.fixtures.Fits kind (some entry))
    {extensions : ExtensionRegistry (Extension κ) (ActionBody κ)}
    (hothers : ∀ name, name ≠ kind.name → extensions.get? name = session.extensions.get? name)
    {stored? : Option (ExtensionEntry (Extension κ) (ActionBody κ))}
    (hget : extensions.get? kind.name = stored?)
    (hleft : ∀ after : Fixtures κ, after.Has false [] kind → after.Fits kind stored?) :
    ((shutDown kind.name entry).run (code.caller (depth + 1))
      { session with extensions := extensions }).2.fixtures.InOrder := by
  -- It takes back what belongs to the extension, be it active or not.
  obtain ⟨active, has, hextension⟩ := fits.has
  obtain ⟨same, has⟩ := has_shutDown code depth kind.name entry
    { session with extensions := extensions } (has.withExtensions extensions) hextension
  have hextensions := same.extensions_eq
  refine inOrder.change (show Fixtures.SameBut kind _ _ from ?_) ?_ ?_ (hleft _ has)
  · rw [hextensions]
    exact same
  · rw [hextensions]
    exact hothers
  · rw [hextensions]
    exact hget

theorem inOrder_deactivate (inOrder : session.fixtures.InOrder) (name : String) :
    ((deactivate name).run (code.caller (depth + 1)) session).2.fixtures.InOrder := by
  by_cases hstored : session.extensions.state? name = some .active
  · obtain ⟨entry, hentry, hstate⟩ := Option.map_eq_some_iff.1 hstored
    obtain ⟨kind, rfl, fits⟩ := exists_fits inOrder hentry
    rw [run_deactivate hentry hstate]
    obtain ⟨-, -, hextension⟩ := fits.has
    refine inOrder_shutDown code depth inOrder fits
      (fun other hother => ExtensionRegistry.get?_modify_of_ne _ hother _)
      (ExtensionRegistry.get?_modify_self hentry _) fun after has => ?_
    rw [hextension]
    exact .registered entry.generation has
  · rw [run_deactivate_of_ne hstored]
    exact inOrder

theorem inOrder_unregister (inOrder : session.fixtures.InOrder) (name : String) :
    ((unregister name).run (code.caller (depth + 1)) session).2.fixtures.InOrder := by
  cases hentry : session.extensions.get? name with
  | none =>
      rw [run_unregister_of_none hentry]
      refine inOrder.withExtensions fun wanted => ?_
      rw [ExtensionRegistry.get?_remove]
      split
      · rename_i heq
        rw [heq]
        exact hentry.symm
      · rfl
  | some entry =>
      obtain ⟨kind, rfl, fits⟩ := exists_fits inOrder hentry
      rw [run_unregister hentry]
      refine inOrder_shutDown code depth inOrder fits (fun other hother => ?_) ?_
        fun after => .absent
      · rw [ExtensionRegistry.get?_remove, if_neg hother]
      · rw [ExtensionRegistry.get?_remove, if_pos rfl]

theorem inOrder_activateFrom (inOrder : session.fixtures.InOrder) (count : Nat)
    (names : List String) :
    ((activateFrom count names).run (code.caller (depth + 1)) session).2.fixtures.InOrder := by
  induction names generalizing session count with
  | nil => exact inOrder
  | cons name rest ih =>
      have activated := inOrder_activate code depth inOrder name
      unfold activateFrom
      rw [Act.run_bind]
      split
      · exact ih activated (count + 1)
      · exact ih activated count
      · exact ih activated count

theorem inOrder_deactivateEach (inOrder : session.fixtures.InOrder) (names : List String) :
    ((deactivateEach names).run (code.caller (depth + 1)) session).2.fixtures.InOrder := by
  induction names generalizing session with
  | nil => exact inOrder
  | cons name rest ih =>
      unfold deactivateEach
      simp only [Act.run_bind, Act.run_read, Act.run_when]
      split
      · exact ih (inOrder_deactivate code depth inOrder name)
      · exact ih inOrder

end Session

/-- Whether a request manages the extensions by name. -/
def Request.isManaging : Request κ → Bool
  | .activate _ | .activateAll _ | .deactivate _ | .deactivateAll | .unregister _ => true
  | _ => false

theorem Act.Class.Extensions.perform {Parts : Act.Class κ S} (extensions : Parts.Extensions)
    {request : Request κ} (hmanaging : request.isManaging = true) :
    (request.perform (S := S)).MadeOf Parts := by
  cases request with
  | activate name => exact extensions.activate name
  | deactivate name => exact extensions.deactivate name
  | activateAll names => exact extensions.activateFrom 0 names
  | deactivateAll => exact extensions.deactivateAll
  | unregister name => exact extensions.unregister name
  | _ => cases hmanaging

theorem Request.inOrder_perform {request : Request κ} (hmanaging : request.isManaging = true)
    (code : Code κ S) (depth : Nat) {session : Session κ S}
    (inOrder : session.fixtures.InOrder) :
    (request.perform.run (code.caller (depth + 1)) session).2.fixtures.InOrder := by
  cases request with
  | activate name => exact inOrder_activate code depth inOrder name
  | deactivate name => exact inOrder_deactivate code depth inOrder name
  | activateAll names => exact inOrder_activateFrom code depth inOrder 0 names
  | deactivateAll => exact inOrder_deactivateEach code depth inOrder _
  | unregister name => exact inOrder_unregister code depth inOrder name
  | _ => cases hmanaging

/-- Enabling a command leaves its action as it is. -/
theorem action_setEnabled (commands : CommandRegistry (ActionBody κ)) (name wanted : String)
    (enabled : Bool) :
    ((commands.setEnabled name enabled).2.get? wanted).map Command.action =
      (commands.get? wanted).map Command.action := by
  rw [CommandRegistry.get?_setEnabled]
  split
  · rename_i heq
    rw [heq, Option.map_map]
    rfl
  · rfl

theorem Request.inOrder_adjust {request : Request κ} (hadjusting : request.isAdjusting = true)
    {caller : Caller κ S} (spares : caller.Spares) {session : Session κ S}
    (inOrder : session.fixtures.InOrder) :
    (request.perform.run caller session).2.fixtures.InOrder := by
  by_cases henable : ∃ name enabled, request = .setEnabled name enabled
  · obtain ⟨name, enabled, rfl⟩ := henable
    exact inOrder.withCommands (action_setEnabled session.commands name _ enabled)
      (action_setEnabled session.commands name _ enabled)
  · have hperform : (request.perform (S := S)).MadeOf Sparing :=
      Act.Class.Binding.perform (.of_bindings fun f _ => Sparing.sees.aside (fun _ => rfl)
          fun _ => rfl) Sparing.ordinary.toActing hadjusting
        (fun name enabled heq => absurd ⟨name, enabled, heq⟩ henable)
        Sparing.everyday.setCurrentPanel Sparing.touch
    rw [Sparing.of_madeOf hperform caller spares session]
    exact inOrder

/-- Whether a request uses a shell as it is, or manages its own extensions. -/
def Request.isUsual (request : Request κ) : Bool :=
  request.isEveryday || request.isManaging || request.isAdjusting

theorem Request.isUsual_iff {request : Request κ} : request.isUsual = true ↔
    request.isEveryday = true ∨ request.isManaging = true ∨ request.isAdjusting = true := by
  simp [isUsual, or_assoc]

/-! ## Start -/

namespace Session

variable {session : Session κ S}

theorem run_register (caller : Caller κ S) {name : String}
    (hnew : session.extensions.get? name = none) (extension : Extension κ) :
    (register name extension).run caller session =
      ((), { session with extensions := (session.extensions.remove name).add name extension }) := by
  simp [register, unregister, changeExtensions, hnew]

/-- Only what extensions there are changes, and the state of each of them. -/
theorem run_registerBuiltins (caller : Caller κ S)
    (hnone : ∀ name, session.extensions.get? name = none)
    (hbuiltins : session.builtins = ⟨[], [], []⟩) :
    ∃ extensions : ExtensionRegistry (Extension κ) (ActionBody κ),
      ((registerBuiltins Builtin.all).run caller session).2 =
        { session with
          extensions := extensions, builtins := ⟨[⟨none⟩], [freshReadout], [freshGreeter]⟩ } ∧
      (∀ name, extensions.get? name ≠ none → ∃ kind : Builtin, kind.name = name) ∧
      ∀ kind : Builtin, ∃ generation,
        extensions.get? kind.name = some ⟨.builtin kind 0, .registered, generation, []⟩ := by
  refine ⟨(((((session.extensions.remove "panels").add "panels" (.builtin .panels 0)).remove
    "editor-status").add "editor-status" (.builtin .editorStatus 0)).remove
      "hello-world").add "hello-world" (.builtin .helloWorld 0), ?_, fun name hknown => ?_,
    fun kind => ?_⟩
  · simp +decide [Builtin.all, Builtin.name, registerBuiltins, newBuiltin, newPanels,
      newEditorStatus, newHelloWorld, run_register, ExtensionRegistry.get?_add,
      ExtensionRegistry.get?_remove, hnone, hbuiltins]
  · simp only [ExtensionRegistry.get?_add, ExtensionRegistry.get?_remove, hnone] at hknown
    by_cases hhello : name = "hello-world"
    · exact ⟨.helloWorld, hhello.symm⟩
    · by_cases hstatus : name = "editor-status"
      · exact ⟨.editorStatus, hstatus.symm⟩
      · refine ⟨.panels, ?_⟩
        simp only [hhello, hstatus, if_false] at hknown
        split at hknown
        · exact Eq.symm ‹_›
        · exact absurd rfl hknown
  · cases kind <;>
      simp +decide [ExtensionRegistry.get?_add, ExtensionRegistry.get?_remove, Builtin.name]

theorem inOrder_registerBuiltins (caller : Caller κ S)
    (hfixtures : session.fixtures =
      ⟨.empty, .dispatcher, [⟨0, .showPanel⟩, ⟨1, .focusInput⟩], fun _ => [], ⟨[], [], none⟩,
        ⟨[], [], [], [], []⟩, ⟨[], [], []⟩, none⟩) :
    ((registerBuiltins Builtin.all).run caller session).2.fixtures.InOrder := by
  simp only [Session.fixtures, Fixtures.mk.injEq, KeyFixtures.mk.injEq, ReadoutFixtures.mk.injEq,
    GreetingFixtures.mk.injEq, List.map_eq_nil_iff] at hfixtures
  obtain ⟨hextensions, hsink, hshown, hothers, ⟨hpanels, hkeys, hcommand⟩,
    ⟨hstatus, hcursor, hselected, hclosed, hreadouts⟩, ⟨hgreeters, hdropped, hgreetings⟩, hsay⟩ :=
      hfixtures
  have hnone : ∀ name, session.extensions.get? name = none := by
    intro name
    rw [hextensions]
    rfl
  have hbuiltins : session.builtins = ⟨[], [], []⟩ := by
    rw [← hpanels, ← hstatus, ← hgreeters]
  obtain ⟨extensions, hrun, hknown, hstored⟩ := run_registerBuiltins caller hnone hbuiltins
  have hregistered : ((registerBuiltins Builtin.all).run caller session).2.fixtures =
      ⟨extensions, .dispatcher, [⟨0, .showPanel⟩, ⟨1, .focusInput⟩], fun _ => [],
        ⟨[⟨none⟩], [], none⟩, ⟨[[]], [], [], [], []⟩, ⟨[none], [], []⟩, none⟩ := by
    rw [hrun]
    simp [Session.fixtures, freshReadout, freshGreeter, hsink, hshown, hothers, hkeys, hcommand,
      hcursor, hselected, hclosed, hreadouts, hdropped, hgreetings, hsay]
  rw [hregistered]
  refine ⟨rfl, rfl, rfl, hknown, fun kind => ?_⟩
  obtain ⟨generation, hget⟩ := hstored kind
  show Fixtures.Fits _ kind (extensions.get? kind.name)
  rw [hget]
  -- Registered and nothing more: each of them has its fresh copy, and none has set anything up.
  refine .registered generation ?_
  cases kind with
  | panels => exact ⟨KeyFixtures.SetUp.off, rfl⟩
  | editorStatus => exact ⟨ReadoutFixtures.SetUp.off, rfl⟩
  | helloWorld => exact ⟨GreetingFixtures.SetUp.off (by simp), Offered.off⟩

/-- Before anything is registered, the panel host and the shell listen for panels that are shown. -/
theorem fixtures_subscribe_fresh (caller : Caller κ S) (window : Duration) (host : Host) (app : S) :
    ((subscribe showPanelEvent .focusInput).run caller
      ((setWindow window).run caller (.fresh .dispatcher host app)).2).2.fixtures =
        ⟨.empty, .dispatcher, [⟨0, .showPanel⟩, ⟨1, .focusInput⟩], fun _ => [], ⟨[], [], none⟩,
          ⟨[], [], [], [], []⟩, ⟨[], [], []⟩, none⟩ := by
  have hlisteners : ∀ event, (EventBus.empty : EventBus (Listener κ)).listeners event = [] :=
    fun _ => rfl
  have hcommands : ∀ name, (CommandRegistry.empty : CommandRegistry (ActionBody κ)).get? name =
      none := fun _ => rfl
  have hentries : (ComponentRegistry.empty : ComponentRegistry (Component κ)).entries = [] := rfl
  have hnext : (EventBus.empty : EventBus (Listener κ)).nextId = 0 := rfl
  have hothers : (EventBus.empty : EventBus (Listener κ)).others = fun _ => [] :=
    funext fun _ => ite_self _
  simp +decide [subscribe, setWindow, Session.fixtures, fresh, EventBus.listeners_subscribe,
    EventBus.others_subscribe, EventBus.nextId_subscribe, hlisteners, hcommands, hentries, hnext,
    hothers]

/-- A shell that has been opened and has activated nothing yet. -/
def opened (caller : Caller κ S) (config : ShellConfig) (host : Host) (app : S) : Session κ S :=
  let subscribed := (subscribe showPanelEvent .focusInput).run caller
    ((setWindow config.window).run caller (.fresh .dispatcher host app)).2
  let registered := (registerBuiltins Builtin.all).run caller subscribed.2
  ((openShell subscribed.1).run caller registered.2).2

/-- What a shell does first when it has been opened. -/
def settleIn (config : ShellConfig) : Act κ S Unit := do
  let _ ← activate Builtin.panels.name
  let _ ← activateAll config.extensions
  let _ ← loadMap config.keymap
  .when (!config.initialPanel.isEmpty) do
    let _ ← showPanel config.initialPanel

theorem run_start (caller : Caller κ S) (config : ShellConfig) (host : Host) (app : S) :
    (Session.start config).run caller (.fresh .dispatcher host app) =
      (settleIn config).run caller (opened caller config host app) := rfl

/-- A shell that has been opened has its extensions registered and has rendered nothing. -/
theorem opened_eq (caller : Caller κ S) (config : ShellConfig) (host : Host) (app : S) :
    ∃ extensions : ExtensionRegistry (Extension κ) (ActionBody κ),
      opened caller config host app =
        { Session.fresh .dispatcher host app with
          events := (opened caller config host app).events
          keys := (opened caller config host app).keys
          extensions := extensions
          builtins := ⟨[⟨none⟩], [freshReadout], [freshGreeter]⟩
          shell? := some ⟨none, 1⟩
          journal := [.started] } := by
  have hnone : ∀ name, ((subscribe showPanelEvent .focusInput).run caller
      ((setWindow config.window).run caller
        (.fresh .dispatcher host app)).2).2.extensions.get? name = none := fun _ => rfl
  obtain ⟨extensions, hregistered, -⟩ := run_registerBuiltins caller hnone rfl
  refine ⟨extensions, ?_⟩
  unfold opened
  dsimp only
  rw [hregistered]
  rfl

theorem inOrder_opened (caller : Caller κ S) (config : ShellConfig) (host : Host) (app : S) :
    (opened caller config host app).fixtures.InOrder := by
  have hfresh := fixtures_subscribe_fresh caller config.window host app
  unfold opened
  generalize (subscribe showPanelEvent .focusInput).run caller _ = subscribed at hfresh ⊢
  have registered := inOrder_registerBuiltins caller hfresh
  dsimp only
  generalize (registerBuiltins Builtin.all).run caller subscribed.2 = session at registered ⊢
  exact registered

/-- After the start the built-in extensions are in order. -/
theorem inOrder_start {code : Code κ S}
    (within : code.Within fun request => request.isEveryday = true) (depth : Nat)
    (config : ShellConfig) (host : Host) (app : S) :
    ((Session.start config).run (code.caller (depth + 1))
      (.fresh .dispatcher host app)).2.fixtures.InOrder := by
  rw [run_start]
  have opened := inOrder_opened (code.caller (depth + 1)) config host app
  generalize Session.opened (code.caller (depth + 1)) config host app = session at opened ⊢
  have activated := inOrder_activateFrom code depth
    (inOrder_activate code depth opened Builtin.panels.name) 0 config.extensions
  unfold settleIn activateAll
  rw [Act.run_bind, Act.run_bind]
  generalize (activateFrom 0 config.extensions).run (code.caller (depth + 1)) _ = session
    at activated ⊢
  have loaded : ((loadMap config.keymap).run (code.caller (depth + 1))
    session.2).2.fixtures.InOrder := activated
  rw [Act.run_bind, Act.run_when]
  split
  · have shown : (do let _ ← showPanel config.initialPanel : Act κ S Unit).MadeOf Sparing :=
      .bind (Sparing.everyday.showPanel config.initialPanel) fun _ => .pure ()
    rw [Sparing.of_madeOf shown _ (Code.spares within _)]
    exact loaded
  · exact loaded

end Session

/-- Between the requests of a run the built-in extensions are in order. -/
theorem Code.Runs.inOrder {code : Code κ S}
    (within : code.Within fun request => request.isEveryday = true) {config : ShellConfig}
    {host : Host} {app : S} {session : Session κ S}
    (runs : code.Runs (fun request => request.isUsual = true) (code.launch config host app)
      session) : session.fixtures.InOrder := by
  induction runs with
  | refl => exact inOrder_start within 199 config host app
  | store app _ ih => exact ih
  | request request permitted _ ih =>
      rcases Request.isUsual_iff.1 permitted with heveryday | hmanaging | hadjusting
      · rw [Code.fixtures_perform within heveryday]
        exact ih
      · exact Request.inOrder_perform hmanaging code _ ih
      · exact Request.inOrder_adjust hadjusting (Code.spares within _) ih

/-! ## What can be seen -/

theorem KeyFixtures.SetUp.seen {active : Bool} {keys : KeyFixtures κ} (setUp : keys.SetUp active) :
    keys.command?.isSome = active ∧ keys.heard.length = if active then 1 else 0 := by
  cases setUp <;> exact ⟨rfl, rfl⟩

theorem ReadoutFixtures.SetUp.seen {active : Bool} {readout : ReadoutFixtures κ}
    (setUp : readout.SetUp active) :
    readout.status.map Prod.fst = (if active then [readoutId] else []) ∧
      readout.cursor.length = (if active then 1 else 0) ∧
      readout.selected.length = (if active then 1 else 0) ∧
      readout.closed.length = if active then 1 else 0 := by
  cases setUp <;> exact ⟨rfl, rfl, rfl, rfl⟩

theorem GreetingFixtures.SetUp.panels_eq {active : Bool} {greeting : GreetingFixtures κ}
    (setUp : greeting.SetUp active) :
    greeting.panels.map Prod.fst = if active then [greetingPanelId] else [] := by
  cases setUp <;> rfl

theorem Offered.isSome_eq {active : Bool} {contributed : List (Contributed (ActionBody κ))}
    {command? : Option (Command (ActionBody κ))} (offered : Offered active contributed command?) :
    command?.isSome = active := by
  cases offered <;> rfl

/-- Only while the greeting extension is active there is a debouncer that has not been dropped. -/
theorem GreetingFixtures.SetUp.active_of_dropped {active : Bool} {greeting : GreetingFixtures κ}
    (setUp : greeting.SetUp active) (id : DebouncerId)
    (hthere : greeting.dropped[id]? = some false) : active = true := by
  cases setUp with
  | off gone => exact absurd hthere (gone id)
  | on _ _ => rfl

theorem Fixtures.InOrder.has {fixtures : Fixtures κ} (inOrder : fixtures.InOrder) (kind : Builtin) :
    ∃ contributed, fixtures.Has (fixtures.extensions.isActive kind.name) contributed kind := by
  have fits := inOrder.fits kind
  unfold ExtensionRegistry.isActive ExtensionRegistry.state?
  generalize fixtures.extensions.get? kind.name = stored? at fits ⊢
  cases fits with
  | absent has => exact ⟨[], has⟩
  | registered generation has => exact ⟨[], has⟩
  | active generation has => exact ⟨_, has⟩

/-- What a shell shows and listens to tells which built-in extensions are active.

The extensions may have been activated, deactivated and unregistered in any order, and the shell may
have been used in between.  Between the requests the readout is in the status bar, and each of its
three events has one listener, as long as the editor status extension is active.  The greeting
extension has its panel and its command, and only while it is active does a debounced task wait.
The `panels` extension has its command and its listener for keys.  Of what an extension sets up
nothing is left when it is not active.  Two always listen for panels that are shown. -/
theorem builtins_set_up_exactly {code : Code κ S}
    (within : code.Within fun request => request.isEveryday = true) {config : ShellConfig}
    {host : Host} {app : S} {session : Session κ S}
    (runs : code.Runs (fun request => request.isEveryday = true ∨ request.isManaging = true)
      (code.launch config host app) session) :
    let active (kind : Builtin) : Bool := session.extensions.isActive kind.name
    (session.panelHost.status.ids = (if active .editorStatus then [readoutId] else []) ∧
      ∀ event ∈ [cursorEvent, tabSelectedEvent, tabClosedEvent],
        session.events.count event = if active .editorStatus then 1 else 0) ∧
    (session.panelHost.panels.ids = (if active .helloWorld then [greetingPanelId] else []) ∧
      (session.commands.get? sayHelloCommand).isSome = active .helloWorld ∧
      ∀ task ∈ session.scheduler.live, ∀ id body, task.job = .debounced id body →
        active .helloWorld = true) ∧
    ((session.commands.get? showPanelCommand).isSome = active .panels ∧
      session.events.count keyPressedEvent = if active .panels then 1 else 0) ∧
    session.events.count showPanelEvent = 2 := by
  intro active
  have inOrder := (runs.mono fun request permitted =>
    Request.isUsual_iff.2 (permitted.imp_right .inl)).inOrder within
  obtain ⟨_, keys⟩ := inOrder.has .panels
  obtain ⟨_, readout⟩ := inOrder.has .editorStatus
  obtain ⟨_, greeting⟩ := inOrder.has .helloWorld
  obtain ⟨hcommand, hkeys⟩ := KeyFixtures.SetUp.seen keys.owns
  obtain ⟨hstatus, hcursor, hselected, hclosed⟩ := ReadoutFixtures.SetUp.seen readout.owns
  refine ⟨⟨hstatus, fun event hevent => ?_⟩, ⟨GreetingFixtures.SetUp.panels_eq greeting.owns,
    Offered.isSome_eq greeting.offers, fun task hlive id body hjob => ?_⟩, ⟨hcommand, hkeys⟩,
    congrArg List.length inOrder.shown⟩
  · simp only [List.mem_cons, List.not_mem_nil, or_false] at hevent
    rcases hevent with rfl | rfl | rfl
    · exact hcursor
    · exact hselected
    · exact hclosed
  · have reaches := runs.reaches (within.mono fun _ _ => trivial)
    obtain ⟨-, hthere⟩ := Session.Debounces.of_reaches reaches task hlive id body hjob
    -- A live job of a debouncer keeps that debouncer, and the only one there can be is the
    -- extension's own.
    refine GreetingFixtures.SetUp.active_of_dropped greeting.owns id ?_
    have hlt := lt_of_dropped_eq_false hthere
    unfold Session.debouncer at hthere
    show (session.debouncers.map Debouncer.dropped)[id]? = some false
    rw [List.getElem?_map]
    rw [List.getElem?_eq_getElem hlt] at hthere ⊢
    exact congrArg some hthere

/-- A shell with all built-in extensions, after the greeting extension was deactivated and the
`panels` extension unregistered. -/
def Session.readoutSession : Session Empty Unit :=
  (Code.plain.run (Request.unregister "panels").perform
    (Code.plain.run (Request.deactivate "hello-world").perform
      (Code.plain.launch { ShellConfig.default with extensions := ["editor-status", "hello-world"] }
        (.fresh .recording true) ())).2).2

/-- Only the readout is left. -/
theorem builtins_set_up_exactly_readout :
    Session.readoutSession.panelHost.status.ids = [readoutId] ∧
      Session.readoutSession.events.count tabClosedEvent = 1 ∧
      Session.readoutSession.panelHost.panels.ids = [] ∧
      (Session.readoutSession.commands.get? sayHelloCommand).isSome = false ∧
      (Session.readoutSession.commands.get? showPanelCommand).isSome = false ∧
      Session.readoutSession.events.count keyPressedEvent = 0 ∧
      Session.readoutSession.events.count showPanelEvent = 2 := by
  have hreadout : Session.readoutSession.extensions.isActive Builtin.editorStatus.name = true := by
    rfl
  have hgreeting : Session.readoutSession.extensions.isActive Builtin.helloWorld.name = false := by
    rfl
  have hpanels : Session.readoutSession.extensions.isActive Builtin.panels.name = false := by
    rfl
  have runs : Code.plain.Runs
      (fun request => request.isEveryday = true ∨ request.isManaging = true)
      (Code.plain.launch
        { ShellConfig.default with extensions := ["editor-status", "hello-world"] }
        (.fresh .recording true) ()) Session.readoutSession :=
    .request (.unregister "panels") (.inr rfl)
      (.request (.deactivate "hello-world") (.inr rfl) .refl)
  obtain ⟨⟨hstatus, hevents⟩, ⟨hshown, hgreet, -⟩, ⟨hshow, hkeys⟩, hcount⟩ :=
    builtins_set_up_exactly (Code.within_plain _) runs
  have hclosed := hevents tabClosedEvent (by simp)
  simp only [hreadout, hgreeting, hpanels, if_true, Bool.false_eq_true, if_false] at *
  exact ⟨hstatus, hclosed, hshown, hgreet, hshow, hkeys, hcount⟩

end EditorShell
