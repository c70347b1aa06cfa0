import EditorShell.Proofs.Shell.Offscreen

/-!
# What is on display after a tick

In a shell with no more than the built-in extensions, every tick leaves the host up to date: what it
was told last of each widget is what the tree says that would be composed at that moment
(`Code.Runs.upToDate_tick`).

## Strategy

At a tick there are two cases.  If the version is the one of the last render, nothing has moved
since, and so the tree is still the one that was rendered (`Session.OnDisplay`).  Otherwise the tree
is rendered (`Session.Redisplays`), and `tells_render` says that the host is told of all of it.
-/

namespace EditorShell

open Entry Session

variable {κ S α : Type}

namespace Entry

/-! ## Entries that tell of no render -/

theorem isRendering_append {noted : List (Entry κ)}
    (hnoted : ∀ entry ∈ noted, isRender entry = false) (rest : List (Entry κ)) :
    isRendering (noted ++ rest) = isRendering rest := by
  induction noted with
  | nil => rfl
  | cons entry noted ih =>
      rw [List.cons_append, isRendering_cons (hnoted entry List.mem_cons_self)]
      exact ih fun other hmem => hnoted other (List.mem_cons_of_mem entry hmem)

theorem rendersApart_append {noted : List (Entry κ)}
    (hnoted : ∀ entry ∈ noted, isRender entry = false) (rest : List (Entry κ)) :
    rendersApart (noted ++ rest) = rendersApart rest := by
  induction noted with
  | nil => rfl
  | cons entry noted ih =>
      rw [List.cons_append, rendersApart_cons (hnoted entry List.mem_cons_self)]
      exact ih fun other hmem => hnoted other (List.mem_cons_of_mem entry hmem)

/-- Nothing has moved on the whole only if nothing has moved in the last part. -/
theorem movesSince_append {noted : List (Entry κ)}
    (hnoted : ∀ entry ∈ noted, isRender entry = false) {rest : List (Entry κ)}
    (hzero : movesSince (noted ++ rest) = 0) : .moved ∉ noted ∧ movesSince rest = 0 := by
  induction noted with
  | nil => exact ⟨by simp, hzero⟩
  | cons entry noted ih =>
      have hentry := hnoted entry List.mem_cons_self
      have hrest := ih fun other hmem => hnoted other (List.mem_cons_of_mem entry hmem)
      rw [List.cons_append] at hzero
      cases entry with
      | moved => exact absurd hzero (Nat.succ_ne_zero _)
      | rendering panels => cases hentry
      | _ => exact ⟨by simpa using (hrest hzero).1, (hrest hzero).2⟩

end Entry

/-! ## What a render changes -/

/-- Whether an entry tells that a task of an extension or of the embedding program is scheduled or
called. -/
def Entry.isOfTask : Entry κ → Bool
  | .scheduled task => task.job.isOfProgram
  | .called (.task _ _) => true
  | _ => false

namespace Session

/-- Only the host, the bridge and the scheduler change, and nothing is noted of what is displayed or
of tasks. -/
structure Paints (before after : Session κ S) : Prop where
  eq : after = { before with
    scheduler := after.scheduler
    slots := after.slots
    host := after.host
    hostBusy := after.hostBusy
    bridge := after.bridge
    journal := after.journal }
  noted : ∃ noted, after.journal = noted ++ before.journal ∧
    ∀ entry ∈ noted, Entry.isDisplay entry = false ∧ Entry.isOfTask entry = false

namespace Paints

theorem refl (session : Session κ S) : session.Paints session := ⟨rfl, [], rfl, by simp⟩

theorem trans {first second third : Session κ S} (hfirst : first.Paints second)
    (hsecond : second.Paints third) : first.Paints third := by
  obtain ⟨heq, noted, hjournal, hnoted⟩ := hfirst
  obtain ⟨heq', noted', hjournal', hnoted'⟩ := hsecond
  refine ⟨?_, noted' ++ noted, ?_, fun entry hentry => ?_⟩
  · rw [heq', heq]
  · rw [hjournal', hjournal, List.append_assoc]
  · exact (List.mem_append.1 hentry).elim (hnoted' entry) (hnoted entry)

theorem of_entries {before after : Session κ S} (noted : List (Entry κ))
    (heq : after = { before with
      scheduler := after.scheduler
      slots := after.slots
      host := after.host
      hostBusy := after.hostBusy
      bridge := after.bridge
      journal := noted ++ before.journal })
    (hnoted : ∀ entry ∈ noted, Entry.isDisplay entry = false ∧ Entry.isOfTask entry = false) :
    before.Paints after := by
  have hjournal : after.journal = noted ++ before.journal := by rw [heq]
  exact ⟨by rw [hjournal]; exact heq, noted, hjournal, hnoted⟩

end Paints

end Session

/-- The acts that paint, whatever they are run in. -/
def Painting (caller : Caller κ S) : Act.Class κ S := fun _ act =>
  ∀ session : Session κ S, session.Paints (act.run caller session).2

namespace Painting

variable {caller : Caller κ S}

theorem of_madeOf {act : Act κ S α} (hact : act.MadeOf (Painting caller)) :
    Painting caller α act := by
  refine hact.covered (fun _ session => .refl session) (fun _ session => .refl session)
    (fun hnext session => hnext session session) fun {_ _ first next} hfirst hnext session => ?_
  exact (hfirst session).trans (hnext _ _)

theorem note {entry : Entry κ} (hdisplay : entry.isDisplay = false)
    (htask : entry.isOfTask = false) : (Act.note (S := S) entry).MadeOf (Painting caller) :=
  .part fun _ => .of_entries [entry] rfl (by simp [hdisplay, htask])

variable (host : ∀ message (session : Session κ S),
  session.Paints (caller.answer (.host message) session).2)

include host

theorem call_host (message : HostMessage) :
    (Act.call (S := S) (Call.host (κ := κ) message)).MadeOf (Painting caller) :=
  .bind (note rfl rfl) fun _ => .bind (.part (host message)) fun _ => .bind (note rfl rfl) fun _ =>
    .pure _

theorem render (root : Node (Handler κ)) : (Session.render root).MadeOf (Painting caller) := by
  have exchange : ∀ f : Session κ S → Session κ S,
      (∀ session : Session κ S, session.Exchanges (f session)) →
        (Act.change f).MadeOf (Painting caller) := by
    intro f hf
    refine .part fun session => ?_
    obtain ⟨heq, noted, hjournal, hnoted⟩ := hf session
    -- An exchange with the host only records, and records display nothing and belong to no task.
    have hpaints : session.Paints (f session) := by
      refine ⟨by rw [heq], noted, hjournal, fun entry hentry => ?_⟩
      obtain ⟨hrecord, hscheduled⟩ := hnoted entry hentry
      cases entry <;> first | exact ⟨rfl, rfl⟩ | exact absurd rfl (hscheduled _) | cases hrecord
    exact hpaints
  have scheduleAt : ∀ deadline (job : Job κ), job.isOfProgram = false →
      (Session.scheduleAt (S := S) deadline job).MadeOf (Painting caller) := by
    intro deadline job hjob
    refine .bind (.read _) fun id => .bind (.part fun session => ?_) fun _ => .pure id
    exact .of_entries [.scheduled ⟨session.scheduler.nextId, deadline, job⟩] rfl
      (by simp [Entry.isDisplay, Entry.isOfTask, hjob])
  have cancelTask : ∀ id reason,
      (Session.cancelTask id reason : Act κ S Unit).MadeOf (Painting caller) :=
    fun _ _ => .part fun _ => .of_entries [] rfl (by simp)
  have bridged : (Painting caller).Bridged :=
    .of_exchange exchange (call_host host) scheduleAt cancelTask fun _ _ => note rfl rfl
  exact bridged.placing.render (Act.Class.unmountAll_of_unmount
    (Act.Class.unmount_of_exchange exchange (call_host host) cancelTask fun _ => note rfl rfl)) root

end Painting

/-! ## What is registered -/

theorem GreetingFixtures.SetUp.entries_eq {active : Bool} {greeting : GreetingFixtures κ}
    (setUp : greeting.SetUp active) :
    ∃ debouncer, greeting.panels =
      if active then [(greetingPanelId, .greeting 0 debouncer)] else [] := by
  cases setUp with
  | off gone => exact ⟨0, rfl⟩
  | on debouncer gone => exact ⟨debouncer, rfl⟩

theorem ReadoutFixtures.SetUp.entries_eq {active : Bool} {readout : ReadoutFixtures κ}
    (setUp : readout.SetUp active) :
    readout.status = if active then [(readoutId, .readout 0)] else [] := by
  cases setUp <;> rfl

/-! ## A render of the panels -/

namespace Session

/-- The host was told of the whole tree, and nothing else is mounted. -/
structure UpToDate (session : Session Empty S) : Prop where
  displays : ∀ entry ∈ session.tree.members none 0, session.Displays entry.1 entry.2
  mounted : ∀ id, session.bridge.isMounted id = true →
    id ∈ (session.tree.members none 0).map Prod.fst

theorem UpToDate.congr {before after : Session Empty S} (upToDate : before.UpToDate)
    (htree : after.tree = before.tree) (htold : ∀ id, after.told id = before.told id) :
    after.UpToDate := by
  refine ⟨fun entry hentry => ?_, fun id hid => ?_⟩
  · rw [htree] at hentry
    obtain ⟨place?, hdisplays⟩ := upToDate.displays entry hentry
    exact ⟨place?, (htold entry.1).trans hdisplays⟩
  · have hmounted : after.bridge.isMounted id = before.bridge.isMounted id :=
      congrArg (fun told => told.2.1) (htold id)
    rw [htree]
    exact upToDate.mounted id (hmounted.symm.trans hid)

/-- Only calls of components were noted. -/
structure Calls (before after : Session Empty S) : Prop where
  noted : ∃ noted, after = { before with journal := noted ++ before.journal } ∧
    ∀ entry ∈ noted, Entry.isDisplay entry = false ∧ Entry.isOfTask entry = false ∧
      Entry.update? entry = none

theorem Calls.trans {first second third : Session Empty S} (hfirst : first.Calls second)
    (hsecond : second.Calls third) : first.Calls third := by
  obtain ⟨noted, rfl, hnoted⟩ := hfirst.noted
  obtain ⟨later, rfl, hlater⟩ := hsecond.noted
  refine ⟨later ++ noted, by rw [List.append_assoc], fun entry hentry => ?_⟩
  exact (List.mem_append.1 hentry).elim (hlater entry) (hnoted entry)

theorem Calls.paints {before after : Session Empty S} (calls : before.Calls after) :
    before.Paints after := by
  obtain ⟨noted, rfl, hnoted⟩ := calls.noted
  exact .of_entries noted rfl fun entry hentry =>
    ⟨(hnoted entry hentry).1, (hnoted entry hentry).2.1⟩

/-- A component of a built-in extension changes nothing. -/
theorem run_call_component (depth : Nat) (context : RenderContext) (id : String)
    (component : Component Empty) (session : Session Empty S) :
    ∃ after, (Act.call (.component id component context)).run (Code.plain.caller (depth + 1))
      session = (.ok (component.node session), after) ∧ session.Calls after := by
  refine ⟨(session.noting (.called (.component id component context))).noting
    (.returned (.component id component context) (.ok (component.node session))), ?_,
      [_, _], rfl, by simp [Entry.isDisplay, Entry.isOfTask, Entry.update?]⟩
  cases component with
  | readout copy => rfl
  | greeting copy debouncer => rfl
  | user key => exact key.elim

theorem run_renderComponents (depth : Nat) (context : RenderContext)
    (entries : List (String × Component Empty)) (session : Session Empty S) :
    let rendered := (renderComponents context entries).run (Code.plain.caller (depth + 1)) session
    rendered.1 = session.nodesOf entries ∧ session.Calls rendered.2 := by
  induction entries generalizing session with
  | nil => exact ⟨rfl, [], rfl, by simp⟩
  | cons entry rest ih =>
      obtain ⟨id, component⟩ := entry
      obtain ⟨after, hcall, hcalls⟩ := run_call_component depth context id component session
      obtain ⟨hnodes, hrest⟩ := ih after
      have hsame : after.nodesOf rest = session.nodesOf rest := by
        obtain ⟨noted, rfl, -⟩ := hcalls.noted
        rfl
      unfold renderComponents renderComponent
      simp only [Act.run_bind, hcall, Act.run_pure]
      exact ⟨congrArg (_ :: ·) (hnodes.trans hsame), hcalls.trans hrest⟩

/-- What is composed is the tree. -/
theorem run_compose (depth : Nat) (session : Session Empty S) :
    let composed := compose.run (Code.plain.caller (depth + 1)) session
    composed.1 = session.tree ∧ session.Calls composed.2 := by
  obtain ⟨hpanels, hcalls⟩ := run_renderComponents depth session.panelHost.ui
    session.panelHost.panels.entries session
  unfold compose
  simp only [Act.run_bind, Act.run_read, Act.run_pure]
  generalize (renderComponents session.panelHost.ui session.panelHost.panels.entries).run
    (Code.plain.caller (depth + 1)) session = rendered at hpanels hcalls ⊢
  obtain ⟨hstatus, hlater⟩ := run_renderComponents depth session.panelHost.ui
    rendered.2.panelHost.status.entries rendered.2
  refine ⟨?_, hcalls.trans hlater⟩
  rw [hpanels, hstatus]
  obtain ⟨noted, hafter, -⟩ := hcalls.noted
  rw [hafter]
  rfl

/-- A render of the panels has begun and ended. -/
structure Redisplays (before after : Session Empty S) : Prop where
  eq : after = { before with
    scheduler := after.scheduler
    slots := after.slots
    host := after.host
    hostBusy := after.hostBusy
    bridge := after.bridge
    shell? := after.shell?
    journal := after.journal }
  noted : ∃ noted,
    after.journal = .rendered :: (noted ++ .rendering before.panelHost :: before.journal) ∧
      ∀ entry ∈ noted, Entry.isDisplay entry = false ∧ Entry.isOfTask entry = false
  opened : after.shell?.isSome = before.shell?.isSome
  upToDate : ((before.tree.members none 0).map Prod.fst).Nodup → after.Unrefused → after.UpToDate

/-- A tick that renders, from the session on in which it compares the versions. -/
theorem run_tick_of_ne (caller : Caller κ S) (session : Session κ S)
    (hne : (session.caughtUp caller).renderedVersion? ≠
      some (session.caughtUp caller).panelHost.ui.version) :
    (tick.run caller session).2 =
      let caught := session.caughtUp caller
      let rendered := (renderPanels.run caller (caught.noting (.rendering caught.panelHost))).2
      Session.noting { rendered with shell? := rendered.shell?.map fun shell =>
        { shell with renderedVersion? := some caught.panelHost.ui.version } } .rendered := by
  unfold caughtUp at hne ⊢
  unfold tick
  rw [Act.run_bind]
  generalize Session.runDue.run caller session = caught at hne ⊢
  obtain ⟨count, caught⟩ := caught
  simp only [Act.run_bind, Act.run_read, Act.run_note, if_neg hne, Act.run_pure, setRenderedVersion,
    Act.run_change]

theorem paints_host (depth : Nat) (message : HostMessage) (session : Session Empty S) :
    session.Paints ((Code.plain.caller (depth + 1)).answer (.host message) session).2 :=
  .refl session

theorem redisplays_of_ne (depth : Nat) (session : Session Empty S)
    (hne : (session.caughtUp (Code.plain.caller (depth + 1))).renderedVersion? ≠
      some (session.caughtUp (Code.plain.caller (depth + 1))).panelHost.ui.version) :
    (session.caughtUp (Code.plain.caller (depth + 1))).Redisplays
      (tick.run (Code.plain.caller (depth + 1)) session).2 := by
  have apart := Code.hostApart_plain (S := S) (depth + 1)
  rw [run_tick_of_ne _ _ hne]
  generalize session.caughtUp (Code.plain.caller (depth + 1)) = caught
  obtain ⟨htree, hcalls⟩ := run_compose depth (caught.noting (.rendering caught.panelHost))
  unfold renderPanels
  dsimp only
  rw [Act.run_bind]
  generalize compose.run (Code.plain.caller (depth + 1)) _ = composed at htree hcalls ⊢
  obtain ⟨tree, composed⟩ := composed
  obtain rfl : tree = caught.tree := htree
  have hpaints := hcalls.paints.trans (Painting.of_madeOf
    (Painting.render (paints_host depth) caught.tree) composed)
  have htells := tells_render apart caught.tree composed
  generalize (render caught.tree).run (Code.plain.caller (depth + 1)) composed = rendered
    at hpaints htells ⊢
  obtain ⟨report, rendered⟩ := rendered
  obtain ⟨heq, noted, hjournal, hnoted⟩ := hpaints
  dsimp only at heq hjournal htells ⊢
  refine ⟨?_, ⟨noted, congrArg (_ :: ·) hjournal, hnoted⟩, ?_, fun hnodup unrefused => ?_⟩
  · rw [heq]
    rfl
  · rw [heq]
    simp [Session.noting]
  · -- Only the version of the picture is noted after the rendering, so what it displays stands.
    obtain ⟨hdisplays, hmounted, -⟩ := htells hnodup (unrefused.before ⟨[.rendered], rfl⟩)
    have hsame : (Session.noting { rendered with shell? := rendered.shell?.map fun shell =>
        { shell with renderedVersion? := some caught.panelHost.ui.version } } .rendered).tree =
          caught.tree := by
      rw [heq]
      rfl
    have htold : TellsOf [] rendered (Session.noting { rendered with
        shell? := rendered.shell?.map fun shell =>
          { shell with renderedVersion? := some caught.panelHost.ui.version } } .rendered) :=
      .of_quiet [.rendered] rfl (by simp [Entry.update?]) rfl rfl
    refine ⟨fun entry hentry => ?_, fun id hid => ?_⟩
    · rw [hsame] at hentry
      exact (hdisplays entry hentry).mono htold (by simp)
    · rw [hsame]
      exact hmounted id hid

/-- The built-in extensions that are active have their components registered. -/
theorem entries_eq {session : Session Empty S} (inOrder : session.fixtures.InOrder) :
    (∃ debouncer, session.panelHost.panels.entries =
      if session.extensions.isActive Builtin.helloWorld.name then
        [(greetingPanelId, .greeting 0 debouncer)] else []) ∧
    session.panelHost.status.entries =
      if session.extensions.isActive Builtin.editorStatus.name then
        [(readoutId, .readout 0)] else [] := by
  obtain ⟨_, readout⟩ := inOrder.has .editorStatus
  obtain ⟨_, greeting⟩ := inOrder.has .helloWorld
  exact ⟨GreetingFixtures.SetUp.entries_eq greeting.owns,
    ReadoutFixtures.SetUp.entries_eq readout.owns⟩

/-- The ids of the tree, when these extensions are active. -/
theorem nodup_tree {session : Session Empty S} (inOrder : session.fixtures.InOrder) :
    ((session.tree.members none 0).map Prod.fst).Nodup := by
  obtain ⟨⟨debouncer, hpanels⟩, hstatus⟩ := entries_eq inOrder
  have hids : (session.tree.members none 0).map Prod.fst =
      ["shell::root", "panels"] ++
        (if session.extensions.isActive Builtin.helloWorld.name then
          [greetingPanelId, "panel::hello-world::text", "panel::hello-world::input",
            "panel::hello-world::button"] else []) ++
        ["statusBar"] ++
        if session.extensions.isActive Builtin.editorStatus.name then
          [readoutId, "status::cursor", "status::language"] else [] := by
    unfold tree
    rw [hpanels, hstatus]
    split <;> split <;> rfl
  rw [hids]
  split <;> split <;> decide

/-! ## Over a run -/

/-- The shell is open, no render is under way, and unless something has moved since the last render
the host is up to date. -/
structure OnDisplay (session : Session Empty S) : Prop where
  opened : session.shell?.isSome = true
  apart : rendersApart session.journal = true
  idle : isRendering session.journal = false
  upToDate : session.Unrefused → lastRender? session.journal ≠ none →
    movesSince session.journal = 0 → session.UpToDate

namespace OnDisplay

variable {before after : Session Empty S}

theorem between (onDisplay : before.OnDisplay) (between : before.BetweenRenders after) :
    after.OnDisplay := by
  obtain ⟨noted, hjournal, hnoted, htree⟩ := between.noted
  have hrender := fun entry hentry => (hnoted entry hentry).1
  refine ⟨between.shell?_eq ▸ onDisplay.opened, ?_, ?_, fun unrefused hlast hzero => ?_⟩
  · rw [hjournal, rendersApart_append hrender]
    exact onDisplay.apart
  · rw [hjournal, isRendering_append hrender]
    exact onDisplay.idle
  · rw [hjournal] at hlast hzero
    rw [lastRender?_append hrender] at hlast
    obtain ⟨hmoved, hzero⟩ := movesSince_append hrender hzero
    exact (onDisplay.upToDate (unrefused.before ⟨noted, hjournal⟩) hlast hzero).congr
      (htree hmoved) between.told_eq

theorem redisplays (onDisplay : before.OnDisplay) (redisplays : before.Redisplays after)
    (hnodup : ((before.tree.members none 0).map Prod.fst).Nodup) : after.OnDisplay := by
  obtain ⟨noted, hjournal, hnoted⟩ := redisplays.noted
  have hrender := fun entry hentry => isRender_of_isDisplay_eq_false (hnoted entry hentry).1
  refine ⟨redisplays.opened.trans onDisplay.opened, ?_, ?_, fun unrefused _ _ =>
    redisplays.upToDate hnodup unrefused⟩
  · rw [hjournal]
    show rendersApart (noted ++ .rendering before.panelHost :: before.journal) = true
    rw [rendersApart_append hrender]
    exact Bool.and_eq_true_iff.2 ⟨by rw [onDisplay.idle]; rfl, onDisplay.apart⟩
  · rw [hjournal]
    rfl

end OnDisplay

/-- What has been set up stays while the work that is due runs. -/
theorem fixtures_caughtUp (depth : Nat) (session : Session Empty S) :
    (session.caughtUp (Code.plain.caller depth)).fixtures = session.fixtures :=
  Sparing.of_madeOf Sparing.runDue _ (Code.spares (Code.within_plain _) depth) session

theorem onDisplay_caughtUp (depth : Nat) {session : Session Empty S}
    (onDisplay : session.OnDisplay) : (session.caughtUp (Code.plain.caller depth)).OnDisplay :=
  onDisplay.between (Offscreen.of_madeOf (Offscreen.runDue depth) session)

theorem onDisplay_tick (depth : Nat) {session : Session Empty S} (onDisplay : session.OnDisplay)
    (inOrder : session.fixtures.InOrder) :
    (tick.run (Code.plain.caller (depth + 1)) session).2.OnDisplay := by
  have caught := onDisplay_caughtUp (depth + 1) onDisplay
  by_cases hsame : (session.caughtUp (Code.plain.caller (depth + 1))).renderedVersion? =
      some (session.caughtUp (Code.plain.caller (depth + 1))).panelHost.ui.version
  · rw [run_tick_of_eq _ _ hsame]
    exact caught
  · exact caught.redisplays (redisplays_of_ne depth session hsame)
      (nodup_tree (by rw [fixtures_caughtUp]; exact inOrder))

/-- Nothing is rendered while a shell starts. -/
theorem betweenRenders_start (depth : Nat) (config : ShellConfig) (host : Host) (app : S) :
    (opened (Code.plain.caller depth) config host app).BetweenRenders
      ((Session.start config).run (Code.plain.caller depth) (.fresh .dispatcher host app)).2 := by
  have answers := Code.betweenRenders_plain (S := S) depth
  rw [run_start]
  exact Offscreen.of_madeOf (.bind ((Offscreen.extensions answers).activate _) fun _ =>
    .bind ((Offscreen.extensions answers).activateFrom 0 _) fun _ =>
      .bind ((Offscreen.commands answers).loadMap _) fun _ =>
        .when (.bind ((Offscreen.events answers).showPanel _) fun _ => .pure ())) _

theorem onDisplay_start (depth : Nat) (config : ShellConfig) (host : Host) (app : S) :
    ((Session.start config).run (Code.plain.caller depth)
      (.fresh .dispatcher host app)).2.OnDisplay := by
  refine OnDisplay.between ?_ (betweenRenders_start depth config host app)
  obtain ⟨extensions, hopened⟩ := opened_eq (Code.plain.caller depth) config host app
  rw [hopened]
  exact ⟨rfl, rfl, rfl, fun _ hlast => absurd rfl hlast⟩

end Session

theorem Code.Runs.onDisplay {config : ShellConfig} {host : Host} {app : S}
    {session : Session Empty S}
    (runs : Code.plain.Runs (fun request => request.isUsual = true)
      (Code.plain.launch config host app) session) : session.OnDisplay := by
  induction runs with
  | refl => exact onDisplay_start _ config host app
  | store app _ ih =>
      exact ⟨ih.opened, ih.apart, ih.idle, fun unrefused hlast hzero =>
        (ih.upToDate unrefused hlast hzero).congr rfl fun _ => rfl⟩
  | @request session request permitted runs ih =>
      by_cases htick : request = .tick
      · subst htick
        exact onDisplay_tick 199 ih (runs.inOrder (Code.within_plain _))
      · exact ih.between (Offscreen.of_madeOf (Offscreen.perform _ permitted htick) session)

/-- When a tick compares the versions, fewer moves have come since the last render than there are
versions. -/
def Session.Unwrapped (session : Session Empty S) : Prop :=
  lastRender? (session.caughtUp (Code.plain.caller Code.nestingLimit)).journal ≠ none →
    movesSince (session.caughtUp (Code.plain.caller Code.nestingLimit)).journal < UInt64.size

/-- A shell remembers the version of the panels at a tick if it has rendered and nothing has moved
since. -/
theorem Code.Runs.unmoved {config : ShellConfig} {host : Host} {app : S}
    {session : Session Empty S}
    (runs : Code.plain.Runs (fun request => request.isUsual = true)
      (Code.plain.launch config host app) session) (unwrapped : session.Unwrapped) :
    let caught := session.caughtUp (Code.plain.caller Code.nestingLimit)
    caught.renderedVersion? = some caught.panelHost.ui.version ↔
      lastRender? caught.journal ≠ none ∧ movesSince caught.journal = 0 := by
  have within := Code.within_plain (S := S) fun _ => True
  obtain ⟨base, -, since⟩ := (Rendering.governs fun _ => True).reaches
    ⟨_, trivial, .fresh .dispatcher host app⟩ (runs.reaches within)
  have caught := (Rendering.upholds_runDue (fun _ => True) _ (within.apart Code.nestingLimit)
    ((Rendering.governs fun _ => True).caller within Code.nestingLimit) session session
      (.refl since.displayed since.current)).1
  have onDisplay := onDisplay_caughtUp Code.nestingLimit runs.onDisplay
  obtain ⟨noted, -, happ⟩ := caught.apart
  exact Rendering.renderedVersion?_eq_iff caught.displayed
    ((happ onDisplay.apart).current runs.onDisplay.idle) onDisplay.opened unwrapped

/-- A tick leaves the host up to date, if it refuses no message and no version has come around. -/
theorem Code.Runs.upToDate_tick {config : ShellConfig} {host : Host} {app : S}
    {session : Session Empty S}
    (runs : Code.plain.Runs (fun request => request.isUsual = true)
      (Code.plain.launch config host app) session) (unwrapped : session.Unwrapped)
    (unrefused : (Code.plain.run tick session).2.Unrefused) :
    (Code.plain.run tick session).2.UpToDate := by
  have onDisplay := onDisplay_caughtUp Code.nestingLimit runs.onDisplay
  by_cases hsame : (session.caughtUp (Code.plain.caller Code.nestingLimit)).renderedVersion? =
      some (session.caughtUp (Code.plain.caller Code.nestingLimit)).panelHost.ui.version
  · obtain ⟨hlast, hzero⟩ := (runs.unmoved unwrapped).1 hsame
    have hrun : (Code.plain.run tick session).2 = session.caughtUp _ :=
      congrArg Prod.snd (run_tick_of_eq _ session hsame)
    rw [hrun] at unrefused ⊢
    exact onDisplay.upToDate unrefused hlast hzero
  · refine (redisplays_of_ne 199 session hsame).upToDate (nodup_tree ?_) unrefused
    rw [fixtures_caughtUp]
    exact runs.inOrder (Code.within_plain _)

end EditorShell
