import EditorShell.Proofs.Panel.Arranging
import EditorShell.Proofs.Panel.Showing
import EditorShell.Proofs.Run.Course

/-!
# The composed tree

What a session composes is told by its history alone (`panels_laid_out`): the registrations and
removals say which components there are and how they stand, and the events say which panel is on
screen.  The components may return what they like, may panic, and may tell of events themselves, but
they leave the registries to others.

## Strategy

`Arranged` is kept by each change of a registry and `Session.Follows` by everything else, so a run
is followed request by request (`Session.Complies`).  Composing calls the components one after the
other, in the context in which it began.  That the status bar is read only after the panels have
been rendered makes no difference, since rendering a panel leaves the status components alone.
-/

namespace EditorShell

open Json Session

variable {κ S : Type}

/-! ## Rendering components -/

/-- The node of a component: what it returned, or an empty view if it panicked, under its id. -/
def placed (id : String) : Guarded (Node (Handler κ)) → Node (Handler κ)
  | .ok node => node.withId id
  | .error _ => (Node.ofKind .view).withId id

/-- Each of these components was called once and in order, and the nodes are what came of it. -/
inductive Renders (context : RenderContext) :
    List (String × Component κ) → List (Entry κ) → List (Node (Handler κ)) → Prop where
  | nil : Renders context [] [] []
  | cons {rest : List (String × Component κ)} {calls : List (Entry κ)}
      {nodes : List (Node (Handler κ))} (id : String) (component : Component κ)
      (outcome : Guarded (Node (Handler κ))) (renders : Renders context rest calls nodes) :
      Renders context ((id, component) :: rest)
        (.returned (.component id component context) outcome :: calls) (placed id outcome :: nodes)

theorem id_placed (id : String) (outcome : Guarded (Node (Handler κ))) :
    (placed id outcome).id = some id := by
  cases outcome <;> rfl

theorem Renders.map_id {context : RenderContext} {components : List (String × Component κ)}
    {calls : List (Entry κ)} {nodes : List (Node (Handler κ))}
    (renders : Renders context components calls nodes) :
    nodes.map Node.id = (components.map Prod.fst).map some := by
  induction renders with
  | nil => rfl
  | cons id component outcome _ ih =>
      rw [List.map_cons, List.map_cons, List.map_cons, id_placed, ih]

theorem Session.run_renderComponent (context : RenderContext) (id : String)
    (component : Component κ) (caller : Caller κ S) (session : Session κ S) :
    (renderComponent context id component).run caller session =
      (placed id ((Act.call (.component id component context)).run caller session).1,
        ((Act.call (.component id component context)).run caller session).2) := by
  unfold renderComponent
  rw [Act.run_bind]
  cases ((Act.call (.component id component context)).run caller session).1 <;> rfl

theorem Session.renderComponents_spec {caller : Caller κ S} (courses : caller.Courses)
    (context : RenderContext) (components : List (String × Component κ)) (session : Session κ S) :
    ∃ noted, ((renderComponents context components).run caller session).2.journal =
        noted ++ session.journal ∧
      Entry.Whole noted ∧
      Renders context components (Entry.outermost 0 noted).reverse
        ((renderComponents context components).run caller session).1 := by
  induction components generalizing session with
  | nil => exact ⟨[], rfl, .nil, .nil⟩
  | cons entry rest ih =>
      obtain ⟨id, component⟩ := entry
      obtain ⟨called, hcalled, hwhole, houtermost⟩ :=
        call_spec courses (.component id component context) session
      unfold renderComponents
      rw [Act.run_bind, run_renderComponent, Act.run_bind, Act.run_pure]
      generalize (Act.call (.component id component context)).run caller session = answered
        at hcalled houtermost ⊢
      obtain ⟨noted, hnoted, whole, renders⟩ := ih answered.2
      refine ⟨noted ++ called, ?_, whole.append hwhole, ?_⟩
      · rw [hnoted, hcalled, List.append_assoc]
      · rw [whole.outer, houtermost, List.reverse_append]
        exact .cons id component answered.1 renders

/-! ## Composing -/

/-- The stack of all panels, and which of them is on screen. -/
structure StacksPanels (host : PanelHost κ) (calls : List (Entry κ)) (stack : Node (Handler κ)) :
    Prop where
  id : stack.id = some "panels"
  current : stack.props.get? "current" = some (.string host.ui.currentPanel)
  visible : stack.style.get? "visible" = some (.bool (decide (host.ui.currentPanel ≠ "")))
  ids : stack.children.map Node.id = host.panels.ids.map some
  children : Renders host.ui host.panels.entries calls stack.children

/-- The bar of all status components. -/
structure LinesUpStatus (host : PanelHost κ) (calls : List (Entry κ)) (bar : Node (Handler κ)) :
    Prop where
  id : bar.id = some "statusBar"
  ids : bar.children.map Node.id = host.status.ids.map some
  children : Renders host.ui host.status.entries calls bar.children

/-- A tree was composed of these components, with these calls. -/
structure Composes (host : PanelHost κ) (calls : List (Entry κ)) (root : Node (Handler κ)) :
    Prop where
  id : root.id = some "shell::root"
  children : ∃ stack bar, root.children = [stack, bar] ∧
    ∃ panelCalls statusCalls, calls = panelCalls ++ statusCalls ∧
      StacksPanels host panelCalls stack ∧ LinesUpStatus host statusCalls bar

theorem composes_shellTree {host : PanelHost κ} {panels status : List (Node (Handler κ))}
    {panelCalls statusCalls : List (Entry κ)}
    (hpanels : Renders host.ui host.panels.entries panelCalls panels)
    (hstatus : Renders host.ui host.status.entries statusCalls status) :
    Composes host (panelCalls ++ statusCalls) (shellTree host.ui panels status) := by
  refine ⟨rfl, panelStack host.ui panels, statusBar status, rfl, panelCalls, statusCalls, rfl, ?_,
    rfl, hstatus.map_id, hstatus⟩
  refine ⟨rfl, ?_, ?_, hpanels.map_id, hpanels⟩
  · exact (Table.get?_insert _ _ _ _).trans (if_pos rfl)
  · have hvisible : (!host.ui.currentPanel.isEmpty) = decide (host.ui.currentPanel ≠ "") := by
      rw [Bool.eq_iff_iff]
      simp
    rw [← hvisible]
    exact (Table.get?_insert _ _ _ _).trans (if_pos rfl)

theorem Session.compose_spec {caller : Caller κ S} (courses : caller.Courses)
    (follows : caller.Follows) {session : Session κ S} (hosted : session.events.Hosted) :
    ∃ noted, (compose.run caller session).2.journal = noted ++ session.journal ∧
      Composes session.panelHost (Entry.outermost 0 noted).reverse
        (compose.run caller session).1 := by
  obtain ⟨panelNoted, hpanelNoted, panelWhole, hpanels⟩ :=
    renderComponents_spec courses session.panelHost.ui session.panelHost.panels.entries session
  have hkept := Following.of_madeOf
    (Following.ordinary.renderComponents session.panelHost.ui session.panelHost.panels.entries)
    caller follows session hosted
  unfold compose
  simp only [Act.run_bind, Act.run_read, Act.run_pure]
  generalize (renderComponents session.panelHost.ui session.panelHost.panels.entries).run caller
    session = rendered at hpanelNoted hpanels hkept ⊢
  rw [hkept.status_eq]
  obtain ⟨noted, hnoted, whole, hstatus⟩ := renderComponents_spec courses session.panelHost.ui
    session.panelHost.status.entries rendered.2
  refine ⟨noted ++ panelNoted, ?_, ?_⟩
  · rw [hnoted, hpanelNoted, List.append_assoc]
  · rw [whole.outer, List.reverse_append]
    exact composes_shellTree hpanels hstatus

/-! ## Runs -/

/-- What a request changes about the panels. -/
def Request.panelChange? : Request κ → Option (ComponentRegistry.Change (Component κ))
  | .registerPanel id key => some (.insert id (.user key))
  | .unregisterPanel id => some (.remove id)
  | _ => none

/-- What a request changes about the status components. -/
def Request.statusChange? : Request κ → Option (ComponentRegistry.Change (Component κ))
  | .registerStatus id key => some (.insert id (.user key))
  | .unregisterStatus id => some (.remove id)
  | _ => none

/-- Whether a request registers or removes a component, or leaves the panels to others. -/
def Request.isOfPanels (request : Request κ) : Bool :=
  request.leavesPanels || request.panelChange?.isSome || request.statusChange?.isSome

/-- A request has been made: the components have changed as it says, and the current panel as the
events since say. -/
structure Session.Complies (request : Request κ) (before after : Session κ S) : Prop where
  panels_eq : after.panelHost.panels =
    request.panelChange?.elim before.panelHost.panels before.panelHost.panels.change
  status_eq : after.panelHost.status =
    request.statusChange?.elim before.panelHost.status before.panelHost.status.change
  hosted : after.events.Hosted
  noted : ∃ noted, after.journal = noted ++ before.journal ∧
    (noted.any Entry.missesHost = false →
      after.panelHost.ui.currentPanel = lastShown noted before.panelHost.ui.currentPanel)

theorem Session.Follows.complies {request : Request κ} {before after : Session κ S}
    (follows : before.Follows after) (hleaves : request.leavesPanels = true) :
    before.Complies request after := by
  have hnone : request.panelChange? = none ∧ request.statusChange? = none := by
    cases request <;> first | exact ⟨rfl, rfl⟩ | cases hleaves
  refine ⟨?_, ?_, follows.hosted, follows.noted⟩
  · rw [hnone.1]
    exact follows.panels_eq
  · rw [hnone.2]
    exact follows.status_eq

/-- A request that changes a registry does nothing else. -/
theorem Session.Complies.of_change {request : Request κ} {before after : Session κ S}
    (hosted : before.events.Hosted)
    (hpanels : after.panelHost.panels =
      request.panelChange?.elim before.panelHost.panels before.panelHost.panels.change)
    (hstatus : after.panelHost.status =
      request.statusChange?.elim before.panelHost.status before.panelHost.status.change)
    (hcurrent : after.panelHost.ui.currentPanel = before.panelHost.ui.currentPanel)
    (hevents : after.events = before.events)
    (hjournal : after.journal = before.journal ∨ after.journal = .moved :: before.journal) :
    before.Complies request after := by
  refine ⟨hpanels, hstatus, hevents ▸ hosted, ?_⟩
  rcases hjournal with hjournal | hjournal
  · exact ⟨[], hjournal, fun _ => hcurrent⟩
  · exact ⟨[.moved], hjournal, fun _ => hcurrent⟩

/-- Removing an id that is not there changes nothing. -/
theorem ComponentRegistry.change_remove {C : Type} {registry : ComponentRegistry C} {id : String}
    (hunknown : registry.contains id = false) : registry.change (.remove id) = registry := by
  show (registry.remove id).2 = registry
  unfold remove
  rw [hunknown]
  rfl

theorem Session.complies_unregisterPanel (caller : Caller κ S) (id : String) {session : Session κ S}
    (hosted : session.events.Hosted) :
    session.Complies (.unregisterPanel id) ((unregisterPanel id).run caller session).2 := by
  unfold unregisterPanel
  simp only [Act.run_bind, Act.run_read, Act.run_when, Act.run_pure]
  cases hfound : session.panelHost.panels.contains id with
  | false =>
      have hsame : session.panelHost.panels.change (.remove id) = session.panelHost.panels :=
        ComponentRegistry.change_remove hfound
      exact .of_change hosted hsame.symm rfl rfl rfl (.inl rfl)
  | true => exact .of_change hosted rfl rfl rfl rfl (.inr rfl)

theorem Session.complies_unregisterStatus (caller : Caller κ S) (id : String)
    {session : Session κ S} (hosted : session.events.Hosted) :
    session.Complies (.unregisterStatus id) ((unregisterStatus id).run caller session).2 := by
  unfold unregisterStatus
  simp only [Act.run_bind, Act.run_read, Act.run_when, Act.run_pure]
  cases hfound : session.panelHost.status.contains id with
  | false =>
      have hsame : session.panelHost.status.change (.remove id) = session.panelHost.status :=
        ComponentRegistry.change_remove hfound
      exact .of_change hosted rfl hsame.symm rfl rfl (.inl rfl)
  | true => exact .of_change hosted rfl rfl rfl rfl (.inr rfl)

/-- A request leaves the panels to others, or it is one of four. -/
theorem Request.cases_isOfPanels {request : Request κ} (hrequest : request.isOfPanels = true) :
    request.leavesPanels = true ∨ (∃ id key, request = .registerPanel id key) ∨
      (∃ id, request = .unregisterPanel id) ∨ (∃ id key, request = .registerStatus id key) ∨
      ∃ id, request = .unregisterStatus id := by
  cases hleaves : request.leavesPanels with
  | true => exact .inl rfl
  | false =>
      have hchange : (request.panelChange?.isSome || request.statusChange?.isSome) = true := by
        simpa [isOfPanels, hleaves] using hrequest
      cases request with
      | registerPanel id key => exact .inr (.inl ⟨id, key, rfl⟩)
      | unregisterPanel id => exact .inr (.inr (.inl ⟨id, rfl⟩))
      | registerStatus id key => exact .inr (.inr (.inr (.inl ⟨id, key, rfl⟩)))
      | unregisterStatus id => exact .inr (.inr (.inr (.inr ⟨id, rfl⟩)))
      | _ => cases hchange

theorem Session.complies_perform {caller : Caller κ S} (follows : caller.Follows)
    {request : Request κ} (hrequest : request.isOfPanels = true) {session : Session κ S}
    (hosted : session.events.Hosted) :
    session.Complies request (request.perform.run caller session).2 := by
  rcases Request.cases_isOfPanels hrequest with
    hleaves | ⟨id, key, rfl⟩ | ⟨id, rfl⟩ | ⟨id, key, rfl⟩ | ⟨id, rfl⟩
  · have hperform := Following.of_madeOf (Following.perform (S := S) request hleaves)
    exact (hperform caller follows session hosted).complies hleaves
  · exact .of_change hosted rfl rfl rfl rfl (.inr rfl)
  · exact complies_unregisterPanel caller id hosted
  · exact .of_change hosted rfl rfl rfl rfl (.inr rfl)
  · exact complies_unregisterStatus caller id hosted

/-- What a session shows is told by the requests that have been made and by its journal. -/
structure Session.ShowsHistory (requests : List (Request κ)) (session : Session κ S) : Prop where
  panels : ComponentRegistry.Arranged (requests.filterMap Request.panelChange?)
    session.panelHost.panels
  status : ComponentRegistry.Arranged (requests.filterMap Request.statusChange?)
    session.panelHost.status
  current : session.journal.any Entry.missesHost = false →
    session.panelHost.ui.currentPanel = lastShown session.journal ""

namespace Session.ShowsHistory

theorem fresh (sink : ChordSink) (host : Host) (app : S) :
    (Session.fresh (κ := κ) sink host app).ShowsHistory [] :=
  ⟨.empty, .empty, fun _ => rfl⟩

theorem request {requests : List (Request κ)} {before after : Session κ S}
    (shows : before.ShowsHistory requests) {request : Request κ}
    (complies : before.Complies request after) :
    after.ShowsHistory (requests ++ [request]) := by
  have hlast : ∀ {β : Type} (f : Request κ → Option β),
      (requests ++ [request]).filterMap f = requests.filterMap f ++ (f request).toList := by
    intro β f
    rw [List.filterMap_append]
    cases hrequest : f request <;> simp [hrequest]
  obtain ⟨noted, hjournal, hcurrent⟩ := complies.noted
  refine ⟨?_, ?_, fun hreached => ?_⟩
  · rw [hlast, complies.panels_eq]
    exact shows.panels.change? _
  · rw [hlast, complies.status_eq]
    exact shows.status.change? _
  · rw [hjournal, List.any_append, Bool.or_eq_false_iff] at hreached
    rw [hcurrent hreached.1, shows.current hreached.2, hjournal, lastShown_append]

end Session.ShowsHistory

theorem Code.Performs.showsHistory {code : Code κ S}
    (within : code.Within fun request => request.leavesPanels = true) {sink : ChordSink}
    {host : Host} {app : S} {requests : List (Request κ)} {session : Session κ S}
    (performs : code.Performs (.fresh sink host app) requests session)
    (hrequests : ∀ request ∈ requests, request.isOfPanels = true) :
    session.events.Hosted ∧ session.ShowsHistory requests := by
  induction performs with
  | refl => exact ⟨.fresh sink host app, .fresh sink host app⟩
  | store app _ ih =>
      obtain ⟨hosted, shows⟩ := ih hrequests
      exact ⟨hosted, shows.panels, shows.status, shows.current⟩
  | @request requests session request _ ih =>
      obtain ⟨hosted, shows⟩ := ih fun other hother =>
        hrequests other (List.mem_append_left _ hother)
      have complies := Session.complies_perform (code.follows within Code.nestingLimit)
        (hrequests request (List.mem_append_right _ (List.mem_singleton_self request))) hosted
      exact ⟨complies.hosted, shows.request complies⟩

/-- After any registrations, removals and events, the registered ids are distinct, each stands where
it was registered first since it was last absent, and each has the component that it was registered
with last.  The composed tree has exactly these panels and status components, in this order, each as
its component rendered it.  The panel on screen is the one that the last event has asked for, if
every event got to the panel host. -/
theorem panels_laid_out {code : Code κ S}
    (within : code.Within fun request => request.leavesPanels = true) {sink : ChordSink}
    {host : Host} {app : S} {requests : List (Request κ)} {session : Session κ S}
    (performs : code.Performs (.fresh sink host app) requests session)
    (hrequests : ∀ request ∈ requests, request.isOfPanels = true) :
    session.ShowsHistory requests ∧
      ∃ noted, (code.run compose session).2.journal = noted ++ session.journal ∧
        Composes session.panelHost (Entry.outermost 0 noted).reverse
          (code.run compose session).1 := by
  obtain ⟨hosted, shows⟩ := performs.showsHistory within hrequests
  have hcompose := Session.compose_spec (code.caller_courses Code.nestingLimit)
    (code.follows within Code.nestingLimit) hosted
  exact ⟨shows, hcompose⟩

/-- A component that panics and one that does not. -/
def unsteadyComponents : Code Bool Unit :=
  .ofComponents fun steady => if steady then .done (Node.ofText "steady") else .panic "unsteady"

/-- A panel is replaced, another one is removed and comes back, and an event asks for no panel. -/
def panelHistory : List (Request Bool) :=
  [.registerPanel "a" false, .registerPanel "b" true, .registerPanel "c" true,
    .registerPanel "a" true, .unregisterPanel "b", .registerPanel "b" false,
    .registerStatus "s" true, .emit showPanelEvent (.string "b"), .emit showPanelEvent .null]

theorem panels_laid_out_history :
    let session := unsteadyComponents.runAll panelHistory
      (.fresh .nobody (.fresh .recording true) ())
    unsteadyComponents.Within (fun request => request.leavesPanels = true) ∧
      (∀ request ∈ panelHistory, request.isOfPanels = true) ∧
      session.panelHost.panels.ids = ["a", "c", "b"] ∧
      session.journal.any Entry.missesHost = false ∧ session.panelHost.ui.currentPanel = "b" ∧
      session.ShowsHistory panelHistory ∧
      ∃ noted, (unsteadyComponents.run compose session).2.journal = noted ++ session.journal ∧
        Composes session.panelHost (Entry.outermost 0 noted).reverse
          (unsteadyComponents.run compose session).1 := by
  have within : unsteadyComponents.Within fun request => request.leavesPanels = true := by
    apply Code.within_ofComponents
    intro steady
    cases steady <;> exact True.intro
  have hrequests : ∀ request ∈ panelHistory, request.isOfPanels = true := by
    unfold panelHistory
    simp [Request.isOfPanels, Request.leavesPanels, Request.panelChange?, Request.statusChange?]
  refine ⟨within, hrequests, by decide +kernel, by decide +kernel, by decide +kernel, ?_⟩
  exact panels_laid_out within (Code.Performs.refl.runAll panelHistory) hrequests

end EditorShell
