import EditorShell.Proofs.Event.Subscriptions
import EditorShell.Proofs.Run.Everyday
import EditorShell.Proofs.Run.Views

/-!
# The panel on screen

The current panel is the one that the last event asked for (`lastShown`).  The panel host is the
first to listen for these events.  So it has taken an event before anybody else can react to it, by
another event, say.

Events nest as callbacks do, and a listener that is called too deep does not get its event.  The law
is about runs in which the panel host got each of its own (`Entry.missesHost`).

## Strategy

`Session.Follows` relates a session to a later one.  Everything keeps to it that leaves the
components, the current panel and the listener of the panel host to others, since of all this it can
only tell events.  Such an event is followed by hand, up to the return of the first listener; for
all else it is enough that what is noted shows no panel.
-/

namespace EditorShell

open Json Session

variable {κ S α : Type}

/-! ## Who listens -/

/-- Whether the panel host listens. -/
def Subscription.isShowing (subscription : Subscription (Listener κ)) : Bool :=
  match subscription.listener with
  | .showPanel => true
  | _ => false

theorem Call.isShowing_listener (event : String) (subscription : Subscription (Listener κ))
    (payload : Value) :
    Call.isShowing (.listener event subscription payload) = subscription.isShowing := by
  obtain ⟨id, listener⟩ := subscription
  cases listener <;> rfl

theorem Call.isShowing_of_isListener {call : Call κ} (hlistener : call.isListener = false) :
    call.isShowing = false := by
  cases call <;> first | rfl | cases hlistener

/-- The panel host is the first to listen for panels that are shown, and listens for nothing
else. -/
structure EventBus.Hosted (bus : EventBus (Listener κ)) : Prop where
  first : ∃ others, bus.listeners showPanelEvent = ⟨0, .showPanel⟩ :: others ∧
    ∀ other ∈ others, other.isShowing = false
  elsewhere : ∀ event, event ≠ showPanelEvent → ∀ subscription ∈ bus.listeners event,
    subscription.isShowing = false

namespace EventBus.Hosted

variable {bus : EventBus (Listener κ)}

theorem subscribe (hosted : bus.Hosted) (event : String) {listener : Listener κ}
    (hlistener : Subscription.isShowing ⟨bus.nextId, listener⟩ = false) :
    (bus.subscribe event listener).2.Hosted := by
  obtain ⟨others, hothers, hquiet⟩ := hosted.first
  constructor
  · rw [listeners_subscribe]
    split
    · rename_i heq
      rw [← heq, hothers]
      refine ⟨others ++ [⟨bus.nextId, listener⟩], rfl, fun other hother => ?_⟩
      -- New listeners come behind the first one, and none of them shows panels.
      rcases List.mem_append.1 hother with hold | hnew
      · exact hquiet other hold
      · rw [List.mem_singleton.1 hnew]
        exact hlistener
    · exact ⟨others, hothers, hquiet⟩
  · intro other hother subscription hmem
    rw [listeners_subscribe] at hmem
    split at hmem
    · rename_i heq
      rcases List.mem_append.1 hmem with hold | hnew
      · exact hosted.elsewhere event (heq ▸ hother) subscription hold
      · rw [List.mem_singleton.1 hnew]
        exact hlistener
    · exact hosted.elsewhere other hother subscription hmem

theorem unsubscribe (hosted : bus.Hosted) {event : String} {id : SubscriptionId}
    (hkept : event = showPanelEvent → id ≠ 0) : (bus.unsubscribe event id).2.Hosted := by
  obtain ⟨others, hothers, hquiet⟩ := hosted.first
  constructor
  · rw [listeners_unsubscribe]
    split
    · rename_i heq
      have hfirst : (0 != id) = true := by simpa using (hkept heq.symm).symm
      refine ⟨others.filter fun subscription => subscription.id != id, ?_, fun other hother => ?_⟩
      · rw [← heq, hothers]
        exact List.filter_cons_of_pos hfirst
      · exact hquiet other (List.mem_filter.1 hother).1
    · exact ⟨others, hothers, hquiet⟩
  · intro other hother subscription hmem
    rw [listeners_unsubscribe] at hmem
    split at hmem
    · rename_i heq
      exact hosted.elsewhere event (heq ▸ hother) subscription (List.mem_filter.1 hmem).1
    · exact hosted.elsewhere other hother subscription hmem

theorem clear (hosted : bus.Hosted) {event : String} (hkept : event ≠ showPanelEvent) :
    (bus.clear event).Hosted := by
  constructor
  · rw [listeners_clear, if_neg hkept.symm]
    exact hosted.first
  · intro other hother subscription hmem
    rw [listeners_clear] at hmem
    split at hmem
    · cases hmem
    · exact hosted.elsewhere other hother subscription hmem

theorem fresh (sink : ChordSink) (host : Host) (app : S) :
    (Session.fresh (κ := κ) sink host app).events.Hosted := by
  constructor
  · exact ⟨[], rfl, fun _ hother => absurd hother List.not_mem_nil⟩
  · intro event hevent subscription hmem
    have hnone : (Session.fresh (κ := κ) sink host app).events.listeners event = [] := by
      change (empty.subscribe showPanelEvent Listener.showPanel).2.listeners event = []
      rw [listeners_subscribe, if_neg hevent]
      rfl
    rw [hnone] at hmem
    cases hmem

end EventBus.Hosted

/-! ## What is shown -/

/-- The panel that an event asks for. -/
def Entry.shown? : Entry κ → Option String
  | .emitBegan event payload => if event = showPanelEvent then payload.asText? else none
  | _ => none

/-- Whether an event did not get to the panel host, which is called too deep. -/
def Entry.missesHost : Entry κ → Bool
  | .returned (.listener _ ⟨_, .showPanel⟩ _) (.error _) => true
  | _ => false

/-- The panel that the last of these entries asks for that asks for one, newest entry first. -/
def lastShown (noted : List (Entry κ)) (current : String) : String :=
  (noted.findSome? Entry.shown?).getD current

theorem lastShown_append (later earlier : List (Entry κ)) (current : String) :
    lastShown (later ++ earlier) current = lastShown later (lastShown earlier current) := by
  unfold lastShown
  rw [List.findSome?_append]
  cases later.findSome? Entry.shown? <;> rfl

theorem lastShown_of_forall {noted : List (Entry κ)} (hnoted : ∀ entry ∈ noted,
    Entry.shown? entry = none) (current : String) : lastShown noted current = current := by
  unfold lastShown
  rw [List.findSome?_eq_none_iff.2 hnoted]
  rfl

/-- The components have stayed, and the current panel is the one that the last event since has
asked for. -/
structure Session.Follows (before after : Session κ S) : Prop where
  panels_eq : after.panelHost.panels = before.panelHost.panels
  status_eq : after.panelHost.status = before.panelHost.status
  hosted : after.events.Hosted
  noted : ∃ noted, after.journal = noted ++ before.journal ∧
    (noted.any Entry.missesHost = false →
      after.panelHost.ui.currentPanel = lastShown noted before.panelHost.ui.currentPanel)

namespace Session.Follows

theorem trans {first second third : Session κ S} (hfirst : first.Follows second)
    (hsecond : second.Follows third) : first.Follows third := by
  obtain ⟨earlier, hearlier, hcurrent⟩ := hfirst.noted
  obtain ⟨later, hlater, hcurrent'⟩ := hsecond.noted
  refine ⟨hsecond.panels_eq.trans hfirst.panels_eq, hsecond.status_eq.trans hfirst.status_eq,
    hsecond.hosted, later ++ earlier, ?_, fun hreached => ?_⟩
  · rw [hlater, hearlier, List.append_assoc]
  · rw [List.any_append, Bool.or_eq_false_iff] at hreached
    rw [hcurrent' hreached.1, hcurrent hreached.2, lastShown_append]

/-- Where no panel is shown the current one stays. -/
theorem of_quiet {before after : Session κ S} (noted : List (Entry κ))
    (hpanels : after.panelHost.panels = before.panelHost.panels)
    (hstatus : after.panelHost.status = before.panelHost.status)
    (hcurrent : after.panelHost.ui.currentPanel = before.panelHost.ui.currentPanel)
    (hosted : after.events.Hosted) (hjournal : after.journal = noted ++ before.journal)
    (hnoted : ∀ entry ∈ noted, Entry.shown? entry = none) : before.Follows after :=
  ⟨hpanels, hstatus, hosted, noted, hjournal, fun _ => by
    rw [hcurrent, lastShown_of_forall hnoted]⟩

theorem refl {session : Session κ S} (hosted : session.events.Hosted) : session.Follows session :=
  of_quiet [] rfl rfl rfl hosted (List.nil_append _).symm (by simp)

theorem noting {session : Session κ S} (hosted : session.events.Hosted) {entry : Entry κ}
    (hentry : entry.shown? = none) : session.Follows (session.noting entry) :=
  of_quiet [entry] rfl rfl rfl hosted rfl (by simpa using hentry)

/-- An event has been followed when its panel is the current one. -/
theorem of_shown {before after : Session κ S} (noted : List (Entry κ)) {payload : Value}
    (hpanels : after.panelHost.panels = before.panelHost.panels)
    (hstatus : after.panelHost.status = before.panelHost.status) (hosted : after.events.Hosted)
    (hjournal : after.journal = noted ++ .emitBegan showPanelEvent payload :: before.journal)
    (hnoted : ∀ entry ∈ noted, Entry.shown? entry = none)
    (hcurrent : noted.any Entry.missesHost = false → after.panelHost.ui.currentPanel =
      payload.asText?.getD before.panelHost.ui.currentPanel) : before.Follows after := by
  refine ⟨hpanels, hstatus, hosted, noted ++ [.emitBegan showPanelEvent payload], ?_, fun h => ?_⟩
  · rw [hjournal, List.append_assoc]
    rfl
  · rw [List.any_append, Bool.or_eq_false_iff] at h
    rw [hcurrent h.1, lastShown_append, lastShown_of_forall hnoted]
    cases htext : payload.asText? <;> simp [lastShown, Entry.shown?, htext]

end Session.Follows

/-- Callbacks leave to others what they have to, and the panel host takes the events that get to
it. -/
structure Caller.Follows (caller : Caller κ S) : Prop where
  answer : ∀ {call : Call κ} {session : Session κ S}, call.isLifecycle = false →
    call.isShowing = false → session.events.Hosted →
      session.Follows (caller.answer call session).2
  showing : ∀ event id payload session,
    (∃ panic, caller.answer (.listener event ⟨id, .showPanel⟩ payload) session =
      (.error panic, session)) ∨
    ∃ result inner, caller.answer (.listener event ⟨id, .showPanel⟩ payload) session =
      (.ok result, ((takeShown payload).run inner session).2)

/-- The acts that leave the components, the current panel and the listener of the panel host to
others, if their callbacks do. -/
def Following : Act.Class κ S := fun _ act =>
  ∀ caller : Caller κ S, caller.Follows → ∀ session : Session κ S, session.events.Hosted →
    session.Follows (act.run caller session).2

/-! ## An event -/

/-- The panel host makes the panel of the payload the current one and changes nothing else. -/
theorem Session.run_takeShown (payload : Value) (caller : Caller κ S) (session : Session κ S) :
    ∃ noted, ((takeShown payload).run caller session).2.journal = noted ++ session.journal ∧
      (∀ entry ∈ noted, entry = .moved) ∧
      ((takeShown payload).run caller session).2.panelHost.panels = session.panelHost.panels ∧
      ((takeShown payload).run caller session).2.panelHost.status = session.panelHost.status ∧
      ((takeShown payload).run caller session).2.events = session.events ∧
      ((takeShown payload).run caller session).2.panelHost.ui.currentPanel =
        payload.asText?.getD session.panelHost.ui.currentPanel := by
  unfold takeShown
  cases htext : payload.asText? with
  | none => exact ⟨[], rfl, by simp, rfl, rfl, rfl, rfl⟩
  | some panel =>
      simp only [setCurrentPanel, changePanels, Act.run_bind, Act.run_read, Act.run_change,
        Act.run_when, Act.run_pure, Act.run_note]
      unfold UiState.setCurrentPanel
      by_cases hsame : session.panelHost.ui.currentPanel = panel
      · simp [hsame]
      · exact ⟨[.moved], by simp [hsame, Session.noting], by simp, by simp [hsame, Session.noting],
          by simp [hsame, Session.noting], by simp [hsame, Session.noting],
          by simp [hsame, Session.noting, UiState.touch]⟩

/-- When its first listener has returned, an event has been followed. -/
theorem Session.follows_shown {caller : Caller κ S} (follows : caller.Follows) (payload : Value)
    {session : Session κ S} (hosted : session.events.Hosted) :
    session.Follows ((Act.call (.listener showPanelEvent ⟨0, .showPanel⟩ payload)).run caller
      (session.noting (.emitBegan showPanelEvent payload))).2 := by
  rw [Act.run_call]
  obtain ⟨begun, hbegun⟩ : ∃ begun, begun = (session.noting
      (.emitBegan showPanelEvent payload)).noting
        (.called (.listener showPanelEvent ⟨0, .showPanel⟩ payload)) := ⟨_, rfl⟩
  rw [← hbegun]
  have hjournal : begun.journal = .called (.listener showPanelEvent ⟨0, .showPanel⟩ payload) ::
      .emitBegan showPanelEvent payload :: session.journal := by rw [hbegun]; rfl
  have hhost : begun.panelHost = session.panelHost := by rw [hbegun]; rfl
  have hevents : begun.events = session.events := by rw [hbegun]; rfl
  rw [← hevents] at hosted
  -- The call panics and changes nothing, or returns from taking the panel that is shown.
  rcases follows.showing showPanelEvent 0 payload begun with ⟨panic, hanswer⟩ |
    ⟨result, inner, hanswer⟩
  · rw [hanswer]
    refine .of_shown [.returned (.listener showPanelEvent ⟨0, .showPanel⟩ payload) (.error panic),
      .called (.listener showPanelEvent ⟨0, .showPanel⟩ payload)] (by rw [← hhost]; rfl)
      (by rw [← hhost]; rfl) hosted (congrArg (List.cons _) hjournal) (fun entry hentry => ?_)
      fun hreached => by cases hreached
    rcases List.mem_cons.1 hentry with rfl | hentry
    · rfl
    · rw [List.mem_singleton.1 hentry]
      rfl
  · rw [hanswer]
    obtain ⟨noted, hnoted, hmoved, hpanels, hstatus, hevents', hcurrent⟩ :=
      run_takeShown payload inner begun
    rw [← hevents'] at hosted
    rw [hhost] at hpanels hstatus hcurrent
    have hjournal' : noted ++ begun.journal =
        (noted ++ [.called (.listener showPanelEvent ⟨0, .showPanel⟩ payload)]) ++
          .emitBegan showPanelEvent payload :: session.journal := by
      rw [hjournal, List.append_assoc]
      rfl
    refine .of_shown (.returned (.listener showPanelEvent ⟨0, .showPanel⟩ payload) (.ok result) ::
        (noted ++ [.called (.listener showPanelEvent ⟨0, .showPanel⟩ payload)]))
      hpanels hstatus hosted (congrArg (List.cons _) (hnoted.trans hjournal'))
      (fun entry hentry => ?_) fun _ => hcurrent
    rcases List.mem_cons.1 hentry with rfl | hentry
    · rfl
    · rcases List.mem_append.1 hentry with hentry | hentry
      · rw [hmoved entry hentry]
        rfl
      · rw [List.mem_singleton.1 hentry]
        rfl

namespace Following

theorem of_madeOf {act : Act κ S α} (hact : act.MadeOf Following) : Following α act := by
  refine hact.covered (fun _ _ _ _ hosted => .refl hosted) (fun _ _ _ _ hosted => .refl hosted)
    (fun hnext => ?_) fun {_ _ first next} hfirst hnext => ?_
  · exact fun caller follows session => hnext session caller follows session
  · intro caller follows session hosted
    have hstep := hfirst caller follows session hosted
    exact hstep.trans (hnext _ caller follows _ hstep.hosted)

/-- Whether an entry is noted only by what is followed by hand. -/
def isFollowed : Entry κ → Bool
  | .emitBegan _ _ => true
  | .called call | .returned call _ => call.isLifecycle || call.isShowing
  | _ => false

theorem shown?_of_isFollowed {entry : Entry κ} (hentry : isFollowed entry = false) :
    entry.shown? = none := by
  cases entry <;> first | rfl | cases hentry

/-- What a session shows, and who is told. -/
def view (session : Session κ S) := (session.panelHost.panels, session.panelHost.status,
  session.panelHost.ui.currentPanel, session.events)

theorem call {call : Call κ} (hlifecycle : call.isLifecycle = false)
    (hshowing : call.isShowing = false) : (Act.call (S := S) call).MadeOf Following := by
  refine .part fun caller follows session hosted => ?_
  rw [Act.run_call]
  have hcalled : session.Follows (session.noting (.called call)) := .noting hosted rfl
  have hanswered := hcalled.trans (follows.answer hlifecycle hshowing hcalled.hosted)
  exact hanswered.trans (.noting hanswered.hosted rfl)

theorem sees : (Following (κ := κ) (S := S)).Sees view isFollowed where
  change f hf := by
    refine .part fun caller _ session hosted => ?_
    obtain ⟨hview, noted, hjournal, hnoted⟩ := hf session
    obtain ⟨hpanels, hview⟩ := Prod.mk.inj hview
    obtain ⟨hstatus, hview⟩ := Prod.mk.inj hview
    obtain ⟨hcurrent, hevents⟩ := Prod.mk.inj hview
    refine .of_quiet noted hpanels hstatus hcurrent ?_ hjournal fun entry hentry => ?_
    · rw [← hevents] at hosted
      exact hosted
    · exact shown?_of_isFollowed (hnoted entry hentry).2
  note entry _ hentry := .part fun _ _ _ hosted => .noting hosted (shown?_of_isFollowed hentry)
  call _ hcall := by
    obtain ⟨hlifecycle, hshowing⟩ := Bool.or_eq_false_iff.1 hcall.1
    exact call hlifecycle hshowing

theorem hidden {call : Call κ} (hlifecycle : call.isLifecycle = false)
    (hshowing : call.isShowing = false) : call.Hidden isFollowed := by
  have hcall : (call.isLifecycle || call.isShowing) = false := by rw [hlifecycle, hshowing]; rfl
  exact ⟨hcall, fun _ => hcall⟩

theorem ordinary : (Following (κ := κ) (S := S)).Ordinary :=
  sees.ordinary fun _ _ hlifecycle _ hlistener =>
    hidden hlifecycle (Call.isShowing_of_isListener hlistener)

/-- Telling the listeners other than the panel host. -/
theorem deliver (event : String) (payload : Value) {listeners : List (Subscription (Listener κ))}
    (hquiet : ∀ subscription ∈ listeners, subscription.isShowing = false) (report : EmitReport) :
    (Session.deliver (S := S) event payload report listeners).MadeOf Following := by
  refine Act.Class.deliver_of_call (fun subscription hmem => call rfl ?_) report
  rw [Call.isShowing_listener]
  exact hquiet subscription hmem

/-- What comes after the beginning of an event is followed to its end. -/
theorem ending {caller : Caller κ S} (follows : caller.Follows) {event : String} {payload : Value}
    {report : EmitReport} {listeners : List (Subscription (Listener κ))}
    (hquiet : ∀ subscription ∈ listeners, subscription.isShowing = false)
    {before session : Session κ S} (hbefore : before.Follows session) :
    before.Follows (((Session.deliver event payload report listeners).run caller session).2.noting
      (.emitEnded event
        ((Session.deliver event payload report listeners).run caller session).1)) := by
  have hdelivered := hbefore.trans
    (of_madeOf (deliver event payload hquiet report) caller follows session hbefore.hosted)
  exact hdelivered.trans (.noting hdelivered.hosted rfl)

theorem emit (event : String) (payload : Value) :
    (Session.emit event payload : Act κ S EmitReport).MadeOf Following := by
  refine .part fun caller follows session hosted => ?_
  unfold Session.emit
  rw [Act.run_bind, Act.run_read, Act.run_bind, Act.run_note]
  by_cases hevent : event = showPanelEvent
  · obtain ⟨others, hothers, hquiet⟩ := hosted.first
    rw [hevent, hothers]
    exact ending follows hquiet (Session.follows_shown follows payload hosted)
  · have hbegun : session.Follows (session.noting (.emitBegan event payload)) :=
      .noting hosted (if_neg hevent)
    exact ending follows (hosted.elsewhere event hevent) hbegun

/-! ## Everything else -/

theorem core : (Following (κ := κ) (S := S)).Core fun _ => True := by
  refine sees.core ordinary (fun message => hidden rfl rfl) (fun call hjob => ?_)
    (fun entry hinner => ?_) fun _ _ => rfl
  · refine hidden (Call.isLifecycle_of_isJob hjob) ?_
    cases call <;> first | rfl | cases hjob
  · cases entry <;> first | rfl | cases hinner

theorem commands : (Following (κ := κ) (S := S)).Commands :=
  sees.commands ordinary (fun entry hpress => by cases entry <;> first | rfl | cases hpress)
    fun _ _ _ => rfl

theorem touch : (Session.touch : Act κ S Unit).MadeOf Following :=
  .bind (sees.aside (fun _ => rfl) fun _ => rfl) fun _ => sees.note .moved rfl rfl

theorem renderPanels : (Session.renderPanels : Act κ S RenderReport).MadeOf Following :=
  .bind ordinary.compose fun _ => core.render _

theorem ongoing : (Following (κ := κ) (S := S)).Ongoing where
  clock _ := sees.aside (fun _ => rfl) fun _ => rfl
  sayHello := Act.Class.sayHello_of_change fun _ _ _ => sees.aside (fun _ => rfl) fun _ => rfl
  showPanel _ := emit _ _
  tellKey := emit _
  emit := emit
  followCursor := Act.Class.followCursor_of_change
    (fun _ _ _ => sees.aside (fun _ => rfl) fun _ => rfl) touch
  followLanguage := Act.Class.followLanguage_of_change
    (fun _ _ _ => sees.aside (fun _ => rfl) fun _ => rfl) touch
  settleName := Act.Class.settleName_of_change
    (fun _ _ _ => sees.aside (fun _ => rfl) fun _ => rfl) touch
  execute := commands.execute
  press := commands.press
  resolveHandle := core.resolveHandle
  invoke := core.invoke
  debounce := core.debounce
  tick := Act.Class.tick_of_change
    (fun entry hdisplay => sees.note entry (Entry.isCall_eq_false (.inr (.inr (.inl hdisplay))))
      (by cases entry <;> first | rfl | cases hdisplay))
    (fun _ _ => sees.aside (fun _ => rfl) fun _ => rfl) core.runDue renderPanels

theorem newBuiltin (kind : Builtin) : (Session.newBuiltin kind : Act κ S (Extension κ)).MadeOf
    Following := by
  cases kind <;> exact .bind (.bind (.read _) fun copy =>
    .bind (sees.aside (fun _ => rfl) fun _ => rfl) fun _ => .pure copy) fun _ => .pure _

end Following

/-! ## Runs -/

/-- Whether a request leaves the components, the current panel and the listener of the panel host
to others. -/
def Request.leavesPanels : Request κ → Bool
  | .registerPanel _ _ | .unregisterPanel _ | .registerStatus _ _ | .unregisterStatus _
  | .setCurrentPanel _ | .register _ _ | .unregister _ | .activate _ | .deactivate _
  | .activateAll _ | .deactivateAll | .loadExtension _ _ | .close => false
  | .unsubscribe event id => event != showPanelEvent || id != 0
  | .clearEvent event => event != showPanelEvent
  | _ => true

/-- Such a request tells of panels by events only. -/
theorem Following.perform (request : Request κ) (hleaves : request.leavesPanels = true) :
    (request.perform (S := S)).MadeOf Following := by
  by_cases hcore : request.isCore = true
  · exact core.request request hcore trivial
  by_cases heveryday : request.isEveryday = true
  · refine ongoing.perform (fun event => ?_) request heveryday
    exact core.request (.dispatchEvent event) rfl trivial
  cases request <;> first
    | exact absurd rfl hcore | exact absurd rfl heveryday | exact absurd hleaves Bool.false_ne_true
    | skip
  case subscribe event listener =>
    refine .bind (.read _) fun id => .bind (.part fun _ _ session hosted => ?_) fun _ => .pure id
    exact .of_quiet [] rfl rfl rfl (hosted.subscribe event rfl) rfl (by simp)
  case unsubscribe event id =>
    refine .bind (.read _) fun found => .bind (.part fun _ _ session hosted => ?_) fun _ =>
      .pure found
    have hkept : event = showPanelEvent → id ≠ 0 := by
      simpa [Request.leavesPanels, ← Decidable.imp_iff_not_or] using hleaves
    exact .of_quiet [] rfl rfl rfl (hosted.unsubscribe hkept) rfl (by simp)
  case clearEvent event =>
    refine .part fun _ _ session hosted => ?_
    have hkept : event ≠ showPanelEvent := by simpa [Request.leavesPanels] using hleaves
    exact .of_quiet [] rfl rfl rfl (hosted.clear hkept) rfl (by simp)
  case newAction body => exact commands.newAction _
  case registerAction descriptor action => exact commands.registerAction _ _
  case registerDescriptor descriptor body => exact commands.registerDescriptor _ _
  case registerCommand name keys body => exact commands.registerCommand _ _ _
  case unregisterCommand name => exact commands.unregisterCommand _
  case unregisterAction name action => exact commands.unregisterAction _ _
  case setEnabled name enabled => exact commands.setEnabled _ _
  case bind keys command args => exact commands.bind _ _ _
  case unbind keys => exact commands.unbind _
  case loadMap bindings => exact commands.loadMap _
  case loadKeymap text => exact commands.loadKeymap _
  case setWindow window => exact commands.setWindow _
  case touch => exact touch
  case compose => exact ordinary.compose
  case renderPanels => exact renderPanels
  case newBuiltin kind => exact newBuiltin kind
  case play steps => exact ongoing.playFrom _ _

/-- Callbacks that leave the panels to others do so however deep they nest. -/
theorem Code.follows {code : Code κ S}
    (within : code.Within fun request => request.leavesPanels = true) (depth : Nat) :
    (code.caller depth).Follows := by
  induction depth with
  | zero => exact ⟨fun _ _ hosted => .refl hosted, fun _ _ _ _ => .inl ⟨_, rfl⟩⟩
  | succ depth ih =>
      constructor
      · intro call session hlifecycle hshowing hosted
        have hrespond : (code.respond call).MadeOf Following :=
          Following.ongoing.respond (fun uses => .program (fun _ => Following.sees.aside
            (fun _ => rfl) fun _ => rfl) Following.perform uses) within call hlifecycle hshowing
        exact Following.of_madeOf hrespond (code.caller depth) ih session hosted
      · intro event id payload session
        refine .inr ⟨((takeShown payload).run (code.caller depth) session).1, code.caller depth, ?_⟩
        rfl

end EditorShell
