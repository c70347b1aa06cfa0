import EditorShell.Proofs.Event.Delivery
import EditorShell.Proofs.Handle.Delivery
import EditorShell.Proofs.Host.Recording
import EditorShell.Proofs.Shell.Rendering

/-!
# The input of a shown panel

When a panel is shown its input is to be focused and its text to be selected.  The shell asks for
the handle of the input at once and gets it in the first pass after that (`shown_inputs_focused`).
So the input of a panel that is mounted when it is shown is focused in the next tick, even if its
handle is still under way.  The input of a panel that has yet to be mounted, as that of an initial
panel, is not focused at all: the pass comes before the render that mounts it, and nobody asks
again (`initial_input_left`).

## Strategy

Showing a panel calls everybody who listens, the shell among them, so it schedules a job that hands
the handle over (`Session.asks_showPanel`).  What becomes of that job is told in
`EditorShell.Proofs.Handle.Delivery`.  In its turn the receiver looks the handle up again for each
of the two commands, and finds the same one, since the host leaves the bridge alone.
-/

namespace EditorShell

open Json

variable {κ S : Type}

/-! ## What the receiver sends -/

/-- What the receiver of the handle of an input has to tell the host. -/
def focusMessages : Option WidgetHandle → List HostMessage
  | none => []
  | some handle => [.invoke handle .focus, .invoke handle .selectAll]

/-- The job that hands the handle of an input to its receiver. -/
abbrev Task.focusing (number : TaskId) (id : NodeId) : Task (Job κ) :=
  .delivery number id (.focusAndSelect id)

/-- The messages that a stretch of the journal tells of, oldest first. -/
def Entry.sentIn (noted : List (Entry κ)) : List SentMessage := noted.reverse.filterMap sent?

theorem Entry.sentIn_append (later earlier : List (Entry κ)) :
    sentIn (later ++ earlier) = sentIn earlier ++ sentIn later := by
  simp [sentIn]

theorem Entry.sentIn_call (call : Call κ) (outcome : Guarded call.Result)
    (inner earlier : List (Entry κ)) :
    sentIn (.returned call outcome :: (inner ++ .called call :: earlier)) =
      sentIn earlier ++ sentIn inner := by
  have hsplit : .returned call outcome :: (inner ++ .called call :: earlier) =
      [.returned call outcome] ++ (inner ++ ([.called call] ++ earlier)) := rfl
  have hcalled : sentIn [.called call] = [] := rfl
  have hreturned : sentIn [.returned call outcome] = [] := rfl
  rw [hsplit, sentIn_append, sentIn_append, sentIn_append, hcalled, hreturned, List.append_nil,
    List.append_nil]

theorem Entry.mem_sentIn {noted : List (Entry κ)} {sent : SentMessage}
    (hmem : sent ∈ sentIn noted) : .sent sent.message sent.accepted ∈ noted := by
  obtain ⟨entry, hentry, hsent⟩ := List.mem_filterMap.1 hmem
  cases entry with
  | sent message accepted =>
      obtain rfl := Option.some.inj hsent
      exact List.mem_reverse.1 hentry
  | _ => cases hsent

theorem Entry.sentIn_eq_nil {noted : List (Entry κ)}
    (hnoted : ∀ message accepted, .sent message accepted ∉ noted) : sentIn noted = [] :=
  List.eq_nil_iff_forall_not_mem.2 fun _ hmem => hnoted _ _ (mem_sentIn hmem)

/-- If nothing was rejected it is enough to know the messages. -/
theorem Entry.sentIn_eq_of_accepted {noted : List (Entry κ)}
    (haccepted : ∀ message, .sent message false ∉ noted) :
    sentIn noted = ((sentIn noted).map SentMessage.message).map (SentMessage.mk · true) := by
  rw [List.map_map]
  refine (List.map_id _).symm.trans (List.map_congr_left fun sent hmem => ?_)
  obtain ⟨message, accepted⟩ := sent
  cases accepted with
  | true => rfl
  | false => exact absurd (mem_sentIn hmem) (haccepted message)

/-- Something was called between two sessions, and from the call to its return just these messages
were sent. -/
structure Session.CallSends (call : Call κ) (messages : List HostMessage)
    (before after : Session κ S) : Prop where
  called : ∃ later outcome inner earlier,
    after.journal = later ++ .returned call outcome :: (inner ++ .called call :: earlier) ∧
      before.journal <:+ earlier ∧ (Entry.sentIn inner).map SentMessage.message = messages

namespace Session

theorem CallSends.mono {call : Call κ} {messages : List HostMessage}
    {first before after last : Session κ S} (sends : CallSends call messages before after)
    (hbefore : first.journal <:+ before.journal) (hafter : after.journal <:+ last.journal) :
    CallSends call messages first last := by
  obtain ⟨later, outcome, inner, earlier, hjournal, hearlier, hsent⟩ := sends.called
  obtain ⟨more, hmore⟩ := hafter
  refine ⟨more ++ later, outcome, inner, earlier, ?_, hbefore.trans hearlier, hsent⟩
  rw [← hmore, hjournal, List.append_assoc]

/-- If nothing was rejected the host has got the messages, one right after another. -/
theorem CallSends.received {call : Call κ} {messages : List HostMessage}
    {before after : Session κ S} (sends : CallSends call messages before after)
    (haccepted : ∀ message, .sent message false ∉ after.journal) : ∃ front back,
      after.sent = before.sent ++ (front ++ messages.map (SentMessage.mk · true) ++ back) := by
  obtain ⟨later, outcome, inner, earlier, hjournal, ⟨middle, rfl⟩, rfl⟩ := sends.called
  have hinner := Entry.sentIn_eq_of_accepted fun message (hmem : .sent message false ∈ inner) =>
    haccepted message (by simp [hjournal, hmem])
  refine ⟨Entry.sentIn middle, Entry.sentIn later, ?_⟩
  rw [← hinner]
  change Entry.sentIn after.journal = Entry.sentIn before.journal ++ _
  rw [hjournal, Entry.sentIn_append, Entry.sentIn_call, Entry.sentIn_append]
  simp

/-! ## The turn of the job -/

variable {caller : Caller κ S}

theorem run_invoke {session : Session κ S} {id : NodeId} {handle : WidgetHandle}
    (hhandle : session.bridge.handles.get? id = some handle) (command : WidgetCommand) :
    (invoke id command).run caller session =
      (callHost (.invoke handle command)).run caller session := by
  unfold invoke
  rw [Act.run_bind, Act.run_read, hhandle]

/-- A widget with a handle is told what to do, and keeps its handle. -/
theorem sends_invoke (apart : caller.HostApart) {session : Session κ S} {id : NodeId}
    {handle : WidgetHandle} (hhandle : session.bridge.handles.get? id = some handle)
    (command : WidgetCommand) :
    ∃ noted, ((invoke id command).run caller session).2.journal = noted ++ session.journal ∧
      (Entry.sentIn noted).map SentMessage.message = [.invoke handle command] ∧
      ((invoke id command).run caller session).2.bridge.handles.get? id = some handle := by
  rw [run_invoke hhandle]
  obtain ⟨noted, hjournal, hsent⟩ := journal_callHost apart (.invoke handle command) session
  refine ⟨_, hjournal, ?_, ?_⟩
  · rw [← List.singleton_append, Entry.sentIn_append, Entry.sentIn_eq_nil hsent]
    rfl
  · rw [bridge_callHost apart]
    unfold Bridge.countAnswer
    split <;> exact hhandle

/-- The receiver of a handle focuses the widget and then selects its text. -/
theorem sends_focusAndSelect (apart : caller.HostApart) (session : Session κ S) (id : NodeId)
    (handle? : Option WidgetHandle)
    (hhandle : ∀ handle, handle? = some handle → session.bridge.handles.get? id = some handle) :
    ∃ noted, ((focusAndSelect id handle?).run caller session).2.journal =
        noted ++ session.journal ∧
      (Entry.sentIn noted).map SentMessage.message = focusMessages handle? := by
  cases handle? with
  | none => exact ⟨[], rfl, rfl⟩
  | some handle =>
      obtain ⟨focused, hfocused, hfocus, hkept⟩ := sends_invoke apart (hhandle handle rfl) .focus
      obtain ⟨selected, hselected, hselect, -⟩ := sends_invoke apart hkept .selectAll
      refine ⟨selected ++ focused, ?_, ?_⟩
      · rw [List.append_assoc, ← hfocused, ← hselected]
        rfl
      · rw [Entry.sentIn_append, List.map_append, hfocus, hselect]
        rfl

theorem sends_takeTurn {code : Code κ S} {depth : Nat} (apart : (code.caller depth).HostApart)
    (number : TaskId) (id : NodeId) (now : Session κ S) :
    CallSends (.delivery number (.focusAndSelect id) (now.deliverable? id))
      (focusMessages (now.deliverable? id)) now
      ((takeTurn (.focusing number id)).run (code.caller (depth + 1)) now).2 := by
  obtain ⟨inner, hinner, hsent⟩ := sends_focusAndSelect apart
    ((now.noting (.ran number)).noting (.called (.delivery number (.focusAndSelect id)
      (now.deliverable? id)))) id (now.deliverable? id)
    fun handle hhandle => (deliverable?_eq_some_iff.1 hhandle).2
  refine ⟨[], .ok (), inner, .ran number :: now.journal, ?_, List.suffix_cons _ _, hsent⟩
  exact congrArg (List.cons (.returned (.delivery number (.focusAndSelect id)
    (now.deliverable? id)) (.ok ()))) hinner

/-! ## Showing a panel -/

/-- Whoever listens to an event that is delivered is called, and what comes of the call stands in
the journal in the end. -/
theorem exists_call_of_deliver (courses : caller.Courses) (event : String) (payload : Value)
    {subscription : Subscription (Listener κ)} {listeners : List (Subscription (Listener κ))}
    (hmem : subscription ∈ listeners) (report : EmitReport) (session : Session κ S) :
    ∃ asked : Session κ S, session.journal <:+ asked.journal ∧
      ⟨.called (.listener event subscription payload), asked⟩ ∈
          (deliver event payload report listeners).moments caller session ∧
        ((Act.call (.listener event subscription payload)).run caller asked).2.journal <:+
          ((deliver event payload report listeners).run caller session).2.journal := by
  induction listeners generalizing report session with
  | nil => cases hmem
  | cons first rest ih =>
      let answered := (Act.call (.listener event first payload)).run caller session
      have hrun : (deliver event payload report (first :: rest)).run caller session =
        (deliver event payload (tally report answered.1) rest).run caller answered.2 := rfl
      have hmoments : (deliver event payload report (first :: rest)).moments caller session =
        (Act.call (.listener event first payload)).moments caller session ++
          (deliver event payload (tally report answered.1) rest).moments caller answered.2 := rfl
      rw [hrun, hmoments]
      rcases List.mem_cons.1 hmem with rfl | hmem
      · refine ⟨session, List.suffix_rfl, List.mem_append_left _ ?_, ?_⟩
        · rw [Act.moments_call]
          exact List.mem_cons_self
        · obtain ⟨-, noted, -, hjournal, -⟩ := deliver_spec courses event payload rest
            (tally report answered.1) answered.2
          exact ⟨noted, hjournal.symm⟩
      · -- The listener is one of the rest, and what was called before it only adds to the journal.
        obtain ⟨noted, hjournal, -⟩ :=
          call_spec courses (.listener event first payload) session
        obtain ⟨asked, hbefore, hasked, hsuffix⟩ :=
          ih hmem (tally report answered.1) answered.2
        exact ⟨asked, List.IsSuffix.trans ⟨noted, hjournal.symm⟩ hbefore,
          List.mem_append_right _ hasked, hsuffix⟩

theorem exists_call_of_emit (courses : caller.Courses) (event : String) (payload : Value)
    {session : Session κ S} {subscription : Subscription (Listener κ)}
    (hmem : subscription ∈ session.events.listeners event) :
    ∃ asked : Session κ S, session.journal <:+ asked.journal ∧
      ⟨.called (.listener event subscription payload), asked⟩ ∈
          (emit event payload).moments caller session ∧
        ((Act.call (.listener event subscription payload)).run caller asked).2.journal <:+
          ((emit event payload).run caller session).2.journal := by
  obtain ⟨asked, hbefore, hasked, hsuffix⟩ :=
    exists_call_of_deliver courses event payload hmem ⟨0, 0⟩
    (session.noting (.emitBegan event payload))
  have hmoments : ∃ ended, (emit event payload).moments caller session =
      ⟨.emitBegan event payload, session⟩ ::
        ((deliver event payload ⟨0, 0⟩ (session.events.listeners event)).moments caller
          (session.noting (.emitBegan event payload)) ++ [ended]) := ⟨_, rfl⟩
  obtain ⟨ended, hmoments⟩ := hmoments
  refine ⟨asked, (List.suffix_cons _ _).trans hbefore, ?_, hsuffix.trans (List.suffix_cons _ _)⟩
  rw [hmoments]
  exact List.mem_cons_of_mem _ (List.mem_append_left _ hasked)

theorem run_focusShown {panel : String} (hpanel : panel ≠ "") (session : Session κ S) :
    ((focusShown (.string panel)).run caller session).2 =
      ((resolveHandle (inputOf panel) (.focusAndSelect (inputOf panel))).run caller session).2 := by
  simp [focusShown, Value.asText?, hpanel]

/-- The call of the listener that focuses the input of a shown panel. -/
def focusCall (subscription : SubscriptionId) (panel : String) : Call κ :=
  .listener showPanelEvent ⟨subscription, .focusInput⟩ (.string panel)

/-- When a panel is shown the shell asks for the handle of its input. -/
theorem asks_showPanel (code : Code κ S) (depth : Nat) {session : Session κ S} {panel : String}
    (hpanel : panel ≠ "") {subscription : SubscriptionId}
    (listens : ⟨subscription, .focusInput⟩ ∈ session.events.listeners showPanelEvent) :
    ∃ (asked : Session κ S) (number : TaskId) (earlier : List (Entry κ)),
      ⟨.called (focusCall subscription panel), asked⟩ ∈
          (showPanel panel).moments (code.caller (depth + 1)) session ∧
        ((resolveHandle (inputOf panel) (.focusAndSelect (inputOf panel))).run (code.caller depth)
            (asked.noting (.called (focusCall subscription panel)))).2.journal =
          .scheduled (.focusing number (inputOf panel)) :: earlier ∧
        session.journal <:+ earlier ∧
        .scheduled (.focusing number (inputOf panel)) :: earlier <:+
          ((showPanel panel).run (code.caller (depth + 1)) session).2.journal := by
  obtain ⟨asked, hbefore, hasked, hsuffix⟩ :=
    exists_call_of_emit (code.caller_courses (depth + 1)) showPanelEvent (.string panel) listens
  have hscheduled : ∃ number earlier,
      ((resolveHandle (inputOf panel) (.focusAndSelect (inputOf panel))).run (code.caller depth)
        (asked.noting (.called (focusCall subscription panel)))).2.journal =
          .scheduled (.focusing number (inputOf panel)) :: earlier := ⟨_, _, rfl⟩
  obtain ⟨number, earlier, hjournal⟩ := hscheduled
  refine ⟨asked, number, earlier, hasked, hjournal, ?_, List.IsSuffix.trans ?_ hsuffix⟩
  · have covers : (Coursing (κ := κ) (S := S)).Covers fun _ => True := Coursing.covers
    obtain ⟨noted, hnoted, -⟩ := (Coursing.of_madeOf (covers.resolveHandle (inputOf panel)
      (.focusAndSelect (inputOf panel))) (code.caller depth) (code.caller_courses depth)
      (asked.noting (.called (focusCall subscription panel)))).recount
    rw [hjournal] at hnoted
    cases noted with
    -- The job is scheduled last, so what was there before is older than it.
    | nil => cases hnoted
    | cons entry rest =>
        obtain ⟨-, rfl⟩ := List.cons.inj hnoted
        exact hbefore.trans ((List.suffix_cons _ _).trans (List.suffix_append _ _))
  · rw [← hjournal, ← run_focusShown hpanel]
    exact List.suffix_cons _ _

/-- What a start does before it shows the initial panel. -/
def prepare (config : ShellConfig) : Act κ S Unit := do
  setWindow config.window
  let focusListener ← subscribe showPanelEvent .focusInput
  registerBuiltins Builtin.all
  openShell focusListener
  let _ ← activate Builtin.panels.name
  let _ ← activateAll config.extensions
  let _ ← loadMap config.keymap

theorem start_eq (config : ShellConfig) : (start config : Act κ S Unit) =
    prepare config >>= fun _ => .when (!config.initialPanel.isEmpty)
      (showPanel config.initialPanel >>= fun _ => pure ()) := by
  simp only [start, prepare, bind_assoc, pure_bind]

/-- A session in which a panel is about to be shown: somebody asks for it, or a shell starts with it
as the initial panel. -/
inductive Shows (allowed : Request κ → Prop) (code : Code κ S) (depth : Nat) (panel : String)
    (first : Session κ S) : Session κ S → Prop where
  | request {session : Session κ S} (permitted : allowed (.showPanel panel))
      (reaches : first.Reaches allowed session) : Shows allowed code depth panel first session
  | start {session : Session κ S} (config : ShellConfig) (initial : config.initialPanel = panel)
      (reaches : first.Reaches allowed session) :
      Shows allowed code depth panel first ((prepare config).run (code.caller depth) session).2

theorem Shows.exists_occurs {allowed : Request κ → Prop} {code : Code κ S} {depth : Nat}
    {panel : String} {first session : Session κ S}
    (shows : first.Shows allowed code depth panel session) (within : code.Within allowed)
    (hpanel : panel ≠ "") : ∃ origin : Session κ S, first.Reaches allowed origin ∧
      ∀ moment ∈ (showPanel panel).moments (code.caller depth) session,
        moment.OccursFrom allowed origin := by
  cases shows with
  | request permitted reaches =>
      exact ⟨session, reaches, fun moment hmem =>
        .intro (.request (.showPanel panel) permitted) within hmem⟩
  | @start origin config initial reaches =>
      refine ⟨origin, reaches, fun moment hmem => ?_⟩
      have hstart : moment ∈ (Session.start config).moments (code.caller depth) origin := by
        rw [start_eq, Act.moments_bind]
        refine List.mem_append_right _ ?_
        simpa [initial, hpanel] using hmem
      exact .intro (.start config) within hstart

/-! ## The tick -/

/-- What a tick does after its pass only adds to the journal. -/
theorem journal_suffix_tick (courses : caller.Courses) (session : Session κ S) :
    (session.caughtUp caller).journal <:+ (tick.run caller session).2.journal := by
  by_cases hsame : (session.caughtUp caller).renderedVersion? =
      some (session.caughtUp caller).panelHost.ui.version
  · have hrun : (tick.run caller session).2.journal = (session.caughtUp caller).journal := by
      rw [run_tick_of_eq caller session hsame]
    exact hrun ▸ List.suffix_rfl
  · have covers : (Coursing (κ := κ) (S := S)).Covers fun _ => True := Coursing.covers
    let begun := (session.caughtUp caller).noting (.rendering (session.caughtUp caller).panelHost)
    obtain ⟨noted, hjournal, -⟩ := (Coursing.of_madeOf (covers.renderPanels trivial) caller courses
      begun).recount
    have hrun : (tick.run caller session).2.journal =
        .rendered :: (renderPanels.run caller begun).2.journal := by
      rw [caughtUp] at hsame
      simp only [tick, setRenderedVersion, Act.run_bind, Act.run_read, if_neg hsame, Act.run_note,
        Act.run_change, Act.run_pure, noting, begun, caughtUp]
    rw [hrun, hjournal]
    exact ⟨.rendered :: (noted ++ [.rendering (session.caughtUp caller).panelHost]), by
      simp [begun, noting]⟩

end Session

/-- At a moment between two sessions the receiver of the handle of an input is called, with the
handle that the input has just then, and tells the host what it has to. -/
structure Moment.Focuses (moment : Moment κ S) (number : TaskId) (id : NodeId)
    (handle? : Option WidgetHandle) (before after : Session κ S) : Prop where
  delivers : moment.Delivers number id (.focusAndSelect id) handle?
  sends : before.CallSends (.delivery number (.focusAndSelect id) handle?) (focusMessages handle?)
    after
  received : (∀ message, .sent message false ∉ after.journal) → ∃ front back, after.sent =
    before.sent ++ (front ++ (focusMessages handle?).map (SentMessage.mk · true) ++ back)

/-- In the tick that gives it its turn the job calls the receiver. -/
theorem Session.exists_focuses {next now : Session κ S} {allowed : Request κ → Prop}
    {code : Code κ S} (within : code.Within allowed) (depth : Nat) {number : TaskId} {id : NodeId}
    (hturn : (.focusing number id, now) ∈ next.passTurns (code.caller (depth + 1)))
    (hlive : now.scheduler.isCancelled number = false) :
    ∃ moment ∈ Session.tick.moments (code.caller (depth + 1)) next,
      moment.session = now.noting (.ran number) ∧
        moment.Focuses number id (now.deliverable? id) next
          (Session.tick.run (code.caller (depth + 1)) next).2 := by
  have courses := code.courses within (depth + 1)
  have turnIn := Session.turnIn_of_mem_passTurns courses hturn
  obtain ⟨-, later, huntil⟩ := turnIn.turn hlive
  obtain ⟨noted, hended, -⟩ := huntil.recount
  have hlast : ((Session.takeTurn (.focusing number id)).run
      (code.caller (depth + 1)) now).2.journal <:+
        (Session.tick.run (code.caller (depth + 1)) next).2.journal :=
    List.IsSuffix.trans ⟨noted, hended.symm⟩ (Session.journal_suffix_tick courses next)
  have sends := (Session.sends_takeTurn (within.apart depth) number id now).mono
    turnIn.journal_suffix hlast
  have hmoment := (Session.called_delivery courses hturn hlive).1
  exact ⟨_, List.mem_append_left _ hmoment, rfl,
    ⟨rfl, fun handle => Session.deliverable?_eq_some_iff⟩, sends, sends.received⟩

/-- When a panel is shown, be it on request or because a shell starts with it, the shell asks for
the handle of the input of the panel, and gets an answer once, in the first tick after that.  If the
input is mounted just then and has a handle, the host is told to focus it and then to select its
text, and nothing else in between; if not, the host is told nothing.  An input that was mounted when
its panel was shown, and still is, has a handle by then, provided that the host publishes handles
and has rejected nothing, no two widgets share a slot, the slots and the jobs are left to the
bridge, and the tick is not part of a pass. -/
theorem shown_inputs_focused {allowed : Request κ → Prop} {sink : ChordSink} {host : Host} {app : S}
    {code : Code κ S} {depth : Nat} {panel : String} {session : Session κ S}
    (hclear : ¬ allowed .clearTasks) (within : code.Within allowed) (hdepth : 0 < depth)
    (hpanel : panel ≠ "")
    (shows : (Session.fresh sink host app).Shows allowed code depth panel session)
    {subscription : SubscriptionId}
    (listens : ⟨subscription, .focusInput⟩ ∈ session.events.listeners Session.showPanelEvent) :
    let id := Session.inputOf panel
    let showing : Act κ S EmitReport := Session.showPanel panel
    ∃ asked number earlier,
      ⟨.called (Session.focusCall subscription panel), asked⟩ ∈
          showing.moments (code.caller depth) session ∧
        session.journal <:+ earlier ∧
        .scheduled (.focusing number id) :: earlier <:+
          (showing.run (code.caller depth) session).2.journal ∧
        (∀ last, (Session.fresh sink host app).Passes allowed last →
          (Entry.jobCalls last.journal).count number ≤ 1) ∧
        ((∀ reason, ¬ allowed (.cancelTask number reason)) → ∀ next : Session κ S,
          next.NoPassSince (.scheduled (.focusing number id) :: earlier) →
          (Session.fresh sink host app).BeginsPass allowed next →
          ∀ code : Code κ S, code.Within allowed → ∀ depth, 0 < depth →
            ∃ moment ∈ Session.tick.moments (code.caller depth) next, ∃ handle?,
              moment.Focuses number id handle? next
                  (Session.tick.run (code.caller depth) next).2 ∧
                ((∃ names, Forthcoming allowed names host ∧
                  asked.bridge.isMounted id = true ∧ Entry.openPasses next.journal = 0 ∧
                    moment.Certain names id (.scheduled (.focusing number id) :: earlier)) →
                  handle?.isSome = true)) := by
  intro id showing
  obtain ⟨depth, rfl⟩ := Nat.exists_eq_add_one_of_ne_zero hdepth.ne'
  obtain ⟨origin, hreaches, hoccurs⟩ := shows.exists_occurs within hpanel
  obtain ⟨asked, number, earlier, hasked, hjournal, hsession, hshown⟩ :=
    Session.asks_showPanel code depth hpanel listens
  -- The listener starts in a session that is reached.
  have hcalled : (Session.fresh sink host app).Reaches allowed
      (asked.noting (.called (Session.focusCall subscription panel))) :=
    .callback (hoccurs _ hasked) rfl rfl hreaches
  refine ⟨asked, number, earlier, hasked, hsession, hshown, fun last hlast =>
    (Session.Regular.of_passes hlast).count_le_one number, ?_⟩
  intro hallowed next hsince hbegins code' within' depth' hdepth'
  obtain ⟨depth', rfl⟩ := Nat.exists_eq_add_one_of_ne_zero hdepth'.ne'
  obtain ⟨-, hscheduled, hqueued⟩ :=
    Session.unrun_of_noPassSince hclear hbegins.passes hsince rfl hallowed
  obtain ⟨now, hturn, hlive⟩ := Session.exists_turn (.of_passes hbegins.passes) within'
    (depth' + 1) hscheduled hqueued (Instant.start_isDueAt _) rfl hallowed
  obtain ⟨moment, hmoment, hnow, focuses⟩ := Session.exists_focuses within' depth' hturn hlive
  refine ⟨moment, hmoment, _, focuses, ?_⟩
  rintro ⟨names, forthcoming, hmounted, hidle, undisturbed, hstays⟩
  obtain ⟨later, hnext, -⟩ := hsince
  rw [hnow] at undisturbed hstays
  have hearlier : .scheduled (.focusing number id) :: earlier <:+
      (now.noting (.ran number)).journal := by
    have hturned : next.journal <:+ now.journal := (Session.turnIn_of_mem_passTurns
      (code'.courses within' (depth' + 1)) hturn).journal_suffix
    rw [hnext] at hturned
    exact ((List.suffix_append later _).trans hturned).trans (List.suffix_cons _ _)
  have htold := forthcoming.mountedAfter_of_resolveHandle hcalled within hjournal
    (undisturbed.of_suffix hearlier) hmounted
  exact forthcoming.isSome_deliverable hbegins hidle within' hnext htold hturn hlive undisturbed
    hstays

/-! ## The greeting panel -/

/-- Whether an entry tells that a pass began. -/
def Entry.beginsPass : Entry κ → Bool
  | .passBegan _ => true
  | _ => false

/-- No pass has begun since an entry was noted if as many have begun as before that. -/
theorem Session.NoPassSince.of_countP {session shown : Session κ S} {entry : Entry κ}
    {earlier : List (Entry κ)} (hsession : session.journal <:+ earlier)
    (hshown : entry :: earlier <:+ shown.journal)
    (hpasses : shown.journal.countP Entry.beginsPass = session.journal.countP Entry.beginsPass) :
    shown.NoPassSince (entry :: earlier) := by
  obtain ⟨middle, rfl⟩ := hsession
  obtain ⟨later, hlater⟩ := hshown
  refine ⟨later, hlater.symm, fun now hmem => ?_⟩
  have hpos : 0 < later.countP Entry.beginsPass := List.countP_pos_iff.2 ⟨_, hmem, rfl⟩
  rw [← hlater, List.countP_append, List.countP_cons, List.countP_append] at hpasses
  omega

/-- Whether an entry tells neither of a rejection nor of an unmount, nor of a widget whose name is
not listed. -/
def Entry.isSmooth (names : List NodeId) : Entry κ → Bool
  | .sent _ accepted => accepted
  | .declared id _ => names.contains id
  | .withdrawn _ => false
  | _ => true

theorem Moment.Certain.of_isSmooth {names : List NodeId} {moment : Moment κ S}
    (smooth : moment.session.journal.all (Entry.isSmooth names) = true) (id : NodeId)
    (since : List (Entry κ)) : moment.Certain (· ∈ names) id since := by
  rw [List.all_eq_true] at smooth
  refine ⟨⟨fun message hmem => ?_, fun id node hmem => ?_⟩, fun noted hnoted hmem => ?_⟩
  · cases smooth _ hmem
  · exact List.contains_iff_mem.1 (smooth _ hmem)
  · have hwithdrawn : .withdrawn id ∈ moment.session.journal := by
      rw [hnoted]
      exact List.mem_append_left _ hmem
    cases smooth _ hwithdrawn

namespace Session

/-- A shell with the greeting extension. -/
def greetingConfig (initialPanel : String) : ShellConfig :=
  { ShellConfig.default with
    extensions := [Builtin.helloWorld.name]
    initialPanel := initialPanel }

/-- A session after some ticks. -/
def ticked (code : Code κ S) (session : Session κ S) : Nat → Session κ S
  | 0 => session
  | count + 1 => (code.run tick (session.ticked code count)).2

theorem reaches_ticked {allowed : Request κ → Prop} {code : Code κ S} {first session : Session κ S}
    (within : code.Within allowed) (permitted : allowed .tick)
    (reaches : first.Reaches allowed session) (count : Nat) :
    first.Reaches allowed (session.ticked code count) := by
  induction count with
  | zero => exact reaches
  | succ count ih => exact .act (.request .tick permitted) within ih

theorem reaches_launch {allowed : Request κ → Prop} {code : Code κ S}
    (within : code.Within allowed) (config : ShellConfig) (host : Host) (app : S) :
    (fresh .dispatcher host app).Reaches allowed (code.launch config host app) :=
  .act (.start config) within .refl

/-- A shell has started and has ticked once, so its panel is mounted and the handle of the input is
under way. -/
def greetedSession : Session Empty Unit :=
  (Code.plain.launch (greetingConfig "") (.fresh .recording true) ()).ticked .plain 1

/-- The widgets of the greeting panel and those around it. -/
def greetedNames : List NodeId :=
  ["shell::root", "panels", "statusBar", greetingPanelId, "panel::hello-world::text",
    "panel::hello-world::input", "panel::hello-world::button"]

end Session

/-- The requests of a program that shows the greeting panel and ticks. -/
def Request.isGreeting (request : Request Empty) : Prop :=
  request = .tick ∨ request = .showPanel Session.greetingPanelId

/-- Whether a listener focuses the inputs of shown panels. -/
def Listener.focusesInput : Listener κ → Bool
  | .focusInput => true
  | _ => false

/-- The input of the greeting panel is focused in the tick after the panel is shown. -/
theorem shown_inputs_focused_greeting :
    let id := Session.inputOf Session.greetingPanelId
    let shown := ((Session.showPanel Session.greetingPanelId).run (Code.plain.caller 2)
      Session.greetedSession).2
    ∃ moment ∈ Session.tick.moments (Code.plain.caller 2) shown, ∃ number handle,
      moment.Focuses number id (some handle) shown
        (Session.tick.run (Code.plain.caller 2) shown).2 := by
  intro id shown
  have within := Code.within_plain (S := Unit) Request.isGreeting
  have hgreeted : (Session.fresh .dispatcher (.fresh .recording true) ()).Reaches
      Request.isGreeting Session.greetedSession :=
    Session.reaches_ticked within (.inl rfl) (Session.reaches_launch within _ _ _) 1
  have listens : ∃ subscription, ⟨subscription, .focusInput⟩ ∈
      Session.greetedSession.events.listeners Session.showPanelEvent := by
    have hany : (Session.greetedSession.events.listeners Session.showPanelEvent).any
        (fun subscription => subscription.listener.focusesInput) = true := by decide +kernel
    obtain ⟨⟨subscription, listener⟩, hmem, hlistener⟩ := List.any_eq_true.1 hany
    cases listener <;> first | exact ⟨subscription, hmem⟩ | cases hlistener
  obtain ⟨subscription, listens⟩ := listens
  have shows : (Session.fresh .dispatcher (.fresh .recording true) ()).Shows Request.isGreeting
      Code.plain 2 Session.greetingPanelId Session.greetedSession :=
    .request (.inr rfl) hgreeted
  obtain ⟨asked, number, earlier, hasked, hsession, hshown, -, hfocused⟩ :=
    shown_inputs_focused (fun hclear => by rcases hclear with h | h <;> cases h) within
      (by decide) (by decide) shows listens
  have hpasses : shown.journal.countP Entry.beginsPass =
      Session.greetedSession.journal.countP Entry.beginsPass := by decide +kernel
  have hreached : (Session.fresh .dispatcher (.fresh .recording true) ()).Reaches
      Request.isGreeting shown :=
    .act (.request (.showPanel Session.greetingPanelId) (.inr rfl)) within hgreeted
  obtain ⟨moment, hmoment, handle?, focuses, hcertain⟩ :=
    hfocused (fun reason hcancel => by rcases hcancel with h | h <;> cases h) shown
      (.of_countP hsession hshown hpasses) (.reached hreached) Code.plain within 2
      (by decide)
  have hmounted : asked.bridge.isMounted id = true := by
    have hall : ((Session.showPanel Session.greetingPanelId).moments (Code.plain.caller 2)
        Session.greetedSession).all (fun moment => moment.session.bridge.isMounted id) = true := by
      decide +kernel
    exact List.all_eq_true.1 hall _ hasked
  have hsmooth : moment.session.journal.all (Entry.isSmooth Session.greetedNames) = true := by
    have hall : (Session.tick.moments (Code.plain.caller 2) shown).all (fun moment =>
        moment.session.journal.all (Entry.isSmooth Session.greetedNames)) = true := by
      decide +kernel
    exact List.all_eq_true.1 hall _ hmoment
  -- The premises of the promise: the run keeps to its requests, and all slots have names of their
  -- own.
  have forthcoming : Forthcoming Request.isGreeting (· ∈ Session.greetedNames)
      (.fresh .recording true) := by
    refine ⟨⟨?_, ?_, ?_⟩, ?_, rfl, rfl⟩
    · rintro request (rfl | rfl) <;> rfl
    · rintro id (h | h) <;> cases h
    · have hnodup : (Session.greetedNames.map slotName).Nodup := by decide +kernel
      exact fun id id' hid hid' hslot => List.inj_on_of_nodup_map hnodup hid hid' hslot
    · rintro request (rfl | rfl) <;> rfl
  obtain ⟨handle, rfl⟩ := Option.isSome_iff_exists.1
    (hcertain ⟨_, forthcoming, hmounted, by decide +kernel, .of_isSmooth hsmooth _ _⟩)
  exact ⟨moment, hmoment, number, handle, focuses⟩

/-- The initial panel stays on screen, its input is mounted and gets its handle, and the host
accepts everything; but three ticks later the input has been told nothing. -/
theorem initial_input_left :
    let session := (Code.plain.launch (Session.greetingConfig Session.greetingPanelId)
      (.fresh .recording true) ()).ticked .plain 3
    session.panelHost.ui.currentPanel = Session.greetingPanelId ∧
      session.panelHost.panels.ids = [Session.greetingPanelId] ∧
      (session.bridge.mounted.names.map slotName).Nodup ∧
      (session.bridge.handles.get? (Session.inputOf Session.greetingPanelId)).isSome = true ∧
      session.sent.all SentMessage.accepted = true ∧
      session.sent.all (fun sent => sent.message.op != .invoke) = true := by
  decide +kernel

end EditorShell
