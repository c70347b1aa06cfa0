import EditorShell.Proofs.Shell.Displaying
import EditorShell.Proofs.Shell.Managing
import Mathlib.Data.List.Induction
import Mathlib.Data.List.Infix

/-!
# The readout of the editor status extension

While the editor status extension is active its readout follows the events of the shell: after every
tick the host was told last of the position in the last cursor event that had one, and of the
language in the last event of a tab (`readout_follows`).  A cursor event without a position is one
failed delivery and changes nothing.

## Strategy

What the readout shows is followed from request to request.  An event that it listens for is
delivered to this one listener, so its effect is told exactly (`reading_emitCursor`,
`reading_emitTab`).  Everything else leaves the readout alone: as long as the extensions are in
order no other event gets to it (`Unreading`).  That the host is up to date after a tick has been
shown for all that is displayed (`Code.Runs.upToDate_tick`).
-/

namespace EditorShell

open Json Session

variable {S α : Type}

/-! ## What events tell -/

namespace Session

theorem position?_eq_some_iff {payload : Value} {line column : Nat} :
    position? payload = some (line, column) ↔
      payload = .array [.ofNat line, .ofNat column] ∧
        line < Nat.pow 2 64 ∧ column < Nat.pow 2 64 := by
  constructor
  · intro hposition
    unfold position? at hposition
    split at hposition
    · rename_i first second
      obtain ⟨_, hline, hposition⟩ := Option.bind_eq_some_iff.1 hposition
      obtain ⟨_, hcolumn, hpair⟩ := Option.bind_eq_some_iff.1 hposition
      obtain ⟨rfl, rfl⟩ := Prod.mk.inj (Option.some.inj hpair)
      -- Each of the two numbers has to be a word, and no other shape of the payload is read.
      obtain ⟨rfl, hlt⟩ := Value.asWord?_eq_some_iff.1 hline
      obtain ⟨rfl, hlt'⟩ := Value.asWord?_eq_some_iff.1 hcolumn
      exact ⟨rfl, hlt, hlt'⟩
    · cases hposition
  · rintro ⟨rfl, hline, hcolumn⟩
    have hfirst : (Value.ofNat line).asWord? = some line :=
      Value.asWord?_eq_some_iff.2 ⟨rfl, hline⟩
    have hsecond : (Value.ofNat column).asWord? = some column :=
      Value.asWord?_eq_some_iff.2 ⟨rfl, hcolumn⟩
    show ((Value.ofNat line).asWord?.bind fun line =>
      (Value.ofNat column).asWord?.bind fun column => some (line, column)) = _
    rw [hfirst, hsecond]
    rfl

/-- The language that the payload of a tab event tells of; empty for none. -/
def languageOf (payload : Value) : String :=
  ((payload.member? "language").bind Value.asText?).getD ""

end Session

namespace Request

variable {κ : Type}

/-- The position of which a request tells the readout. -/
def position? : Request κ → Option (Nat × Nat)
  | .emit event payload => if event = cursorEvent then Session.position? payload else none
  | _ => none

/-- The language of which a request tells the readout. -/
def language? : Request κ → Option String
  | .emit event payload =>
    if event = tabSelectedEvent ∨ event = tabClosedEvent then some (languageOf payload) else none
  | _ => none

/-- The last position that was told, or the very first one. -/
def lastPosition (requests : List (Request κ)) : Nat × Nat :=
  (requests.filterMap position?).getLast?.getD (0, 0)

/-- The last language that was told; empty for none. -/
def lastLanguage (requests : List (Request κ)) : String :=
  (requests.filterMap language?).getLast?.getD ""

theorem lastPosition_concat (requests : List (Request κ)) (request : Request κ) :
    lastPosition (requests ++ [request]) = request.position?.getD (lastPosition requests) := by
  unfold lastPosition
  rw [List.filterMap_append]
  cases hposition : request.position? <;> simp [hposition]

theorem lastLanguage_concat (requests : List (Request κ)) (request : Request κ) :
    lastLanguage (requests ++ [request]) = request.language?.getD (lastLanguage requests) := by
  unfold lastLanguage
  rw [List.filterMap_append]
  cases hlanguage : request.language? <;> simp [hlanguage]

/-- Whether a request tells the readout of anything. -/
def tellsReadout : Request κ → Bool
  | .emit event _ => event == cursorEvent || event == tabSelectedEvent || event == tabClosedEvent
  | _ => false

end Request

/-! ## What leaves the readout alone -/

/-- Whether a call tells a readout of an event. -/
def Call.tellsReadout {κ : Type} : Call κ → Bool
  | .listener _ ⟨_, .cursor _⟩ _ | .listener _ ⟨_, .language _⟩ _ => true
  | _ => false

/-- As long as the extensions are in order, a readout listens for its own events only. -/
theorem Fixtures.InOrder.tellsReadout_eq_false {session : Session Empty S}
    (inOrder : session.fixtures.InOrder) (payload : Value) {event : String}
    (hevent : event ∉ [cursorEvent, tabSelectedEvent, tabClosedEvent]) :
    ∀ subscription ∈ session.events.listeners event,
      (Call.listener event subscription payload).tellsReadout = false := by
  intro subscription hmem
  -- Who listens is known for every event: the shell, the panels extension, the readout or nobody.
  by_cases hshown : event = showPanelEvent
  · have hlisteners : session.events.listeners showPanelEvent = _ := inOrder.shown
    rw [hshown, hlisteners] at hmem
    simp only [List.mem_cons, List.not_mem_nil, or_false] at hmem
    rcases hmem with rfl | rfl <;> rfl
  by_cases hkeys : event = keyPressedEvent
  · obtain ⟨_, keys⟩ := inOrder.has .panels
    have setUp : session.fixtures.keys.SetUp _ := keys.owns
    have hlisteners : session.events.listeners keyPressedEvent = session.fixtures.keys.heard := rfl
    rw [hkeys, hlisteners] at hmem
    generalize session.fixtures.keys = keys at setUp hmem
    generalize session.fixtures.extensions.isActive Builtin.panels.name = active at setUp
    cases setUp with
    | off => cases hmem
    | on listener command =>
        obtain rfl := List.mem_singleton.1 hmem
        rfl
  · have hothers : session.events.others event = [] := congrFun inOrder.others event
    have hunknown : event ∉ knownEvents := by
      simp only [knownEvents, List.mem_cons, List.not_mem_nil, or_false, not_or] at hevent ⊢
      exact ⟨hshown, hkeys, hevent⟩
    rw [EventBus.others, if_neg hunknown] at hothers
    rw [hothers] at hmem
    cases hmem

/-- The acts that leave the readouts and the fixtures alone when the extensions are in order. -/
def Unreading (caller : Caller Empty S) : Act.Class Empty S := fun _ act =>
  ∀ session : Session Empty S, session.fixtures.InOrder →
    (act.run caller session).2.reading = session.reading ∧
      (act.run caller session).2.fixtures = session.fixtures

namespace Unreading

variable {caller : Caller Empty S}

theorem of_madeOf {act : Act Empty S α} (hact : act.MadeOf (Unreading caller)) :
    Unreading caller α act := by
  refine hact.covered (fun _ _ _ => ⟨rfl, rfl⟩) (fun _ _ _ => ⟨rfl, rfl⟩)
    (fun hnext session => hnext session session)
    fun {_ _ first next} hfirst hnext session inOrder => ?_
  obtain ⟨hreading, hfixtures⟩ := hfirst session inOrder
  rw [← hfixtures] at inOrder
  obtain ⟨hreading', hfixtures'⟩ := hnext _ _ inOrder
  exact ⟨hreading'.trans hreading, hfixtures'.trans hfixtures⟩

/-- Whether an entry tells of a call that a readout or the life of an extension depends on. -/
def isReading : Entry Empty → Bool
  | .called call | .returned call _ => call.isLifecycle || call.tellsReadout
  | _ => false

/-- Callbacks other than those of extensions and those of readouts leave the readouts alone. -/
def Answers (caller : Caller Empty S) : Prop :=
  ∀ call, call.isLifecycle = false → call.tellsReadout = false → ∀ session : Session Empty S,
    session.fixtures.InOrder → (caller.answer call session).2.reading = session.reading ∧
      (caller.answer call session).2.fixtures = session.fixtures

/-- What leaves the fixtures alone anyway. -/
theorem of_sparing (spares : caller.Spares) {act : Act Empty S α} (hsparing : act.MadeOf Sparing)
    (hreading : ∀ session, (act.run caller session).2.reading = session.reading) :
    act.MadeOf (Unreading caller) :=
  .part fun session _ => ⟨hreading session, Sparing.of_madeOf hsparing caller spares session⟩

theorem hidden {call : Call Empty} (hlifecycle : call.isLifecycle = false)
    (htells : call.tellsReadout = false) : call.Hidden isReading := by
  have hcall : (call.isLifecycle || call.tellsReadout) = false := by rw [hlifecycle, htells]; rfl
  exact ⟨hcall, fun _ => hcall⟩

section

variable (answers : Answers caller)

include answers

theorem sees : (Unreading caller).Sees (fun session => (session.reading, session.fixtures))
    isReading where
  change f hf := .part fun session _ => Prod.mk.inj (hf session).view_eq
  note entry _ _ := .part fun _ _ => ⟨rfl, rfl⟩
  call call hcall := by
    obtain ⟨hlifecycle, htells⟩ := Bool.or_eq_false_iff.1 hcall.1
    exact .bind (.part fun _ _ => ⟨rfl, rfl⟩) fun _ =>
      .bind (.part (answers call hlifecycle htells)) fun _ =>
        .bind (.part fun _ _ => ⟨rfl, rfl⟩) fun _ => .pure _

theorem ordinary : (Unreading caller).Ordinary :=
  (sees answers).ordinary fun call _ hlifecycle _ hlistener => hidden hlifecycle (by
    cases call <;> first | rfl | cases hlistener)

theorem asking : (Unreading caller).Asking := by
  refine (sees answers).asking (fun _ => hidden rfl rfl) (fun _ _ => rfl) (fun _ _ => rfl)
    (fun _ _ _ => rfl) fun session later hlater => ?_
  rw [hlater]
  rfl

/-- As long as the extensions are in order, a readout listens for its own events only. -/
theorem emit {event : String} (payload : Value)
    (hevent : event ∉ [cursorEvent, tabSelectedEvent, tabClosedEvent]) :
    (Session.emit event payload : Act Empty S EmitReport).MadeOf (Unreading caller) := by
  refine .part fun session inOrder => ?_
  have hlisteners : ∀ subscription ∈ session.events.listeners event,
      (Call.listener event subscription payload).tellsReadout = false :=
    inOrder.tellsReadout_eq_false payload hevent
  have note : ∀ entry : Entry Empty, entry.isEvent = true →
      (Act.note (S := S) entry).MadeOf (Unreading caller) :=
    (sees answers).note_of (fun _ hentry => Entry.isCall_eq_false (.inl hentry))
      fun entry hentry => by cases entry <;> first | rfl | cases hentry
  unfold Session.emit
  rw [Act.run_bind, Act.run_read]
  refine of_madeOf (.bind (note _ rfl) fun _ => .bind ?_ fun report => .bind (note _ rfl) fun _ =>
    .pure report) session inOrder
  exact Act.Class.deliver_of_call (fun subscription hmem => (sees answers).call _
    (hidden rfl (hlisteners subscription hmem))) _

variable (spares : caller.Spares)

include spares

theorem reacting : (Unreading caller).Reacting where
  sayHello copy := of_sparing spares (Sparing.everyday.sayHello copy) fun _ => rfl
  showPanel panel := emit answers _ (by decide)
  tellKey payload := emit answers _ (by decide)
  execute := Act.Class.Commands.execute_of_call (ordinary answers).toActing
  press := Act.Class.Commands.press_of_change (ordinary answers).toActing
    ((sees answers).note_of (fun _ hpress => Entry.isCall_eq_false (.inr (.inl hpress)))
      fun entry hpress => by cases entry <;> first | rfl | cases hpress)
    fun _ => (sees answers).aside (fun _ => rfl) fun _ => rfl
  resolveHandle := (asking answers).resolveHandle
  invoke := (asking answers).invoke

omit spares in
theorem touch : (Session.touch : Act Empty S Unit).MadeOf (Unreading caller) :=
  .bind ((sees answers).aside (fun _ => rfl) fun _ => rfl) fun _ =>
    (sees answers).note .moved rfl rfl

omit spares in
theorem setCurrentPanel (panel : String) :
    (Session.setCurrentPanel panel : Act Empty S Bool).MadeOf (Unreading caller) :=
  .bind (.read _) fun changed => .bind ((sees answers).aside (fun _ => rfl) fun _ => rfl) fun _ =>
    .bind (.when ((sees answers).note .moved rfl rfl)) fun _ => .pure changed

omit answers in
theorem debounce (id : DebouncerId) (body : TaskBody Empty) :
    (Session.debounce id body : Act Empty S Unit).MadeOf (Unreading caller) := by
  refine of_sparing spares (Sparing.debounce id body) fun session => ?_
  unfold Session.debounce
  simp only [Act.run_bind, Act.run_read, Act.run_ite]
  split
  · rfl
  · cases (session.debouncer id).latest? <;> rfl

omit answers in
theorem markStarted (id : DebouncerId) (task : TaskId) :
    (Session.markStarted id task : Act Empty S Unit).MadeOf (Unreading caller) := by
  refine of_sparing spares (Sparing.markStarted id task) fun session => ?_
  unfold Session.markStarted
  simp only [Act.run_bind, Act.run_read, Act.run_ite]
  split <;> rfl

theorem runDue : (Session.runDue : Act Empty S Nat).MadeOf (Unreading caller) := by
  have turns : (Unreading caller).Turns := by
    refine ⟨markStarted spares, fun call hjob => ?_, (asking answers).resolveRequested⟩
    refine (sees answers).call call (hidden (Call.isLifecycle_of_isJob hjob) ?_)
    cases call <;> first | rfl | cases hjob
  refine turns.runDue (fun entry hpass => (sees answers).note entry ?_ ?_)
    (Act.Class.takeBatch_of_change fun _ => (sees answers).aside (fun _ => rfl) fun _ => rfl) <;>
  · cases entry <;> first | rfl | cases hpass

theorem respond {call : Call Empty} (hlifecycle : call.isLifecycle = false)
    (htells : call.tellsReadout = false) :
    ((Code.plain (S := S)).respond call).MadeOf (Unreading caller) := by
  have program : ∀ {R : Type} {program : Program Empty S R}, (program.Uses fun _ => False) →
      program.toAct.MadeOf (Unreading caller) := fun uses =>
    .program (fun _ => (sees answers).aside (fun _ => rfl) fun _ => rfl) nofun uses
  have within := Code.within_plain (S := S) fun _ => False
  apply (reacting answers spares).respond program within call hlifecycle
  · exact fun _ _ payload _ =>
      Act.Class.takeShown_of_setCurrentPanel (setCurrentPanel answers) payload
  · rintro event id copy payload rfl
    cases htells
  · rintro event id copy payload rfl
    cases htells
  · exact fun _ debouncer _ _ => debounce spares debouncer _
  · exact fun _ copy name _ =>
      of_sparing spares (Sparing.everyday.settleName copy name) fun _ => rfl

end

end Unreading

/-- Callbacks that tell no readout leave all of them alone, however deep they nest. -/
theorem Code.unreading_plain (depth : Nat) :
    Unreading.Answers ((Code.plain (S := S)).caller depth) := by
  induction depth with
  | zero => exact fun _ _ _ _ _ => ⟨rfl, rfl⟩
  | succ depth ih =>
      intro call hlifecycle htells
      exact Unreading.of_madeOf (Unreading.respond ih (Code.spares (Code.within_plain _) depth)
        hlifecycle htells)

namespace Session

variable {session : Session Empty S}

/-- The work that is due leaves the readouts alone. -/
theorem reading_caughtUp (depth : Nat) (inOrder : session.fixtures.InOrder) :
    (session.caughtUp (Code.plain.caller depth)).reading = session.reading :=
  (Unreading.of_madeOf (Unreading.runDue (Code.unreading_plain depth)
    (Code.spares (Code.within_plain _) depth)) session inOrder).1

theorem reading_tick (depth : Nat) (inOrder : session.fixtures.InOrder) :
    (tick.run (Code.plain.caller (depth + 1)) session).2.reading = session.reading := by
  by_cases hsame : (session.caughtUp (Code.plain.caller (depth + 1))).renderedVersion? =
      some (session.caughtUp (Code.plain.caller (depth + 1))).panelHost.ui.version
  · rw [run_tick_of_eq _ _ hsame]
    exact reading_caughtUp _ inOrder
  · rw [(redisplays_of_ne depth session hsame).eq, ← reading_caughtUp (depth + 1) inOrder]
    rfl

/-- A request that tells no readout leaves all of them alone. -/
theorem reading_perform (depth : Nat) {request : Request Empty} (husual : request.isUsual = true)
    (htells : request.tellsReadout = false) (inOrder : session.fixtures.InOrder) :
    (request.perform.run (Code.plain.caller (depth + 1)) session).2.reading = session.reading := by
  have answers := Code.unreading_plain (S := S) (depth + 1)
  have spares := Code.spares (Code.within_plain (S := S) _) (depth + 1)
  by_cases htick : request = .tick
  · subst htick
    exact reading_tick depth inOrder
  by_cases henable : ∃ name enabled, request = .setEnabled name enabled
  · obtain ⟨name, enabled, rfl⟩ := henable
    rfl
  -- The usual requests are those of every day, those that manage extensions, and those that adjust.
  rcases Request.isUsual_iff.1 husual with heveryday | hmanaging | hadjusting
  · refine (Unreading.of_madeOf ((Unreading.reacting answers spares).perform heveryday
      (fun _ _ => (Unreading.sees answers).aside (fun _ => rfl) fun _ => rfl) ?_ ?_
        fun heq => absurd heq htick) session inOrder).1
    · rintro event payload rfl
      refine Unreading.emit answers payload ?_
      simpa [Request.tellsReadout, and_assoc] using htells
    · exact fun event _ => (Unreading.ordinary answers).dispatchEvent
        (Unreading.asking answers).countHandlerFailure event
  · exact congrArg (fun standing => standing.2.1)
      (Request.standing_manage hmanaging (depth + 1) session)
  · refine (Unreading.of_madeOf (Act.Class.Binding.perform (.of_bindings fun f _ =>
      (Unreading.sees answers).aside (fun _ => rfl) fun _ => rfl)
      (Unreading.ordinary answers).toActing
        hadjusting (fun name enabled heq => absurd ⟨name, enabled, heq⟩ henable)
          (Unreading.setCurrentPanel answers) (Unreading.touch answers)) session inOrder).1

/-! ## What tells the readout -/

/-- The readout listens for its events, and nobody else does. -/
structure Listens (session : Session Empty S) : Prop where
  cursor : ∃ id, session.events.listeners cursorEvent = [⟨id, .cursor 0⟩]
  tab : ∀ event ∈ [tabSelectedEvent, tabClosedEvent],
    ∃ id, session.events.listeners event = [⟨id, .language 0⟩]
  there : 0 < session.builtins.editorStatus.length

theorem listens (inOrder : session.fixtures.InOrder)
    (hactive : session.extensions.isActive Builtin.editorStatus.name = true) : session.Listens := by
  obtain ⟨_, readout⟩ := inOrder.has .editorStatus
  have setUp : session.fixtures.readout.SetUp
      (session.extensions.isActive Builtin.editorStatus.name) := readout.owns
  rw [hactive] at setUp
  generalize hreadout : session.fixtures.readout = fixtures at setUp
  cases setUp with
  | on cursor selected closed =>
      simp only [Session.fixtures, ReadoutFixtures.mk.injEq] at hreadout
      obtain ⟨hcopies, hcursor, hselected, hclosed, -⟩ := hreadout
      refine ⟨⟨cursor, hcursor⟩, fun event hevent => ?_, ?_⟩
      · simp only [List.mem_cons, List.not_mem_nil, or_false] at hevent
        rcases hevent with rfl | rfl
        · exact ⟨selected, hselected⟩
        · exact ⟨closed, hclosed⟩
      · have hlength := congrArg List.length hcopies
        rw [List.length_map] at hlength
        rw [hlength]
        exact Nat.one_pos

/-- An event with one listener of an extension is one run of this listener. -/
theorem run_emit_single (depth : Nat) {event : String} (payload : Value)
    {subscription : Subscription (Listener Empty)}
    (hlisteners : session.events.listeners event = [subscription])
    {act : Act Empty S (Except HandlerError Unit)}
    (hact : Code.plain.respond (.listener event subscription payload) = Code.own act) :
    let emitted := (Session.emit event payload).run (Code.plain.caller (depth + 1)) session
    let followed := act.run (Code.plain.caller depth)
      ((session.noting (.emitBegan event payload)).noting
      (.called (.listener event subscription payload)))
    emitted.1 = tally ⟨0, 0⟩ (.ok followed.1) ∧ emitted.2.reading = followed.2.reading ∧
      emitted.2.panelHost = followed.2.panelHost := by
  have hanswer : ∀ before : Session Empty S,
      (Code.plain.caller (depth + 1)).answer (.listener event subscription payload) before =
        (Code.own act).run (Code.plain.caller depth) before := by
    intro before
    rw [← hact]
    rfl
  unfold Session.emit
  rw [Act.run_bind, Act.run_read, hlisteners]
  simp only [deliver, Act.run_bind, Act.run_note, Act.run_call, hanswer, Code.own, Act.run_pure]
  exact ⟨trivial, rfl, rfl⟩

/-- What the readout shows after a change that moves the version. -/
theorem reading_change (caller : Caller Empty S) (f : EditorStatusState → EditorStatusState)
    (hthere : 0 < session.builtins.editorStatus.length) :
    ((do
      changeEditorStatus 0 f
      touch
      pure (.ok ()) : Act Empty S (Except HandlerError Unit)).run caller session).2.reading 0 =
      ((f (session.editorStatus 0)).line, (f (session.editorStatus 0)).column,
        (f (session.editorStatus 0)).language) := by
  rw [Act.run_bind]
  show reading ((changeEditorStatus 0 f).run caller session).2 0 = _
  unfold reading
  rw [editorStatus_changeEditorStatus, if_pos ⟨rfl, hthere⟩]

/-- A cursor event without a position is one failed delivery and changes nothing. -/
theorem run_emitCursor_of_none (depth : Nat) (listens : session.Listens) {payload : Value}
    (hposition : position? payload = none) :
    let emitted := (Session.emit cursorEvent payload).run (Code.plain.caller (depth + 1)) session
    emitted.1 = ⟨0, 1⟩ ∧ emitted.2.reading = session.reading ∧
      emitted.2.panelHost = session.panelHost := by
  obtain ⟨id, hlisteners⟩ := listens.cursor
  have hfollow : (followCursor 0 payload : Act Empty S (Except HandlerError Unit)) =
      pure (.error ⟨"invalid payload"⟩) := by
    unfold followCursor
    rw [hposition]
  exact run_emit_single depth payload hlisteners (congrArg Code.own hfollow)

/-- A cursor event with a position is taken up. -/
theorem reading_emitCursor (depth : Nat) (listens : session.Listens) {payload : Value}
    {line column : Nat} (hposition : position? payload = some (line, column)) :
    ((Session.emit cursorEvent payload).run (Code.plain.caller (depth + 1)) session).2.reading 0 =
      (line, column, (session.reading 0).2.2) := by
  obtain ⟨id, hlisteners⟩ := listens.cursor
  have hfollow : (followCursor 0 payload : Act Empty S (Except HandlerError Unit)) = (do
      changeEditorStatus 0 fun state => { state with line := line, column := column }
      touch
      pure (.ok ())) := by
    unfold followCursor
    rw [hposition]
  obtain ⟨-, hreading, -⟩ := run_emit_single depth payload hlisteners (congrArg Code.own hfollow)
  exact (congrFun hreading 0).trans (reading_change _ _ listens.there)

/-- An event of a tab is taken up, whether it tells of a language or not. -/
theorem reading_emitTab (depth : Nat) (listens : session.Listens) {event : String}
    (hevent : event ∈ [tabSelectedEvent, tabClosedEvent]) (payload : Value) :
    ((Session.emit event payload).run (Code.plain.caller (depth + 1)) session).2.reading 0 =
      ((session.reading 0).1, (session.reading 0).2.1, languageOf payload) := by
  obtain ⟨id, hlisteners⟩ := listens.tab event hevent
  have hfollow : (followLanguage 0 payload : Act Empty S (Except HandlerError Unit)) = (do
      changeEditorStatus 0 fun state => { state with language := languageOf payload }
      touch
      pure (.ok ())) := rfl
  obtain ⟨-, hreading, -⟩ := run_emit_single depth payload hlisteners (congrArg Code.own hfollow)
  exact (congrFun hreading 0).trans (reading_change _ _ listens.there)

/-- What the readout shows after a request. -/
theorem reading_follow (depth : Nat) {request : Request Empty} (husual : request.isUsual = true)
    (inOrder : session.fixtures.InOrder)
    (hactive : session.extensions.isActive Builtin.editorStatus.name = true) :
    (request.perform.run (Code.plain.caller (depth + 1)) session).2.reading 0 =
      let position := request.position?.getD ((session.reading 0).1, (session.reading 0).2.1)
      (position.1, position.2, request.language?.getD (session.reading 0).2.2) := by
  have listens := listens inOrder hactive
  cases htells : request.tellsReadout with
  | false =>
      rw [reading_perform depth husual htells inOrder]
      cases request with
      | emit event payload =>
          simp only [Request.tellsReadout, Bool.or_eq_false_iff, beq_eq_false_iff_ne] at htells
          obtain ⟨⟨hcursor, hselected⟩, hclosed⟩ := htells
          simp [Request.position?, Request.language?, hcursor, hselected, hclosed]
      | _ => rfl
  | true =>
      cases request with
      | emit event payload =>
          -- An event is of the cursor or of the tabs, and each of them tells one part of the
          -- reading.
          by_cases hcursor : event = cursorEvent
          · subst hcursor
            have hlanguage : (Request.emit (κ := Empty) cursorEvent payload).language? = none := by
              unfold Request.language?
              exact if_neg (by decide)
            have hposition : (Request.emit (κ := Empty) cursorEvent payload).position? =
                Session.position? payload := by
              unfold Request.position?
              exact if_pos rfl
            rw [hlanguage, hposition]
            cases hpayload : Session.position? payload with
            | none =>
                obtain ⟨-, hreading, -⟩ := run_emitCursor_of_none depth listens hpayload
                exact congrFun hreading 0
            | some position => exact reading_emitCursor depth listens hpayload
          · have htab : event = tabSelectedEvent ∨ event = tabClosedEvent := by
              simpa [Request.tellsReadout, hcursor] using htells
            have hposition : (Request.emit (κ := Empty) event payload).position? = none := by
              unfold Request.position?
              exact if_neg hcursor
            have hlanguage : (Request.emit (κ := Empty) event payload).language? =
                some (languageOf payload) := by
              unfold Request.language?
              exact if_pos htab
            rw [hposition, hlanguage]
            exact reading_emitTab depth listens (by simpa using htab) payload
      | _ => cases htells

/-! ## Over a run -/

/-- A shell starts with a readout that has been told of nothing. -/
theorem reading_start (depth : Nat) (config : ShellConfig) (host : Host) (app : S) :
    ((Session.start config).run (Code.plain.caller (depth + 1))
      (.fresh .dispatcher host app)).2.reading 0 = (0, 0, "") := by
  have managing : (Managing (S := S) (Code.plain.caller (depth + 1))).Extensions :=
    Managing.extensions (Code.standing_plain _)
  have registering : (Managing (S := S) (Code.plain.caller (depth + 1))).Registering :=
    Managing.registering (Code.standing_plain _)
  have hmanaged : ∀ session : Session Empty S,
      ((loadMap config.keymap).run (Code.plain.caller (depth + 1))
        ((activateAll config.extensions).run (Code.plain.caller (depth + 1))
          ((activate Builtin.panels.name).run
            (Code.plain.caller (depth + 1)) session).2).2).2.reading =
        session.reading := by
    intro session
    have hstanding := (Managing.of_madeOf (registering.loadMap config.keymap) _).trans
      ((Managing.of_madeOf (managing.activateFrom 0 config.extensions) _).trans
        (Managing.of_madeOf (managing.activate Builtin.panels.name) session))
    exact congrArg (fun standing => standing.2.1) hstanding
  have started := inOrder_start (Code.within_plain (S := S) _) depth config host app
  obtain ⟨extensions, hopened⟩ := opened_eq (Code.plain.caller (depth + 1)) config host app
  rw [run_start, hopened] at started ⊢
  unfold settleIn at started ⊢
  rw [Act.run_bind, Act.run_bind, Act.run_bind] at started ⊢
  generalize hloaded : (loadMap config.keymap).run (Code.plain.caller (depth + 1)) _ = loaded
    at started ⊢
  have hstands : loaded.2.reading 0 = (0, 0, "") := by
    rw [← hloaded, hmanaged]
    rfl
  -- The initial panel is shown last, when the extensions are in order.
  have hshown : (Act.when (!config.initialPanel.isEmpty) do
      let _ ← showPanel config.initialPanel : Act Empty S Unit).MadeOf Sparing :=
    .when (.bind (Sparing.everyday.showPanel _) fun _ => .pure ())
  rw [Sparing.of_madeOf hshown _ (Code.spares (Code.within_plain _) _)] at started
  have hunread : (Act.when (!config.initialPanel.isEmpty) do
      let _ ← showPanel config.initialPanel : Act Empty S Unit).MadeOf (Unreading _) :=
    .when (.bind (Unreading.emit (Code.unreading_plain (depth + 1)) _ (by decide)) fun _ =>
      .pure ())
  rw [(Unreading.of_madeOf hunread loaded.2 started).1]
  exact hstands

end Session

/-- What the readout shows after these requests. -/
theorem Code.reading_runAll (config : ShellConfig) (host : Host) (app : S)
    {requests : List (Request Empty)} (husual : ∀ request ∈ requests, request.isUsual = true)
    (hactive : ∀ done, done <+: requests → (Code.plain.runAll done
      (Code.plain.launch config host app)).extensions.isActive Builtin.editorStatus.name = true) :
    (Code.plain.runAll requests (Code.plain.launch config host app)).reading 0 =
      ((Request.lastPosition requests).1, (Request.lastPosition requests).2,
        Request.lastLanguage requests) := by
  induction requests using List.reverseRecOn with
  | nil => exact reading_start 199 config host app
  | append_singleton done request ih =>
      have husual' : ∀ request ∈ done, request.isUsual = true :=
        fun other hother => husual other (List.mem_append_left _ hother)
      have runs : Code.plain.Runs (fun request => request.isUsual = true)
          (Code.plain.launch config host app) (Code.plain.runAll done _) :=
        Code.Runs.runAll .refl husual'
      have hreading := ih husual' fun earlier hdone =>
        hactive earlier (hdone.trans (List.prefix_append done [request]))
      have hfollow := reading_follow 199 (husual request (by simp)) (runs.inOrder
        (Code.within_plain _)) (hactive done (List.prefix_append done [request]))
      rw [hreading] at hfollow
      rw [Request.lastPosition_concat, Request.lastLanguage_concat]
      rw [Code.runAll_append]
      exact hfollow

/-! ## What is shown -/

/-- A host that is up to date was told of what the readout shows. -/
theorem Session.UpToDate.readout {session : Session Empty S} (upToDate : session.UpToDate)
    (inOrder : session.fixtures.InOrder)
    (hactive : session.extensions.isActive Builtin.editorStatus.name = true) :
    session.shownText? "status::cursor" = some ("Line: " ++ shownCount (session.reading 0).1 ++
        " Column: " ++ shownCount (session.reading 0).2.1) ∧
      session.shownText? "status::language" = some (session.reading 0).2.2 := by
  obtain ⟨-, hstatus⟩ := entries_eq inOrder
  rw [if_pos hactive] at hstatus
  -- A node of the readout is a member of the readout, so of the status bar, so of the tree.
  have hmember : ∀ child ∈ (Session.readout (ι := Handler Empty)
      (session.editorStatus 0)).children, ∀ id, child.id = some id →
        (id, child) ∈ session.tree.members none 0 := by
    intro child hchild id hid
    have hreadout : ∀ parent index, (id, child) ∈
        ((Session.readout (session.editorStatus 0)).withId readoutId).members parent index :=
      Node.mem_members_of_child (Node.mem_members_self hid) hchild
    have hbar : ∀ parent index, (id, child) ∈
        (statusBar (session.nodesOf session.panelHost.status.entries)).members parent index := by
      refine Node.mem_members_of_child hreadout ?_
      rw [hstatus]
      exact List.mem_singleton_self _
    exact Node.mem_members_of_child hbar (List.mem_cons_of_mem _ (List.mem_singleton_self _)) none 0
  have hcursor := hmember _ List.mem_cons_self "status::cursor" rfl
  have hlanguage := hmember _ (List.mem_cons_of_mem _ (List.mem_singleton_self _))
    "status::language" rfl
  exact ⟨(upToDate.displays _ hcursor).shownText?_eq rfl,
    (upToDate.displays _ hlanguage).shownText?_eq rfl⟩

/-- The readout follows what is told, as long as its extension is active.

Extensions may be managed, keys pressed, panels shown and ticks made in between, in any order.
After a tick the host was told last of the latest position and the latest language, if it has
refused nothing and no version has come around since the last render; the position is counted from
one, so it must not be that of the largest word.  A payload that is no pair of words is one failed
delivery, and neither the readout nor the version changes. -/
theorem readout_follows (config : ShellConfig) (host : Host) (app : S)
    {requests : List (Request Empty)} (husual : ∀ request ∈ requests, request.isUsual = true)
    (hactive : ∀ done, done <+: requests → (Code.plain.runAll done
      (Code.plain.launch config host app)).extensions.isActive Builtin.editorStatus.name = true) :
    let session := Code.plain.runAll requests (Code.plain.launch config host app)
    let ticked := (Code.plain.run tick session).2
    (session.Unwrapped → ticked.Unrefused →
      ((Request.lastPosition requests).1 + 1 < Nat.pow 2 64 →
        (Request.lastPosition requests).2 + 1 < Nat.pow 2 64 →
          ticked.shownText? "status::cursor" = some ("Line: " ++
            Decimal.text ((Request.lastPosition requests).1 + 1) ++ " Column: " ++
              Decimal.text ((Request.lastPosition requests).2 + 1))) ∧
        ticked.shownText? "status::language" = some (Request.lastLanguage requests)) ∧
    ∀ payload, (∀ line < Nat.pow 2 64, ∀ column < Nat.pow 2 64,
        payload ≠ .array [.ofNat line, .ofNat column]) →
      let emitted := Code.plain.run (emit cursorEvent payload) session
      emitted.1 = ⟨0, 1⟩ ∧ emitted.2.reading = session.reading ∧
        emitted.2.panelHost = session.panelHost := by
  have hreading := Code.reading_runAll config host app husual hactive
  have hnow := hactive requests List.prefix_rfl
  have runs : Code.plain.Runs (fun request => request.isUsual = true)
      (Code.plain.launch config host app) (Code.plain.runAll requests _) :=
    Code.Runs.runAll .refl husual
  have inOrder := runs.inOrder (Code.within_plain _)
  intro session ticked
  refine ⟨fun unwrapped unrefused => ?_, fun payload hshape => ?_⟩
  · have htick : (Request.tick (κ := Empty)).isEveryday = true := rfl
    have hfixtures : ticked.fixtures = session.fixtures :=
      Code.fixtures_perform (Code.within_plain _) htick session
    have hextensions : ticked.extensions = session.extensions :=
      congrArg Fixtures.extensions hfixtures
    have upToDate := (runs.upToDate_tick unwrapped unrefused).readout (hfixtures ▸ inOrder)
      (by rw [hextensions]; exact hnow)
    -- The tick displays the reading and does not change it.
    have hticked : ticked.reading = session.reading := reading_tick 199 inOrder
    rw [hticked, hreading] at upToDate
    refine ⟨fun hline hcolumn => ?_, upToDate.2⟩
    rw [upToDate.1, shownCount_eq hline, shownCount_eq hcolumn]
  · refine run_emitCursor_of_none 199 (listens inOrder hnow) ?_
    cases hposition : Session.position? payload with
    | none => rfl
    | some position =>
        obtain ⟨heq, hline, hcolumn⟩ := Session.position?_eq_some_iff.1 hposition
        exact absurd heq (hshape _ hline _ hcolumn)

/-- The cursor moves, a tab is selected, and another event of the cursor is malformed. -/
def Session.followedRequests : List (Request Empty) :=
  [.tick, .emit cursorEvent (.array [.ofNat 3, .ofNat 7]),
    .emit tabSelectedEvent (.object [("language", .string "rust")]),
    .emit cursorEvent (.array [.ofNat 1])]

/-- A configuration with a readout. -/
def Session.readingConfig : ShellConfig :=
  { ShellConfig.default with extensions := ["editor-status"] }

theorem readout_follows_malformed :
    let session := Code.plain.runAll Session.followedRequests
      (Code.plain.launch Session.readingConfig (.fresh .recording true) ())
    let ticked := (Code.plain.run tick session).2
    let emitted := Code.plain.run (emit cursorEvent .null) session
    ((∀ request ∈ Session.followedRequests, request.isUsual = true) ∧
      (∀ done, done <+: Session.followedRequests → (Code.plain.runAll done
        (Code.plain.launch Session.readingConfig (.fresh .recording true) ())).extensions.isActive
          Builtin.editorStatus.name = true) ∧
      session.Unwrapped ∧ ticked.Unrefused) ∧
    (ticked.shownText? "status::cursor" = some "Line: 4 Column: 8" ∧
      ticked.shownText? "status::language" = some "rust") ∧
    emitted.1 = ⟨0, 1⟩ ∧ emitted.2.reading = session.reading ∧
      emitted.2.panelHost = session.panelHost := by
  have husual : ∀ request ∈ Session.followedRequests, request.isUsual = true := by decide
  have hactive : ∀ done, done <+: Session.followedRequests → (Code.plain.runAll done
      (Code.plain.launch Session.readingConfig (.fresh .recording true) ())).extensions.isActive
        Builtin.editorStatus.name = true := by
    intro done hdone
    rw [← List.mem_inits] at hdone
    revert done
    decide +kernel
  have hmoves : Entry.movesSince ((Code.plain.runAll Session.followedRequests
      (Code.plain.launch Session.readingConfig (.fresh .recording true) ())).caughtUp
        (Code.plain.caller Code.nestingLimit)).journal < UInt64.size := by
    decide +kernel
  have hunrefused : (Code.plain.run tick (Code.plain.runAll Session.followedRequests
      (Code.plain.launch Session.readingConfig (.fresh .recording true) ()))).2.journal.all
        (fun entry => !entry.isRefusal) = true := by
    decide +kernel
  have hposition : "Line: " ++ Decimal.text
      ((Request.lastPosition Session.followedRequests).1 + 1) ++ " Column: " ++ Decimal.text
        ((Request.lastPosition Session.followedRequests).2 + 1) = "Line: 4 Column: 8" := by
    decide +kernel
  have hlast : Request.lastLanguage Session.followedRequests = "rust" := by decide +kernel
  have follows := readout_follows Session.readingConfig (.fresh .recording true) () husual hactive
  have hline : (Request.lastPosition Session.followedRequests).1 + 1 < Nat.pow 2 64 := by
    decide +kernel
  have hcolumn : (Request.lastPosition Session.followedRequests).2 + 1 < Nat.pow 2 64 := by
    decide +kernel
  rw [hposition, hlast] at follows
  -- The session is a variable from here on, so that nothing evaluates it.
  generalize Code.plain.runAll Session.followedRequests
    (Code.plain.launch Session.readingConfig (.fresh .recording true) ()) = session
      at hmoves hunrefused follows ⊢
  obtain ⟨hshown, hmalformed⟩ := follows
  have unrefused := unrefused_of_all hunrefused
  obtain ⟨hcursor, hlanguage⟩ := hshown (fun _ => hmoves) unrefused
  exact ⟨⟨husual, hactive, fun _ => hmoves, unrefused⟩, ⟨hcursor hline hcolumn, hlanguage⟩,
    hmalformed .null fun _ _ _ _ => by simp⟩

end EditorShell
