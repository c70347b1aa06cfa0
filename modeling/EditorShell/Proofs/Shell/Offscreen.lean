import EditorShell.Proofs.Shell.Builtins
import EditorShell.Proofs.Shell.Rendering
import EditorShell.Proofs.Widget.Declaring

/-!
# Between renders

In a shell with no more than the built-in extensions, the tree that would be composed is told by the
panel host and by what the extensions keep (`Session.tree`).  Between two renders the host is told
of nothing, and the tree changes only along with the version (`Session.BetweenRenders`).  All
callbacks of the built-in extensions keep to that, those of an activation included
(`Code.betweenRenders_plain`).

What an extension changes without moving the version must be no part of the tree.  So each change of
what the extensions keep is met by what the readouts show and by the names that are greeted.
-/

namespace EditorShell

open Entry Session

variable {κ S α : Type}

/-! ## What would be composed -/

/-- The node that a component of a built-in extension renders. -/
def Component.node (session : Session Empty S) : Component Empty → Node (Handler Empty)
  | .readout copy => Session.readout (session.editorStatus copy)
  | .greeting copy debouncer => greetingPanel copy debouncer (session.greeter copy).name
  | .user key => nomatch key

namespace Session

/-- The nodes of components under the ids for which they are registered. -/
def nodesOf (session : Session Empty S) (entries : List (String × Component Empty)) :
    List (Node (Handler Empty)) :=
  entries.map fun entry => (entry.2.node session).withId entry.1

/-- The tree that is composed when nobody but the built-in extensions has components. -/
def tree (session : Session Empty S) : Node (Handler Empty) :=
  shellTree session.panelHost.ui (session.nodesOf session.panelHost.panels.entries)
    (session.nodesOf session.panelHost.status.entries)

/-- What a readout shows. -/
def reading (session : Session κ S) (copy : InstanceId) : Nat × Nat × String :=
  let state := session.editorStatus copy
  (state.line, state.column, state.language)

/-- The tree is told by the panel host, by what the readouts show and by the names. -/
theorem tree_congr {first second : Session Empty S} (hpanels : second.panelHost = first.panelHost)
    (hreading : second.reading = first.reading)
    (hname : ∀ copy, (second.greeter copy).name = (first.greeter copy).name) :
    second.tree = first.tree := by
  have hnode : ∀ component : Component Empty, component.node second = component.node first := by
    intro component
    cases component with
    | readout copy =>
        have hcopy := congrFun hreading copy
        simp only [reading, Prod.mk.injEq] at hcopy
        obtain ⟨hline, hcolumn, hlanguage⟩ := hcopy
        simp only [Component.node, readout, hline, hcolumn, hlanguage]
    | greeting copy debouncer => simp only [Component.node, hname]
    | user key => exact nomatch key
  unfold tree nodesOf
  simp only [hpanels, hnode]

end Session

/-! ### What the extensions keep -/

namespace Session

theorem editorStatus_changeEditorStatus (caller : Caller κ S) (session : Session κ S)
    (copy other : InstanceId) (f : EditorStatusState → EditorStatusState) :
    ((changeEditorStatus copy f).run caller session).2.editorStatus other =
      if copy = other ∧ other < session.builtins.editorStatus.length then
        f (session.editorStatus other) else session.editorStatus other := by
  unfold changeEditorStatus editorStatus
  simp only [Act.run_change, List.getElem?_modify]
  by_cases hother : other < session.builtins.editorStatus.length
  · rw [List.getElem?_eq_getElem hother]
    by_cases hcopy : copy = other <;> simp [hcopy, hother]
  · rw [List.getElem?_eq_none (Nat.le_of_not_lt hother)]
    simp [hother]

theorem greeter_changeGreeter (caller : Caller κ S) (session : Session κ S)
    (copy other : InstanceId) (f : HelloWorldState → HelloWorldState) :
    ((changeGreeter copy f).run caller session).2.greeter other =
      if copy = other ∧ other < session.builtins.helloWorld.length then
        f (session.greeter other) else session.greeter other := by
  unfold changeGreeter greeter
  simp only [Act.run_change, List.getElem?_modify]
  by_cases hother : other < session.builtins.helloWorld.length
  · rw [List.getElem?_eq_getElem hother]
    by_cases hcopy : copy = other <;> simp [hcopy, hother]
  · rw [List.getElem?_eq_none (Nat.le_of_not_lt hother)]
    simp [hother]

/-- A readout may change in what it does not show. -/
theorem reading_changeEditorStatus (caller : Caller κ S) (session : Session κ S)
    (copy : InstanceId) {f : EditorStatusState → EditorStatusState}
    (hf : ∀ state, ∃ subscriptions, f state = { state with subscriptions := subscriptions }) :
    ((changeEditorStatus copy f).run caller session).2.reading = session.reading := by
  funext other
  unfold reading
  rw [editorStatus_changeEditorStatus]
  split
  · obtain ⟨subscriptions, hstate⟩ := hf (session.editorStatus other)
    rw [hstate]
  · rfl

/-- A greeter may change but for its name. -/
theorem name_changeGreeter (caller : Caller κ S) (session : Session κ S) (copy : InstanceId)
    {f : HelloWorldState → HelloWorldState} (hf : ∀ state, (f state).name = state.name)
    (other : InstanceId) : (((changeGreeter copy f).run caller session).2.greeter other).name =
      (session.greeter other).name := by
  rw [greeter_changeGreeter]
  split
  · exact hf _
  · rfl

end Session

/-! ## Between renders -/

namespace Session

/-- No render has begun and the host was told of nothing; and unless the version has moved, the same
would be composed. -/
structure BetweenRenders (before after : Session Empty S) : Prop where
  noted : ∃ noted, after.journal = noted ++ before.journal ∧
    (∀ entry ∈ noted, Entry.isRender entry = false ∧ Entry.update? entry = none) ∧
    (.moved ∉ noted → after.tree = before.tree)
  mounted_eq : after.bridge.isMounted = before.bridge.isMounted
  handlers_eq : after.bridge.handlers = before.bridge.handlers
  shell?_eq : after.shell? = before.shell?

namespace BetweenRenders

variable {first second third before after : Session Empty S}

theorem refl (session : Session Empty S) : session.BetweenRenders session :=
  ⟨⟨[], rfl, by simp, fun _ => rfl⟩, rfl, rfl, rfl⟩

theorem trans (hfirst : first.BetweenRenders second) (hsecond : second.BetweenRenders third) :
    first.BetweenRenders third where
  noted := by
    obtain ⟨noted, hjournal, hnoted, htree⟩ := hfirst.noted
    obtain ⟨later, hjournal', hlater, htree'⟩ := hsecond.noted
    refine ⟨later ++ noted, ?_, fun entry hentry => ?_, fun hmoved => ?_⟩
    · rw [hjournal', hjournal, List.append_assoc]
    · exact (List.mem_append.1 hentry).elim (hlater entry) (hnoted entry)
    · rw [List.mem_append, not_or] at hmoved
      exact (htree' hmoved.1).trans (htree hmoved.2)
  mounted_eq := hsecond.mounted_eq.trans hfirst.mounted_eq
  handlers_eq := hsecond.handlers_eq.trans hfirst.handlers_eq
  shell?_eq := hsecond.shell?_eq.trans hfirst.shell?_eq

theorem told_eq (between : before.BetweenRenders after) (id : NodeId) :
    after.told id = before.told id := by
  obtain ⟨noted, hjournal, hnoted, -⟩ := between.noted
  exact (TellsOf.of_quiet noted hjournal (fun entry hentry => (hnoted entry hentry).2)
    between.mounted_eq between.handlers_eq).others id (by simp)

end BetweenRenders

/-- Of all that happens between renders, what is looked at. -/
def prospect (session : Session Empty S) :
    (NodeId → Bool) × Table (Interaction → Option (Handler Empty)) × Option ShellState ×
      Node (Handler Empty) :=
  (session.bridge.isMounted, session.bridge.handlers, session.shell?, session.tree)

theorem prospect_congr {first second : Session Empty S} (hbridge : second.bridge = first.bridge)
    (hshell : second.shell? = first.shell?) (hpanels : second.panelHost = first.panelHost)
    (hreading : second.reading = first.reading)
    (hname : ∀ copy, (second.greeter copy).name = (first.greeter copy).name) :
    second.prospect = first.prospect := by
  unfold prospect
  rw [hbridge, hshell, tree_congr hpanels hreading hname]

end Session

/-- Whether an entry tells of a render, of a move of the version or of an update. -/
def Entry.isOnScreen (entry : Entry κ) : Bool := entry.isDisplay || entry.update?.isSome

/-- The acts that happen between renders, whatever they are run in. -/
def Offscreen (caller : Caller Empty S) : Act.Class Empty S := fun _ act =>
  ∀ session : Session Empty S, session.BetweenRenders (act.run caller session).2

namespace Offscreen

variable {caller : Caller Empty S}

theorem of_madeOf {act : Act Empty S α} (hact : act.MadeOf (Offscreen caller)) :
    Offscreen caller α act := by
  refine hact.covered (fun _ session => .refl session) (fun _ session => .refl session)
    (fun hnext session => hnext session session) fun {_ _ first next} hfirst hnext session => ?_
  exact (hfirst session).trans (hnext _ _)

theorem of_prospect {before after : Session Empty S} (noted : List (Entry Empty))
    (hjournal : after.journal = noted ++ before.journal)
    (hnoted : ∀ entry ∈ noted, Entry.isOnScreen entry = false)
    (hview : after.prospect = before.prospect) : before.BetweenRenders after := by
  simp only [prospect, Prod.mk.injEq] at hview
  obtain ⟨hmounted, hhandlers, hshell, htree⟩ := hview
  refine ⟨⟨noted, hjournal, fun entry hentry => ?_, fun _ => htree⟩, hmounted, hhandlers, hshell⟩
  obtain ⟨hdisplay, hupdate⟩ := Bool.or_eq_false_iff.1 (hnoted entry hentry)
  exact ⟨isRender_of_isDisplay_eq_false hdisplay, by simpa using hupdate⟩

/-- The version moves with a change, so what would be composed need not stay the same. -/
theorem moving {f : Session Empty S → Session Empty S}
    (hjournal : ∀ session, (f session).journal = session.journal)
    (hbridge : ∀ session, (f session).bridge = session.bridge)
    (hshell : ∀ session, (f session).shell? = session.shell?) :
    (do
      Act.change f
      Session.touch : Act Empty S Unit).MadeOf (Offscreen caller) := by
  refine .part fun session => ⟨⟨[.moved], ?_, by simp [Entry.isRender, Entry.update?], by simp⟩,
    ?_, ?_, hshell session⟩
  · exact congrArg (_ :: ·) (hjournal session)
  · exact congrArg Bridge.isMounted (hbridge session)
  · exact congrArg Bridge.handlers (hbridge session)

theorem touch : (Session.touch : Act Empty S Unit).MadeOf (Offscreen caller) :=
  .part fun _ => ⟨⟨[.moved], rfl, by simp [Entry.isRender, Entry.update?], by simp⟩, rfl, rfl, rfl⟩

section

variable (answers : ∀ call session, Session.BetweenRenders session (caller.answer call session).2)

include answers

theorem sees : (Offscreen caller).Sees prospect Entry.isOnScreen where
  change f hf := by
    refine .part fun session => ?_
    obtain ⟨hview, noted, hjournal, hnoted⟩ := hf session
    exact of_prospect noted hjournal (fun entry hentry => (hnoted entry hentry).2) hview
  note entry _ hentry := .part fun session => of_prospect [entry] rfl (by simp [hentry]) rfl
  call call _ := by
    refine .bind (.part fun session => of_prospect [_] rfl ?_ rfl) fun _ =>
      .bind (.part (answers call)) fun outcome =>
        .bind (.part fun session => of_prospect [_] rfl ?_ rfl) fun _ => .pure _ <;>
    simp [Entry.isOnScreen, Entry.isDisplay, Entry.update?]

theorem ordinary : (Offscreen caller).Ordinary :=
  (sees answers).ordinary fun _ _ _ _ _ => ⟨rfl, fun _ => rfl⟩

theorem events : (Offscreen caller).Events :=
  (sees answers).events (fun _ _ _ => ⟨rfl, fun _ => rfl⟩)
    (fun entry hevent => by cases entry <;> first | rfl | cases hevent) fun _ _ => rfl

theorem commands : (Offscreen caller).Commands :=
  (sees answers).commands (ordinary answers)
    (fun entry hpress => by cases entry <;> first | rfl | cases hpress) fun _ _ _ => rfl

theorem extensions : (Offscreen caller).Extensions :=
  (sees answers).extensions (commands answers).toRegistering (fun _ _ => ⟨rfl, fun _ => rfl⟩)
    fun _ _ => rfl

theorem asking : (Offscreen caller).Asking := by
  refine (sees answers).asking (fun _ => ⟨rfl, fun _ => rfl⟩) (fun _ _ => rfl) (fun _ _ => rfl)
    (fun message accepted hasking => ?_) fun session later hlater => ?_
  · cases message <;> first | rfl | cases hasking
  · rw [hlater]
    rfl

theorem jobs : (Offscreen caller).Jobs fun _ => True :=
  (sees answers).jobs (fun _ _ => rfl) fun _ _ _ _ => rfl

/-! ### What is taken up -/

/-- A readout may change in what it does not show. -/
theorem changeEditorStatus (copy : InstanceId) {f : EditorStatusState → EditorStatusState}
    (hf : ∀ state, ∃ subscriptions, f state = { state with subscriptions := subscriptions }) :
    (Session.changeEditorStatus copy f).MadeOf (Offscreen caller) := by
  refine (sees answers).aside (fun session => ?_) fun _ => rfl
  exact prospect_congr rfl rfl rfl (reading_changeEditorStatus caller session copy hf) fun _ => rfl

/-- A greeter may change but for its name. -/
theorem changeGreeter (copy : InstanceId) {f : HelloWorldState → HelloWorldState}
    (hf : ∀ state, (f state).name = state.name) :
    (Session.changeGreeter copy f).MadeOf (Offscreen caller) := by
  refine (sees answers).aside (fun session => ?_) fun _ => rfl
  exact prospect_congr rfl rfl rfl rfl (name_changeGreeter caller session copy hf)

omit answers in
theorem followCursor (copy : InstanceId) (payload : Json.Value) :
    (Session.followCursor copy payload).MadeOf (Offscreen caller) := by
  unfold Session.followCursor
  split
  · exact .pure _
  · unfold Session.changeEditorStatus
    rw [← bind_assoc]
    exact .bind (moving (fun _ => rfl) (fun _ => rfl) fun _ => rfl) fun _ => .pure _

omit answers in
theorem followLanguage (copy : InstanceId) (payload : Json.Value) :
    (Session.followLanguage copy payload).MadeOf (Offscreen caller) := by
  unfold Session.followLanguage Session.changeEditorStatus
  dsimp only
  rw [← bind_assoc]
  exact .bind (moving (fun _ => rfl) (fun _ => rfl) fun _ => rfl) fun _ => .pure _

omit answers in
/-- Another panel becomes the current one just if the version moves. -/
theorem setCurrentPanel (panel : String) :
    (Session.setCurrentPanel panel).MadeOf (Offscreen caller) := by
  refine .part fun session => ?_
  unfold Session.setCurrentPanel changePanels UiState.setCurrentPanel
  by_cases hsame : session.panelHost.ui.currentPanel = panel
  · simp only [hsame, if_true, Act.run_bind, Act.run_read, Act.run_change, Act.run_when,
      Bool.false_eq_true, if_false, Act.run_pure]
    exact .refl session
  · simp only [hsame, if_false, Act.run_bind, Act.run_read, Act.run_change, Act.run_when, if_true,
      Act.run_note, Act.run_pure]
    exact ⟨⟨[.moved], rfl, by simp [Entry.isRender, Entry.update?], by simp⟩, rfl, rfl, rfl⟩

/-! ### Callbacks and requests -/

theorem reacting : (Offscreen caller).Reacting where
  sayHello copy := .bind (changeGreeter answers copy fun _ => rfl) fun _ => .pure _
  showPanel panel := (events answers).showPanel panel
  tellKey payload := (events answers).emit _ payload
  execute := (commands answers).execute
  press := (commands answers).press
  resolveHandle := (asking answers).resolveHandle
  invoke := (asking answers).invoke

theorem equippingGreeter : (Offscreen caller).EquippingGreeter where
  subscribe := (events answers).subscribe
  unsubscribe := (events answers).unsubscribe
  newAction := (commands answers).newAction
  registerCommand := (commands answers).registerCommand
  unregisterCommand := (commands answers).unregisterCommand
  registerStatus id component := moving (fun _ => rfl) (fun _ => rfl) fun _ => rfl
  unregisterStatus id := .bind (.read _) fun found =>
    .bind (.when (moving (fun _ => rfl) (fun _ => rfl) fun _ => rfl)) fun _ => .pure found
  setKeyListener _ _ := (sees answers).aside (fun _ => rfl) fun _ => rfl
  changeEditorStatus copy _ hf := changeEditorStatus answers copy hf
  registerPanel id component := moving (fun _ => rfl) (fun _ => rfl) fun _ => rfl
  unregisterPanel id := .bind (.read _) fun found =>
    .bind (.when (moving (fun _ => rfl) (fun _ => rfl) fun _ => rfl)) fun _ => .pure found
  newDebouncer := (jobs answers).newDebouncer
  dropDebouncer := (jobs answers).dropDebouncer
  changeGreeter copy _ hf := changeGreeter answers copy fun state => by
    obtain ⟨debouncer?, hstate⟩ := hf state
    rw [hstate]

theorem respond (call : Call Empty) : ((Code.plain (S := S)).respond call).MadeOf
    (Offscreen caller) := by
  have program : ∀ {R : Type} {program : Program Empty S R}, (program.Uses fun _ => False) →
      program.toAct.MadeOf (Offscreen caller) := fun uses =>
    .program (fun _ => (sees answers).aside (fun _ => rfl) fun _ => rfl) nofun uses
  have within := Code.within_plain (S := S) fun _ => False
  cases hlifecycle : call.isLifecycle with
  | true => exact (equippingGreeter answers).respond program within call hlifecycle
  | false =>
      apply (reacting answers).respond program within call hlifecycle
      · exact fun _ _ payload _ =>
          Act.Class.takeShown_of_setCurrentPanel setCurrentPanel payload
      · exact fun _ _ copy payload _ => followCursor copy payload
      · exact fun _ _ copy payload _ => followLanguage copy payload
      · exact fun _ debouncer _ _ => (jobs answers).debounce debouncer _
      · exact fun _ _ _ _ => moving (fun _ => rfl) (fun _ => rfl) fun _ => rfl

end

end Offscreen

/-- No callback of the built-in extensions renders or tells the host of anything. -/
theorem Code.betweenRenders_plain (depth : Nat) (call : Call Empty) (session : Session Empty S) :
    session.BetweenRenders ((Code.plain.caller depth).answer call session).2 := by
  induction depth generalizing call session with
  | zero => exact .refl session
  | succ depth ih => exact Offscreen.of_madeOf (Offscreen.respond ih call) session

namespace Offscreen

variable (depth : Nat)

theorem runDue : Session.runDue.MadeOf (Offscreen (S := S) (Code.plain.caller depth)) := by
  have answers := Code.betweenRenders_plain (S := S) depth
  have turns : (Offscreen (Code.plain.caller depth)).Turns :=
    ⟨(jobs answers).markStarted, fun call _ => (sees answers).call call ⟨rfl, fun _ => rfl⟩,
      (asking answers).resolveRequested⟩
  refine turns.runDue (fun entry hpass => (sees answers).note entry ?_ ?_)
    (Act.Class.takeBatch_of_change fun _ => (sees answers).aside (fun _ => rfl) fun _ => rfl) <;>
  · cases entry <;> first | rfl | cases hpass

/-- What is done between two ticks. -/
theorem perform {request : Request Empty} (husual : request.isUsual = true)
    (hne : request ≠ .tick) :
    request.perform.MadeOf (Offscreen (S := S) (Code.plain.caller depth)) := by
  have answers := Code.betweenRenders_plain (S := S) depth
  rcases Request.isUsual_iff.1 husual with heveryday | hmanaging | hadjusting
  · exact (reacting answers).perform heveryday
      (fun _ _ => (sees answers).aside (fun _ => rfl) fun _ => rfl)
      (fun event payload _ => (events answers).emit _ _)
      (fun event _ => (ordinary answers).dispatchEvent (asking answers).countHandlerFailure event)
      fun htick => absurd htick hne
  · exact (extensions answers).perform hmanaging
  · exact (commands answers).perform (ordinary answers).toActing hadjusting
      (fun name enabled _ => (commands answers).setEnabled name enabled) setCurrentPanel touch

end Offscreen

end EditorShell
