import EditorShell.Proofs.Run.Operations
import EditorShell.Proofs.Run.Registries
import EditorShell.Proofs.Run.Governing

/-!
# Classes that see a part of a session

Most classes of acts look at little of a session: at the listeners, say, or at the extensions, and
at a few kinds of entries in the journal.  `Act.Class.Sees` says at what.  Every operation that does
not touch it is made of the class, so for a law only those are left to show that do.

The lemmas go by the parts of a session.  Each asks that the part is outside the view and that what
is noted there is not shown.
-/

namespace EditorShell

variable {κ S V ι : Type}

/-- Whether an entry tells of a call. -/
def Entry.isCall : Entry κ → Bool
  | .called _ | .returned _ _ => true
  | _ => false

/-- Whether an entry is noted in the core: by a pass, or for a job, a message or a widget. -/
def Entry.isInner (entry : Entry κ) : Bool := entry.isRecord || entry.isPlacing || entry.isPass

/-- Neither the start of a call nor its end is shown. -/
def Call.Hidden (shown : Entry κ → Bool) (call : Call κ) : Prop :=
  shown (.called call) = false ∧ ∀ outcome, shown (.returned call outcome) = false

theorem Entry.isCall_eq_false {entry : Entry κ} (hentry : entry.isEvent = true ∨
    entry.isPress = true ∨ entry.isDisplay = true ∨ entry.isInner = true) :
    entry.isCall = false := by
  cases entry <;> first | rfl | simp [isEvent, isPress, isDisplay, isInner, isRecord, isPlacing,
    isPass] at hentry

/-- Only what is outside a view changes, and nothing is noted that is shown. -/
structure Session.Unseen (view : Session κ S → V) (shown : Entry κ → Bool)
    (before after : Session κ S) : Prop where
  view_eq : view after = view before
  noted : ∃ noted, after.journal = noted ++ before.journal ∧
    ∀ entry ∈ noted, Entry.isRecord entry = true ∧ shown entry = false

namespace Act.Class

/-- A class sees of a session only a view and the entries that are shown. -/
structure Sees (Parts : Act.Class κ S) (view : Session κ S → V) (shown : Entry κ → Bool) :
    Prop where
  change : ∀ f : Session κ S → Session κ S,
    (∀ session, Session.Unseen view shown session (f session)) → (Act.change f).MadeOf Parts
  note : ∀ entry : Entry κ, entry.isCall = false → shown entry = false →
    (Act.note (S := S) entry).MadeOf Parts
  call : ∀ call : Call κ, call.Hidden shown → (Act.call (S := S) call).MadeOf Parts

namespace Sees

variable {Parts : Act.Class κ S} {view : Session κ S → V} {shown : Entry κ → Bool}
  (sees : Parts.Sees view shown)

include sees

/-- A change outside the view that notes nothing. -/
theorem aside {f : Session κ S → Session κ S} (hview : ∀ session, view (f session) = view session)
    (hjournal : ∀ session, (f session).journal = session.journal) :
    (Act.change f).MadeOf Parts := by
  refine sees.change f fun session => ⟨hview session, [], hjournal session, fun entry hentry => ?_⟩
  cases hentry

theorem acting (hcalls : ∀ call : Call κ, call.isHost = false → call.isLifecycle = false →
    call.isJob = false → call.isListener = false → call.isInteraction = false →
      call.Hidden shown) : Parts.Acting := by
  constructor
  intro call hhost hlifecycle hjob hlistener hinteraction
  exact sees.call call (hcalls call hhost hlifecycle hjob hlistener hinteraction)

theorem ordinary (hcalls : ∀ call : Call κ, call.isHost = false → call.isLifecycle = false →
    call.isJob = false → call.isListener = false → call.Hidden shown) : Parts.Ordinary where
  toActing := sees.acting fun call hhost hlifecycle hjob hlistener _ =>
    hcalls call hhost hlifecycle hjob hlistener
  interact handler event := sees.call _ (hcalls (.interaction handler event) rfl rfl rfl rfl)

theorem outer (hview : ∀ session clock builtins app,
      view { session with clock := clock, builtins := builtins, app := app } = view session) :
    Parts.Outer where
  clock f := sees.aside (fun session => hview session (f session) session.builtins session.app)
    fun _ => rfl
  builtins f := sees.aside (fun session => hview session session.clock (f session) session.app)
    fun _ => rfl
  app value := sees.aside (fun session => hview session session.clock session.builtins value)
    fun _ => rfl

theorem note_of {kind : Entry κ → Bool}
    (hkind : ∀ entry : Entry κ, kind entry = true → entry.isCall = false)
    (hshown : ∀ entry : Entry κ, kind entry = true → shown entry = false) (entry : Entry κ)
    (hentry : kind entry = true) : (Act.note (S := S) entry).MadeOf Parts :=
  sees.note entry (hkind entry hentry) (hshown entry hentry)

section

variable (ordinary : Parts.Ordinary)

include ordinary

omit ordinary in
theorem events
    (hcalls : ∀ event subscription payload,
      (Call.listener (κ := κ) event subscription payload).Hidden shown)
    (hshown : ∀ entry : Entry κ, entry.isEvent = true → shown entry = false)
    (hview : ∀ session events, view { session with events := events } = view session) :
    Parts.Events := by
  apply Events.of_change
  · exact fun event subscription payload => sees.call _ (hcalls event subscription payload)
  · exact sees.note_of (fun _ hevent => Entry.isCall_eq_false (.inl hevent)) hshown
  · exact fun f => sees.aside (fun session => hview session (f session)) fun _ => rfl

omit ordinary in
theorem registering
    (hcalls : ∀ chord command, (Call.announce (κ := κ) chord command).Hidden shown)
    (hview : ∀ session commands keys,
      view { session with commands := commands, keys := keys } = view session) :
    Parts.Registering := by
  apply Registering.of_bindings
  · exact fun chord command => sees.call _ (hcalls chord command)
  · intro f _
    exact sees.aside (fun session => hview session (f session) session.keys) fun _ => rfl
  · intro f _
    exact sees.aside (fun session => hview session session.commands (f session)) fun _ => rfl

theorem commands (hshown : ∀ entry : Entry κ, entry.isPress = true → shown entry = false)
    (hview : ∀ session commands keys,
      view { session with commands := commands, keys := keys } = view session) :
    Parts.Commands := by
  apply Commands.of_change ordinary.toActing
  · exact sees.note_of (fun _ hpress => Entry.isCall_eq_false (.inr (.inl hpress))) hshown
  · intro f
    exact sees.aside (fun session => hview session session.commands (f session)) fun _ => rfl
  · intro f
    exact sees.aside (fun session => hview session (f session) session.keys) fun _ => rfl

theorem panels (hshown : shown .moved = false)
    (hview : ∀ session panels, view { session with panelHost := panels } = view session) :
    Parts.Panels := by
  refine .of_change ordinary.toActing (sees.note .moved rfl hshown) fun f => ?_
  exact sees.aside (fun session => hview session (f session)) fun _ => rfl

variable {allowed : Request κ → Prop}

omit ordinary in
theorem works (hshown : ∀ entry : Entry κ, entry.isRecord = true → shown entry = false)
    (hview : ∀ session core, view (Session.withCore session core) = view session)
    (f : Session κ S → Session κ S)
    (hf : ∀ session : Session κ S, session.Works allowed (f session)) :
    (Act.change f).MadeOf Parts := by
  refine sees.change f fun session => ?_
  obtain ⟨heq, noted, hjournal, hnoted, -⟩ := hf session
  refine ⟨by rw [heq, hview], noted, hjournal, fun entry hentry => ⟨hnoted entry hentry, ?_⟩⟩
  exact hshown entry (hnoted entry hentry)

omit ordinary in
theorem steady (hhost : ∀ message, (Call.host (κ := κ) message).Hidden shown)
    (hrecord : ∀ entry : Entry κ, entry.isRecord = true → shown entry = false)
    (hdeclared : ∀ id node, shown (.declared id node) = false)
    (hview : ∀ session core, view (Session.withCore session core) = view session) :
    Parts.Steady allowed := by
  apply Steady.of_change (sees.works hrecord hview)
  · exact fun message => sees.call _ (hhost message)
  · exact fun id node => sees.note _ rfl (hdeclared id node)

omit ordinary in
theorem pieces (hhost : ∀ message, (Call.host (κ := κ) message).Hidden shown)
    (hshown : ∀ entry : Entry κ, entry.isInner = true → shown entry = false)
    (hview : ∀ session core, view (Session.withCore session core) = view session) :
    Parts.Pieces allowed := by
  have hrecord : ∀ entry : Entry κ, entry.isRecord = true → shown entry = false :=
    fun entry hrecord => hshown entry (by simp [Entry.isInner, hrecord])
  refine .of_change (sees.works hrecord hview) (fun message => sees.call _ (hhost message))
    fun entry hplacing => ?_
  have hinner : entry.isInner = true := by simp [Entry.isInner, hplacing]
  exact sees.note entry (Entry.isCall_eq_false (.inr (.inr (.inr hinner)))) (hshown entry hinner)

omit ordinary in
/-- What the bridge does about handles, when the view looks at the mounted widgets and their
handlers only. -/
theorem asking (hhost : ∀ message, (Call.host (κ := κ) message).Hidden shown)
    (hpublished : ∀ id handle, shown (.published id handle) = false)
    (hscheduled : ∀ task : Task (Job κ), task.job.isOfProgram = false →
      shown (.scheduled task) = false)
    (hsent : ∀ message accepted, HostMessage.isAsking message = true →
      shown (.sent message accepted) = false)
    (hview : ∀ (session later : Session κ S), later = { session with
        scheduler := later.scheduler
        slots := later.slots
        host := later.host
        hostBusy := later.hostBusy
        bridge := { later.bridge with
          mounted := session.bridge.mounted, handlers := session.bridge.handlers }
        journal := later.journal } → view later = view session) : Parts.Asking where
  scheduleAt deadline job hjob := by
    refine .bind (.read _) fun id => ?_
    refine .bind (sees.change _ fun session => ?_) fun _ => .pure id
    refine ⟨hview _ _ rfl, [.scheduled ⟨session.scheduler.nextId, deadline, job⟩], rfl, ?_⟩
    simpa [Entry.isRecord] using hscheduled ⟨session.scheduler.nextId, deadline, job⟩ hjob
  cancelTask id reason := sees.aside (fun _ => hview _ _ rfl) fun _ => rfl
  changeSlots f := sees.aside (fun _ => hview _ _ rfl) fun _ => rfl
  changeHandles f hf := by
    refine sees.aside (fun session => hview _ _ ?_) fun _ => rfl
    obtain ⟨-, hmounted, hhandlers⟩ := hf session.bridge
    dsimp only
    rw [← hmounted, ← hhandlers]
  ask message hasking := by
    refine callHost_of_engages (fun f hf => sees.change f fun session => ?_) (sees.call _ (hhost _))
      fun accepted => sees.change _ fun session => ?_
    · -- While the message is on its way the host leaves a handle at most.
      obtain ⟨heq, noted, hjournal, hnoted⟩ := hf session
      refine ⟨hview _ _ ?_, noted, hjournal, fun entry hentry => ?_⟩
      · rw [heq]
      · obtain ⟨_, _, rfl⟩ := hnoted entry hentry
        exact ⟨rfl, hpublished _ _⟩
    · refine ⟨hview _ _ ?_, [.sent message accepted], rfl, ?_⟩
      · rw [Bridge.countAnswer_eq]
      · simpa [Entry.isRecord] using hsent message accepted hasking

omit ordinary in
theorem runDue (pieces : Parts.Steady allowed)
    (hjobs : ∀ call : Call κ, call.isJob = true → call.Hidden shown)
    (hshown : ∀ entry : Entry κ, entry.isPass = true → shown entry = false)
    (hview : ∀ session core, view (Session.withCore session core) = view session) :
    (Session.runDue : Act κ S Nat).MadeOf Parts := by
  refine (pieces.turns fun call hjob => sees.call call (hjobs call hjob)).runDue
    (fun entry hpass => ?_) ?_
  · have hinner : entry.isInner = true := by simp [Entry.isInner, hpass]
    exact sees.note entry (Entry.isCall_eq_false (.inr (.inr (.inr hinner)))) (hshown entry hpass)
  · refine takeBatch_of_change fun f => sees.aside (fun session => ?_) fun _ => rfl
    exact hview session
      { session.core with scheduler := (session.scheduler.takeDue (f session)).2 }

theorem core (hhost : ∀ message, (Call.host (κ := κ) message).Hidden shown)
    (hjobs : ∀ call : Call κ, call.isJob = true → call.Hidden shown)
    (hshown : ∀ entry : Entry κ, entry.isInner = true → shown entry = false)
    (hview : ∀ session core, view (Session.withCore session core) = view session) :
    Parts.Core allowed := by
  have pieces : Parts.Pieces allowed := sees.pieces hhost hshown hview
  refine .of_pieces ordinary pieces (sees.runDue pieces.toSteady hjobs ?_ hview)
  exact fun entry hpass => hshown entry (by simp [Entry.isInner, hpass])

end

/-- The jobs of the embedding program and the debouncers, when the view does not look at them. -/
theorem jobs {allowed : Request κ → Prop}
    (hshown : ∀ task : Task (Job κ), task.job.isOfProgram = true → shown (.scheduled task) = false)
    (hview : ∀ session scheduler debouncers journal,
      view { session with scheduler := scheduler, debouncers := debouncers, journal := journal } =
        view session) : Parts.Jobs allowed := by
  have scheduler : ∀ f : Session κ S → Scheduler (Job κ),
      (Act.change fun session => { session with scheduler := f session }).MadeOf Parts :=
    fun f => sees.aside
      (fun session => hview session (f session) session.debouncers session.journal) fun _ => rfl
  refine .of_change (fun id reason => scheduler _) (fun deadline job hjob => ?_)
    (fun _ => scheduler _) fun f => ?_
  · refine .bind (.read _) fun id => ?_
    refine .bind (sees.change _ fun session => ?_) fun _ => .pure id
    refine ⟨hview session _ session.debouncers _,
      [.scheduled ⟨session.scheduler.nextId, deadline, job⟩], rfl, ?_⟩
    simpa [Entry.isRecord] using hshown ⟨session.scheduler.nextId, deadline, job⟩ hjob
  · exact sees.aside (fun session => hview session session.scheduler (f session) session.journal)
      fun _ => rfl

theorem extensions (registering : Parts.Registering)
    (hcalls : ∀ call : Call κ, call.isLifecycle = true → call.Hidden shown)
    (hview : ∀ session extensions, view { session with extensions := extensions } = view session) :
    Parts.Extensions := by
  apply Extensions.of_change registering
  · exact fun f => sees.aside (fun session => hview session _) fun _ => rfl
  · exact fun call hlifecycle => sees.call call (hcalls call hlifecycle)

theorem shell {allowed : Request κ → Prop} (panels : Parts.Panels) (core : Parts.Core allowed)
    (hshown : ∀ entry : Entry κ, entry.isDisplay = true → shown entry = false)
    (hview : ∀ session shell? closed,
      view { session with shell? := shell?, closed := closed } = view session) : Parts.Shell := by
  have hdisplay : ∀ entry : Entry κ, entry.isDisplay = true → entry.isCall = false :=
    fun _ hdisplay => Entry.isCall_eq_false (.inr (.inr (.inl hdisplay)))
  refine .of_change panels core (sees.note_of hdisplay hshown) fun f g => ?_
  exact sees.aside (fun session => hview session (f session) (g session)) fun _ => rfl

/-- What is left to show when commands and extensions are outside the view. -/
theorem covers {allowed : Request κ → Prop} (ordinary : Parts.Ordinary)
    (hpress : ∀ entry : Entry κ, entry.isPress = true → shown entry = false)
    (hcalls : ∀ call : Call κ, call.isLifecycle = true → call.Hidden shown)
    (hview : ∀ session clock builtins app commands keys extensions,
      view { session with
        clock := clock, builtins := builtins, app := app, commands := commands, keys := keys
        extensions := extensions } = view session)
    (events : Parts.Events) (panels : Parts.Panels) (core : Parts.Core allowed)
    (shell : Parts.Shell) : Parts.Covers allowed := by
  have commands : Parts.Commands := sees.commands ordinary hpress fun session commands keys =>
    hview session session.clock session.builtins session.app commands keys session.extensions
  have extensions : Parts.Extensions :=
    sees.extensions commands.toRegistering hcalls fun session extensions =>
      hview session session.clock session.builtins session.app session.commands session.keys
        extensions
  have outer : Parts.Outer := sees.outer fun session clock builtins app =>
    hview session clock builtins app session.commands session.keys session.extensions
  exact .of_core panels core outer events commands extensions shell

end Sees

end Act.Class

/-! ## Laws about a view -/

/-- `P` is a statement about a view of a session and about the shown entries of its journal.  Where
other entries are noted `Q` holds under it. -/
structure ViewLaw (view : Session κ S → V) (shown : Entry κ → Bool) (P : ι → Session κ S → Prop)
    (Q : ι → Moment κ S → Prop) : Prop where
  congr : ∀ {index : ι} {session later : Session κ S}, view later = view session →
    later.journal = session.journal → P index session → P index later
  note : ∀ {index : ι} {session : Session κ S} {entry : Entry κ}, shown entry = false →
    P index session → P index (session.noting entry)
  moment : ∀ {index : ι} {session : Session κ S} {entry : Entry κ}, shown entry = false →
    P index session → Q index ⟨entry, session⟩

namespace ViewLaw

variable {view : Session κ S → V} {shown : Entry κ → Bool} {P : ι → Session κ S → Prop}
  {Q : ι → Moment κ S → Prop} (law : ViewLaw view shown P Q)

include law

theorem upholds_note {entry : Entry κ} (hentry : shown entry = false) :
    (Act.note (S := S) entry).Upholds P Q := by
  apply Act.Upholds.note
  · exact law.moment hentry
  · exact law.note hentry

theorem upholds_call {call : Call κ} (hcall : call.Hidden shown) :
    (Act.call (S := S) call).Upholds P Q := by
  apply Act.Upholds.call
  · exact law.upholds_note hcall.1
  · exact fun outcome => law.upholds_note (hcall.2 outcome)

/-- More of what is not shown does not matter. -/
theorem append {index : ι} {session : Session κ S} {noted : List (Entry κ)}
    (hnoted : ∀ entry ∈ noted, shown entry = false) (hP : P index session) :
    P index { session with journal := noted ++ session.journal } := by
  induction noted with
  | nil => exact hP
  | cons entry rest ih =>
      have hrest := ih fun other hmem => hnoted other (List.mem_cons_of_mem entry hmem)
      exact law.note (hnoted entry List.mem_cons_self) hrest

/-- The acts that uphold a law about a view see no more than the view. -/
theorem sees (hview : ∀ (session : Session κ S) journal,
      view { session with journal := journal } = view session) :
    (Upholding P Q).Sees view shown where
  change f hf := by
    refine .part (.change fun {index session} hP => ?_)
    obtain ⟨heq, noted, hjournal, hnoted⟩ := hf session
    refine law.congr ?_ hjournal (law.append (fun entry hentry => (hnoted entry hentry).2) hP)
    rw [heq]
    exact (hview session _).symm
  note entry _ hentry := .part (law.upholds_note hentry)
  call call hcall := .part (law.upholds_call hcall)

end ViewLaw

end EditorShell
