import EditorShell.Proofs.Handle.Ledger
import EditorShell.Proofs.Run.Reaching

/-!
# The tables of the bridge and the scheduler

The five tables of the bridge fit together, and they fit together with the scheduler: the requests
under way are exactly the live jobs that pick up handles (`Consistent.pending_iff`).  So a job that
picks up a handle finds its widget mounted and ends its own request and no other
(`requests_consistent`).

## Strategy

The ledger says that jobs have different numbers.  So cancelling the job of an evicted widget, or of
a debouncer, cancels no request of another widget, and a turn ends only the request it belongs to.
-/

namespace EditorShell

variable {κ S : Type}

/-- The tables of the bridge fit together, and they fit the live jobs. -/
structure Consistent (core : Core κ) : Prop where
  handlers_eq : ∀ id, core.bridge.handlers.contains id = core.bridge.isMounted id
  handles_mounted : ∀ id, core.bridge.handles.contains id = true → core.bridge.isMounted id = true
  requested_mounted : ∀ id, core.bridge.requested.contains id = true →
    core.bridge.isMounted id = true
  pending_mounted : ∀ id, core.bridge.pending.contains id = true → core.bridge.isMounted id = true
  /-- A widget with a handle waits for none. -/
  exclusive : ∀ id, core.bridge.handles.contains id = true → core.bridge.pending.contains id = false
  /-- The requests under way are the live jobs that pick up handles. -/
  pending_iff : ∀ id number, core.bridge.pending.get? id = some number ↔
    ∃ task, core.IsLive task ∧ task.id = number ∧ task.job = .resolveHandle id

namespace Consistent

variable {core core' : Core κ}

/-- Consistency depends on the tables and on the live jobs that pick up handles. -/
theorem congr (consistent : Consistent core) {stats : BridgeStats}
    (hbridge : core'.bridge = { core.bridge with stats := stats })
    (hlive : ∀ task id, task.job = .resolveHandle id → (core'.IsLive task ↔ core.IsLive task)) :
    Consistent core' := by
  refine ⟨?_, ?_, ?_, ?_, ?_, fun id number => ?_⟩
  · rw [hbridge]
    exact consistent.handlers_eq
  · rw [hbridge]
    exact consistent.handles_mounted
  · rw [hbridge]
    exact consistent.requested_mounted
  · rw [hbridge]
    exact consistent.pending_mounted
  · rw [hbridge]
    exact consistent.exclusive
  · have htask : ∀ task : Task (Job κ), (core'.IsLive task ∧ task.id = number ∧
        task.job = .resolveHandle id ↔ core.IsLive task ∧ task.id = number ∧
        task.job = .resolveHandle id) := fun task =>
      ⟨fun ⟨h, hid, hjob⟩ => ⟨(hlive task id hjob).1 h, hid, hjob⟩,
        fun ⟨h, hid, hjob⟩ => ⟨(hlive task id hjob).2 h, hid, hjob⟩⟩
    rw [hbridge]
    simp only [htask]
    exact consistent.pending_iff id number

variable {held : List (Task (Job κ))}

theorem of_bridge_eq (consistent : Consistent core) (hbridge : core'.bridge = core.bridge)
    (hlive : ∀ task id, task.job = .resolveHandle id → (core'.IsLive task ↔ core.IsLive task)) :
    Consistent core' := by
  have hsame : core'.bridge = { core.bridge with stats := core.bridge.stats } := hbridge
  exact consistent.congr hsame hlive

/-- The widget of a live job that picks up a handle waits for this very job. -/
theorem get?_pending (consistent : Consistent core) {task : Task (Job κ)} {id : NodeId}
    (hlive : core.IsLive task) (hjob : task.job = .resolveHandle id) :
    core.bridge.pending.get? id = some task.id :=
  (consistent.pending_iff id task.id).2 ⟨task, hlive, rfl, hjob⟩

/-- A job that does not pick up a handle may end. -/
theorem isLive_iff_of_other (ledger : Ledger held core) {ended task : Task (Job κ)} {id : NodeId}
    (hended : .scheduled ended ∈ core.journal) (hother : ∀ id, ended.job ≠ .resolveHandle id)
    (hjob : task.job = .resolveHandle id) :
    core.IsLive task ∧ task.id ≠ ended.id ↔ core.IsLive task := by
  refine ⟨And.left, fun hlive => ⟨hlive, fun heq => ?_⟩⟩
  rw [ledger.rosters.unique hlive.1 hended heq] at hjob
  exact hother id hjob

/-- A debouncer cancels no job that picks up a handle. -/
theorem isLive_retiring (ledger : Ledger held core) (number : DebouncerId)
    (reason : CancellationReason) {task : Task (Job κ)} {id : NodeId}
    (hjob : task.job = .resolveHandle id) :
    (core.retiring number reason).IsLive task ↔ core.IsLive task := by
  unfold Core.retiring
  cases hlatest : (core.debouncer number).latest? with
  | none => exact .rfl
  | some latest =>
      obtain ⟨owned, hscheduled, rfl, isOf⟩ := ledger.attributed.latest number latest hlatest
      refine (Core.isLive_cancelling owned.id reason task).trans ?_
      exact isLive_iff_of_other ledger hscheduled isOf.ne_resolveHandle hjob

theorem calling (consistent : Consistent core) (ledger : Ledger held core) (number : DebouncerId)
    (now : Instant) (body : TaskBody κ) : Consistent (core.calling number now body) := by
  refine consistent.of_bridge_eq rfl fun task id hjob => ?_
  rw [← isLive_retiring ledger number .superseded hjob]
  refine ((ledger.retiring number .superseded).isLive_scheduling _ (.debounced number body)
    task).trans (or_iff_right fun heq => ?_)
  rw [heq] at hjob
  cases hjob

/-! ## The steps that change requests -/

/-- A turn that picks up a handle ends the request of its widget. -/
theorem resolving (consistent : Consistent core) (ledger : Ledger held core) {task : Task (Job κ)}
    {id : NodeId} (hlive : core.IsLive task) (hjob : task.job = .resolveHandle id) :
    Consistent ((core.noting (.ran task.id)).resolving id) := by
  have hpending := consistent.get?_pending hlive hjob
  have hmounted := consistent.pending_mounted id (Table.contains_iff.2 ⟨_, hpending⟩)
  have hbridge : ((core.noting (.ran task.id)).resolving id).bridge =
      core.bridge.settle id (core.slots.peek? id) := rfl
  have hisMounted : ∀ other, (core.bridge.settle id (core.slots.peek? id)).isMounted other =
      core.bridge.isMounted other := fun other => Bridge.isMounted_congr (by simp)
  have hhandles : ∀ other,
      (core.bridge.settle id (core.slots.peek? id)).handles.contains other = true →
        other = id ∨ core.bridge.handles.contains other = true := by
    intro other hother
    by_cases hid : other = id
    · exact .inl hid
    · unfold Table.contains at hother
      rw [Bridge.get?_handles_settle, if_neg fun h => hid h.1] at hother
      exact .inr hother
  refine ⟨fun other => ?_, fun other hother => ?_, fun other hother => ?_, fun other hother => ?_,
    fun other hother => ?_, fun other number => ?_⟩
  · rw [hbridge, hisMounted, Bridge.handlers_settle]
    exact consistent.handlers_eq other
  · rw [hbridge, hisMounted]
    rcases hhandles other hother with rfl | hother
    · exact hmounted
    · exact consistent.handles_mounted other hother
  · rw [hbridge, hisMounted]
    rw [hbridge, Bridge.requested_settle] at hother
    exact consistent.requested_mounted other hother
  · rw [hbridge, hisMounted]
    rw [hbridge, Bridge.pending_settle, Table.contains_erase, Bool.and_eq_true] at hother
    exact consistent.pending_mounted other hother.2
  · rw [hbridge, Bridge.pending_settle, Table.contains_erase]
    rcases hhandles other hother with rfl | hother
    · simp
    · rw [consistent.exclusive other hother, Bool.and_false]
  · -- The widget waits for this job, so no other job that lives on picks up its handle.
    have hother : ∀ task', core.IsLive task' → task'.job = .resolveHandle other →
        (task'.id ≠ task.id ↔ other ≠ id) := by
      intro task' hlive' hjob'
      refine not_congr ⟨fun heq => ?_, ?_⟩
      · rw [ledger.rosters.unique hlive'.1 hlive.1 heq, hjob, Job.resolveHandle.injEq] at hjob'
        exact hjob'.symm
      · rintro rfl
        have hsame := (consistent.get?_pending hlive' hjob').symm.trans hpending
        exact Option.some.inj hsame
    have htask : ∀ task' : Task (Job κ), ((core.noting (.ran task.id)).resolving id).IsLive task' ↔
        core.IsLive task' ∧ task'.id ≠ task.id := fun task' => Core.isLive_ran task.id task'
    simp only [htask]
    rw [hbridge, Bridge.pending_settle, Table.get?_erase]
    by_cases hid : other = id
    · rw [if_pos hid]
      refine ⟨nofun, ?_⟩
      rintro ⟨task', ⟨hlive', hne⟩, -, hjob'⟩
      exact absurd hid ((hother task' hlive' hjob').1 hne)
    · rw [if_neg hid, consistent.pending_iff]
      constructor
      · rintro ⟨task', hlive', hnumber, hjob'⟩
        exact ⟨task', ⟨hlive', (hother task' hlive' hjob').2 hid⟩, hnumber, hjob'⟩
      · rintro ⟨task', ⟨hlive', -⟩, hnumber, hjob'⟩
        exact ⟨task', hlive', hnumber, hjob'⟩

/-- A request that the host has accepted waits for a new job. -/
theorem requesting (consistent : Consistent core) (ledger : Ledger held core) {id : NodeId}
    (mounted : core.bridge.isMounted id = true) (unresolved : core.bridge.handles.get? id = none)
    (idle : core.bridge.pending.get? id = none) : Consistent (core.requesting id) := by
  have hcontains : ∀ other, (core.requesting id).bridge.pending.contains other =
      (other == id || core.bridge.pending.contains other) :=
    fun other => Table.contains_insert _ _ _ _
  refine ⟨consistent.handlers_eq, consistent.handles_mounted, consistent.requested_mounted,
    fun other hother => ?_, fun other hother => ?_, fun other number => ?_⟩
  · rw [hcontains, Bool.or_eq_true, beq_iff_eq] at hother
    rcases hother with rfl | hother
    · exact mounted
    · exact consistent.pending_mounted other hother
  · have hne : other ≠ id := by
      rintro rfl
      have hnone : core.bridge.handles.contains other = false :=
        Table.contains_eq_false_iff.2 unresolved
      exact Bool.false_ne_true (hnone.symm.trans hother)
    rw [hcontains, consistent.exclusive other hother, beq_eq_false_iff_ne.2 hne, Bool.or_false]
  · have htask : ∀ task : Task (Job κ), (core.requesting id).IsLive task ↔
        task = ⟨core.scheduler.nextId, .start, .resolveHandle id⟩ ∨ core.IsLive task :=
      fun task => ledger.isLive_scheduling .start (.resolveHandle id) task
    have hget : (core.requesting id).bridge.pending.get? other =
        if other = id then some core.scheduler.nextId else core.bridge.pending.get? other :=
      Table.get?_insert _ _ _ _
    simp only [htask]
    rw [hget]
    by_cases hid : other = id
    · subst hid
      rw [if_pos rfl, Option.some.injEq]
      constructor
      · rintro rfl
        exact ⟨_, .inl rfl, rfl, rfl⟩
      · rintro ⟨task, rfl | hlive, hnumber, hjob⟩
        · exact hnumber
        · -- An older job of this widget would be waited for already.
          rw [consistent.get?_pending hlive hjob] at idle
          cases idle
    · rw [if_neg hid, consistent.pending_iff]
      constructor
      · rintro ⟨task, hlive, hnumber, hjob⟩
        exact ⟨task, .inr hlive, hnumber, hjob⟩
      · rintro ⟨task, rfl | hlive, hnumber, hjob⟩
        · exact absurd (Job.resolveHandle.inj hjob).symm hid
        · exact ⟨task, hlive, hnumber, hjob⟩

theorem isLive_withdrawing (id : NodeId) (task : Task (Job κ)) :
    (core.withdrawing id).IsLive task ↔
      core.IsLive task ∧ core.bridge.pending.get? id ≠ some task.id := by
  have hscheduled : ∀ task, .scheduled task ∈ (core.withdrawing id).journal ↔
      .scheduled task ∈ core.journal := fun task => Core.mem_withdrawing_iff (by simp)
  have hran : ∀ other, .ran other ∈ (core.withdrawing id).journal ↔ .ran other ∈ core.journal :=
    fun other => Core.mem_withdrawing_iff (by simp)
  unfold Core.IsLive
  rw [hscheduled, hran, Core.isCancelled_withdrawing, Bool.or_eq_false_iff, decide_eq_false_iff_not]
  grind

/-- A table that knows of mounted widgets only still does so when one is forgotten. -/
theorem isMounted_of_erase {α : Type} {table : Table α} {id other : NodeId}
    (hmounted : ∀ other, table.contains other = true → core.bridge.isMounted other = true)
    (hother : (table.erase id).contains other = true) :
    (core.withdrawing id).bridge.isMounted other = true := by
  rw [Table.contains_erase, Bool.and_eq_true] at hother
  rw [Core.isMounted_withdrawing, hother.1, hmounted other hother.2]
  rfl

/-- A widget that is forgotten takes its request with it. -/
theorem withdrawing (consistent : Consistent core) (ledger : Ledger held core) (id : NodeId) :
    Consistent (core.withdrawing id) := by
  refine ⟨fun other => ?_, fun other hother => ?_, fun other hother => ?_, fun other hother => ?_,
    fun other hother => ?_, fun other number => ?_⟩
  · rw [Core.isMounted_withdrawing, ← consistent.handlers_eq]
    exact Table.contains_erase _ _ _
  · exact isMounted_of_erase consistent.handles_mounted hother
  · exact isMounted_of_erase consistent.requested_mounted hother
  · exact isMounted_of_erase consistent.pending_mounted hother
  · have hcontains := (Table.contains_erase core.bridge.handles id other).symm.trans hother
    rw [Bool.and_eq_true] at hcontains
    refine (Table.contains_erase core.bridge.pending id other).trans ?_
    rw [consistent.exclusive other hcontains.2, Bool.and_false]
  · simp only [isLive_withdrawing]
    rw [Core.get?_pending_withdrawing]
    by_cases hid : other = id
    · subst hid
      rw [if_pos rfl]
      refine ⟨nofun, ?_⟩
      rintro ⟨task, ⟨hlive, hne⟩, -, hjob⟩
      exact absurd (consistent.get?_pending hlive hjob) hne
    · rw [if_neg hid, consistent.pending_iff]
      constructor
      · rintro ⟨task, hlive, hnumber, hjob⟩
        refine ⟨task, ⟨hlive, fun hpending => ?_⟩, hnumber, hjob⟩
        -- The cancelled job would have to be the job of both widgets.
        obtain ⟨task', hlive', hsame, hjob'⟩ := (consistent.pending_iff id task.id).1 hpending
        rw [ledger.rosters.unique hlive'.1 hlive.1 hsame, hjob] at hjob'
        exact hid (Job.resolveHandle.inj hjob')
      · rintro ⟨task, ⟨hlive, -⟩, hnumber, hjob⟩
        exact ⟨task, hlive, hnumber, hjob⟩

/-! ## All steps -/

theorem answered (consistent : Consistent core) {message : HostMessage} {accepted : Bool}
    (answered : Answered message core accepted core') : Consistent core' :=
  consistent.of_bridge_eq answered.bridge_eq fun task _ _ => answered.isLive_iff task

/-- A widget that has just been mounted has its handlers and nothing else. -/
theorem mounting (consistent : Consistent core) (id : NodeId) (kind : WidgetKind)
    (placement : Placement) (handlers : Interaction → Option (Handler κ)) :
    Consistent { core with bridge := core.bridge.recordMount id kind placement handlers } := by
  have hmounted : ∀ other, core.bridge.isMounted other = true →
      (core.bridge.recordMount id kind placement handlers).isMounted other = true := by
    intro other hother
    rw [Bridge.isMounted_recordMount, hother, Bool.or_true]
  refine ⟨fun other => ?_,
    fun other hother => hmounted other (consistent.handles_mounted other hother),
    fun other hother => hmounted other (consistent.requested_mounted other hother),
    fun other hother => hmounted other (consistent.pending_mounted other hother),
    consistent.exclusive, consistent.pending_iff⟩
  refine (Table.contains_insert _ _ _ _).trans ?_
  rw [consistent.handlers_eq]
  exact (Bridge.isMounted_recordMount _ _ _ _ _ _).symm

theorem placing (consistent : Consistent core) (id : NodeId) (placement : Placement) :
    Consistent { core with bridge := core.bridge.place id placement } := by
  have hmounted := core.bridge.isMounted_place id placement
  refine ⟨fun other => ?_, fun other hother => ?_, fun other hother => ?_, fun other hother => ?_,
    consistent.exclusive, consistent.pending_iff⟩
  · exact (consistent.handlers_eq other).trans (hmounted other).symm
  · exact (hmounted other).trans (consistent.handles_mounted other hother)
  · exact (hmounted other).trans (consistent.requested_mounted other hother)
  · exact (hmounted other).trans (consistent.pending_mounted other hother)

theorem binding (consistent : Consistent core) {id : NodeId}
    (mounted : core.bridge.isMounted id = true) (handlers : Interaction → Option (Handler κ)) :
    Consistent { core with
      bridge := { core.bridge with handlers := core.bridge.handlers.insert id handlers } } := by
  refine ⟨fun other => ?_, consistent.handles_mounted, consistent.requested_mounted,
    consistent.pending_mounted, consistent.exclusive, consistent.pending_iff⟩
  refine (Table.contains_insert _ _ _ _).trans ?_
  rw [consistent.handlers_eq]
  change (other == id || core.bridge.isMounted other) = core.bridge.isMounted other
  by_cases hid : other = id
  · rw [hid, mounted, Bool.or_true]
  · rw [beq_eq_false_iff_ne.2 hid, Bool.false_or]

theorem asking (consistent : Consistent core) {id : NodeId}
    (mounted : core.bridge.isMounted id = true) :
    Consistent { core with
      bridge := { core.bridge with requested := core.bridge.requested.insert id () } } := by
  refine ⟨consistent.handlers_eq, consistent.handles_mounted, fun other hother => ?_,
    consistent.pending_mounted, consistent.exclusive, consistent.pending_iff⟩
  have hcontains := (Table.contains_insert _ _ _ _).symm.trans hother
  rw [Bool.or_eq_true, beq_iff_eq] at hcontains
  rcases hcontains with rfl | hother
  · exact mounted
  · exact consistent.requested_mounted other hother

theorem step {allowed : Request κ → Prop} {walking : Prop} {held' : List (Task (Job κ))}
    (hallowed : ∀ request, allowed request → request.leavesJobs = true)
    (step : Step allowed walking held core held' core') (ledger : Ledger held core)
    (consistent : Consistent core) : Consistent core' := by
  cases step with
  | note idle =>
      refine consistent.of_bridge_eq rfl fun task _ _ => Core.isLive_noting ?_ ?_ task
      · rintro task rfl
        cases idle
      · rintro id rfl
        cases idle
  | schedule deadline free =>
      refine consistent.of_bridge_eq rfl fun task id hjob => ?_
      rw [ledger.isLive_scheduling]
      refine or_iff_right fun heq => ?_
      rw [heq] at hjob
      dsimp only at hjob
      rw [hjob] at free
      cases free
  -- Only what cancels from outside could leave a task of a request behind, and it is not allowed.
  | cancel permitted => cases hallowed _ permitted
  | clear permitted => cases hallowed _ permitted
  | newDebouncer delay => exact consistent.of_bridge_eq rfl fun _ _ _ => .rfl
  | debounce now body there => exact consistent.calling ledger _ now body
  | release stays =>
      refine consistent.of_bridge_eq rfl fun task id hjob => ?_
      exact isLive_retiring ledger _ .requested hjob
  | takeDue began => exact consistent.of_bridge_eq rfl fun _ _ _ => .rfl
  | skip cancelled => exact consistent
  -- A job that resolves no request runs, so the tasks of the requests stay as live as they were.
  | @run _ _ task live free =>
      refine consistent.of_bridge_eq rfl fun other id hjob => ?_
      have hscheduled : .scheduled task ∈ core.journal :=
        ledger.rosters.scheduled_of_held List.mem_cons_self
      refine (Core.isLive_ran task.id other).trans ?_
      refine isLive_iff_of_other ledger hscheduled (fun id heq => ?_) hjob
      rw [heq] at free
      cases free
  | @start _ _ task _ _ live job =>
      refine consistent.of_bridge_eq rfl fun other id hjob => ?_
      have hscheduled : .scheduled task ∈ core.journal :=
        ledger.rosters.scheduled_of_held List.mem_cons_self
      refine (Core.isLive_ran task.id other).trans ?_
      exact isLive_iff_of_other ledger hscheduled (by simp [job]) hjob
  | resolve live job =>
      have hlive := ledger.rosters.isLive_of_mem
        (List.mem_append_right core.scheduler.queue List.mem_cons_self) live
      exact consistent.resolving ledger hlive job
  | act permitted =>
      exact consistent.of_bridge_eq rfl fun task _ _ => Core.isLive_hostActing task
  | answer answered plain => exact consistent.answered answered
  | mount walks absent answered => exact (consistent.answered answered).mounting _ _ _ _
  | request mounted unresolved idle answered =>
      refine (consistent.answered answered).requesting (ledger.answered answered) ?_ ?_ ?_
      · rw [answered.bridge_eq]
        exact mounted
      · rw [answered.bridge_eq]
        exact unresolved
      · rw [answered.bridge_eq]
        exact idle
  | withdraw id => exact consistent.withdrawing ledger id
  | count stats busy => exact consistent.congr rfl fun _ _ _ => .rfl
  | publish permitted => exact consistent.of_bridge_eq rfl fun _ _ _ => .rfl
  | discard id => exact consistent.of_bridge_eq rfl fun _ _ _ => .rfl
  | adjust alike => exact consistent.of_bridge_eq rfl fun _ _ _ => .rfl
  | place walks id placement =>
      exact consistent.placing id placement
  | handlers mounted handlers => exact consistent.binding mounted handlers
  | asked mounted => exact consistent.asking mounted

end Consistent

/-! ## Runs -/

theorem Consistent.stepwise {allowed : Request κ → Prop}
    (hallowed : ∀ request, allowed request → request.leavesJobs = true) : Stepwise (S := S) allowed
    True (fun held core => Ledger held core ∧ Consistent core)
    (fun moment => ∃ held, (Ledger held moment.session.core ∧ Consistent moment.session.core) ∧
      moment.entry.IsTimely held moment.session.core) where
  step step h :=
    ⟨h.1.step hallowed step, h.2.step hallowed step h.1⟩
  moment h timely _ := ⟨_, h, timely⟩
  callback := fun _ ⟨held, h, _⟩ => ⟨held, h⟩
  walks _ _ _ := trivial

theorem consistent_fresh (sink : ChordSink) (host : Host) (app : S) :
    Consistent (Session.fresh (κ := κ) sink host app).core where
  handlers_eq _ := rfl
  handles_mounted id hid := by cases hid
  requested_mounted id hid := by cases hid
  pending_mounted id hid := by cases hid
  exclusive id hid := by cases hid
  pending_iff id number := ⟨nofun, fun ⟨task, hlive, _⟩ => by cases hlive.1⟩

/-- In every session that a fresh one reaches, and at every moment on the way, the tables of the
bridge fit together and fit the jobs: pending are exactly the live jobs that pick up handles, which
are in the queue or held by a pass, one for each widget.  A job that picks up a handle finds its
widget mounted and waiting for this very job. -/
theorem requests_consistent {sink : ChordSink} {host : Host} {app : S} {session : Session κ S}
    (reached : (Session.fresh sink host app).Reaches (fun request => request.leavesJobs = true)
      session) :
    Consistent session.core ∧
      (∃ held, ∀ task, session.core.IsLive task ↔ task ∈ session.scheduler.queue ++ held ∧
        session.scheduler.isCancelled task.id = false) ∧
      (∀ id id' number, session.bridge.pending.get? id = some number →
        session.bridge.pending.get? id' = some number → id = id') ∧
      ∀ moment : Moment κ S,
        moment.OccursFrom (fun request => request.leavesJobs = true) session →
          Consistent moment.session.core ∧
            ∀ task id, moment.entry = .ran task.id → .scheduled task ∈ moment.session.journal →
              task.job = .resolveHandle id → moment.session.bridge.isMounted id = true ∧
                moment.session.bridge.pending.get? id = some task.id := by
  have law := (Consistent.stepwise (κ := κ) (S := S) fun _ => id).governs_of_walking trivial
  obtain ⟨held, -, ledger, consistent⟩ := law.reaches
    ⟨[], trivial, .fresh sink host app, consistent_fresh sink host app⟩ reached
  refine ⟨consistent, ⟨held, ledger.isLive_iff⟩, fun id id' number hid hid' => ?_,
    fun moment hoccurs => ?_⟩
  · obtain ⟨task, hlive, rfl, hjob⟩ := (consistent.pending_iff id number).1 hid
    obtain ⟨task', hlive', hsame, hjob'⟩ := (consistent.pending_iff id' task.id).1 hid'
    rw [ledger.rosters.unique hlive'.1 hlive.1 hsame, hjob] at hjob'
    exact Job.resolveHandle.inj hjob'
  · obtain ⟨held', ⟨ledger', consistent'⟩, timely⟩ := law.occurs ⟨ledger, consistent⟩ hoccurs
    refine ⟨consistent', fun task id hran hscheduled hjob => ?_⟩
    obtain ⟨next, rest, rfl, hid, huncancelled⟩ := timely task.id hran
    have hlive : moment.session.core.IsLive task := by
      have hnext := ledger'.rosters.isLive_of_mem
        (List.mem_append_right _ List.mem_cons_self) (hid ▸ huncancelled)
      rwa [ledger'.rosters.unique hnext.1 hscheduled hid] at hnext
    have hpending := consistent'.get?_pending hlive hjob
    exact ⟨consistent'.pending_mounted id (Table.contains_iff.2 ⟨_, hpending⟩), hpending⟩

/-- A widget waits for its handle, and the pass that runs its job finds it mounted and waiting. -/
theorem requests_consistent_asked :
    Session.askedSession.bridge.pending.get? "a" = some 0 ∧ Consistent Session.askedSession.core ∧
      ∃ moment : Moment Empty Unit, moment.entry = .ran 0 ∧
        moment.session.bridge.isMounted "a" = true ∧
          moment.session.bridge.pending.get? "a" = some 0 := by
  have hconsistent := requests_consistent (Session.reaches_askedSession rfl rfl)
  refine ⟨by decide, hconsistent.1, ?_⟩
  have hmem : (⟨.ran 0, { Session.askedSession.noting (.passBegan .start) with
        scheduler := (Session.askedSession.scheduler.takeDue .start).2 }⟩ : Moment Empty Unit) ∈
      (Request.runDue).perform.moments (Code.plain.caller 1) Session.askedSession :=
    List.mem_of_getElem? (i := 1) rfl
  have hoccurs : Moment.OccursFrom (fun request => request.leavesJobs = true)
      Session.askedSession _ :=
    .intro (.request .runDue rfl) (Code.within_plain _) hmem
  have hran := (hconsistent.2.2.2 _ hoccurs).2 ⟨0, .start, .resolveHandle "a"⟩ "a" rfl
    (List.mem_of_getElem? (i := 1) rfl) rfl
  exact ⟨_, rfl, hran⟩

end EditorShell
