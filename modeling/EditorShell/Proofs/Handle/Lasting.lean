import EditorShell.Proofs.Run.Reaching
import EditorShell.Proofs.Run.StepwiseBridge
import EditorShell.Proofs.Task.Roster

/-!
# What lasts until a widget is unmounted

A mounted widget stays mounted, and a handle that is cached stays the same, until the journal tells
that the widget has been withdrawn (`follows_of_passes`).  This holds whatever is asked for in
between, also if jobs are cancelled or dropped and slots are filled past the host.

## Strategy

Only a job that picks up a handle could replace one.  Such a job, unless it is cancelled, is the one
that its widget waits for, and a widget with a handle waits for none (`Settled`).  The roster says
that no other job has its number.
-/

namespace EditorShell

variable {κ S : Type}

/-- The jobs that pick up handles are waited for, and only by mounted widgets without a handle.
`held` are the jobs that passes hold. -/
structure Settled (held : List (Task (Job κ))) (core : Core κ) : Prop where
  waited : ∀ task ∈ core.scheduler.queue ++ held, core.scheduler.isCancelled task.id = false →
    ∀ id, task.job = .resolveHandle id → core.bridge.pending.get? id = some task.id
  handles_mounted : ∀ id, core.bridge.handles.contains id = true → core.bridge.isMounted id = true
  exclusive : ∀ id, core.bridge.handles.contains id = true → core.bridge.pending.get? id = none

namespace Settled

variable {lasting : Prop} {held held' : List (Task (Job κ))} {core core' : Core κ}

/-- The jobs are the same, and so are handles and requests. -/
theorem congr (settled : Settled held core) (hscheduler : core'.scheduler = core.scheduler)
    (hpending : core'.bridge.pending = core.bridge.pending)
    (hhandles : core'.bridge.handles = core.bridge.handles)
    (hmounted : ∀ id, core.bridge.isMounted id = true → core'.bridge.isMounted id = true) :
    Settled held core' := by
  constructor
  · rw [hscheduler, hpending]
    exact settled.waited
  · intro id hid
    rw [hhandles] at hid
    exact hmounted id (settled.handles_mounted id hid)
  · rw [hhandles, hpending]
    exact settled.exclusive

/-- Jobs go, none comes, and none is revived. -/
theorem fewer (settled : Settled held core) {scheduler : Scheduler (Job κ)}
    (hflag : ∀ id, scheduler.isCancelled id = false → core.scheduler.isCancelled id = false)
    (hmem : ∀ task ∈ scheduler.queue ++ held', task ∈ core.scheduler.queue ++ held) :
    Settled held' { core with scheduler := scheduler } where
  waited task htask hlive := settled.waited task (hmem task htask) (hflag task.id hlive)
  handles_mounted := settled.handles_mounted
  exclusive := settled.exclusive

theorem takeDue (settled : Settled held core) (now : Instant) :
    Settled ((core.scheduler.takeDue now).1 ++ held)
      { core with scheduler := (core.scheduler.takeDue now).2 } := by
  have hperm := core.scheduler.takeDue_perm now held
  have hlive : (core.scheduler.live ++ held).Sublist (core.scheduler.queue ++ held) :=
    List.filter_sublist.append_right held
  refine settled.fewer (fun _ hflag => hflag) fun task htask => ?_
  exact hlive.subset (hperm.mem_iff.1 htask)

/-- The next held job is done with. -/
theorem tail {task : Task (Job κ)} (settled : Settled (task :: held) core) : Settled held core := by
  refine settled.fewer (fun _ hflag => hflag) fun other hother => ?_
  rcases List.mem_append.1 hother with hqueue | hheld
  · exact List.mem_append_left _ hqueue
  · exact List.mem_append_right _ (List.mem_cons_of_mem task hheld)

theorem cancelling (settled : Settled held core) (id : TaskId) (reason : CancellationReason) :
    Settled held (core.cancelling id reason) := by
  refine settled.fewer (fun other hflag => ?_) fun task htask => ?_
  · rw [Scheduler.isCancelled_cancel, Bool.or_eq_false_iff] at hflag
    exact hflag.2
  · rwa [Scheduler.queue_cancel] at htask

/-- If a new job picks up a handle, its widget waits for it from now on. -/
theorem withJob (settled : Settled held core) (deadline : Instant) (job : Job κ)
    {pending : Table TaskId}
    (hkept : ∀ task ∈ core.scheduler.queue ++ held, ∀ id, task.job = .resolveHandle id →
      core.bridge.pending.get? id = some task.id → pending.get? id = some task.id)
    (hnew : ∀ id, job = .resolveHandle id → pending.get? id = some core.scheduler.nextId)
    (hexclusive : ∀ id, core.bridge.handles.contains id = true → pending.get? id = none) :
    Settled held { core.scheduling deadline job with
      bridge := { core.bridge with pending := pending } } := by
  have hperm := core.scheduling_perm deadline job held
  refine ⟨fun task htask hlive id hjob => ?_, settled.handles_mounted, hexclusive⟩
  rcases List.mem_cons.1 (hperm.mem_iff.1 htask) with rfl | htask
  · exact hnew id hjob
  · exact hkept task htask id hjob (settled.waited task htask hlive id hjob)

theorem retiring (settled : Settled held core) (id : DebouncerId) (reason : CancellationReason) :
    Settled held (core.retiring id reason) := by
  unfold Core.retiring
  cases (core.debouncer id).latest? with
  | none => exact settled
  | some task => exact settled.cancelling task reason

theorem scheduling (settled : Settled held core) (deadline : Instant) {job : Job κ}
    (hjob : ∀ id, job ≠ .resolveHandle id) : Settled held (core.scheduling deadline job) :=
  settled.withJob deadline job (fun _ _ _ _ hwaits => hwaits) (fun id heq => absurd heq (hjob id))
    settled.exclusive

/-- A widget that waits for nothing and has no handle asks for one. -/
theorem requesting (settled : Settled held core) {id : NodeId}
    (unresolved : core.bridge.handles.get? id = none) (idle : core.bridge.pending.get? id = none) :
    Settled held (core.requesting id) := by
  have hget : ∀ other, (core.bridge.pending.insert id core.scheduler.nextId).get? other =
      if other = id then some core.scheduler.nextId else core.bridge.pending.get? other :=
    fun other => Table.get?_insert _ _ _ _
  refine settled.withJob .start (.resolveHandle id) (fun task _ other _ hwaits => ?_)
    (fun other heq => ?_) fun other hother => ?_
  · rw [hget, if_neg, hwaits]
    rintro rfl
    rw [idle] at hwaits
    cases hwaits
  · rw [hget, if_pos (Job.resolveHandle.inj heq).symm]
  · rw [hget, if_neg, settled.exclusive other hother]
    rintro rfl
    have hnone : core.bridge.handles.contains other = false :=
      Table.contains_eq_false_iff.2 unresolved
    exact Bool.false_ne_true (hnone.symm.trans hother)

/-- A job whose turn has come and that is not cancelled belongs to a widget without a handle. -/
theorem get?_handles_of_live {task : Task (Job κ)} {id : NodeId}
    (settled : Settled (task :: held) core) (live : core.scheduler.isCancelled task.id = false)
    (job : task.job = .resolveHandle id) : core.bridge.handles.get? id = none := by
  have hwaits := settled.waited task (by simp) live id job
  refine Table.contains_eq_false_iff.1 (Bool.eq_false_iff.2 fun hcached => ?_)
  rw [settled.exclusive id hcached] at hwaits
  cases hwaits

/-- A turn that picks up a handle ends the request of its widget and of no other one. -/
theorem resolving {task : Task (Job κ)} {id : NodeId} (settled : Settled (task :: held) core)
    (rosters : core.Rosters lasting (task :: held))
    (live : core.scheduler.isCancelled task.id = false) (job : task.job = .resolveHandle id) :
    Settled held ((core.noting (.ran task.id)).resolving id) := by
  have hbridge : ((core.noting (.ran task.id)).resolving id).bridge =
      core.bridge.settle id (core.slots.peek? id) := rfl
  have hwaits := settled.waited task (by simp) live id job
  -- No other job has its number, so the request that it resolves is awaited by no other one.
  have htask : task.id ∉ (core.scheduler.queue ++ held).map Task.id := by
    have hnodup := rosters.nodup
    have hperm : (core.scheduler.queue ++ task :: held).Perm
        (task :: (core.scheduler.queue ++ held)) := List.perm_middle
    rw [(hperm.map Task.id).nodup_iff, List.map_cons, List.nodup_cons] at hnodup
    exact hnodup.1
  have hmounted : ∀ other, (core.bridge.settle id (core.slots.peek? id)).isMounted other =
      core.bridge.isMounted other := fun other => Bridge.isMounted_congr (by simp)
  refine ⟨fun other hother hlive target hjob => ?_, fun other hother => ?_,
    fun other hother => ?_⟩
  · have hwaits' := settled.tail.waited other hother hlive target hjob
    rw [hbridge, Bridge.pending_settle, Table.get?_erase, if_neg, hwaits']
    rintro rfl
    obtain hsame : task.id = other.id := Option.some.inj (hwaits.symm.trans hwaits')
    exact htask (hsame ▸ List.mem_map_of_mem hother)
  · rw [hbridge] at hother
    rw [hbridge, hmounted]
    unfold Table.contains at hother
    rw [Bridge.get?_handles_settle] at hother
    split at hother
    · rename_i h
      rw [h.1]
      exact h.2.2
    · exact settled.handles_mounted other hother
  · rw [hbridge] at hother ⊢
    rw [Bridge.pending_settle, Table.get?_erase]
    by_cases hid : other = id
    · exact if_pos hid
    · unfold Table.contains at hother
      rw [Bridge.get?_handles_settle, if_neg fun h => hid h.1] at hother
      rw [if_neg hid]
      exact settled.exclusive other hother

/-- A widget that is forgotten takes its request with it. -/
theorem withdrawing (settled : Settled held core) (id : NodeId) :
    Settled held (core.withdrawing id) := by
  have hhandles : ∀ other, (core.withdrawing id).bridge.handles.contains other =
      (other != id && core.bridge.handles.contains other) := fun other => Table.contains_erase _ _ _
  -- Cancelling the job that the widget waits for leaves the other jobs as they are.
  have hcancelled : ∃ scheduler, (core.withdrawing id).scheduler = scheduler ∧
      Settled held { core with scheduler := scheduler } ∧
      ∀ task, core.bridge.pending.get? id = some task → scheduler.isCancelled task = true := by
    unfold Core.withdrawing
    cases hpending : core.bridge.pending.get? id with
    | none => exact ⟨core.scheduler, rfl, settled, nofun⟩
    | some task =>
        refine ⟨_, rfl, settled.cancelling task .targetUnmounted, fun other hother => ?_⟩
        obtain rfl := Option.some.inj hother
        rw [Scheduler.isCancelled_cancel, beq_self_eq_true, Bool.true_or]
  obtain ⟨scheduler, hscheduler, hsettled, hflag⟩ := hcancelled
  constructor
  · intro task htask hlive other hjob
    rw [hscheduler] at htask hlive
    have hwaits : core.bridge.pending.get? other = some task.id :=
      hsettled.waited task htask hlive other hjob
    rw [Core.get?_pending_withdrawing, if_neg, hwaits]
    rintro rfl
    rw [hflag task.id hwaits] at hlive
    cases hlive
  · intro other hother
    rw [hhandles, Bool.and_eq_true] at hother
    rw [Core.isMounted_withdrawing, hother.1, settled.handles_mounted other hother.2]
    rfl
  · intro other hother
    rw [hhandles, Bool.and_eq_true] at hother
    rw [Core.get?_pending_withdrawing, settled.exclusive other hother.2, ite_self]

theorem answered (settled : Settled held core) {message : HostMessage} {accepted : Bool}
    (answered : Answered message core accepted core') : Settled held core' := by
  have hbridge := answered.bridge_eq
  refine settled.congr answered.scheduler_eq (congrArg Bridge.pending hbridge)
    (congrArg Bridge.handles hbridge) fun id hmounted => ?_
  rw [hbridge]
  exact hmounted

/-- Every step keeps jobs and handles in order. -/
theorem step {allowed : Request κ → Prop} {walking : Prop}
    (step : Step allowed walking held core held' core') (rosters : core.Rosters lasting held)
    (settled : Settled held core) : Settled held' core' := by
  cases step with
  | schedule deadline free =>
      refine settled.scheduling deadline fun id heq => ?_
      rw [heq] at free
      cases free
  | debounce now body there =>
      exact ((settled.retiring _ .superseded).scheduling _ (by simp)).congr rfl rfl rfl
        fun _ hmounted => hmounted
  | cancel permitted => exact settled.cancelling _ _
  | release stays =>
      exact (settled.retiring _ .requested).congr rfl rfl rfl fun _ hmounted => hmounted
  -- Emptying the queue only takes jobs away, and what is said is said of the jobs that are there.
  | clear permitted =>
      exact settled.fewer (fun _ hflag => hflag)
        fun task htask => List.mem_append_right core.scheduler.queue htask
  | takeDue began => exact settled.takeDue _
  | skip cancelled => exact settled.tail
  | run live free => exact settled.tail.congr rfl rfl rfl fun _ hmounted => hmounted
  | start live job => exact settled.tail.congr rfl rfl rfl fun _ hmounted => hmounted
  | resolve live job => exact settled.resolving rosters live job
  | answer answered plain => exact settled.answered answered
  | @mount _ _ core' id node placement walks absent answered =>
      refine (settled.answered answered).congr rfl rfl rfl fun other hother => ?_
      refine (Bridge.isMounted_recordMount _ _ _ _ _ _).trans ?_
      rw [hother, Bool.or_true]
  | place walks id placement =>
      exact settled.congr rfl rfl rfl fun other hother =>
        (Bridge.isMounted_place _ _ _ _).trans hother
  | request mounted unresolved idle answered =>
      refine (settled.answered answered).requesting ?_ ?_
      · rw [answered.bridge_eq]
        exact unresolved
      · rw [answered.bridge_eq]
        exact idle
  | withdraw id => exact settled.withdrawing id
  | _ => exact settled.congr rfl rfl rfl fun _ hmounted => hmounted

end Settled

/-! ## What becomes of a widget -/

/-- A widget that is mounted stays so and keeps its handle, unless it is withdrawn. -/
theorem Step.lasts {allowed : Request κ → Prop} {walking : Prop} {held held' : List (Task (Job κ))}
    {core core' : Core κ} (step : Step allowed walking held core held' core')
    (settled : Settled held core) (id : NodeId) :
    core'.journal = .withdrawn id :: core.journal ∨
      (core.bridge.isMounted id = true → core'.bridge.isMounted id = true) ∧
        ∀ handle, core.bridge.handles.get? id = some handle →
          core'.bridge.handles.get? id = some handle := by
  cases step with
  | @resolve _ _ task other live job =>
      refine .inr ⟨fun hmounted => ?_, fun handle hcached => ?_⟩
      · have hsettle := congrArg (fun mounted => Table.get? mounted id)
          (core.bridge.mounted_settle other (core.slots.peek? other))
        exact (Bridge.isMounted_congr hsettle).trans hmounted
      · -- A request is still pending, so its widget has no handle that a new one could replace.
        have hnone := settled.get?_handles_of_live live job
        have hne : id ≠ other := by
          rintro rfl
          rw [hnone] at hcached
          cases hcached
        have hget := core.bridge.get?_handles_settle other (core.slots.peek? other) id
        rw [if_neg fun h => hne h.1] at hget
        exact hget.trans hcached
  | answer answered plain =>
      rw [answered.bridge_eq]
      exact .inr ⟨fun hmounted => hmounted, fun _ hcached => hcached⟩
  | @mount _ _ core' other node placement walks absent answered =>
      have hbridge := answered.bridge_eq
      refine .inr ⟨fun hmounted => ?_, fun handle hcached => ?_⟩
      · refine (Bridge.isMounted_recordMount _ _ _ _ _ _).trans ?_
        rw [hbridge, hmounted, Bool.or_true]
      · exact (congrArg (Table.get? · id) (congrArg Bridge.handles hbridge)).trans hcached
  | place walks other placement =>
      exact .inr ⟨fun hmounted => (Bridge.isMounted_place _ _ _ _).trans hmounted,
        fun _ hcached => hcached⟩
  | @request _ _ core' other mounted unresolved idle answered =>
      have hbridge := answered.bridge_eq
      refine .inr ⟨fun hmounted => ?_, fun handle hcached => ?_⟩
      · exact (congrArg (Bridge.isMounted · id) hbridge).trans hmounted
      · exact (congrArg (Table.get? · id) (congrArg Bridge.handles hbridge)).trans hcached
  | withdraw other =>
      -- The withdrawal of the widget itself is the one that counts, if the widget was mounted.
      by_cases hid : id = other
      · subst hid
        by_cases hmounted : core.bridge.isMounted id = true
        · exact .inl (if_pos hmounted)
        · refine .inr ⟨fun h => absurd h hmounted, fun handle hcached => ?_⟩
          have hcontains := Table.contains_iff.2 ⟨handle, hcached⟩
          exact absurd (settled.handles_mounted id hcontains) hmounted
      · refine .inr ⟨fun hmounted => ?_, fun handle hcached => ?_⟩
        · rw [Core.isMounted_withdrawing, hmounted, bne_iff_ne.2 hid]
          rfl
        · rw [Core.get?_handles_withdrawing, if_neg hid]
          exact hcached
  | _ => exact .inr ⟨fun hmounted => hmounted, fun _ hcached => hcached⟩

/-- The journal has grown since `first`.  What was mounted then is mounted still, and what was
cached is cached still, except for the widgets that have been withdrawn since. -/
def Follows (first core : Core κ) : Prop :=
  ∃ noted, core.journal = noted ++ first.journal ∧ ∀ id, .withdrawn id ∈ noted ∨
    (first.bridge.isMounted id = true → core.bridge.isMounted id = true) ∧
      ∀ handle, first.bridge.handles.get? id = some handle →
        core.bridge.handles.get? id = some handle

theorem Follows.refl (core : Core κ) : Follows core core :=
  ⟨[], rfl, fun _ => .inr ⟨fun hmounted => hmounted, fun _ hcached => hcached⟩⟩

theorem Follows.step {allowed : Request κ → Prop} {walking : Prop}
    {held held' : List (Task (Job κ))} {first core core' : Core κ}
    (step : Step allowed walking held core held' core') (settled : Settled held core)
    (follows : Follows first core) : Follows first core' := by
  obtain ⟨noted, hjournal, hlasts⟩ := follows
  obtain ⟨noted', hjournal'⟩ := step.journal_suffix
  refine ⟨noted' ++ noted, by rw [← hjournal', hjournal, List.append_assoc], fun id => ?_⟩
  rcases hlasts id with hgone | ⟨hmounted, hcached⟩
  · exact .inl (List.mem_append_right _ hgone)
  · rcases step.lasts settled id with hwithdrawn | ⟨hmounted', hcached'⟩
    · have hnoted : noted' = [.withdrawn id] := by
        rw [← hjournal'] at hwithdrawn
        exact List.append_cancel_right hwithdrawn
      exact .inl (by simp [hnoted])
    · exact .inr ⟨fun h => hmounted' (hmounted h),
        fun handle h => hcached' handle (hcached handle h)⟩

/-! ## Runs -/

theorem stepwise_follows (allowed : Request κ → Prop) (first : Core κ) : Stepwise (S := S) allowed
    True (fun held core => core.Rosters False held ∧ Settled held core ∧ Follows first core)
    (fun moment => ∃ held, moment.session.core.Rosters False held ∧
      Settled held moment.session.core ∧ Follows first moment.session.core) where
  step step h := by
    obtain ⟨rosters, settled, follows⟩ := h
    exact ⟨rosters.step step False.elim, settled.step step rosters, follows.step step settled⟩
  moment h _ _ := ⟨_, h⟩
  callback _ h := h
  walks _ _ _ := trivial

theorem settled_fresh (sink : ChordSink) (host : Host) (app : S) :
    Settled [] (Session.fresh (κ := κ) sink host app).core where
  waited := by simp [Session.fresh, Session.core, Scheduler.empty]
  handles_mounted id hid := by cases hid
  exclusive id hid := by cases hid

/-- What is mounted or cached in a session lasts until it is withdrawn. -/
theorem follows_of_passes {allowed : Request κ → Prop} {sink : ChordSink} {host : Host} {app : S}
    {session later : Session κ S} (reached : (Session.fresh sink host app).Reaches allowed session)
    (passed : session.Passes allowed later) : Follows session.core later.core := by
  have hfresh := settled_fresh (κ := κ) sink host app
  obtain ⟨held, -, rosters, settled, -⟩ :=
    ((stepwise_follows allowed _).governs_of_walking trivial).reaches
      ⟨[], trivial, .empty, hfresh, Follows.refl _⟩ reached
  -- The session that is reached is the one to follow from.
  obtain ⟨held', -, -, follows⟩ := (stepwise_follows allowed session.core).of_passes trivial
    (fun moment hQ => hQ) ⟨rosters, settled, Follows.refl session.core⟩ passed
  exact follows

end EditorShell
