import EditorShell.Proofs.Task.Bursts
import EditorShell.Proofs.Widget.Asking

/-!
# Dropped jobs

The bridge and the debouncers remember their jobs.  They forget a job when they cancel it, and they
learn of its turn.  When the queue is emptied a job goes without either, so whoever waits for it
goes on waiting, and a widget whose handle it was to pick up does not ask again.

`Core.Drops` tells which jobs a run has dropped.  With these everything the bridge and the
debouncers wait for is accounted for: it waits in the queue or in the batch of a pass, or it has
been dropped (`waiting_jobs_mirrored`).

## Strategy

A dropped job is like one that is held by a pass that never goes on.  So a step of a run that drops
jobs is a step of a run that keeps them, with the dropped ones among those that are held
(`Step.over`), and the roster of such a run loses no job.
-/

namespace EditorShell

variable {κ S : Type}

/-! ## What has been dropped -/

/-- The requests of a program that never empties the queue. -/
def Request.Lasting (allowed : Request κ → Prop) (request : Request κ) : Prop :=
  allowed request ∧ request ≠ .clearTasks

/-- Steps lead from one core to another, and these jobs have been dropped on the way. -/
inductive Core.Drops (allowed : Request κ → Prop) (waiting : List (Task (Job κ)))
    (first : Core κ) : List (Task (Job κ)) → List (Task (Job κ)) → Core κ → Prop where
  | refl : Drops allowed waiting first [] waiting first
  | step {dropped held core held' core'} (drops : Drops allowed waiting first dropped held core)
      (step : Step (Request.Lasting allowed) True held core held' core') :
      Drops allowed waiting first dropped held' core'
  /-- The queue is emptied. -/
  | clear {dropped held core} (drops : Drops allowed waiting first dropped held core)
      (permitted : allowed .clearTasks) :
      Drops allowed waiting first (core.scheduler.queue ++ dropped) held
        { core with scheduler := core.scheduler.clear }

theorem Core.Drops.eq_nil {allowed : Request κ → Prop} {waiting dropped held : List (Task (Job κ))}
    {first core : Core κ} (drops : Core.Drops allowed waiting first dropped held core)
    (hclear : ¬ allowed .clearTasks) : dropped = [] := by
  induction drops with
  | refl => rfl
  | step _ _ ih => exact ih
  | clear _ permitted _ => exact absurd permitted hclear

/-- A step empties the queue, or it may be made whatever else is held, and drops nothing. -/
theorem Step.over {allowed : Request κ → Prop} {walking : Prop}
    {held held' : List (Task (Job κ))} {core core' : Core κ}
    (step : Step allowed walking held core held' core') :
    (allowed .clearTasks ∧ held' = held ∧
      core' = { core with scheduler := core.scheduler.clear }) ∨
    ∀ others, Step (Request.Lasting allowed) walking (held ++ others) core (held' ++ others)
      core' := by
  cases step with
  | clear permitted => exact .inl ⟨permitted, rfl, rfl⟩
  | note idle => exact .inr fun _ => .note idle
  | count stats busy => exact .inr fun _ => .count stats busy
  | schedule deadline free => exact .inr fun _ => .schedule deadline free
  | cancel permitted => exact .inr fun _ => .cancel ⟨permitted, nofun⟩
  | newDebouncer delay => exact .inr fun _ => .newDebouncer delay
  | debounce now body there => exact .inr fun _ => .debounce now body there
  | release stays => exact .inr fun _ => .release stays
  -- The batch comes to stand before what is held already, and the others stay behind that.
  | takeDue began =>
      refine .inr fun _ => ?_
      rw [List.append_assoc]
      exact .takeDue began
  | skip cancelled => exact .inr fun _ => .skip cancelled
  | run live free => exact .inr fun _ => .run live free
  | start live job => exact .inr fun _ => .start live job
  | resolve live job => exact .inr fun _ => .resolve live job
  | publish permitted => exact .inr fun _ => .publish ⟨permitted, nofun⟩
  | discard id => exact .inr fun _ => .discard id
  | adjust alike => exact .inr fun _ => .adjust alike
  | act permitted => exact .inr fun _ => .act ⟨permitted, nofun⟩
  | answer answered plain => exact .inr fun _ => .answer answered plain
  | mount walks absent answered => exact .inr fun _ => .mount walks absent answered
  | place walks id placement => exact .inr fun _ => .place walks id placement
  | handlers mounted handlers => exact .inr fun _ => .handlers mounted handlers
  | request mounted unresolved idle answered =>
      exact .inr fun _ => .request mounted unresolved idle answered
  | asked mounted => exact .inr fun _ => .asked mounted
  | withdraw id => exact .inr fun _ => .withdraw id

theorem Core.Rosters.clear {lasting : Prop} {held dropped : List (Task (Job κ))} {core : Core κ}
    (rosters : core.Rosters lasting (held ++ dropped)) :
    Core.Rosters lasting (held ++ (core.scheduler.queue ++ dropped))
      { core with scheduler := core.scheduler.clear } := by
  have hperm : (held ++ (core.scheduler.queue ++ dropped)).Perm
      (core.scheduler.queue ++ (held ++ dropped)) := List.perm_append_comm_assoc _ _ _
  exact rosters.of_subperm rfl hperm.subperm (fun _ hcancelled => hcancelled)
    fun _ task hmem _ => hperm.mem_iff.2 hmem

/-! ## What the bridge waits for -/

/-- The jobs that the bridge waits for have had no turn, and nobody cancels them but the embedding
program. -/
def Core.Expects (allowed : Request κ → Prop) (core : Core κ) : Prop :=
  ∀ id number, core.bridge.pending.get? id = some number → .ran number ∉ core.journal ∧
    (core.scheduler.isCancelled number = true → ∃ reason, allowed (.cancelTask number reason))

namespace Core.Expects

variable {allowed : Request κ → Prop} {core core' : Core κ}

/-- The bridge waits for nothing new, and what it waits for gets no turn and is not cancelled. -/
theorem grow (expects : core.Expects allowed)
    (hgrown : ∀ id number, core'.bridge.pending.get? id = some number →
      core.bridge.pending.get? id = some number ∧
        (.ran number ∈ core'.journal → .ran number ∈ core.journal) ∧
        (core'.scheduler.isCancelled number = true → core.scheduler.isCancelled number = true ∨
          ∃ reason, allowed (.cancelTask number reason))) : core'.Expects allowed := by
  intro id number hpending
  obtain ⟨hbefore, hran, hcancelled⟩ := hgrown id number hpending
  obtain ⟨hunrun, hpermitted⟩ := expects id number hbefore
  exact ⟨fun hmem => hunrun (hran hmem), fun hnow => (hcancelled hnow).elim hpermitted fun h => h⟩

/-- Neither the bridge's requests nor turns and flags change. -/
theorem beside (expects : core.Expects allowed)
    (hpending : core'.bridge.pending = core.bridge.pending)
    (hran : ∀ id, .ran id ∈ core'.journal → .ran id ∈ core.journal)
    (hcancelled : core'.scheduler.cancelled = core.scheduler.cancelled) :
    core'.Expects allowed := by
  refine expects.grow fun id number h => ⟨hpending ▸ h, hran number, fun hnow => .inl ?_⟩
  exact (Scheduler.isCancelled_congr hcancelled number).symm.trans hnow

variable {held held' : List (Task (Job κ))} {lasting : Prop}

/-- The job that a widget waits for is no other job. -/
theorem ne_of_job_ne (rosters : core.Rosters lasting held) (attributed : Attributed allowed core)
    {id : NodeId} {number : TaskId} (hpending : core.bridge.pending.get? id = some number)
    {task : Task (Job κ)} (hscheduled : .scheduled task ∈ core.journal)
    (hjob : task.job ≠ .resolveHandle id) : number ≠ task.id := by
  intro heq
  have hsame := rosters.unique (attributed.pending id number hpending) hscheduled heq
  exact hjob (congrArg Task.job hsame).symm

/-- A debouncer cancels no job that the bridge waits for. -/
theorem retiring (expects : core.Expects allowed) (rosters : core.Rosters lasting held)
    (attributed : Attributed allowed core) {debouncer : DebouncerId} {reason : CancellationReason}
    (hpending : core'.bridge.pending = core.bridge.pending)
    (hran : ∀ id, .ran id ∈ core'.journal → .ran id ∈ core.journal)
    (hcancelled : ∀ id, core'.scheduler.isCancelled id =
      (core.retiring debouncer reason).scheduler.isCancelled id) : core'.Expects allowed := by
  refine expects.grow fun id number h => ?_
  rw [hpending] at h
  refine ⟨h, hran number, fun hnow => .inl ?_⟩
  rw [hcancelled, Core.isCancelled_retiring, Bool.or_eq_true, decide_eq_true_eq] at hnow
  refine hnow.resolve_left fun hlatest => ?_
  obtain ⟨task, hscheduled, hid, isOf⟩ := attributed.latest debouncer number hlatest
  exact ne_of_job_ne rosters attributed h hscheduled (isOf.ne_resolveHandle id) hid.symm

/-- The turn of another job comes. -/
theorem ran (expects : core.Expects allowed) {task : Task (Job κ)}
    (rosters : core.Rosters lasting (task :: held)) (attributed : Attributed allowed core)
    (hpending : ∀ id number, core'.bridge.pending.get? id = some number →
      core.bridge.pending.get? id = some number ∧ task.job ≠ .resolveHandle id)
    (hjournal : core'.journal = .ran task.id :: core.journal)
    (hcancelled : core'.scheduler.cancelled = core.scheduler.cancelled) :
    core'.Expects allowed := by
  refine expects.grow fun id number h => ?_
  obtain ⟨hbefore, hjob⟩ := hpending id number h
  refine ⟨hbefore, fun hran => ?_, fun hnow => .inl ?_⟩
  · rw [hjournal, List.mem_cons, Entry.ran.injEq] at hran
    exact hran.resolve_left
      (ne_of_job_ne rosters attributed hbefore (rosters.scheduled_of_held List.mem_cons_self) hjob)
  · exact (Scheduler.isCancelled_congr hcancelled number).symm.trans hnow

/-- The bridge waits for a new job. -/
theorem requesting (expects : core.Expects allowed) (rosters : core.Rosters lasting held)
    (attributed : Attributed allowed core) (id : NodeId) :
    (core.requesting id).Expects allowed := by
  intro other number hpending
  have hget : (core.requesting id).bridge.pending.get? other =
      if other = id then some core.scheduler.nextId else core.bridge.pending.get? other :=
    Table.get?_insert _ _ _ _
  have hran : ∀ {number}, .ran number ∈ (core.requesting id).journal →
      .ran number ∈ core.journal := fun hmem => by
    simpa [Core.requesting, Core.scheduling] using hmem
  rw [hget] at hpending
  split at hpending
  · obtain rfl := Option.some.inj hpending
    refine ⟨fun hmem => rosters.not_ran_nextId (hran hmem), fun hcancelled => ?_⟩
    -- No job of the bridge or of a debouncer has the number yet.
    refine (attributed.cancelled _ hcancelled).resolve_right ?_
    rintro ⟨task, hscheduled, hid, -⟩
    exact Nat.ne_of_lt (rosters.id_lt_nextId hscheduled) hid
  · obtain ⟨hunrun, hpermitted⟩ := expects other number hpending
    exact ⟨fun hmem => hunrun (hran hmem), hpermitted⟩

/-- A widget that is forgotten takes only its own request with it. -/
theorem withdrawing (expects : core.Expects allowed) (rosters : core.Rosters lasting held)
    (attributed : Attributed allowed core) (id : NodeId) :
    (core.withdrawing id).Expects allowed := by
  refine expects.grow fun other number hpending => ?_
  rw [Core.get?_pending_withdrawing] at hpending
  split at hpending
  · cases hpending
  · rename_i hne
    refine ⟨hpending, (Core.mem_withdrawing_iff (by simp)).1, fun hcancelled => .inl ?_⟩
    rw [Core.isCancelled_withdrawing, Bool.or_eq_true, decide_eq_true_eq] at hcancelled
    refine hcancelled.resolve_left fun hforgotten => ?_
    refine ne_of_job_ne rosters attributed hpending (attributed.pending id number hforgotten) ?_ rfl
    exact fun hjob => hne (Job.resolveHandle.inj hjob).symm

theorem step {walking : Prop} (step : Step allowed walking held core held' core')
    (rosters : core.Rosters lasting held) (attributed : Attributed allowed core)
    (expects : core.Expects allowed) :
    core'.Expects allowed := by
  cases step with
  | note idle =>
      refine expects.beside rfl (fun id hmem => (Core.mem_noting_iff ?_).1 hmem) rfl
      rintro rfl
      cases idle
  | schedule deadline free =>
      exact expects.beside rfl (fun id hmem => by simpa [Core.scheduling] using hmem) rfl
  | @cancel _ _ number reason permitted =>
      refine expects.grow fun other waited hpending => ⟨hpending, id, fun hcancelled => ?_⟩
      simp only [Core.cancelling, Scheduler.isCancelled_cancel, Bool.or_eq_true, beq_iff_eq]
        at hcancelled
      rcases hcancelled with rfl | hcancelled
      · exact .inr ⟨reason, permitted⟩
      · exact .inl hcancelled
  | @debounce _ _ number now body there =>
      have hran : ∀ id, .ran id ∈ (core.calling number now body).journal →
          .ran id ∈ core.journal := by
        intro id hmem
        rw [Core.journal_calling] at hmem
        simpa using hmem
      exact expects.retiring rosters attributed rfl hran fun _ => rfl
  | release stays =>
      exact expects.retiring rosters attributed rfl (fun _ hmem => hmem) fun _ => rfl
  | run live free =>
      refine expects.ran rosters attributed (fun id number hpending => ⟨hpending, fun hjob => ?_⟩)
        rfl rfl
      rw [hjob] at free
      cases free
  | start live job =>
      refine expects.ran rosters attributed (fun id number hpending => ⟨hpending, fun hjob => ?_⟩)
        rfl rfl
      rw [job] at hjob
      cases hjob
  | @resolve _ _ task id live job =>
      refine expects.ran rosters attributed (fun other number hpending => ?_) rfl rfl
      have hbridge : ((core.noting (.ran task.id)).resolving id).bridge.pending =
          core.bridge.pending.erase id := Bridge.pending_settle _ _ _
      rw [hbridge, Table.get?_erase] at hpending
      split at hpending
      · cases hpending
      · rename_i hne
        refine ⟨hpending, fun hjob => hne ?_⟩
        exact Job.resolveHandle.inj (hjob.symm.trans job)
  | act permitted =>
      exact expects.beside rfl (fun id hmem => (Core.mem_hostActing_iff (by simp)).1 hmem) rfl
  | answer answered plain =>
      exact expects.beside (congrArg Bridge.pending answered.bridge_eq)
        (fun id hmem => (answered.mem_journal_iff (by simp) (by simp)).1 hmem)
        (congrArg Scheduler.cancelled answered.scheduler_eq)
  | mount walks absent answered =>
      have hpending := congrArg Bridge.pending answered.bridge_eq
      exact expects.beside hpending
        (fun id hmem => (answered.mem_journal_iff (by simp) (by simp)).1 hmem)
        (congrArg Scheduler.cancelled answered.scheduler_eq)
  | @request _ _ asked id mounted unresolved idle answered =>
      have hasked : asked.Expects allowed :=
        expects.beside (congrArg Bridge.pending answered.bridge_eq)
          (fun id hmem => (answered.mem_journal_iff (by simp) (by simp)).1 hmem)
          (congrArg Scheduler.cancelled answered.scheduler_eq)
      exact hasked.requesting (rosters.answered answered) (attributed.answered answered) id
  | withdraw id => exact expects.withdrawing rosters attributed id
  -- The other steps leave requests, turns and flags as they are.
  | _ => exact expects.beside rfl (fun _ hmem => hmem) rfl

end Core.Expects

/-! ## In every step -/

/-- When these jobs have been dropped, none has been lost otherwise. -/
structure Core.Tracks (allowed : Request κ → Prop) (held dropped : List (Task (Job κ)))
    (core : Core κ) : Prop where
  rosters : core.Rosters True (held ++ dropped)
  attributed : Attributed (Request.Lasting allowed) core
  debounces : Session.Debounces core
  expects : core.Expects (Request.Lasting allowed)

/-- Steps have led on from a first core, and the jobs dropped on the way, together with those that
were dropped before, are all that is lost. -/
def Core.TracksFrom (allowed : Request κ → Prop) (before waiting : List (Task (Job κ)))
    (first : Core κ) : Assertion κ := fun held core =>
  ∃ dropped, Core.Drops allowed waiting first dropped held core ∧
    Core.Tracks allowed held (dropped ++ before) core

namespace Core

variable {allowed : Request κ → Prop} {before waiting held held' dropped : List (Task (Job κ))}
  {first core core' : Core κ}

theorem Tracks.fresh (allowed : Request κ → Prop) (sink : ChordSink) (host : Host) (app : S) :
    Core.Tracks allowed [] [] (Session.fresh sink host app).core where
  rosters := .empty
  attributed := .fresh sink host app
  debounces := .fresh sink host app
  expects _ _ hpending := by cases hpending

theorem Tracks.tracksFrom (tracks : Core.Tracks allowed held dropped core) :
    Core.TracksFrom allowed dropped held core held core :=
  ⟨[], .refl, tracks⟩

/-- The jobs of the queue are lost when it is emptied. -/
theorem Tracks.clear (tracks : Core.Tracks allowed held dropped core) :
    Core.Tracks allowed held (core.scheduler.queue ++ dropped)
      { core with scheduler := core.scheduler.clear } where
  rosters := tracks.rosters.clear
  attributed := tracks.attributed.grow (List.suffix_refl _) (fun _ _ => .inl) (fun _ _ => .inl)
    fun _ => .inl
  debounces := tracks.debounces.grow (fun _ => ⟨rfl, rfl⟩) (fun _ _ hmem _ => hmem)
    fun _ hlive => hlive
  expects := tracks.expects.beside rfl (fun _ hmem => hmem) rfl

/-- No other step loses a job. -/
theorem Tracks.step (tracks : Core.Tracks allowed held dropped core)
    (beside : ∀ others, Step (Request.Lasting allowed) True (held ++ others) core (held' ++ others)
      core') : Core.Tracks allowed held' dropped core' where
  rosters := tracks.rosters.step (beside dropped) fun _ lasting => lasting.2 rfl
  attributed := tracks.attributed.step (fun _ _ => id) (beside dropped)
  debounces := tracks.debounces.step (beside dropped)
  expects := tracks.expects.step (beside dropped) tracks.rosters tracks.attributed

theorem TracksFrom.step (step : Step allowed True held core held' core')
    (tracks : Core.TracksFrom allowed before waiting first held core) :
    Core.TracksFrom allowed before waiting first held' core' := by
  obtain ⟨dropped, drops, tracks⟩ := tracks
  rcases step.over with ⟨permitted, rfl, rfl⟩ | beside
  · refine ⟨core.scheduler.queue ++ dropped, drops.clear permitted, ?_⟩
    rw [List.append_assoc]
    exact tracks.clear
  · have hstep := beside []
    rw [List.append_nil, List.append_nil] at hstep
    exact ⟨dropped, drops.step hstep, tracks.step beside⟩

theorem TracksFrom.stepwise (allowed : Request κ → Prop) (before waiting : List (Task (Job κ)))
    (first : Core κ) :
    Stepwise (S := S) allowed True (Core.TracksFrom allowed before waiting first) fun moment =>
      ∃ held, Core.TracksFrom allowed before waiting first held moment.session.core where
  step step tracks := tracks.step step
  moment tracks _ _ := ⟨_, tracks⟩
  callback _ tracks := tracks
  walks _ _ _ := trivial

theorem Tracks.isLive_iff (tracks : Core.Tracks allowed held dropped core) (task : Task (Job κ)) :
    core.IsLive task ↔ core.scheduler.isCancelled task.id = false ∧
      (task ∈ core.scheduler.queue ++ held ∨ task ∈ dropped) := by
  rw [tracks.rosters.isLive_iff trivial, ← List.append_assoc, List.mem_append, and_comm]

/-- A job that has been dropped never has a turn. -/
theorem Tracks.not_ran_of_passes {session later : Session κ S}
    (tracks : Core.Tracks allowed held dropped session.core)
    (hpasses : session.Passes allowed later) {task : Task (Job κ)} (hmem : task ∈ dropped) :
    .ran task.id ∉ later.journal := by
  have steps := TracksFrom.stepwise (S := S) allowed dropped held session.core
  obtain ⟨held', since, -, htracks⟩ := steps.of_passes trivial
    (fun _ hheld => hheld) tracks.tracksFrom hpasses
  intro hran
  refine htracks.rosters.unrun_of_mem task ?_ (Entry.mem_ranIds.2 hran)
  exact List.mem_append_right _ (List.mem_append_right _ (List.mem_append_right _ hmem))

end Core

/-! ## Asking again -/

namespace Session

variable {caller : Caller κ S} {session : Session κ S} {id : NodeId}

/-- A session in which a job for a receiver waits for the next pass. -/
def delivering (session : Session κ S) (id : NodeId) (receiver : Receiver κ) : Session κ S :=
  { session with
    scheduler := (session.scheduler.schedule .start (.deliverHandle id receiver)).2
    journal := .scheduled ⟨session.scheduler.nextId, .start, .deliverHandle id receiver⟩ ::
      session.journal }

/-- A widget that has no handle, and for which nothing is under way, is asked for its handle. -/
theorem run_resolveHandle (session : Session κ S) (id : NodeId) (receiver : Receiver κ) :
    ((resolveHandle id receiver).run caller session).2 =
      (if session.bridge.isMounted id && !session.bridge.handles.contains id &&
          !session.bridge.pending.contains id then
        ((requestHandle id).run caller session).2
      else session).delivering id receiver := by
  unfold resolveHandle
  rw [Act.run_bind, Act.run_read]
  dsimp only
  cases session.bridge.isMounted id && !session.bridge.handles.contains id &&
    !session.bridge.pending.contains id <;> rfl

theorem sent_of_resolveHandle (apart : caller.HostApart)
    (mounted : session.bridge.isMounted id = true)
    (unresolved : session.bridge.handles.get? id = none)
    (idle : session.bridge.pending.get? id = none) (receiver : Receiver κ) :
    ∃ noted, ((resolveHandle id receiver).run caller session).2.journal =
        noted ++ session.journal ∧
      ∃ accepted, .sent (.requestHandle id) accepted ∈ noted := by
  obtain ⟨noted, hjournal, -⟩ := journal_callHost apart (.requestHandle id) session
  rw [run_resolveHandle, mounted, Table.contains_eq_false_iff.2 unresolved,
    Table.contains_eq_false_iff.2 idle, run_requestHandle]
  generalize (callHost (.requestHandle id)).run caller session = sent at hjournal
  obtain ⟨accepted, sent⟩ := sent
  cases accepted with
  | false => exact ⟨_ :: .sent _ _ :: noted, congrArg (List.cons _) hjournal, false, by simp⟩
  | true =>
      refine ⟨_ :: _ :: .sent _ _ :: noted,
        congrArg (List.cons _) (congrArg (List.cons _) hjournal), true, ?_⟩
      exact List.mem_cons_of_mem _ (List.mem_cons_of_mem _ List.mem_cons_self)

/-- As long as the bridge waits for a job it does not ask again. -/
theorem journal_resolveHandle_of_pending (waiting : session.bridge.pending.contains id = true)
    (receiver : Receiver κ) :
    ((resolveHandle id receiver).run caller session).2.journal =
      .scheduled ⟨session.scheduler.nextId, .start, .deliverHandle id receiver⟩ ::
        session.journal := by
  rw [run_resolveHandle, waiting, Bool.not_true, Bool.and_false]
  rfl

end Session

/-! ## In every session -/

/-- The embedding program cancels only jobs of its own by their numbers. -/
def Session.CancelsOwn (allowed : Request κ → Prop) (session : Session κ S) : Prop :=
  ∀ task, .scheduled task ∈ session.journal → task.job.isFree = false →
    ∀ reason, ¬ allowed (.cancelTask task.id reason)

/-- What the bridge and the debouncers wait for, if passes hold these jobs and these have been
dropped. -/
structure Session.Mirrors (allowed : Request κ → Prop) (held dropped : List (Task (Job κ)))
    (session : Session κ S) : Prop where
  /-- A job that has had no turn and is not cancelled waits, or it has been dropped. -/
  isLive_iff : ∀ task, session.core.IsLive task ↔
    session.scheduler.isCancelled task.id = false ∧
      (task ∈ session.scheduler.queue ++ held ∨ task ∈ dropped)
  /-- No job is in two places. -/
  nodup : ((session.scheduler.queue ++ held ++ dropped).map Task.id).Nodup
  /-- What has been dropped never runs. -/
  unrun : ∀ task ∈ dropped, ∀ later, session.Passes allowed later → .ran task.id ∉ later.journal
  pending : ∀ id number, session.bridge.pending.get? id = some number →
    ∃ task, task.id = number ∧ task.job = .resolveHandle id ∧ session.core.IsLive task
  debouncing_iff : ∀ id, session.isDebouncing id = true ↔
    ∃ task, task.IsOf id ∧ session.core.IsLive task
  /-- The host is asked for a handle that is missing and that no job picks up. -/
  asks : ∀ id, session.bridge.isMounted id = true → session.bridge.handles.get? id = none →
    (∀ task, task.job = .resolveHandle id → ¬ session.core.IsLive task) →
      ∀ caller : Caller κ S, caller.HostApart → ∀ receiver, ∃ noted,
        ((Session.resolveHandle id receiver).run caller session).2.journal =
            noted ++ session.journal ∧
          ∃ accepted, .sent (.requestHandle id) accepted ∈ noted

/-- A debouncer is pending as long as a job of its own is live. -/
theorem Session.isDebouncing_iff_of_passes {allowed : Request κ → Prop} {sink : ChordSink}
    {host : Host} {app : S} {session : Session κ S}
    (hpasses : (Session.fresh sink host app).Passes allowed session) (id : DebouncerId) :
    session.isDebouncing id = true ↔ ∃ task, task.IsOf id ∧ session.core.IsLive task := by
  have accounted := Core.Accounted.fresh allowed id sink host app
  have steps := Core.Continues.stepwise (S := S) allowed id [] [] (Session.fresh sink host app).core
  obtain ⟨held, dealings, -, now⟩ := steps.of_passes trivial
    (fun _ ⟨held, continues, _⟩ => ⟨held, continues⟩) accounted.continues hpasses
  exact now.collapsed.pending_iff

/-- The bridge waits for live jobs. -/
theorem Core.Tracks.isLive_of_pending {allowed : Request κ → Prop}
    {held dropped : List (Task (Job κ))} {session : Session κ S}
    (tracks : Core.Tracks allowed held dropped session.core) (own : session.CancelsOwn allowed)
    {id : NodeId} {number : TaskId} (hpending : session.bridge.pending.get? id = some number) :
    session.core.IsLive ⟨number, .start, .resolveHandle id⟩ := by
  have hscheduled := tracks.attributed.pending id number hpending
  obtain ⟨hunrun, hcancelled⟩ := tracks.expects id number hpending
  refine ⟨hscheduled, Bool.eq_false_iff.2 fun hnow => ?_, hunrun⟩
  obtain ⟨reason, permitted, -⟩ := hcancelled hnow
  exact own _ hscheduled rfl reason permitted

theorem Core.Tracks.mirrors {allowed : Request κ → Prop} {held dropped : List (Task (Job κ))}
    {sink : ChordSink} {host : Host} {app : S} {session : Session κ S}
    (hpasses : (Session.fresh sink host app).Passes allowed session)
    (own : session.CancelsOwn allowed)
    (tracks : Core.Tracks allowed held dropped session.core) :
    session.Mirrors allowed held dropped where
  isLive_iff := tracks.isLive_iff
  nodup := by
    rw [List.append_assoc]
    exact tracks.rosters.nodup
  unrun _ hmem _ hlater := tracks.not_ran_of_passes hlater hmem
  pending _ _ hpending := ⟨_, rfl, rfl, tracks.isLive_of_pending own hpending⟩
  debouncing_iff := Session.isDebouncing_iff_of_passes hpasses
  asks id mounted unresolved nobody caller apart receiver := by
    refine Session.sent_of_resolveHandle apart mounted unresolved ?_ receiver
    refine Option.eq_none_iff_forall_ne_some.2 fun number hpending => ?_
    exact nobody _ rfl (tracks.isLive_of_pending own hpending)

/-- Whatever the bridge and the debouncers wait for waits itself, or it has been dropped with the
queue.  In every session on the way of a run the bridge has requests under way only for jobs that
are live, a debouncer is pending only if a job of its own is, and a missing handle that no live job
picks up is asked for.  All live jobs are in the queue, in the batch of a pass, or among those that
have been dropped, which never run; between two requests no batch is left. -/
theorem waiting_jobs_mirrored (allowed : Request κ → Prop) (sink : ChordSink) (host : Host)
    (app : S) :
    (∀ session, (Session.fresh sink host app).Passes allowed session →
      session.CancelsOwn allowed → ∃ held dropped,
        Core.Drops allowed [] (Session.fresh sink host app).core dropped held session.core ∧
          (¬ allowed .clearTasks → dropped = []) ∧ session.Mirrors allowed held dropped) ∧
    ∀ code : Code κ S, code.Within allowed → ∀ session,
      code.Runs allowed (.fresh sink host app) session → session.CancelsOwn allowed → ∃ dropped,
        Core.Drops allowed [] (Session.fresh sink host app).core dropped [] session.core ∧
          (¬ allowed .clearTasks → dropped = []) ∧ session.Mirrors allowed [] dropped := by
  have steps := Core.TracksFrom.stepwise (S := S) allowed [] [] (Session.fresh sink host app).core
  have hfresh := (Core.Tracks.fresh allowed sink host app).tracksFrom
  refine ⟨fun session hpasses own => ?_, fun code within session runs own => ?_⟩
  · obtain ⟨held, dropped, drops, tracks⟩ :=
      steps.of_passes trivial (fun _ hheld => hheld) hfresh hpasses
    rw [List.append_nil] at tracks
    exact ⟨held, dropped, drops, drops.eq_nil, tracks.mirrors hpasses own⟩
  · obtain ⟨dropped, drops, tracks⟩ := (steps.governs_of_walking trivial).runs within hfresh runs
    rw [List.append_nil] at tracks
    exact ⟨dropped, drops, drops.eq_nil, tracks.mirrors (.reached (runs.reached within)) own⟩

/-- The queue is emptied while a widget waits for its handle and a debouncer for its delay. -/
def Session.abandonedSession : Session Unit Unit :=
  (Request.clearTasks.perform.run (Code.accepting.caller 1)
    ((Request.debounce 0 ()).perform.run (Code.accepting.caller 1)
      ((Request.newDebouncer ⟨100⟩).perform.run (Code.accepting.caller 1)
        ((Request.resolveHandle "a" ()).perform.run (Code.accepting.caller 1)
          ((Request.mount "a" (Node.ofKind .view) .root).perform.run (Code.accepting.caller 1)
            (.fresh .nobody (.fresh .recording true) ())).2).2).2).2).2

theorem Session.reaches_abandonedSession {allowed : Request Unit → Prop}
    (permitted : ∀ request : Request Unit, (∀ id reason, request ≠ .cancelTask id reason) →
      allowed request) :
    (Session.fresh .nobody (.fresh .recording true) ()).Reaches allowed abandonedSession := by
  have within := Code.within_accepting allowed
  exact .act (.request .clearTasks (permitted _ (by simp))) within
    (.act (.request (.debounce 0 ()) (permitted _ (by simp))) within
      (.act (.request (.newDebouncer ⟨100⟩) (permitted _ (by simp))) within
        (.act (.request (.resolveHandle "a" ()) (permitted _ (by simp))) within
          (.act (.request (.mount "a" (Node.ofKind .view) .root) (permitted _ (by simp))) within
            .refl))))

theorem waiting_jobs_mirrored_abandoned :
    let allowed : Request Unit → Prop := fun request => ∀ id reason, request ≠ .cancelTask id reason
    (Session.fresh .nobody (.fresh .recording true) ()).Passes allowed Session.abandonedSession ∧
      Session.abandonedSession.CancelsOwn allowed ∧
      ∃ held dropped, Core.Drops allowed []
          (Session.fresh (κ := Unit) .nobody (.fresh .recording true) ()).core dropped held
          Session.abandonedSession.core ∧
        Session.abandonedSession.Mirrors allowed held dropped := by
  intro allowed
  have hpasses : (Session.fresh .nobody (.fresh .recording true) ()).Passes allowed
      Session.abandonedSession := .reached (Session.reaches_abandonedSession fun _ h => h)
  have own : Session.abandonedSession.CancelsOwn allowed :=
    fun task _ _ reason permitted => permitted task.id reason rfl
  obtain ⟨held, dropped, drops, -, mirrors⟩ :=
    (waiting_jobs_mirrored allowed .nobody (.fresh .recording true) ()).1 _ hpasses own
  exact ⟨hpasses, own, held, dropped, drops, mirrors⟩

/-- When the queue has been emptied no job waits, but the bridge has a request under way, the
debouncer is pending, and the handle is not asked for again. -/
theorem requests_left_when_cleared :
    (Session.fresh .nobody (.fresh .recording true) ()).Passes (fun _ => True)
        Session.abandonedSession ∧
      Session.abandonedSession.scheduler.queue.length = 0 ∧
      Entry.openPasses Session.abandonedSession.journal = 0 ∧
      Session.abandonedSession.bridge.isMounted "a" = true ∧
      Session.abandonedSession.bridge.handles.contains "a" = false ∧
      Session.abandonedSession.bridge.pending.contains "a" = true ∧
      Session.abandonedSession.isDebouncing 0 = true ∧
      ∀ (caller : Caller Unit Unit) receiver, ∃ task,
        ((Session.resolveHandle "a" receiver).run caller Session.abandonedSession).2.journal =
          .scheduled task :: Session.abandonedSession.journal := by
  refine ⟨.reached (Session.reaches_abandonedSession fun _ _ => trivial), by decide +kernel,
    by decide +kernel, by decide +kernel, by decide +kernel, by decide +kernel, by decide +kernel,
    fun caller receiver => ?_⟩
  have waiting : Session.abandonedSession.bridge.pending.contains "a" = true := by decide +kernel
  exact ⟨_, Session.journal_resolveHandle_of_pending waiting receiver⟩

end EditorShell
