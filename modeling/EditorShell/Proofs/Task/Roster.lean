import EditorShell.Proofs.Run.Operations
import EditorShell.Proofs.Run.Steps
import EditorShell.Proofs.Task.Batch
import Mathlib.Data.List.Nodup
import Mathlib.Data.List.Perm.Subperm

/-!
# The roster of jobs

The journal tells which jobs were scheduled and whose turn came.  `Roster` ties this to the queue
and to the jobs that passes have taken out of it: a job has a number of its own, waits in one place
only, and gets one turn at most.  As long as the queue is not emptied at once, a job that has had no
turn and is not cancelled is still waiting (`lasting`).

Every step of the core keeps the roster (`Core.Rosters.step`), so laws of steps may rest on it.
-/

namespace EditorShell

variable {κ S : Type}

/-! ## What the journal tells of jobs -/

namespace Entry

/-- The job that an entry tells was scheduled. -/
def scheduled? : Entry κ → Option (Task (Job κ))
  | .scheduled task => some task
  | _ => none

/-- The job whose turn an entry tells of. -/
def ran? : Entry κ → Option TaskId
  | .ran id => some id
  | _ => none

/-- The jobs that were scheduled, newest first. -/
def scheduledTasks (journal : List (Entry κ)) : List (Task (Job κ)) := journal.filterMap scheduled?

/-- The numbers of the jobs whose turn came, newest first. -/
def ranIds (journal : List (Entry κ)) : List TaskId := journal.filterMap ran?

theorem scheduledTasks_cons {entry : Entry κ} (hentry : entry.scheduled? = none)
    (rest : List (Entry κ)) : scheduledTasks (entry :: rest) = scheduledTasks rest :=
  List.filterMap_cons_none hentry

theorem ranIds_cons {entry : Entry κ} (hentry : entry.ran? = none) (rest : List (Entry κ)) :
    ranIds (entry :: rest) = ranIds rest :=
  List.filterMap_cons_none hentry

theorem ranIds_append (later earlier : List (Entry κ)) :
    ranIds (later ++ earlier) = ranIds later ++ ranIds earlier := List.filterMap_append

theorem scheduledTasks_append (later earlier : List (Entry κ)) :
    scheduledTasks (later ++ earlier) = scheduledTasks later ++ scheduledTasks earlier :=
  List.filterMap_append

theorem mem_scheduledTasks {task : Task (Job κ)} {journal : List (Entry κ)} :
    task ∈ scheduledTasks journal ↔ .scheduled task ∈ journal := by
  refine List.mem_filterMap.trans ⟨?_, fun hmem => ⟨_, hmem, rfl⟩⟩
  rintro ⟨entry, hmem, hentry⟩
  cases entry with
  | scheduled other =>
      obtain rfl := Option.some.inj hentry
      exact hmem
  | _ => cases hentry

theorem mem_ranIds {id : TaskId} {journal : List (Entry κ)} :
    id ∈ ranIds journal ↔ .ran id ∈ journal := by
  refine List.mem_filterMap.trans ⟨?_, fun hmem => ⟨_, hmem, rfl⟩⟩
  rintro ⟨entry, hmem, hentry⟩
  cases entry with
  | ran other =>
      obtain rfl := Option.some.inj hentry
      exact hmem
  | _ => cases hentry

end Entry

/-! ## The roster -/

/-- The jobs in the queue and those that passes hold fit what is told of the jobs that were
scheduled and of those whose turn came. -/
structure Roster (lasting : Prop) (held : List (Task (Job κ))) (scheduler : Scheduler (Job κ))
    (scheduled : List (Task (Job κ))) (ran : List TaskId) : Prop where
  /-- Later jobs have larger numbers. -/
  descending : scheduled.Pairwise fun later earlier => earlier.id < later.id
  id_lt : ∀ task ∈ scheduled, task.id < scheduler.nextId
  nodup : ((scheduler.queue ++ held).map Task.id).Nodup
  scheduled_of_mem : ∀ task ∈ scheduler.queue ++ held, task ∈ scheduled
  ran_nodup : ran.Nodup
  ran_scheduled : ∀ id ∈ ran, ∃ task ∈ scheduled, task.id = id
  unrun_of_mem : ∀ task ∈ scheduler.queue ++ held, task.id ∉ ran
  kept : lasting → ∀ task ∈ scheduled, task.id ∉ ran → scheduler.isCancelled task.id = false →
    task ∈ scheduler.queue ++ held

namespace Roster

variable {lasting : Prop} {held : List (Task (Job κ))} {scheduler : Scheduler (Job κ)}
  {scheduled : List (Task (Job κ))} {ran : List TaskId}

theorem empty : Roster (κ := κ) lasting [] .empty [] [] where
  descending := .nil
  id_lt _ hmem := by cases hmem
  nodup := .nil
  scheduled_of_mem _ hmem := by cases hmem
  ran_nodup := .nil
  ran_scheduled _ hmem := by cases hmem
  unrun_of_mem _ hmem := by cases hmem
  kept _ _ hmem := by cases hmem

theorem unique (roster : Roster lasting held scheduler scheduled ran) :
    (scheduled.map Task.id).Nodup :=
  List.pairwise_map.2 (roster.descending.imp fun hlt => Nat.ne_of_gt hlt)

/-- A number belongs to one job. -/
theorem eq_of_id_eq (roster : Roster lasting held scheduler scheduled ran)
    {first second : Task (Job κ)} (hfirst : first ∈ scheduled) (hsecond : second ∈ scheduled)
    (hid : first.id = second.id) : first = second :=
  List.inj_on_of_nodup_map roster.unique hfirst hsecond hid

/-- A job with a smaller number was scheduled before. -/
theorem mem_of_lt (roster : Roster lasting held scheduler scheduled ran)
    {later earlier : List (Task (Job κ))} {first second : Task (Job κ)}
    (hscheduled : scheduled = later ++ second :: earlier) (hfirst : first ∈ scheduled)
    (hlt : first.id < second.id) : first ∈ earlier := by
  have hsorted := roster.descending
  rw [hscheduled] at hsorted hfirst
  rcases List.mem_append.1 hfirst with hfirst | hfirst
  · have hgt := (List.pairwise_append.1 hsorted).2.2 first hfirst second List.mem_cons_self
    exact absurd hgt (Nat.lt_asymm hlt)
  · rcases List.mem_cons.1 hfirst with rfl | hfirst
    · exact absurd hlt (Nat.lt_irrefl _)
    · exact hfirst

/-- Some jobs stop waiting, but only such as are cancelled, unless jobs may be dropped. -/
theorem of_subperm (roster : Roster lasting held scheduler scheduled ran)
    {rest : List (Task (Job κ))} {after : Scheduler (Job κ)}
    (hnext : after.nextId = scheduler.nextId)
    (hwaiting : (after.queue ++ rest).Subperm (scheduler.queue ++ held))
    (hcancelled : ∀ id, scheduler.isCancelled id = true → after.isCancelled id = true)
    (hkept : lasting → ∀ task ∈ scheduler.queue ++ held, after.isCancelled task.id = false →
      task ∈ after.queue ++ rest) : Roster lasting rest after scheduled ran where
  descending := roster.descending
  id_lt task hmem := hnext ▸ roster.id_lt task hmem
  nodup := by
    obtain ⟨middle, hperm, hsublist⟩ := hwaiting
    rw [← (hperm.map Task.id).nodup_iff]
    exact roster.nodup.sublist (hsublist.map Task.id)
  scheduled_of_mem task hmem := roster.scheduled_of_mem task (hwaiting.subset hmem)
  ran_nodup := roster.ran_nodup
  ran_scheduled := roster.ran_scheduled
  unrun_of_mem task hmem := roster.unrun_of_mem task (hwaiting.subset hmem)
  kept hlasting task hmem hunrun hlive := by
    refine hkept hlasting task (roster.kept hlasting task hmem hunrun ?_) hlive
    cases hbefore : scheduler.isCancelled task.id with
    | false => rfl
    | true => exact absurd (hcancelled _ hbefore) (by simp [hlive])

theorem schedule (roster : Roster lasting held scheduler scheduled ran) (deadline : Instant)
    (job : Job κ) : Roster lasting held (scheduler.schedule deadline job).2
      (⟨scheduler.nextId, deadline, job⟩ :: scheduled) ran := by
  -- The number of the new job is larger than all the others.
  have hnew : ∀ task ∈ scheduled, task.id ≠ scheduler.nextId :=
    fun task hmem => Nat.ne_of_lt (roster.id_lt task hmem)
  have hperm : ((scheduler.schedule deadline job).2.queue ++ held).Perm
      (⟨scheduler.nextId, deadline, job⟩ :: (scheduler.queue ++ held)) := by
    change ((scheduler.queue ++ [_]) ++ held).Perm _
    rw [List.append_assoc]
    exact List.perm_middle
  refine ⟨?_, ?_, ?_, ?_, roster.ran_nodup, ?_, ?_, ?_⟩
  · exact List.pairwise_cons.2 ⟨fun task hmem => roster.id_lt task hmem, roster.descending⟩
  · intro task hmem
    rcases List.mem_cons.1 hmem with rfl | hmem
    · exact Nat.lt_succ_self _
    · exact Nat.lt_succ_of_lt (roster.id_lt task hmem)
  · rw [(hperm.map Task.id).nodup_iff]
    refine List.nodup_cons.2 ⟨fun hmem => ?_, roster.nodup⟩
    obtain ⟨task, htask, hid⟩ := List.mem_map.1 hmem
    exact hnew task (roster.scheduled_of_mem task htask) hid
  · intro task hmem
    rcases List.mem_cons.1 (hperm.mem_iff.1 hmem) with rfl | hmem
    · exact List.mem_cons_self
    · exact List.mem_cons_of_mem _ (roster.scheduled_of_mem task hmem)
  · intro id hid
    obtain ⟨task, hmem, heq⟩ := roster.ran_scheduled id hid
    exact ⟨task, List.mem_cons_of_mem _ hmem, heq⟩
  · intro task hmem hran
    rcases List.mem_cons.1 (hperm.mem_iff.1 hmem) with rfl | hmem
    · obtain ⟨other, hother, heq⟩ := roster.ran_scheduled _ hran
      exact hnew other hother heq
    · exact roster.unrun_of_mem task hmem hran
  · intro hlasting task hmem hunrun hlive
    refine hperm.mem_iff.2 (List.mem_cons.2 ?_)
    rcases List.mem_cons.1 hmem with rfl | hmem
    · exact .inl rfl
    · exact .inr (roster.kept hlasting task hmem hunrun hlive)

theorem worked {allowed : Request κ → Prop} {after : Scheduler (Job κ)} {noted : List (Entry κ)}
    (roster : Roster lasting held scheduler scheduled ran)
    (hlasting : lasting → ¬ allowed .clearTasks)
    (worked : Scheduler.Worked allowed scheduler noted after) :
    Roster lasting held after (Entry.scheduledTasks noted ++ scheduled) ran := by
  cases worked with
  | idle unscheduled =>
      have hnone : Entry.scheduledTasks noted = [] := by
        refine List.eq_nil_iff_forall_not_mem.2 fun task hmem => ?_
        exact unscheduled task (Entry.mem_scheduledTasks.1 hmem)
      rw [hnone]
      exact roster
  | scheduled deadline job => exact roster.schedule deadline job
  | cancelled id reason =>
      refine roster.of_subperm (scheduler.nextId_cancel id reason) ?_ (fun other hother => ?_) ?_
      · rw [scheduler.queue_cancel]
      · simp [scheduler.isCancelled_cancel, hother]
      · rw [scheduler.queue_cancel]
        exact fun _ _ hmem _ => hmem
  | cleared permitted =>
      refine roster.of_subperm rfl ?_ (fun _ hother => hother) fun lasts => ?_
      · exact (List.sublist_append_right scheduler.queue held).subperm
      · exact absurd permitted (hlasting lasts)

/-- A pass takes its batch. -/
theorem takeDue (roster : Roster lasting held scheduler scheduled ran) (now : Instant) :
    Roster lasting ((scheduler.takeDue now).1 ++ held) (scheduler.takeDue now).2 scheduled ran := by
  have hperm := scheduler.takeDue_perm now held
  refine roster.of_subperm rfl ?_ (fun _ hother => hother) fun _ task hmem hlive => ?_
  · exact hperm.subperm.trans (List.filter_sublist.append_right held).subperm
  · refine hperm.mem_iff.2 (List.mem_append.2 ?_)
    rcases List.mem_append.1 hmem with hqueue | hheld
    · refine .inl (List.mem_filter.2 ⟨hqueue, ?_⟩)
      exact congrArg not hlive
    · exact .inr hheld

theorem skip {task : Task (Job κ)} (roster : Roster lasting (task :: held) scheduler scheduled ran)
    (hcancelled : scheduler.isCancelled task.id = true) :
    Roster lasting held scheduler scheduled ran := by
  have hrest : (scheduler.queue ++ held).Sublist (scheduler.queue ++ task :: held) :=
    (List.sublist_cons_self task held).append_left scheduler.queue
  refine roster.of_subperm rfl hrest.subperm (fun _ hother => hother) fun _ other hmem hlive => ?_
  rcases List.mem_append.1 hmem with hqueue | hheld
  · exact List.mem_append_left _ hqueue
  · rcases List.mem_cons.1 hheld with rfl | hheld
    · rw [hcancelled] at hlive
      cases hlive
    · exact List.mem_append_right _ hheld

/-- The turn of a held job comes. -/
theorem run {task : Task (Job κ)} (roster : Roster lasting (task :: held) scheduler scheduled ran) :
    Roster lasting held scheduler scheduled (task.id :: ran) := by
  have hperm : (scheduler.queue ++ task :: held).Perm (task :: (scheduler.queue ++ held)) :=
    List.perm_middle
  -- The job stands in the roster once, so none of the others has its number.
  have hnodup := roster.nodup
  rw [(hperm.map Task.id).nodup_iff] at hnodup
  obtain ⟨hnew, hrest⟩ := List.nodup_cons.1 hnodup
  have hmem : ∀ {other}, other ∈ scheduler.queue ++ held →
      other ∈ scheduler.queue ++ task :: held :=
    fun hother => hperm.mem_iff.2 (List.mem_cons_of_mem _ hother)
  have htask : task ∈ scheduler.queue ++ task :: held := hperm.mem_iff.2 List.mem_cons_self
  refine ⟨roster.descending, roster.id_lt, hrest, ?_, ?_, ?_, ?_, ?_⟩
  · exact fun other hother => roster.scheduled_of_mem other (hmem hother)
  · exact List.nodup_cons.2 ⟨roster.unrun_of_mem task htask, roster.ran_nodup⟩
  · intro id hid
    rcases List.mem_cons.1 hid with rfl | hid
    · exact ⟨task, roster.scheduled_of_mem task htask, rfl⟩
    · exact roster.ran_scheduled id hid
  · intro other hother hran
    rcases List.mem_cons.1 hran with heq | hran
    · exact hnew (heq ▸ List.mem_map_of_mem hother)
    · exact roster.unrun_of_mem other (hmem hother) hran
  · intro lasts other hscheduled hunrun hlive
    have hother := roster.kept lasts other hscheduled
      (fun hran => hunrun (List.mem_cons_of_mem _ hran)) hlive
    rcases List.mem_cons.1 (hperm.mem_iff.1 hother) with rfl | hother
    · exact absurd List.mem_cons_self hunrun
    · exact hother

end Roster

/-! ## Live jobs -/

/-- A job was scheduled, is not cancelled, and its turn has not come. -/
def Core.IsLive (core : Core κ) (task : Task (Job κ)) : Prop :=
  .scheduled task ∈ core.journal ∧ core.scheduler.isCancelled task.id = false ∧
    .ran task.id ∉ core.journal

namespace Core

variable {core core' : Core κ}

/-- Live jobs are told by the flags and by the journal entries of jobs. -/
theorem isLive_congr (hscheduler : core'.scheduler = core.scheduler)
    (hscheduled : ∀ task, .scheduled task ∈ core'.journal ↔ .scheduled task ∈ core.journal)
    (hran : ∀ id, .ran id ∈ core'.journal ↔ .ran id ∈ core.journal) (task : Task (Job κ)) :
    core'.IsLive task ↔ core.IsLive task := by
  unfold IsLive
  rw [hscheduler, hscheduled, hran]

theorem isLive_noting {entry : Entry κ} (hscheduled : ∀ task, entry ≠ .scheduled task)
    (hran : ∀ id, entry ≠ .ran id) (task : Task (Job κ)) :
    (core.noting entry).IsLive task ↔ core.IsLive task := by
  apply isLive_congr
  · rfl
  · exact fun task => mem_noting_iff (hscheduled task).symm
  · exact fun id => mem_noting_iff (hran id).symm

theorem isLive_hostActing {message : HostMessage} (task : Task (Job κ)) :
    (core.hostActing message).IsLive task ↔ core.IsLive task := by
  apply isLive_congr
  · rfl
  · exact fun task => mem_hostActing_iff (by simp)
  · exact fun id => mem_hostActing_iff (by simp)

/-- A job that is cancelled is live no more. -/
theorem isLive_cancelling (id : TaskId) (reason : CancellationReason) (task : Task (Job κ)) :
    (core.cancelling id reason).IsLive task ↔ core.IsLive task ∧ task.id ≠ id := by
  have hcancelled : (core.cancelling id reason).scheduler.isCancelled task.id = false ↔
      task.id ≠ id ∧ core.scheduler.isCancelled task.id = false := by
    simp [cancelling, Scheduler.isCancelled_cancel]
  constructor
  · rintro ⟨hscheduled, huncancelled, hunrun⟩
    obtain ⟨hid, huncancelled⟩ := hcancelled.1 huncancelled
    exact ⟨⟨hscheduled, huncancelled, hunrun⟩, hid⟩
  · rintro ⟨⟨hscheduled, huncancelled, hunrun⟩, hid⟩
    exact ⟨hscheduled, hcancelled.2 ⟨hid, huncancelled⟩, hunrun⟩

/-- A job is live no more when its turn has come. -/
theorem isLive_ran (id : TaskId) (task : Task (Job κ)) :
    (core.noting (.ran id)).IsLive task ↔ core.IsLive task ∧ task.id ≠ id := by
  constructor
  · rintro ⟨hscheduled, huncancelled, hunrun⟩
    simp only [noting, List.mem_cons, Entry.ran.injEq, not_or] at hunrun
    exact ⟨⟨by simpa [noting] using hscheduled, huncancelled, hunrun.2⟩, hunrun.1⟩
  · rintro ⟨⟨hscheduled, huncancelled, hunrun⟩, hid⟩
    refine ⟨List.mem_cons_of_mem _ hscheduled, huncancelled, ?_⟩
    simp only [noting, List.mem_cons, Entry.ran.injEq, not_or]
    exact ⟨hid, hunrun⟩

end Core

theorem Answered.isLive_iff {core core' : Core κ} {message : HostMessage} {accepted : Bool}
    (answered : Answered message core accepted core') (task : Task (Job κ)) :
    core'.IsLive task ↔ core.IsLive task := by
  apply Core.isLive_congr answered.scheduler_eq
  · exact fun task => answered.mem_journal_iff (by simp) (by simp)
  · exact fun id => answered.mem_journal_iff (by simp) (by simp)

/-! ## The roster of a core -/

/-- The jobs in the queue of a core and those that passes hold fit what its journal tells. -/
abbrev Core.Rosters (lasting : Prop) (held : List (Task (Job κ))) (core : Core κ) : Prop :=
  Roster lasting held core.scheduler (Entry.scheduledTasks core.journal) (Entry.ranIds core.journal)

namespace Core.Rosters

variable {lasting : Prop} {held held' : List (Task (Job κ))} {core core' : Core κ}

/-- The roster depends on the scheduler and on what the journal tells of jobs. -/
theorem congr (rosters : core.Rosters lasting held) (hscheduler : core'.scheduler = core.scheduler)
    (hscheduled : Entry.scheduledTasks core'.journal = Entry.scheduledTasks core.journal)
    (hran : Entry.ranIds core'.journal = Entry.ranIds core.journal) :
    core'.Rosters lasting held := by
  unfold Core.Rosters
  rw [hscheduler, hscheduled, hran]
  exact rosters

theorem noting (rosters : core.Rosters lasting held) {entry : Entry κ}
    (idle : entry.isIdle = true) : (core.noting entry).Rosters lasting held :=
  rosters.congr rfl (by cases entry <;> first | rfl | cases idle)
    (by cases entry <;> first | rfl | cases idle)

theorem cancelling (rosters : core.Rosters lasting held) (id : TaskId)
    (reason : CancellationReason) : (core.cancelling id reason).Rosters lasting held := by
  have worked : Scheduler.Worked (fun _ : Request κ => False) core.scheduler []
      (core.cancelling id reason).scheduler := .cancelled id reason
  exact rosters.worked (fun _ => not_false) worked

theorem retiring (rosters : core.Rosters lasting held) (id : DebouncerId)
    (reason : CancellationReason) : (core.retiring id reason).Rosters lasting held := by
  unfold Core.retiring
  cases (core.debouncer id).latest? with
  | none => exact rosters
  | some task => exact rosters.cancelling task reason

theorem hostActing (rosters : core.Rosters lasting held) (message : HostMessage) :
    (core.hostActing message).Rosters lasting held := by
  have hentry : ∀ journal : List (Entry κ),
      Entry.scheduledTasks (Session.publicationEntry core.host message ++ journal) =
          Entry.scheduledTasks journal ∧
        Entry.ranIds (Session.publicationEntry core.host message ++ journal) =
          Entry.ranIds journal := by
    intro journal
    unfold Session.publicationEntry
    split <;> exact ⟨rfl, rfl⟩
  exact rosters.congr rfl (hentry core.journal).1 (hentry core.journal).2

theorem answered (rosters : core.Rosters lasting held) {message : HostMessage} {accepted : Bool}
    (answered : Answered message core accepted core') : core'.Rosters lasting held := by
  cases answered with
  | refused => exact rosters.congr rfl rfl rfl
  | acted => exact (rosters.hostActing message).congr rfl rfl rfl

theorem withdrawing (rosters : core.Rosters lasting held) (id : NodeId) :
    (core.withdrawing id).Rosters lasting held := by
  have hjournal : Entry.scheduledTasks (core.withdrawing id).journal =
        Entry.scheduledTasks core.journal ∧
      Entry.ranIds (core.withdrawing id).journal = Entry.ranIds core.journal := by
    unfold Core.withdrawing
    dsimp only
    split <;> exact ⟨rfl, rfl⟩
  cases hpending : core.bridge.pending.get? id with
  | none => exact rosters.congr (by simp [Core.withdrawing, hpending]) hjournal.1 hjournal.2
  | some task =>
      exact (rosters.cancelling task .targetUnmounted).congr
        (by simp [Core.withdrawing, Core.cancelling, hpending]) hjournal.1 hjournal.2

theorem step {allowed : Request κ → Prop} {walking : Prop}
    (step : Step allowed walking held core held' core') (hlasting : lasting → ¬ allowed .clearTasks)
    (rosters : core.Rosters lasting held) :
    core'.Rosters lasting held' := by
  cases step with
  | note idle => exact rosters.noting idle
  | schedule deadline free => exact rosters.schedule deadline _
  | cancel permitted => exact rosters.cancelling _ _
  | clear permitted =>
      have worked : Scheduler.Worked allowed core.scheduler [] core.scheduler.clear :=
        .cleared permitted
      exact rosters.worked hlasting worked
  | debounce now body there => exact (rosters.retiring _ .superseded).schedule _ _
  | release stays => exact rosters.retiring _ .requested
  | takeDue began => exact rosters.takeDue _
  | skip cancelled => exact rosters.skip cancelled
  | run live free => exact rosters.run
  | start live job => exact rosters.run
  | resolve live job => exact rosters.run
  | act permitted => exact rosters.hostActing _
  | answer answered plain => exact rosters.answered answered
  | mount walks absent answered => exact (rosters.answered answered).congr rfl rfl rfl
  | request mounted unresolved idle answered => exact (rosters.answered answered).schedule _ _
  | withdraw id => exact rosters.withdrawing id
  -- The other steps have nothing to do with jobs.
  | _ => exact rosters.congr rfl rfl rfl

theorem scheduled_of_held (rosters : core.Rosters lasting held) {task : Task (Job κ)}
    (hmem : task ∈ held) :
    .scheduled task ∈ core.journal :=
  Entry.mem_scheduledTasks.1 (rosters.scheduled_of_mem task (List.mem_append_right _ hmem))

theorem unique (rosters : core.Rosters lasting held) {first second : Task (Job κ)}
    (hfirst : .scheduled first ∈ core.journal) (hsecond : .scheduled second ∈ core.journal)
    (hid : first.id = second.id) : first = second :=
  rosters.eq_of_id_eq (Entry.mem_scheduledTasks.2 hfirst) (Entry.mem_scheduledTasks.2 hsecond) hid

theorem id_lt_nextId (rosters : core.Rosters lasting held) {task : Task (Job κ)}
    (hmem : .scheduled task ∈ core.journal) : task.id < core.scheduler.nextId :=
  rosters.id_lt task (Entry.mem_scheduledTasks.2 hmem)

/-- A waiting job is live if it is not cancelled. -/
theorem isLive_of_mem (rosters : core.Rosters lasting held) {task : Task (Job κ)}
    (hmem : task ∈ core.scheduler.queue ++ held)
    (huncancelled : core.scheduler.isCancelled task.id = false) : core.IsLive task := by
  refine ⟨Entry.mem_scheduledTasks.1 (rosters.scheduled_of_mem task hmem), huncancelled, ?_⟩
  exact fun hran => rosters.unrun_of_mem task hmem (Entry.mem_ranIds.2 hran)

/-- The live jobs are those that wait and are not cancelled, if none is dropped. -/
theorem isLive_iff (rosters : core.Rosters lasting held) (lasts : lasting) (task : Task (Job κ)) :
    core.IsLive task ↔
      task ∈ core.scheduler.queue ++ held ∧ core.scheduler.isCancelled task.id = false := by
  constructor
  · rintro ⟨hscheduled, huncancelled, hunrun⟩
    refine ⟨?_, huncancelled⟩
    refine rosters.kept lasts task (Entry.mem_scheduledTasks.2 hscheduled) ?_ huncancelled
    exact fun hran => hunrun (Entry.mem_ranIds.1 hran)
  · rintro ⟨hmem, huncancelled⟩
    exact rosters.isLive_of_mem hmem huncancelled

/-- The number that is given out next belongs to no job that has had its turn. -/
theorem not_ran_nextId (rosters : core.Rosters lasting held) :
    .ran core.scheduler.nextId ∉ core.journal := by
  intro hran
  obtain ⟨task, hmem, hid⟩ := rosters.ran_scheduled _ (Entry.mem_ranIds.2 hran)
  exact absurd (rosters.id_lt task hmem) (by rw [hid]; exact Nat.lt_irrefl _)

end Core.Rosters

end EditorShell
