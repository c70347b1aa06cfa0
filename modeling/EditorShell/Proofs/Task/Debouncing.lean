import EditorShell.Proofs.Handle.Ownership
import EditorShell.Proofs.Run.Reaching
import EditorShell.Proofs.Task.Rostering

/-!
# Debounced jobs

A debouncer knows of one job, its latest, and cancels it when it is called again.  So among the jobs
that were ever scheduled for a debouncer all but the latest are cancelled, and one that has been
dropped knows of none (`Session.Debounces`).

The jobs that a pass has taken and not run yet count too, since a call may cancel one of them.
-/

namespace EditorShell

variable {κ S : Type}

namespace Session

theorem lt_of_dropped_eq_false {session : Session κ S} {id : DebouncerId}
    (hthere : (session.debouncer id).dropped = false) : id < session.debouncers.length :=
  session.core.lt_of_dropped_eq_false hthere

/-- All jobs of a debouncer but the latest are cancelled, and when it has been dropped all of them
are. -/
structure Debounces (core : Core κ) : Prop where
  latest : ∀ task, .scheduled task ∈ core.journal →
    core.scheduler.isCancelled task.id = false → ∀ id, task.IsOf id →
      (core.debouncer id).latest? = some task.id
  dropped : ∀ id, (core.debouncer id).dropped = true → (core.debouncer id).latest? = none

namespace Debounces

variable {core core' : Core κ}

/-- Nothing changes for the debouncers and their jobs, but that some may be cancelled. -/
theorem grow (debounces : Debounces core)
    (hsame : ∀ id, (core'.debouncer id).latest? = (core.debouncer id).latest? ∧
      (core'.debouncer id).dropped = (core.debouncer id).dropped)
    (hscheduled : ∀ task id, .scheduled task ∈ core'.journal → task.IsOf id →
      .scheduled task ∈ core.journal)
    (hcancelled : ∀ id, core'.scheduler.isCancelled id = false →
      core.scheduler.isCancelled id = false) : Debounces core' where
  latest task hmem hlive id isOf := by
    rw [(hsame id).1]
    exact debounces.latest task (hscheduled task id hmem isOf) (hcancelled _ hlive) id isOf
  dropped id hdropped := by
    rw [(hsame id).2] at hdropped
    rw [(hsame id).1]
    exact debounces.dropped id hdropped

/-- Neither debouncers nor flags change, and no job of a debouncer is scheduled. -/
theorem beside (debounces : Debounces core) (hdebouncers : core'.debouncers = core.debouncers)
    (hscheduled : ∀ task id, .scheduled task ∈ core'.journal → task.IsOf id →
      .scheduled task ∈ core.journal)
    (hcancelled : core'.scheduler.cancelled = core.scheduler.cancelled) : Debounces core' := by
  refine debounces.grow (fun id => ?_) hscheduled fun id hlive =>
    (Scheduler.isCancelled_congr hcancelled id).symm.trans hlive
  rw [Core.debouncer_congr hdebouncers]
  exact ⟨rfl, rfl⟩

theorem cancelling (debounces : Debounces core) (id : TaskId) (reason : CancellationReason) :
    Debounces (core.cancelling id reason) := by
  refine debounces.grow (fun _ => ⟨rfl, rfl⟩) (fun _ _ hmem _ => hmem) ?_
  intro other hlive
  simp only [Core.cancelling, Scheduler.isCancelled_cancel, Bool.or_eq_false_iff] at hlive
  exact hlive.2

/-- A debouncer that was called or has cancelled its job: a job may have been scheduled for it, and
all its other jobs are cancelled. -/
theorem renew (debounces : Debounces core) {id : DebouncerId} {debouncer : Debouncer}
    (hdebouncers : core'.debouncers = core.debouncers.set id debouncer)
    (hscheduled : ∀ task other, .scheduled task ∈ core'.journal → task.IsOf other →
      .scheduled task ∈ core.journal ∨ other = id ∧ debouncer.latest? = some task.id)
    (hcancelled : ∀ task, core'.scheduler.isCancelled task = false →
      core.scheduler.isCancelled task = false ∧ (core.debouncer id).latest? ≠ some task)
    (hthere : ∀ number, debouncer.latest? = some number → id < core.debouncers.length)
    (hdropped : debouncer.dropped = true → debouncer.latest? = none) : Debounces core' := by
  have hset := core.debouncer_of_set hdebouncers
  refine ⟨fun task hmem hlive other isOf => ?_, fun other hother => ?_⟩
  · obtain ⟨hwas, hreplaced⟩ := hcancelled task.id hlive
    rcases hscheduled task other hmem isOf with hmem | ⟨rfl, hnew⟩
    · -- A job from before is not one of the debouncer itself, whose jobs are all cancelled.
      have hother := debounces.latest task hmem hwas other isOf
      have hne : other ≠ id := fun heq => hreplaced (heq ▸ hother)
      rw [hset, if_neg fun h => hne h.1, hother]
    · rw [hset, if_pos ⟨rfl, hthere task.id hnew⟩, hnew]
  · rw [hset] at hother ⊢
    split at hother
    · rename_i heq
      rw [if_pos heq]
      exact hdropped hother
    · rename_i hne
      rw [if_neg hne]
      exact debounces.dropped other hother

theorem calling (debounces : Debounces core) {id : DebouncerId}
    (there : (core.debouncer id).dropped = false) (now : Instant) (body : TaskBody κ) :
    Debounces (core.calling id now body) := by
  have hjournal := core.journal_calling id now body
  refine debounces.renew rfl (fun task other hmem isOf => ?_) (fun task hlive => ?_)
    (fun number hlatest => core.lt_of_dropped_eq_false there)
    fun hdropped => absurd (there.symm.trans hdropped) Bool.false_ne_true
  · rw [hjournal] at hmem
    rcases List.mem_cons.1 hmem with heq | hmem
    · obtain rfl := Entry.scheduled.inj heq
      obtain ⟨body', hjob⟩ := isOf
      exact .inr ⟨(Job.debounced.inj hjob).1.symm, rfl⟩
    · exact .inl hmem
  · have hretired := (core.isCancelled_retiring id .superseded task).symm.trans hlive
    simpa [and_comm] using hretired

theorem releasing (debounces : Debounces core) (id : DebouncerId) (dropped : Bool) :
    Debounces (core.releasing id dropped) := by
  refine debounces.renew rfl (fun task other hmem _ => .inl hmem) (fun task hlive => ?_)
    (fun number hlatest => by cases hlatest) fun _ => rfl
  have hretired := (core.isCancelled_retiring id .requested task).symm.trans hlive
  simpa [and_comm] using hretired

theorem newDebouncer (debounces : Debounces core) (delay : Duration) :
    Debounces { core with debouncers := core.debouncers ++ [.ofDelay delay] } := by
  have happend : ∀ other, Core.debouncer
      { core with debouncers := core.debouncers ++ [.ofDelay delay] } other =
        if other = core.debouncers.length then .ofDelay delay else core.debouncer other :=
    core.debouncer_of_append rfl
  -- Nothing was scheduled for a debouncer before it was made.
  have hmade : ∀ task, .scheduled task ∈ core.journal →
      core.scheduler.isCancelled task.id = false → ¬ task.IsOf core.debouncers.length := by
    intro task hmem hlive isOf
    have hlatest := debounces.latest task hmem hlive _ isOf
    rw [Core.debouncer_of_le (Nat.le_refl _)] at hlatest
    cases hlatest
  refine ⟨fun task hmem hlive other isOf => ?_, fun other hother => ?_⟩
  · have hne : other ≠ core.debouncers.length := by
      rintro rfl
      exact hmade task hmem hlive isOf
    rw [happend, if_neg hne]
    exact debounces.latest task hmem hlive other isOf
  · rw [happend] at hother ⊢
    split at hother
    · cases hother
    · rename_i hne
      rw [if_neg hne]
      exact debounces.dropped other hother

/-- The turn of a job of a debouncer comes. -/
theorem starting (debounces : Debounces core) (id : DebouncerId) (task : TaskId) :
    Debounces (core.starting id task) := by
  have hsame : ∀ other,
      ((core.starting id task).debouncer other).latest? = (core.debouncer other).latest? ∧
        ((core.starting id task).debouncer other).dropped = (core.debouncer other).dropped := by
    intro other
    rw [Core.debouncer_starting]
    split
    · rename_i heq
      rw [heq.1]
      exact ⟨rfl, rfl⟩
    · exact ⟨rfl, rfl⟩
  refine debounces.grow hsame (fun other number hmem _ => ?_) fun _ hlive => hlive
  exact (Core.mem_noting_iff (by simp)).1 hmem

theorem answered (debounces : Debounces core) {message : HostMessage} {accepted : Bool}
    (answered : Answered message core accepted core') : Debounces core' := by
  refine debounces.beside answered.debouncers_eq (fun task _ hmem _ => ?_)
    (congrArg Scheduler.cancelled answered.scheduler_eq)
  exact (answered.mem_journal_iff (by simp) (by simp)).1 hmem

theorem withdrawing (debounces : Debounces core) (id : NodeId) :
    Debounces (core.withdrawing id) := by
  refine debounces.grow (fun _ => ⟨rfl, rfl⟩) (fun task _ hmem _ => ?_) fun other hlive => ?_
  · exact (Core.mem_withdrawing_iff (by simp)).1 hmem
  · rw [Core.isCancelled_withdrawing, Bool.or_eq_false_iff] at hlive
    exact hlive.2

/-- Every step keeps the debouncers in order. -/
theorem step {allowed : Request κ → Prop} {walking : Prop} {held held' : List (Task (Job κ))}
    (step : Step allowed walking held core held' core') (debounces : Debounces core) :
    Debounces core' := by
  cases step with
  | note idle =>
      refine debounces.beside rfl (fun task _ hmem _ => ?_) rfl
      refine (Core.mem_noting_iff ?_).1 hmem
      rintro rfl
      cases idle
  | schedule deadline free =>
      refine debounces.beside rfl (fun task id hmem isOf => ?_) rfl
      rcases List.mem_cons.1 hmem with heq | hmem
      · obtain rfl := Entry.scheduled.inj heq
        cases free.symm.trans isOf.isFree_eq_false
      · exact hmem
  | cancel permitted => exact debounces.cancelling _ _
  | newDebouncer delay => exact debounces.newDebouncer delay
  | debounce now body there => exact debounces.calling there now body
  | release stays => exact debounces.releasing _ _
  | run live free =>
      exact debounces.beside rfl
        (fun task _ hmem _ => (Core.mem_noting_iff (by simp)).1 hmem) rfl
  | start live job => exact debounces.starting _ _
  | resolve live job =>
      exact debounces.beside rfl
        (fun task _ hmem _ => (Core.mem_noting_iff (by simp)).1 hmem) rfl
  | act permitted =>
      exact debounces.beside rfl
        (fun task _ hmem _ => (Core.mem_hostActing_iff (by simp)).1 hmem) rfl
  | answer answered plain => exact debounces.answered answered
  | mount walks absent answered =>
      exact (debounces.answered answered).beside rfl (fun _ _ hmem _ => hmem) rfl
  | request mounted unresolved idle answered =>
      refine (debounces.answered answered).beside rfl (fun task id hmem isOf => ?_) rfl
      rcases List.mem_cons.1 hmem with heq | hmem
      · obtain rfl := Entry.scheduled.inj heq
        obtain ⟨body, hjob⟩ := isOf
        cases hjob
      · exact hmem
  | withdraw id => exact debounces.withdrawing id
  -- The other steps touch neither debouncers nor flags, and schedule nothing.
  | _ => exact debounces.beside rfl (fun _ _ hmem _ => hmem) rfl

theorem fresh (sink : ChordSink) (host : Host) (app : S) :
    Debounces (Session.fresh (κ := κ) sink host app).core where
  latest task hmem := by cases hmem
  dropped _ _ := rfl

theorem stepwise {allowed : Request κ → Prop} :
    Stepwise (S := S) allowed True (fun _ => Debounces) fun moment =>
      Debounces moment.session.core where
  step step debounces := debounces.step step
  moment debounces _ _ := debounces
  callback _ debounces := ⟨[], debounces⟩
  walks _ _ _ := trivial

/-- In every session that is reached, a debounced job that waits and can run is the latest one of
its debouncer, which has not been dropped. -/
theorem of_reaches {allowed : Request κ → Prop} {sink : ChordSink} {host : Host} {app : S}
    {session : Session κ S} (reaches : (Session.fresh sink host app).Reaches allowed session) :
    ∀ task ∈ session.scheduler.live, ∀ id body, task.job = .debounced id body →
      (session.debouncer id).latest? = some task.id ∧ (session.debouncer id).dropped = false := by
  obtain ⟨-, -, debounces⟩ := (stepwise.governs_of_walking trivial).reaches
    ⟨[], trivial, Debounces.fresh sink host app⟩ reaches
  obtain ⟨state, rostered⟩ := Rostering.exists_rostered False.elim (.reached reaches)
  intro task hmem id body hjob
  obtain ⟨hqueue, hlive⟩ := List.mem_filter.1 hmem
  rw [Bool.not_eq_true'] at hlive
  have hscheduled := rostered.roster.scheduled_of_mem task (List.mem_append_left _ hqueue)
  have hlatest : (session.debouncer id).latest? = some task.id :=
    debounces.latest task (Entry.mem_scheduledTasks.1 hscheduled) hlive id ⟨body, hjob⟩
  refine ⟨hlatest, Bool.eq_false_iff.2 fun hdropped => ?_⟩
  have hnone : (session.debouncer id).latest? = none := debounces.dropped id hdropped
  rw [hlatest] at hnone
  cases hnone

end Debounces

end Session

end EditorShell
