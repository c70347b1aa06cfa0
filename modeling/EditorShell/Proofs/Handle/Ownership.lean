import EditorShell.Proofs.Run.StepwiseBridge

/-!
# Who cancels a job

The bridge cancels only jobs that pick up handles, and a debouncer only its own jobs.  So any other
job is cancelled by the embedding program or not at all (`Attributed.cancelled`).
-/

namespace EditorShell

variable {κ S : Type}

/-- A job was scheduled for a call of a debouncer. -/
def Task.IsOf (task : Task (Job κ)) (id : DebouncerId) : Prop :=
  ∃ body, task.job = .debounced id body

theorem Task.IsOf.isFree_eq_false {task : Task (Job κ)} {id : DebouncerId} (isOf : task.IsOf id) :
    task.job.isFree = false := by
  obtain ⟨body, hjob⟩ := isOf
  rw [hjob]
  rfl

theorem Task.IsOf.unique {task : Task (Job κ)} {first second : DebouncerId}
    (hfirst : task.IsOf first) (hsecond : task.IsOf second) : first = second := by
  obtain ⟨body, hbody⟩ := hfirst
  obtain ⟨other, hother⟩ := hsecond
  exact (Job.debounced.inj (hbody.symm.trans hother)).1

theorem Task.IsOf.ne_resolveHandle {task : Task (Job κ)} {debouncer : DebouncerId}
    (isOf : task.IsOf debouncer) (id : NodeId) : task.job ≠ .resolveHandle id := by
  obtain ⟨body, hjob⟩ := isOf
  rw [hjob]
  exact nofun

/-- A number belongs to a job of a debouncer, or to one that picks up a handle. -/
def Core.Owns (core : Core κ) (id : TaskId) : Prop :=
  ∃ task, .scheduled task ∈ core.journal ∧ task.id = id ∧ task.job.isFree = false

theorem Core.Owns.mono {core core' : Core κ} {id : TaskId} (owns : core.Owns id)
    (hjournal : core.journal <:+ core'.journal) : core'.Owns id := by
  obtain ⟨task, hmem, hid⟩ := owns
  exact ⟨task, hjournal.subset hmem, hid⟩

/-- What the debouncers and the bridge wait for are jobs of their own, and nobody cancels other jobs
but the embedding program. -/
structure Attributed (allowed : Request κ → Prop) (core : Core κ) : Prop where
  latest : ∀ id number, (core.debouncer id).latest? = some number →
    ∃ task, .scheduled task ∈ core.journal ∧ task.id = number ∧ task.IsOf id
  pending : ∀ id number, core.bridge.pending.get? id = some number →
    .scheduled ⟨number, .start, .resolveHandle id⟩ ∈ core.journal
  cancelled : ∀ id, core.scheduler.isCancelled id = true →
    (∃ reason, allowed (.cancelTask id reason)) ∨ core.Owns id

namespace Attributed

variable {allowed : Request κ → Prop} {core core' : Core κ}

theorem owns_pending (attributed : Attributed allowed core) {id : NodeId} {number : TaskId}
    (hpending : core.bridge.pending.get? id = some number) : core.Owns number :=
  ⟨_, attributed.pending id number hpending, rfl, rfl⟩

theorem owns_latest (attributed : Attributed allowed core) {id : DebouncerId} {number : TaskId}
    (hlatest : (core.debouncer id).latest? = some number) : core.Owns number := by
  obtain ⟨task, hmem, hid, isOf⟩ := attributed.latest id number hlatest
  exact ⟨task, hmem, hid, isOf.isFree_eq_false⟩

/-- What is not new stays attributed when the journal grows. -/
theorem grow (attributed : Attributed allowed core) (hjournal : core.journal <:+ core'.journal)
    (hlatest : ∀ id number, (core'.debouncer id).latest? = some number →
      (core.debouncer id).latest? = some number ∨
        ∃ task, .scheduled task ∈ core'.journal ∧ task.id = number ∧ task.IsOf id)
    (hpending : ∀ id number, core'.bridge.pending.get? id = some number →
      core.bridge.pending.get? id = some number ∨
        .scheduled ⟨number, .start, .resolveHandle id⟩ ∈ core'.journal)
    (hcancelled : ∀ id, core'.scheduler.isCancelled id = true →
      core.scheduler.isCancelled id = true ∨
        (∃ reason, allowed (.cancelTask id reason)) ∨ core.Owns id) :
    Attributed allowed core' where
  latest id number h := by
    rcases hlatest id number h with hold | hnew
    · obtain ⟨task, hmem, hid, isOf⟩ := attributed.latest id number hold
      exact ⟨task, hjournal.subset hmem, hid, isOf⟩
    · exact hnew
  pending id number h := by
    rcases hpending id number h with hold | hnew
    · exact hjournal.subset (attributed.pending id number hold)
    · exact hnew
  cancelled id h := by
    have hgrown : (∃ reason, allowed (.cancelTask id reason)) ∨ core.Owns id := by
      rcases hcancelled id h with hold | hnew
      · exact attributed.cancelled id hold
      · exact hnew
    exact hgrown.imp_right fun owns => owns.mono hjournal

theorem cancelling (attributed : Attributed allowed core) {id : TaskId}
    {reason : CancellationReason}
    (hid : (∃ reason, allowed (.cancelTask id reason)) ∨ core.Owns id) :
    Attributed allowed (core.cancelling id reason) := by
  refine attributed.grow (List.suffix_refl _) (fun _ _ => .inl) (fun _ _ => .inl) ?_
  intro other hother
  simp only [Core.cancelling, Scheduler.isCancelled_cancel, Bool.or_eq_true, beq_iff_eq] at hother
  rcases hother with rfl | hother
  · exact .inr hid
  · exact .inl hother

theorem answered (attributed : Attributed allowed core) {message : HostMessage} {accepted : Bool}
    (answered : Answered message core accepted core') : Attributed allowed core' := by
  refine attributed.grow answered.journal_suffix (fun id number hlatest => .inl ?_)
    (fun id number hpending => .inl ?_) fun id hcancelled => .inl ?_
  · rwa [answered.debouncer_eq] at hlatest
  · rwa [answered.bridge_eq] at hpending
  · rwa [answered.scheduler_eq] at hcancelled

theorem resolving (attributed : Attributed allowed core) (number : TaskId) (id : NodeId) :
    Attributed allowed ((core.noting (.ran number)).resolving id) := by
  refine attributed.grow (List.suffix_cons _ _) (fun _ _ => .inl) (fun other waiting hpending => ?_)
    fun _ => .inl
  have hbridge : ((core.noting (.ran number)).resolving id).bridge.pending =
      core.bridge.pending.erase id := Bridge.pending_settle _ _ _
  rw [hbridge, Table.get?_erase] at hpending
  split at hpending
  · cases hpending
  · exact .inl hpending

theorem requesting (attributed : Attributed allowed core) (id : NodeId) :
    Attributed allowed (core.requesting id) := by
  refine attributed.grow (List.suffix_cons _ _) (fun _ _ => .inl) (fun other number hpending => ?_)
    fun _ => .inl
  have hbridge : (core.requesting id).bridge.pending =
      core.bridge.pending.insert id core.scheduler.nextId := rfl
  rw [hbridge, Table.get?_insert] at hpending
  split at hpending
  · rename_i heq
    obtain rfl := Option.some.inj hpending
    rw [heq]
    exact .inr List.mem_cons_self
  · exact .inl hpending

theorem withdrawing (attributed : Attributed allowed core) {id : NodeId}
    (hjournal : core.journal <:+ (core.withdrawing id).journal) :
    Attributed allowed (core.withdrawing id) := by
  refine attributed.grow hjournal (fun _ _ => .inl) (fun other number hpending => ?_)
    fun other hcancelled => ?_
  · rw [Core.get?_pending_withdrawing] at hpending
    split at hpending
    · cases hpending
    · exact .inl hpending
  · unfold Core.withdrawing at hcancelled
    cases hpending : core.bridge.pending.get? id with
    | none =>
        rw [hpending] at hcancelled
        exact .inl hcancelled
    | some number =>
        simp only [hpending, Scheduler.isCancelled_cancel, Bool.or_eq_true, beq_iff_eq]
          at hcancelled
        rcases hcancelled with rfl | hcancelled
        · exact .inr (.inr (attributed.owns_pending hpending))
        · exact .inl hcancelled

/-- A debouncer may be replaced by one that knows of no other job. -/
theorem withDebouncer (attributed : Attributed allowed core) {id : DebouncerId}
    {debouncer : Debouncer}
    (hlatest : debouncer.latest? = none ∨ debouncer.latest? = (core.debouncer id).latest?) :
    Attributed allowed { core with debouncers := core.debouncers.set id debouncer } := by
  refine attributed.grow (List.suffix_refl _) (fun other number hother => .inl ?_)
    (fun _ _ => .inl) fun _ => .inl
  rw [core.debouncer_of_set rfl] at hother
  split at hother
  · rename_i heq
    rw [heq.1]
    rcases hlatest with hnone | hsame
    · rw [hnone] at hother
      cases hother
    · exact hsame.symm.trans hother
  · exact hother

theorem retiring (attributed : Attributed allowed core) (id : DebouncerId)
    (reason : CancellationReason) : Attributed allowed (core.retiring id reason) := by
  unfold Core.retiring
  cases hlatest : (core.debouncer id).latest? with
  | none => exact attributed
  | some task => exact attributed.cancelling (.inr (attributed.owns_latest hlatest))

theorem calling (attributed : Attributed allowed core) (id : DebouncerId) (now : Instant)
    (body : TaskBody κ) : Attributed allowed (core.calling id now body) := by
  refine (attributed.retiring id .superseded).grow (List.suffix_cons _ _)
    (fun other number hlatest => ?_) (fun _ _ => .inl) fun _ => .inl
  rw [core.debouncer_of_set rfl] at hlatest
  split at hlatest
  · rename_i heq
    obtain rfl := Option.some.inj hlatest
    refine .inr ⟨_, List.mem_cons_self, ?_, body, ?_⟩
    · exact Core.nextId_retiring _ _ _
    · rw [heq.1]
  · exact .inl hlatest

theorem ran (attributed : Attributed allowed core) (number : TaskId) :
    Attributed allowed (core.noting (.ran number)) :=
  attributed.grow (List.suffix_cons _ _) (fun _ _ => .inl) (fun _ _ => .inl) fun _ => .inl

theorem starting (attributed : Attributed allowed core) (id : DebouncerId) (number : TaskId) :
    Attributed allowed (core.starting id number) := by
  unfold Core.starting
  split
  · exact (attributed.ran number).withDebouncer (.inr rfl)
  · exact attributed.ran number

/-- Every step of a run in which the program cancels nothing else keeps jobs attributed. -/
theorem step {permitted : Request κ → Prop} {walking : Prop} {held held' : List (Task (Job κ))}
    (hpermitted : ∀ id reason, permitted (.cancelTask id reason) →
      allowed (.cancelTask id reason))
    (step : Step permitted walking held core held' core') (attributed : Attributed allowed core) :
    Attributed allowed core' := by
  have hjournal := step.journal_suffix
  cases step with
  | cancel cancels => exact attributed.cancelling (.inl ⟨_, hpermitted _ _ cancels⟩)
  | newDebouncer delay =>
      refine attributed.grow hjournal (fun _ _ hlatest => .inl ?_) (fun _ _ => .inl) fun _ => .inl
      rw [core.debouncer_of_append rfl] at hlatest
      split at hlatest
      · cases hlatest
      · exact hlatest
  | debounce now body there => exact attributed.calling _ now body
  | release stays => exact (attributed.retiring _ .requested).withDebouncer (.inl rfl)
  | start live job => exact attributed.starting _ _
  | @resolve _ _ task id live job => exact attributed.resolving task.id id
  | answer answered plain => exact attributed.answered answered
  | mount walks absent answered =>
      exact (attributed.answered answered).grow (List.suffix_refl _) (fun _ _ => .inl)
        (fun _ _ => .inl) fun _ => .inl
  | @request _ _ _ id mounted unresolved idle answered =>
      exact (attributed.answered answered).requesting id
  | withdraw id => exact attributed.withdrawing hjournal
  -- The other steps cancel nothing, and nobody waits for another job than before.
  | _ => exact attributed.grow hjournal (fun _ _ => .inl) (fun _ _ => .inl) fun _ => .inl

theorem fresh (sink : ChordSink) (host : Host) (app : S) :
    Attributed allowed (Session.fresh sink host app).core where
  latest id number hlatest := by
    simp [Session.core, Session.fresh, Core.debouncer] at hlatest
  pending id number hpending := by cases hpending
  cancelled id hcancelled := by cases hcancelled

/-- A job that belongs neither to a debouncer nor to the bridge is cancelled by the embedding
program or not at all. -/
theorem isCancelled_eq_false (attributed : Attributed allowed core) {task : Task (Job κ)}
    (hunique : ∀ other, .scheduled other ∈ core.journal → other.id = task.id → other = task)
    (free : task.job.isFree = true) (hallowed : ∀ reason, ¬ allowed (.cancelTask task.id reason)) :
    core.scheduler.isCancelled task.id = false := by
  cases hcancelled : core.scheduler.isCancelled task.id with
  | false => rfl
  | true =>
      rcases attributed.cancelled task.id hcancelled with
        ⟨reason, permitted⟩ | ⟨other, hmem, hid, hfree⟩
      · exact absurd permitted (hallowed reason)
      · rw [hunique other hmem hid, free] at hfree
        cases hfree

end Attributed

theorem stepwise_attributed {allowed : Request κ → Prop} :
    Stepwise (S := S) allowed True (fun _ => Attributed allowed) fun moment =>
      Attributed allowed moment.session.core where
  step step attributed := attributed.step (fun _ _ => id) step
  moment attributed _ _ := attributed
  callback _ attributed := ⟨[], attributed⟩
  walks _ _ _ := trivial

end EditorShell
