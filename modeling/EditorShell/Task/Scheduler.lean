import EditorShell.Cancellation
import EditorShell.Sorting
import EditorShell.Time

/-!
# Deferred work

The scheduler keeps jobs until their deadline.  Nothing runs by itself: a pass takes the batch of
jobs that are due at that moment, so a job that is scheduled while a pass is running waits for the
next one.

A job is known by the number it got when it was scheduled.  Cancelling works by that number and at
any time; a cancelled job stays in the queue but counts as gone, and the next pass drops it.

`J` is the type of jobs.
-/

namespace EditorShell

/-- Jobs are known by numbers, later ones by larger ones. -/
abbrev TaskId := Nat

/-- A job under its number, with its deadline. -/
structure Task (J : Type) where
  /-- Its number; later jobs have larger ones. -/
  id : TaskId
  /-- The first instant at which it may run. -/
  deadline : Instant
  job : J

/-- The jobs that wait, and what is known of the cancelled ones. -/
structure Scheduler (J : Type) where
  nextId : TaskId
  /-- The jobs in the order in which they were scheduled. -/
  queue : List (Task J)
  /-- The cancelled numbers with the reasons. -/
  cancelled : List (TaskId × CancellationReason)

namespace Scheduler

variable {J : Type}

/-- A scheduler to which nothing was given. -/
def empty : Scheduler J := ⟨0, [], []⟩

/-- The flag of a job, which is raised by cancelling it. -/
def flag (scheduler : Scheduler J) (id : TaskId) : Cancellation := ⟨scheduler.cancelled.lookup id⟩

/-- Whether a job was cancelled. -/
def isCancelled (scheduler : Scheduler J) (id : TaskId) : Bool := (scheduler.flag id).isCancelled

/-- Takes a job with its deadline, and says the number of the job. -/
def schedule (scheduler : Scheduler J) (deadline : Instant) (job : J) : TaskId × Scheduler J :=
  (scheduler.nextId,
    { scheduler with
      nextId := scheduler.nextId + 1
      queue := scheduler.queue ++ [⟨scheduler.nextId, deadline, job⟩] })

/-- Raises the flag of a job; the first reason stays. -/
def cancel (scheduler : Scheduler J) (id : TaskId) (reason : CancellationReason) : Scheduler J :=
  match (scheduler.flag id).reason? with
  | some _ => scheduler
  | none => { scheduler with cancelled := scheduler.cancelled ++ [(id, reason)] }

/-- The waiting jobs that are not cancelled. -/
def live (scheduler : Scheduler J) : List (Task J) :=
  scheduler.queue.filter fun task => !scheduler.isCancelled task.id

/-- The number of the waiting jobs that are not cancelled. -/
def pending (scheduler : Scheduler J) : Nat := scheduler.live.length

/-- The earliest deadline of a waiting job that is not cancelled. -/
def nextDeadline? (scheduler : Scheduler J) : Option Instant :=
  (scheduler.live.map fun task => task.deadline.millis).min?.map Instant.mk

/-- Whether a job comes no later in a pass than another one. -/
def runsBefore (first second : Task J) : Bool :=
  first.deadline.millis < second.deadline.millis ||
    (first.deadline.millis == second.deadline.millis && first.id ≤ second.id)

/-- Takes the jobs that are due, in the order in which a pass runs them: by deadline, and by number
among equal deadlines.  Cancelled jobs are dropped. -/
def takeDue (scheduler : Scheduler J) (now : Instant) : List (Task J) × Scheduler J :=
  let live := scheduler.live
  (Sorting.sort runsBefore (live.filter fun task => task.deadline.isDueAt now),
    { scheduler with queue := live.filter fun task => !task.deadline.isDueAt now })

/-- Drops all jobs that wait; the cancelled numbers stay known. -/
def clear (scheduler : Scheduler J) : Scheduler J := { scheduler with queue := [] }

/-- Whether a job is cancelled is told by the flags alone. -/
theorem isCancelled_congr {first second : Scheduler J}
    (hcancelled : first.cancelled = second.cancelled) (id : TaskId) :
    first.isCancelled id = second.isCancelled id := by
  unfold isCancelled flag
  rw [hcancelled]

theorem flag_cancel (scheduler : Scheduler J) (id other : TaskId) (reason : CancellationReason) :
    (scheduler.cancel id reason).flag other =
      if other = id then (scheduler.flag id).cancel reason else scheduler.flag other := by
  unfold cancel flag Cancellation.cancel
  cases hid : scheduler.cancelled.lookup id with
  | some first =>
      simp only
      split
      · rename_i heq
        rw [heq, hid]
      · rfl
  | none =>
      simp only [List.lookup_append]
      split
      · rename_i heq
        subst heq
        simp [hid]
      · rename_i hne
        cases scheduler.cancelled.lookup other with
        | some _ => rfl
        | none => simp [List.lookup_cons, beq_eq_false_iff_ne.2 hne]

@[simp]
theorem flag_schedule (scheduler : Scheduler J) (deadline : Instant) (job : J) (id : TaskId) :
    (scheduler.schedule deadline job).2.flag id = scheduler.flag id := rfl

@[simp]
theorem nextId_cancel (scheduler : Scheduler J) (id : TaskId) (reason : CancellationReason) :
    (scheduler.cancel id reason).nextId = scheduler.nextId := by
  unfold cancel
  split <;> rfl

@[simp]
theorem queue_cancel (scheduler : Scheduler J) (id : TaskId) (reason : CancellationReason) :
    (scheduler.cancel id reason).queue = scheduler.queue := by
  unfold cancel
  split <;> rfl

theorem isCancelled_cancel (scheduler : Scheduler J) (id other : TaskId)
    (reason : CancellationReason) : (scheduler.cancel id reason).isCancelled other =
      (other == id || scheduler.isCancelled other) := by
  unfold isCancelled
  rw [flag_cancel]
  by_cases heq : other = id <;> simp [heq]

/-- Cancelling a job again changes nothing. -/
theorem cancel_of_isCancelled {scheduler : Scheduler J} {id : TaskId}
    (cancelled : scheduler.isCancelled id = true) (reason : CancellationReason) :
    scheduler.cancel id reason = scheduler := by
  obtain ⟨first, hfirst⟩ := Option.isSome_iff_exists.1 cancelled
  unfold cancel
  rw [hfirst]

theorem cancel_schedule (scheduler : Scheduler J) (deadline : Instant) (job : J) (id : TaskId)
    (reason : CancellationReason) : (scheduler.schedule deadline job).2.cancel id reason =
      ((scheduler.cancel id reason).schedule deadline job).2 := by
  unfold cancel
  rw [flag_schedule]
  split <;> rfl

@[simp]
theorem flag_takeDue (scheduler : Scheduler J) (now : Instant) (id : TaskId) :
    (scheduler.takeDue now).2.flag id = scheduler.flag id := rfl

end Scheduler

/-- What the owner of a debouncer knows about its latest job. -/
structure Debouncer where
  /-- How long after a call its job runs. -/
  delay : Duration
  /-- The job of the latest call, unless that was cancelled through the debouncer. -/
  latest? : Option TaskId
  started : Bool
  dropped : Bool
  deriving DecidableEq

/-- A debouncer that was not called yet. -/
def Debouncer.ofDelay (delay : Duration) : Debouncer := ⟨delay, none, false, false⟩

end EditorShell
