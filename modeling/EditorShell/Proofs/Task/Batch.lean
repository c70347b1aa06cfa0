import EditorShell.Proofs.Sorting
import EditorShell.Task.Scheduler

/-!
# The batch of a pass

A pass takes the jobs that are due and not cancelled (`mem_batch`) and leaves the rest, so that only
what is cancelled is dropped (`takeDue_perm`).  It runs them by deadline, and as they were scheduled
among equal deadlines (`pairwise_batch`).
-/

namespace EditorShell

/-- The order in which a pass runs jobs: by deadline, and as they were scheduled among equal
deadlines. -/
def Task.ComesBefore {J : Type} (first second : Task J) : Prop :=
  first.deadline.millis < second.deadline.millis ∨
    first.deadline.millis = second.deadline.millis ∧ first.id < second.id

theorem Task.ComesBefore.asymm {J : Type} {first second : Task J}
    (hbefore : first.ComesBefore second) : ¬ second.ComesBefore first := by
  simp only [Task.ComesBefore, TaskId] at hbefore ⊢
  omega

namespace Scheduler

variable {J : Type}

theorem runsBefore_iff {first second : Task J} :
    runsBefore first second = true ↔ first.ComesBefore second ∨
      first.deadline.millis = second.deadline.millis ∧ first.id = second.id := by
  simp only [runsBefore, Task.ComesBefore, Bool.or_eq_true, decide_eq_true_eq, Bool.and_eq_true,
    beq_iff_eq, TaskId]
  omega

theorem runsBefore_total (first second : Task J) :
    runsBefore first second = true ∨ runsBefore second first = true := by
  simp only [runsBefore_iff, Task.ComesBefore, TaskId]
  omega

theorem runsBefore_trans (first second third : Task J) (hfirst : runsBefore first second = true)
    (hsecond : runsBefore second third = true) : runsBefore first third = true := by
  simp only [runsBefore_iff, Task.ComesBefore, TaskId] at hfirst hsecond ⊢
  omega

theorem batch_perm (scheduler : Scheduler J) (now : Instant) :
    (scheduler.takeDue now).1.Perm
      (scheduler.live.filter fun task => task.deadline.isDueAt now) :=
  Sorting.sort_perm _

/-- A pass leaves what is not due and takes what is, so only what is cancelled is dropped. -/
theorem takeDue_perm (scheduler : Scheduler J) (now : Instant) (held : List (Task J)) :
    ((scheduler.takeDue now).2.queue ++ ((scheduler.takeDue now).1 ++ held)).Perm
      (scheduler.live ++ held) := by
  let due (task : Task J) : Bool := task.deadline.isDueAt now
  rw [← List.append_assoc]
  refine List.Perm.append_right held ?_
  calc ((scheduler.takeDue now).2.queue ++ (scheduler.takeDue now).1).Perm
        ((scheduler.takeDue now).1 ++ (scheduler.takeDue now).2.queue) := List.perm_append_comm
    List.Perm _ (scheduler.live.filter due ++ (scheduler.takeDue now).2.queue) :=
        (scheduler.batch_perm now).append_right _
    List.Perm _ scheduler.live := List.filter_append_perm due scheduler.live

theorem mem_batch {scheduler : Scheduler J} {now : Instant} {task : Task J} :
    task ∈ (scheduler.takeDue now).1 ↔ task ∈ scheduler.queue ∧
      task.deadline.isDueAt now = true ∧ scheduler.isCancelled task.id = false := by
  simp only [takeDue, Sorting.mem_sort, List.mem_filter, live, Bool.not_eq_true']
  exact and_right_comm.trans and_assoc

/-- The jobs of a batch have different numbers, so each of them has its own place. -/
theorem pairwise_batch {scheduler : Scheduler J} (hnodup : (scheduler.queue.map Task.id).Nodup)
    (now : Instant) : (scheduler.takeDue now).1.Pairwise Task.ComesBefore := by
  have hdue : ((scheduler.takeDue now).1.map Task.id).Nodup := by
    have hsublist : (scheduler.live.filter fun task => task.deadline.isDueAt now).Sublist
        scheduler.queue := List.filter_sublist.trans List.filter_sublist
    rw [((scheduler.batch_perm now).map Task.id).nodup_iff]
    exact hnodup.sublist (hsublist.map Task.id)
  have hsorted := Sorting.pairwise_sort runsBefore_total runsBefore_trans
    (scheduler.live.filter fun task => task.deadline.isDueAt now)
  refine List.Pairwise.imp₂ (fun first second hbefore hne => ?_) hsorted (List.pairwise_map.1 hdue)
  rcases runsBefore_iff.1 hbefore with hbefore | ⟨-, heq⟩
  · exact hbefore
  · exact absurd heq hne

end Scheduler

end EditorShell
