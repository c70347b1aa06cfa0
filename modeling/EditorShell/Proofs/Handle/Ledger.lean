import EditorShell.Proofs.Handle.Ownership
import EditorShell.Proofs.Task.Roster

/-!
# The ledger of jobs

In a run in which the embedding program neither cancels jobs nor drops them, the roster tells which
jobs are live: those that wait, in the queue or in the batch of a pass, and are not cancelled.  The
bridge and the debouncers cancel jobs of their own only, so a number is cancelled only after it was
given out, and a new job is live (`Ledger.isLive_scheduling`).

Every step keeps the ledger (`Ledger.step`).
-/

namespace EditorShell

variable {κ S : Type}

/-- Whether a request leaves it to the bridge and the debouncers to cancel jobs. -/
def Request.leavesJobs : Request κ → Bool
  | .cancelTask _ _ | .clearTasks => false
  | _ => true

/-- No job is lost, and none is cancelled but by its owner. -/
structure Ledger (held : List (Task (Job κ))) (core : Core κ) : Prop where
  rosters : core.Rosters True held
  attributed : Attributed (fun _ => False) core

namespace Ledger

variable {held held' : List (Task (Job κ))} {core core' : Core κ}

theorem isLive_iff (ledger : Ledger held core) (task : Task (Job κ)) : core.IsLive task ↔
    task ∈ core.scheduler.queue ++ held ∧ core.scheduler.isCancelled task.id = false :=
  ledger.rosters.isLive_iff trivial task

/-- The number that is given out next has not been cancelled. -/
theorem isCancelled_nextId (ledger : Ledger held core) :
    core.scheduler.isCancelled core.scheduler.nextId = false := by
  refine Bool.eq_false_iff.2 fun hcancelled => ?_
  rcases ledger.attributed.cancelled _ hcancelled with ⟨_, permitted⟩ | ⟨task, hmem, hid, -⟩
  · exact permitted
  · exact Nat.ne_of_lt (ledger.rosters.id_lt_nextId hmem) hid

theorem isLive_scheduling (ledger : Ledger held core) (deadline : Instant) (job : Job κ)
    (task : Task (Job κ)) : (core.scheduling deadline job).IsLive task ↔
      task = ⟨core.scheduler.nextId, deadline, job⟩ ∨ core.IsLive task := by
  constructor
  · rintro ⟨hscheduled, huncancelled, hunrun⟩
    rcases List.mem_cons.1 hscheduled with heq | hscheduled
    · exact .inl (Entry.scheduled.inj heq)
    · exact .inr ⟨hscheduled, huncancelled, fun hran => hunrun (List.mem_cons_of_mem _ hran)⟩
  · rintro (rfl | ⟨hscheduled, huncancelled, hunrun⟩)
    · refine ⟨List.mem_cons_self .., ledger.isCancelled_nextId, ?_⟩
      simpa [Core.scheduling] using ledger.rosters.not_ran_nextId
    · refine ⟨List.mem_cons_of_mem _ hscheduled, huncancelled, ?_⟩
      simpa [Core.scheduling] using hunrun

theorem retiring (ledger : Ledger held core) (id : DebouncerId) (reason : CancellationReason) :
    Ledger held (core.retiring id reason) where
  rosters := ledger.rosters.retiring id reason
  attributed := ledger.attributed.retiring id reason

theorem answered (ledger : Ledger held core) {message : HostMessage} {accepted : Bool}
    (answered : Answered message core accepted core') : Ledger held core' where
  rosters := ledger.rosters.answered answered
  attributed := ledger.attributed.answered answered

theorem step {allowed : Request κ → Prop} {walking : Prop}
    (hallowed : ∀ request, allowed request → request.leavesJobs = true)
    (step : Step allowed walking held core held' core') (ledger : Ledger held core) :
    Ledger held' core' where
  rosters := by
    refine ledger.rosters.step step fun _ permitted => ?_
    cases hallowed _ permitted
  attributed := by
    refine ledger.attributed.step (fun id reason permitted => ?_) step
    cases hallowed _ permitted

theorem fresh (sink : ChordSink) (host : Host) (app : S) :
    Ledger [] (Session.fresh (κ := κ) sink host app).core where
  rosters := .empty
  attributed := .fresh sink host app

end Ledger

end EditorShell
