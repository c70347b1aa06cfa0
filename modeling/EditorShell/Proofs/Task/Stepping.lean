import EditorShell.Proofs.Run.StepwiseBridge
import EditorShell.Proofs.Task.Passes

/-!
# Jobs in the steps of the core

What passes hold was due when a pass began, and every step of the core keeps it so
(`Core.Due.step`).  What a law of steps says holds also wherever the turn of a job comes in a pass,
whether the job runs then or not (`Stepwise.of_mem_passTurns`).
-/

namespace EditorShell

variable {κ S : Type}

/-! ## Due jobs -/

/-- The jobs that passes hold were due when a pass began. -/
def Core.Due (held : List (Task (Job κ))) (core : Core κ) : Prop :=
  ∀ task ∈ held, ∃ now, .passBegan now ∈ core.journal ∧ task.deadline.isDueAt now = true

theorem Core.Due.step {allowed : Request κ → Prop} {walking : Prop}
    {held held' : List (Task (Job κ))} {core core' : Core κ}
    (step : Step allowed walking held core held' core') (due : core.Due held) :
    core'.Due held' := by
  have hjournal := step.journal_suffix
  have hheld : ∀ task ∈ held, ∃ now, .passBegan now ∈ core'.journal ∧
      task.deadline.isDueAt now = true := by
    intro task hmem
    obtain ⟨now, hbegan, hdue⟩ := due task hmem
    exact ⟨now, hjournal.subset hbegan, hdue⟩
  cases step with
  | @takeDue _ _ now began =>
      intro task hmem
      rcases List.mem_append.1 hmem with hmem | hmem
      · exact ⟨now, began, (Scheduler.mem_batch.1 hmem).2.1⟩
      · exact hheld task hmem
  | skip cancelled => exact fun task hmem => hheld task (List.mem_cons_of_mem _ hmem)
  | run live free => exact fun task hmem => hheld task (List.mem_cons_of_mem _ hmem)
  | start live job => exact fun task hmem => hheld task (List.mem_cons_of_mem _ hmem)
  | resolve live job => exact fun task hmem => hheld task (List.mem_cons_of_mem _ hmem)
  -- The other steps give no pass a job.
  | _ => exact hheld

/-! ## Turns -/

namespace Stepwise

variable {allowed : Request κ → Prop} {walking : Prop} {P : Assertion κ} {Q : Moment κ S → Prop}
  (steps : Stepwise allowed walking P Q) {caller : Caller κ S}

include steps

/-- When the turn of a job comes, it is the next one that the pass holds. -/
theorem of_mem_turns (apart : caller.HostApart) (keeps : caller.Keeps P Q)
    {batch waiting : List (Task (Job κ))} {session now : Session κ S} {task : Task (Job κ)}
    (hP : P (batch ++ waiting) session.core)
    (hturn : (task, now) ∈ Session.turns caller batch session) :
    ∃ rest, P (task :: rest) now.core := by
  induction batch generalizing session with
  | nil => cases hturn
  | cons first rest ih =>
      rcases List.mem_cons.1 hturn with heq | hturn
      · obtain ⟨rfl, rfl⟩ := Prod.mk.inj heq
        exact ⟨rest ++ waiting, hP⟩
      · refine ih ?_ hturn
        cases hcancelled : session.scheduler.isCancelled first.id with
        | true => exact steps.step (.skip hcancelled) hP
        | false => exact (steps.leads_runJob apart keeps hP hcancelled).1

theorem of_mem_passTurns (apart : caller.HostApart) (keeps : caller.Keeps P Q)
    {waiting : List (Task (Job κ))} {session now : Session κ S} {task : Task (Job κ)}
    (hP : P waiting session.core) (hturn : (task, now) ∈ session.passTurns caller) :
    ∃ rest, P (task :: rest) now.core := by
  have hbegan := steps.step (.note (rfl : (Entry.passBegan session.clock).isIdle = true)) hP
  have htaken : P ((session.scheduler.takeDue session.clock).1 ++ waiting) session.taken.core :=
    steps.step (.takeDue List.mem_cons_self) hbegan
  exact steps.of_mem_turns apart keeps htaken hturn

end Stepwise

end EditorShell
