import EditorShell.Session.Widgets

/-!
# Passes over the deferred work

A pass fixes its batch when it begins: the jobs that are due and not cancelled, in the order of
their deadlines.  Each of them gets its turn unless an earlier one of the same pass has cancelled
it.  What a job schedules waits for a later pass, and a panic ends nothing but the job it happened
in.
-/

namespace EditorShell.Session

variable {κ S : Type}

/-- Does the job of a turn; a panic of a body ends no more than the job. -/
def runJob (id : TaskId) : Job κ → Act κ S Unit
  | .task body => do
    let _ ← Act.call (.task id body)
  | .debounced debouncer body => do
    markStarted debouncer id
    let _ ← Act.call (.task id body)
  | .resolveHandle target => resolveRequested target
  | .deliverHandle target receiver => do
    let handle? ← .read fun session => session.deliverable? target
    let _ ← Act.call (.delivery id receiver handle?)

/-- Gives each task of a batch its turn and says how many ran, counting on from `count`. -/
def runBatch (count : Nat) : List (Task (Job κ)) → Act κ S Nat
  | [] => pure count
  | task :: rest => do
    -- Asked when its turn comes, since an earlier job of the batch may have cancelled it.
    if ← .read fun session => session.scheduler.isCancelled task.id then runBatch count rest
    else
      .note (.ran task.id)
      runJob task.id task.job
      runBatch (count + 1) rest

/-- Takes the batch of the jobs that are due now out of the scheduler. -/
def takeBatch : Act κ S (List (Task (Job κ))) := do
  let now ← .read Session.clock
  let batch ← .read fun session => (session.scheduler.takeDue now).1
  .change fun session => { session with scheduler := (session.scheduler.takeDue now).2 }
  pure batch

/-- Makes a pass: gives each due job its turn, and says how many had one. -/
def runDue : Act κ S Nat := do
  let now ← .read Session.clock
  .note (.passBegan now)
  let batch ← takeBatch
  let count ← runBatch 0 batch
  .note (.passEnded count)
  pure count

end EditorShell.Session
