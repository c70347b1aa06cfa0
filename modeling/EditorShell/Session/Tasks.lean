import EditorShell.Session.Act

/-!
# Scheduling in a session

Deferred jobs get their deadlines from the session's clock.  A debouncer collapses a burst of calls
into one job of the latest call: each call schedules its own job first and then cancels the one
before.
-/

namespace EditorShell.Session

variable {κ S : Type}

/-- Lets time pass. -/
def advance (span : Duration) : Act κ S Unit :=
  .change fun session => { session with clock := session.clock.after span }

/-- Sets the clock. -/
def setClock (now : Instant) : Act κ S Unit :=
  .change fun session => { session with clock := now }

/-- Schedules a job for the first pass at or after a deadline. -/
def scheduleAt (deadline : Instant) (job : Job κ) : Act κ S TaskId := do
  let id ← .read fun session => session.scheduler.nextId
  .change fun session =>
    { session with
      scheduler := (session.scheduler.schedule deadline job).2
      journal := .scheduled ⟨session.scheduler.nextId, deadline, job⟩ :: session.journal }
  pure id

/-- Schedules a job after a delay and says its number. -/
def scheduleAfter (delay : Duration) (job : Job κ) : Act κ S TaskId := do
  let now ← .read Session.clock
  scheduleAt (now.after delay) job

/-- Schedules a job that is due at once, so the next pass runs it. -/
def scheduleNext (job : Job κ) : Act κ S TaskId := scheduleAt .start job

/-- Cancels a job that waits; its number need not belong to one. -/
def cancelTask (id : TaskId) (reason : CancellationReason) : Act κ S Unit :=
  .change fun session => { session with scheduler := session.scheduler.cancel id reason }

/-- Drops all jobs that wait. -/
def clearTasks : Act κ S Unit :=
  .change fun session => { session with scheduler := session.scheduler.clear }

/-! ## Debouncers -/

/-- The debouncer of a number; a number that was never given out belongs to one that is gone. -/
def debouncer (session : Session κ S) (id : DebouncerId) : Debouncer :=
  (session.debouncers[id]?).getD ⟨⟨0⟩, none, false, true⟩

/-- Replaces what is known of a debouncer. -/
def setDebouncer (id : DebouncerId) (debouncer : Debouncer) : Act κ S Unit :=
  .change fun session => { session with debouncers := session.debouncers.set id debouncer }

/-- Makes a debouncer and says its number. -/
def newDebouncer (delay : Duration) : Act κ S DebouncerId := do
  let id ← .read fun session => session.debouncers.length
  .change fun session =>
    { session with debouncers := session.debouncers ++ [.ofDelay delay] }
  pure id

/-- Cancels a job, if there is one. -/
def cancelTask? (id? : Option TaskId) (reason : CancellationReason) : Act κ S Unit :=
  match id? with
  | some id => cancelTask id reason
  | none => pure ()

/-- Calls a debouncer; one that is gone does nothing. -/
def debounce (id : DebouncerId) (body : TaskBody κ) : Act κ S Unit := do
  let debouncer ← .read fun session => session.debouncer id
  if debouncer.dropped then pure ()
  else
    let task ← scheduleAfter debouncer.delay (.debounced id body)
    setDebouncer id { debouncer with latest? := some task, started := false }
    cancelTask? debouncer.latest? .superseded

/-- Cancels the job of the latest call of a debouncer. -/
def cancelDebounced (id : DebouncerId) : Act κ S Unit := do
  let debouncer ← .read fun session => session.debouncer id
  setDebouncer id { debouncer with latest? := none }
  cancelTask? debouncer.latest? .requested

/-- Cancels the waiting job of a debouncer and lets go of it. -/
def dropDebouncer (id : DebouncerId) : Act κ S Unit := do
  cancelDebounced id
  let debouncer ← .read fun session => session.debouncer id
  setDebouncer id { debouncer with dropped := true }

/-- Notes that the job of a debouncer's latest call has started; an older job changes nothing. -/
def markStarted (id : DebouncerId) (task : TaskId) : Act κ S Unit := do
  let debouncer ← .read fun session => session.debouncer id
  if debouncer.latest? = some task then setDebouncer id { debouncer with started := true }
  else pure ()

/-- Whether a debouncer says that a call is waiting to run. -/
def isDebouncing (session : Session κ S) (id : DebouncerId) : Bool :=
  let debouncer := session.debouncer id
  match debouncer.latest? with
  | some task => !session.scheduler.isCancelled task && !debouncer.started
  | none => false

end EditorShell.Session
