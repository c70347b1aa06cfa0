import EditorShell.Proofs.Run.Governing

/-!
# Steps of the core

Whatever happens in a session, its core only ever makes steps of a few kinds.  `Step` lists them.
It relates the jobs that passes hold and the core before a step to those after it.

A step is as small as a law can see: between two steps something may be noted or a callback may run,
but not in the middle of one.  So a step may change several tables at once, as when an accepted
mount is recorded.
-/

namespace EditorShell

variable {κ S : Type}

/-- Whether noting an entry tells nothing but that it was noted: the entry does not stand for a
change of the core. -/
def Entry.isIdle : Entry κ → Bool
  | .withdrawn _ | .published _ _ | .sent _ _ | .scheduled _ | .ran _ => false
  | _ => true

namespace Core

/-- The debouncer of a number. -/
def debouncer (core : Core κ) (id : DebouncerId) : Debouncer :=
  (core.debouncers[id]?).getD ⟨⟨0⟩, none, false, true⟩

/-- One more job waits. -/
def scheduling (core : Core κ) (deadline : Instant) (job : Job κ) : Core κ :=
  { core with
    scheduler := (core.scheduler.schedule deadline job).2
    journal := .scheduled ⟨core.scheduler.nextId, deadline, job⟩ :: core.journal }

/-- A job is cancelled. -/
def cancelling (core : Core κ) (id : TaskId) (reason : CancellationReason) : Core κ :=
  { core with scheduler := core.scheduler.cancel id reason }

/-- The job of the latest call of a debouncer is cancelled. -/
def retiring (core : Core κ) (id : DebouncerId) (reason : CancellationReason) : Core κ :=
  { core with
    scheduler :=
      match (core.debouncer id).latest? with
      | some task => core.scheduler.cancel task reason
      | none => core.scheduler }

/-- A debouncer is called: its job is cancelled, and a new one waits. -/
def calling (core : Core κ) (id : DebouncerId) (now : Instant) (body : TaskBody κ) : Core κ :=
  { (core.retiring id .superseded).scheduling (now.after (core.debouncer id).delay)
      (.debounced id body) with
    debouncers := core.debouncers.set id
      { core.debouncer id with latest? := some core.scheduler.nextId, started := false } }

/-- A debouncer cancels its job and knows of none any more. -/
def releasing (core : Core κ) (id : DebouncerId) (dropped : Bool) : Core κ :=
  { core.retiring id .requested with
    debouncers := core.debouncers.set id
      { core.debouncer id with latest? := none, dropped := dropped } }

/-- The turn of a job of a debouncer comes, of which the debouncer learns if it is the latest. -/
def starting (core : Core κ) (id : DebouncerId) (task : TaskId) : Core κ :=
  { core.noting (.ran task) with
    debouncers :=
      if (core.debouncer id).latest? = some task then
        core.debouncers.set id { core.debouncer id with started := true }
      else core.debouncers }

/-- The host acts on a message. -/
def hostActing (core : Core κ) (message : HostMessage) : Core κ :=
  { core with
    host := (core.host.take core.slots message).2.1
    slots := (core.host.take core.slots message).2.2
    journal := Session.publicationEntry core.host message ++ core.journal }

/-- Whether the host takes a message if it gets to act on it. -/
def takes (core : Core κ) (message : HostMessage) : Bool :=
  match (core.host.take core.slots message).1 with
  | .ok () => true
  | .error _ => false

/-- The handle of a widget is asked for; a job will pick it up. -/
def requesting (core : Core κ) (id : NodeId) : Core κ :=
  { core.scheduling .start (.resolveHandle id) with
    bridge :=
      { core.bridge with pending := core.bridge.pending.insert id core.scheduler.nextId } }

/-- The handle of a widget is picked up. -/
def resolving (core : Core κ) (id : NodeId) : Core κ :=
  { core with
    slots := core.slots.discard id
    bridge := core.bridge.settle id (core.slots.peek? id) }

/-- Everything about a widget is forgotten. -/
def withdrawing (core : Core κ) (id : NodeId) : Core κ :=
  { core with
    bridge := core.bridge.evict id
    scheduler :=
      match core.bridge.pending.get? id with
      | some task => core.scheduler.cancel task .targetUnmounted
      | none => core.scheduler
    slots := core.slots.discard id
    journal := if core.bridge.isMounted id then .withdrawn id :: core.journal else core.journal }

end Core

/-- How a message is answered: the host never sees it or refuses it before it acts, or the host acts
on it. -/
inductive Answered (message : HostMessage) (core : Core κ) : Bool → Core κ → Prop where
  | refused : Answered message core false (core.noting (.sent message false))
  | acted :
      Answered message core (core.takes message)
        ((core.hostActing message).noting (.sent message (core.takes message)))

theorem Core.mem_noting_iff {core : Core κ} {entry noted : Entry κ} (hne : entry ≠ noted) :
    entry ∈ (core.noting noted).journal ↔ entry ∈ core.journal := by
  simp [Core.noting, hne]

theorem Core.mem_hostActing_iff {core : Core κ} {message : HostMessage} {entry : Entry κ}
    (hpublished : ∀ id handle, entry ≠ .published id handle) :
    entry ∈ (core.hostActing message).journal ↔ entry ∈ core.journal := by
  unfold Core.hostActing Session.publicationEntry
  split
  · simp [hpublished]
  · rfl

@[simp]
theorem Core.nextId_retiring (core : Core κ) (id : DebouncerId) (reason : CancellationReason) :
    (core.retiring id reason).scheduler.nextId = core.scheduler.nextId := by
  unfold Core.retiring
  cases (core.debouncer id).latest? with
  | none => rfl
  | some task => exact Scheduler.nextId_cancel _ _ _

/-- Of all jobs at most one is cancelled if there is one to cancel. -/
theorem Scheduler.isCancelled_cancel? {J : Type} (scheduler : Scheduler J) (number? : Option TaskId)
    (reason : CancellationReason) (task : TaskId) :
    Scheduler.isCancelled
      (match number? with
        | some number => scheduler.cancel number reason
        | none => scheduler) task =
      (decide (number? = some task) || scheduler.isCancelled task) := by
  cases number? with
  | none => simp
  | some number =>
      rw [Scheduler.isCancelled_cancel]
      by_cases heq : task = number
      · simp [heq]
      · simp [heq, Ne.symm heq]

theorem Core.isCancelled_retiring (core : Core κ) (id : DebouncerId) (reason : CancellationReason)
    (task : TaskId) : (core.retiring id reason).scheduler.isCancelled task =
      (decide ((core.debouncer id).latest? = some task) || core.scheduler.isCancelled task) :=
  core.scheduler.isCancelled_cancel? _ reason task

theorem Core.journal_calling (core : Core κ) (id : DebouncerId) (now : Instant)
    (body : TaskBody κ) : (core.calling id now body).journal =
      .scheduled ⟨core.scheduler.nextId, now.after (core.debouncer id).delay, .debounced id body⟩ ::
        core.journal := by
  unfold Core.calling Core.scheduling
  rw [Core.nextId_retiring]
  rfl

theorem Core.debouncer_congr {core core' : Core κ}
    (hdebouncers : core'.debouncers = core.debouncers) (id : DebouncerId) :
    core'.debouncer id = core.debouncer id := by
  unfold Core.debouncer
  rw [hdebouncers]

/-- A number that was never given out belongs to a debouncer that is gone. -/
theorem Core.debouncer_of_le {core : Core κ} {id : DebouncerId}
    (hle : core.debouncers.length ≤ id) : core.debouncer id = ⟨⟨0⟩, none, false, true⟩ := by
  unfold Core.debouncer
  rw [List.getElem?_eq_none hle]
  rfl

theorem Core.debouncer_of_set (core : Core κ) {core' : Core κ} {id : DebouncerId}
    {debouncer : Debouncer} (hset : core'.debouncers = core.debouncers.set id debouncer)
    (other : DebouncerId) :
    core'.debouncer other =
      if other = id ∧ id < core.debouncers.length then debouncer else core.debouncer other := by
  unfold Core.debouncer
  rw [hset, List.getElem?_set]
  by_cases heq : id = other
  · subst heq
    by_cases hlt : id < core.debouncers.length <;> simp [hlt]
  · simp [heq, Ne.symm heq]

theorem Core.lt_of_dropped_eq_false {core : Core κ} {id : DebouncerId}
    (there : (core.debouncer id).dropped = false) : id < core.debouncers.length := by
  refine Nat.lt_of_not_le fun hle => ?_
  rw [Core.debouncer_of_le hle] at there
  cases there

theorem Core.lt_of_latest?_eq_some {core : Core κ} {id : DebouncerId} {task : TaskId}
    (latest : (core.debouncer id).latest? = some task) : id < core.debouncers.length := by
  refine Nat.lt_of_not_le fun hle => ?_
  rw [Core.debouncer_of_le hle] at latest
  cases latest

/-- A debouncer learns only of the turn of its latest job. -/
theorem Core.debouncer_starting (core : Core κ) (id : DebouncerId) (task : TaskId)
    (other : DebouncerId) : (core.starting id task).debouncer other =
      if other = id ∧ (core.debouncer id).latest? = some task then
        { core.debouncer id with started := true }
      else core.debouncer other := by
  unfold Core.starting
  by_cases latest : (core.debouncer id).latest? = some task
  · rw [if_pos latest, core.debouncer_of_set rfl]
    simp [latest, Core.lt_of_latest?_eq_some latest]
  · rw [if_neg latest, if_neg fun h => latest h.2]
    rfl

/-- A new debouncer has not been called. -/
theorem Core.debouncer_of_append (core : Core κ) {core' : Core κ} {delay : Duration}
    (happend : core'.debouncers = core.debouncers ++ [.ofDelay delay]) (other : DebouncerId) :
    core'.debouncer other =
      if other = core.debouncers.length then .ofDelay delay else core.debouncer other := by
  unfold Core.debouncer
  rw [happend, List.getElem?_append]
  split
  · rename_i hlt
    rw [if_neg (Nat.ne_of_lt hlt)]
  · rename_i hge
    rw [List.getElem?_singleton]
    by_cases heq : other = core.debouncers.length
    · simp [heq]
    · have hgt : ¬ other - core.debouncers.length = 0 := fun hzero =>
        heq (Nat.le_antisymm (Nat.le_of_sub_eq_zero hzero) (Nat.le_of_not_lt hge))
      rw [if_neg hgt, if_neg heq, List.getElem?_eq_none (Nat.le_of_not_lt hge)]

/-- It is the same whether a debouncer is dropped along with its job or right after that. -/
theorem Core.releasing_releasing (core : Core κ) (id : DebouncerId) (dropped : Bool) :
    { core.releasing id dropped with
      debouncers := (core.releasing id dropped).debouncers.set id
        { (core.releasing id dropped).debouncer id with dropped := true } } =
      core.releasing id true := by
  have hdebouncers : (core.releasing id dropped).debouncers.set id
      { (core.releasing id dropped).debouncer id with dropped := true } =
        (core.releasing id true).debouncers := by
    rw [core.debouncer_of_set rfl]
    unfold Core.releasing
    rw [List.set_set]
    by_cases hlt : id < core.debouncers.length
    · rw [if_pos ⟨rfl, hlt⟩]
    · rw [List.set_eq_of_length_le (Nat.le_of_not_lt hlt),
        List.set_eq_of_length_le (Nat.le_of_not_lt hlt)]
  rw [hdebouncers]
  rfl

/-- A new job comes last in the queue, but before the jobs that passes hold. -/
theorem Core.scheduling_perm (core : Core κ) (deadline : Instant) (job : Job κ)
    (held : List (Task (Job κ))) : ((core.scheduling deadline job).scheduler.queue ++ held).Perm
      (⟨core.scheduler.nextId, deadline, job⟩ :: (core.scheduler.queue ++ held)) := by
  simp only [Core.scheduling, Scheduler.schedule, List.append_assoc, List.singleton_append]
  exact List.perm_middle

/-! What is left when a widget is forgotten. -/

theorem Core.isMounted_withdrawing (core : Core κ) (id other : NodeId) :
    (core.withdrawing id).bridge.isMounted other = (other != id && core.bridge.isMounted other) :=
  Bridge.isMounted_evict _ _ _

theorem Core.get?_handles_withdrawing (core : Core κ) (id other : NodeId) :
    (core.withdrawing id).bridge.handles.get? other =
      if other = id then none else core.bridge.handles.get? other :=
  Table.get?_erase _ _ _

theorem Core.get?_pending_withdrawing (core : Core κ) (id other : NodeId) :
    (core.withdrawing id).bridge.pending.get? other =
      if other = id then none else core.bridge.pending.get? other :=
  Table.get?_erase _ _ _

theorem Core.isCancelled_withdrawing (core : Core κ) (id : NodeId) (task : TaskId) :
    (core.withdrawing id).scheduler.isCancelled task =
      (decide (core.bridge.pending.get? id = some task) || core.scheduler.isCancelled task) :=
  core.scheduler.isCancelled_cancel? _ .targetUnmounted task

theorem Core.mem_withdrawing_iff {core : Core κ} {id : NodeId} {entry : Entry κ}
    (hne : entry ≠ .withdrawn id) :
    entry ∈ (core.withdrawing id).journal ↔ entry ∈ core.journal := by
  unfold Core.withdrawing
  dsimp only
  split
  · simp [hne]
  · rfl

namespace Answered

variable {message : HostMessage} {core core' : Core κ} {accepted : Bool}

/-- The bridge does not change when a message is answered. -/
theorem bridge_eq (answered : Answered message core accepted core') :
    core'.bridge = core.bridge := by
  cases answered <;> rfl

theorem scheduler_eq (answered : Answered message core accepted core') :
    core'.scheduler = core.scheduler := by
  cases answered <;> rfl

theorem debouncers_eq (answered : Answered message core accepted core') :
    core'.debouncers = core.debouncers := by
  cases answered <;> rfl

theorem debouncer_eq (answered : Answered message core accepted core') (id : DebouncerId) :
    core'.debouncer id = core.debouncer id := Core.debouncer_congr answered.debouncers_eq id

theorem journal_suffix (answered : Answered message core accepted core') :
    core.journal <:+ core'.journal := by
  cases answered with
  | refused => exact List.suffix_cons _ _
  | acted => exact (List.suffix_append _ _).trans (List.suffix_cons _ _)

/-- The journal tells of the answer, and of the handle that the host may have left. -/
theorem mem_journal_iff (answered : Answered message core accepted core') {entry : Entry κ}
    (hsent : ∀ message accepted, entry ≠ .sent message accepted)
    (hpublished : ∀ id handle, entry ≠ .published id handle) :
    entry ∈ core'.journal ↔ entry ∈ core.journal := by
  cases answered with
  | refused => exact Core.mem_noting_iff (hsent _ _)
  | acted => exact (Core.mem_noting_iff (hsent _ _)).trans (Core.mem_hostActing_iff hpublished)

end Answered

/-- Whether there is more to a message than that it was accepted. -/
def HostMessage.isRecorded : HostMessage → Bool
  | .mount _ | .requestHandle _ => true
  | .update _ | .unmount _ | .invoke _ _ => false

/-- Whether a job is neither a debounced one nor picks up a handle. -/
def Job.isFree : Job κ → Bool
  | .task _ | .deliverHandle _ _ => true
  | .debounced _ _ | .resolveHandle _ => false

/-- The same widgets live on both hosts, and handles are numbered alike. -/
structure Host.Alike (first second : Host) : Prop where
  kind_eq : first.kind = second.kind
  live_eq : first.recording.live = second.recording.live
  publishes_eq : first.recording.publishes = second.recording.publishes
  lastHandle_eq : first.recording.lastHandle = second.recording.lastHandle

/-- The steps of a session whose program makes `allowed` requests.  Without `walking` no step mounts
or moves a widget. -/
inductive Step (allowed : Request κ → Prop) (walking : Prop) :
    List (Task (Job κ)) → Core κ → List (Task (Job κ)) → Core κ → Prop where
  /-- Something is noted. -/
  | note {waiting core} {entry : Entry κ} (idle : entry.isIdle = true) :
      Step allowed walking waiting core waiting (core.noting entry)
  /-- Something is counted, or the host begins or ends to act. -/
  | count {waiting core} (stats : BridgeStats) (busy : Bool) :
      Step allowed walking waiting core waiting
        { core with bridge := { core.bridge with stats := stats }, hostBusy := busy }
  /-- A job is scheduled that belongs to nobody. -/
  | schedule {waiting core} (deadline : Instant) {job : Job κ} (free : job.isFree = true) :
      Step allowed walking waiting core waiting (core.scheduling deadline job)
  /-- The embedding program cancels a job. -/
  | cancel {waiting core} {id : TaskId} {reason : CancellationReason}
      (permitted : allowed (.cancelTask id reason)) :
      Step allowed walking waiting core waiting (core.cancelling id reason)
  /-- The embedding program drops every job. -/
  | clear {waiting core} (permitted : allowed .clearTasks) :
      Step allowed walking waiting core waiting { core with scheduler := core.scheduler.clear }
  /-- A debouncer is made. -/
  | newDebouncer {waiting core} (delay : Duration) :
      Step allowed walking waiting core waiting
        { core with debouncers := core.debouncers ++ [.ofDelay delay] }
  /-- A debouncer that has not been dropped is called. -/
  | debounce {waiting core} {id : DebouncerId} (now : Instant) (body : TaskBody κ)
      (there : (core.debouncer id).dropped = false) :
      Step allowed walking waiting core waiting (core.calling id now body)
  /-- A debouncer cancels its job, and it may be dropped. -/
  | release {waiting core} {id : DebouncerId} {dropped : Bool}
      (stays : dropped = (core.debouncer id).dropped ∨ dropped = true) :
      Step allowed walking waiting core waiting (core.releasing id dropped)
  /-- A pass that has begun takes its batch. -/
  | takeDue {waiting core} {now : Instant} (began : .passBegan now ∈ core.journal) :
      Step allowed walking waiting core ((core.scheduler.takeDue now).1 ++ waiting)
        { core with scheduler := (core.scheduler.takeDue now).2 }
  /-- A pass comes to a job that has been cancelled. -/
  | skip {waiting core} {task : Task (Job κ)}
      (cancelled : core.scheduler.isCancelled task.id = true) :
      Step allowed walking (task :: waiting) core waiting core
  /-- A pass comes to a job that belongs to nobody. -/
  | run {waiting core} {task : Task (Job κ)} (live : core.scheduler.isCancelled task.id = false)
      (free : task.job.isFree = true) :
      Step allowed walking (task :: waiting) core waiting (core.noting (.ran task.id))
  /-- A pass comes to a job of a debouncer. -/
  | start {waiting core} {task : Task (Job κ)} {id : DebouncerId} {body : TaskBody κ}
      (live : core.scheduler.isCancelled task.id = false) (job : task.job = .debounced id body) :
      Step allowed walking (task :: waiting) core waiting (core.starting id task.id)
  /-- A pass comes to a job that picks up a handle. -/
  | resolve {waiting core} {task : Task (Job κ)} {id : NodeId}
      (live : core.scheduler.isCancelled task.id = false) (job : task.job = .resolveHandle id) :
      Step allowed walking (task :: waiting) core waiting
        ((core.noting (.ran task.id)).resolving id)
  /-- The embedding program fills a slot. -/
  | publish {waiting core} {id : NodeId} {handle : WidgetHandle}
      (permitted : allowed (.publish id handle)) :
      Step allowed walking waiting core waiting
        { core with slots := core.slots.publish id handle }
  /-- A slot is emptied. -/
  | discard {waiting core} (id : NodeId) :
      Step allowed walking waiting core waiting { core with slots := core.slots.discard id }
  /-- The host changes, but not in what it knows of widgets and handles. -/
  | adjust {waiting core} {host : Host} (alike : host.Alike core.host) :
      Step allowed walking waiting core waiting { core with host := host }
  /-- The embedding program hands a message to the host. -/
  | act {waiting core} {message : HostMessage} (permitted : allowed (.sendDirectly message)) :
      Step allowed walking waiting core waiting (core.hostActing message)
  /-- A message is answered, and there is nothing more to it. -/
  | answer {waiting core core'} {message : HostMessage} {accepted : Bool}
      (answered : Answered message core accepted core')
      (plain : accepted = true → message.isRecorded = false) :
      Step allowed walking waiting core waiting core'
  /-- The host accepts a widget, and the bridge records it. -/
  | mount {waiting core core'} {id : NodeId} {node : Node (Handler κ)} {placement : Placement}
      (walks : walking) (absent : core.bridge.isMounted id = false)
      (answered : Answered (.mount (.ofNode node id (some placement))) core true core') :
      Step allowed walking waiting core waiting
        { core' with bridge := core'.bridge.recordMount id node.kind placement node.handlers }
  /-- A widget is moved. -/
  | place {waiting core} (walks : walking) (id : NodeId) (placement : Placement) :
      Step allowed walking waiting core waiting
        { core with bridge := core.bridge.place id placement }
  /-- The handlers of a mounted widget are replaced. -/
  | handlers {waiting core} {id : NodeId} (mounted : core.bridge.isMounted id = true)
      (handlers : Interaction → Option (Handler κ)) :
      Step allowed walking waiting core waiting
        { core with
          bridge := { core.bridge with handlers := core.bridge.handlers.insert id handlers } }
  /-- The host accepts a request for a handle. -/
  | request {waiting core core'} {id : NodeId} (mounted : core.bridge.isMounted id = true)
      (unresolved : core.bridge.handles.get? id = none) (idle : core.bridge.pending.get? id = none)
      (answered : Answered (.requestHandle id) core true core') :
      Step allowed walking waiting core waiting (core'.requesting id)
  /-- An update of a mounted widget has asked for its handle. -/
  | asked {waiting core} {id : NodeId} (mounted : core.bridge.isMounted id = true) :
      Step allowed walking waiting core waiting
        { core with
          bridge := { core.bridge with requested := core.bridge.requested.insert id () } }
  /-- A widget is forgotten. -/
  | withdraw {waiting core} (id : NodeId) :
      Step allowed walking waiting core waiting (core.withdrawing id)

/-- Steps only add to the journal. -/
theorem Step.journal_suffix {allowed : Request κ → Prop} {walking : Prop}
    {waiting waiting' : List (Task (Job κ))} {core core' : Core κ}
    (step : Step allowed walking waiting core waiting' core') : core.journal <:+ core'.journal := by
  cases step with
  | note idle => exact List.suffix_cons _ _
  | schedule deadline free => exact List.suffix_cons _ _
  | debounce now body there => exact List.suffix_cons _ _
  | run live free => exact List.suffix_cons _ _
  | start live job => exact List.suffix_cons _ _
  | resolve live job => exact List.suffix_cons _ _
  | act permitted => exact List.suffix_append _ _
  | answer answered plain => exact answered.journal_suffix
  | mount walks absent answered => exact answered.journal_suffix
  | request mounted unresolved idle answered =>
      exact answered.journal_suffix.trans (List.suffix_cons _ _)
  | withdraw id =>
      unfold Core.withdrawing
      dsimp only
      split
      · exact List.suffix_cons _ _
      · exact List.suffix_refl _
  | _ => exact List.suffix_refl _

end EditorShell
