import EditorShell.Proofs.Run.Upholding
import EditorShell.Proofs.Run.Making

/-!
# What the operations of the core are made of

The operations that reach the jobs, the debouncers, the slots, the host and the bridge, taken apart
in three stages.  `Act.Class.Singles` leaves whatever is done to one job, one debouncer or one
widget whole, for laws about such an operation (`Core.of_singles`).  `Act.Class.Pieces` leaves
messages, mounts and unmounts whole, for laws about what is sent (`Core.of_pieces`).  A law that
looks at the core only through the journal can have these taken apart as well (`Pieces.of_change`).
`Act.Class.Steady` is what is left without unmounts, for laws about what stays mounted
(`Inner.of_steady`).

The bridge itself needs little of this.  `Act.Class.Bridged` is that part of `Steady`, for laws
about a shell whose program makes few requests, and `Act.Class.Asking` is what is left of it between
renders.
-/

namespace EditorShell

variable {κ S : Type} {ι : Type}

/-! ## Kinds of changes -/

/-- The number of messages of an operation that were counted. -/
def BridgeStats.ofOp (stats : BridgeStats) : HostOp → Nat
  | .mount => stats.mounts
  | .update => stats.updates
  | .unmount => stats.unmounts
  | .requestHandle => stats.handleRequests
  | .invoke => stats.invokes

/-- The same widgets are mounted, and the same messages were counted. -/
structure Bridge.Alike (first second : Bridge ι) : Prop where
  names_eq : first.mounted.names = second.mounted.names
  ofOp_eq : ∀ op, first.stats.ofOp op = second.stats.ofOp op
  hostFailures_eq : first.stats.hostFailures = second.stats.hostFailures

theorem Bridge.Alike.refl (bridge : Bridge ι) : bridge.Alike bridge := ⟨rfl, fun _ => rfl, rfl⟩

theorem Bridge.alike_place (bridge : Bridge ι) (id : NodeId) (placement : Placement) :
    (bridge.place id placement).Alike bridge where
  names_eq := Table.names_modify _ _ _
  ofOp_eq _ := rfl
  hostFailures_eq := rfl

theorem Bridge.alike_settle (bridge : Bridge ι) (id : NodeId) (published? : Option WidgetHandle) :
    (bridge.settle id published?).Alike bridge := by
  have hstats : ∃ resolved, (bridge.settle id published?).stats =
      { bridge.stats with handlesResolved := resolved } := by
    unfold Bridge.settle
    cases published? with
    | none => exact ⟨_, rfl⟩
    | some handle =>
        dsimp only
        split <;> exact ⟨_, rfl⟩
  obtain ⟨resolved, hstats⟩ := hstats
  refine ⟨by rw [Bridge.mounted_settle], fun op => ?_, by rw [hstats]⟩
  rw [hstats]
  cases op <;> rfl

theorem Bridge.alike_countHandlerFailure (bridge : Bridge ι) :
    bridge.countHandlerFailure.Alike bridge where
  names_eq := rfl
  ofOp_eq op := by cases op <;> rfl
  hostFailures_eq := rfl

/-- Whether a message changes which widgets are on the host. -/
def HostMessage.isPlacing : HostMessage → Bool
  | .mount _ | .unmount _ => true
  | .update _ | .requestHandle _ | .invoke _ _ => false

/-- Whether a message is about the handle of a widget. -/
def HostMessage.isAsking : HostMessage → Bool
  | .requestHandle _ | .invoke _ _ => true
  | .mount _ | .update _ | .unmount _ => false

theorem HostMessage.isPlacing_of_isAsking {message : HostMessage}
    (hasking : message.isAsking = true) : message.isPlacing = false := by
  cases message <;> first | rfl | cases hasking

/-- Whether an entry tells of a job that was scheduled, of a message or of a handle. -/
def Entry.isRecord : Entry κ → Bool
  | .published _ _ | .sent _ _ | .scheduled _ => true
  | _ => false

/-- Whether an entry tells of a widget that is about to change. -/
def Entry.isPlacing : Entry κ → Bool
  | .declared _ _ | .withdrawn _ => true
  | _ => false

/-- Whether a job is one of the embedding program, and not one of the bridge. -/
def Job.isOfProgram : Job κ → Bool
  | .task _ | .debounced _ _ => true
  | .resolveHandle _ | .deliverHandle _ _ => false

/-- Whether a request speaks to the host itself, past the bridge. -/
def Request.isDirect : Request κ → Bool
  | .sendDirectly _ | .failOp _ | .recoverOp _ | .clearRecording | .setWireFault _ => true
  | _ => false

/-- Whether a request can unmount widgets. -/
def Request.unmounts : Request κ → Bool
  | .unmount _ | .unmountSubtree _ | .render _ | .renderPanels => true
  | _ => false

/-- A session with another core. -/
def Session.withCore (session : Session κ S) (core : Core κ) : Session κ S :=
  { session with
    scheduler := core.scheduler
    debouncers := core.debouncers
    slots := core.slots
    host := core.host
    hostBusy := core.hostBusy
    bridge := core.bridge
    journal := core.journal }

/-- What an operation other than a pass does to the scheduler, with what it notes. -/
inductive Scheduler.Worked (allowed : Request κ → Prop) (before : Scheduler (Job κ)) :
    List (Entry κ) → Scheduler (Job κ) → Prop where
  | idle {noted : List (Entry κ)} (unscheduled : ∀ task, Entry.scheduled task ∉ noted) :
      Worked allowed before noted before
  | scheduled (deadline : Instant) (job : Job κ) :
      Worked allowed before [.scheduled ⟨before.nextId, deadline, job⟩]
        (before.schedule deadline job).2
  | cancelled (id : TaskId) (reason : CancellationReason) :
      Worked allowed before [] (before.cancel id reason)
  /-- The embedding program drops every job. -/
  | cleared (permitted : allowed .clearTasks) : Worked allowed before [] before.clear

/-- Only the core changes, and only what became of jobs, messages and handles is noted. -/
structure Session.Works (allowed : Request κ → Prop) (before after : Session κ S) : Prop where
  eq : after = before.withCore after.core
  noted : ∃ noted, after.journal = noted ++ before.journal ∧
    (∀ entry ∈ noted, Entry.isRecord entry = true) ∧
      Scheduler.Worked allowed before.scheduler noted after.scheduler

theorem Session.Works.of_journal_eq {allowed : Request κ → Prop} {before after : Session κ S}
    (eq : after = before.withCore after.core) (hjournal : after.journal = before.journal)
    (worked : Scheduler.Worked allowed before.scheduler [] after.scheduler) :
    before.Works allowed after := by
  refine ⟨eq, [], hjournal, fun entry hentry => ?_, worked⟩
  cases hentry

/-- Only the slots, the host and the bridge change, and only what became of messages and handles is
noted. -/
structure Session.Exchanges (before after : Session κ S) : Prop where
  eq : after = { before with
    slots := after.slots
    host := after.host
    hostBusy := after.hostBusy
    bridge := after.bridge
    journal := after.journal }
  noted : ∃ noted, after.journal = noted ++ before.journal ∧ ∀ entry ∈ noted,
    Entry.isRecord entry = true ∧ ∀ task, entry ≠ .scheduled task

/-- Only what changes while a message is on its way does change: the slots, the host and the counts
of the bridge.  At most a handle is noted that the host leaves. -/
structure Session.Engages (before after : Session κ S) : Prop where
  eq : after = { before with
    slots := after.slots
    host := after.host
    hostBusy := after.hostBusy
    bridge := { before.bridge with stats := after.bridge.stats }
    journal := after.journal }
  noted : ∃ noted, after.journal = noted ++ before.journal ∧
    ∀ entry ∈ noted, ∃ id handle, entry = .published id handle

theorem Session.Engages.exchanges {before after : Session κ S} (engages : before.Engages after) :
    before.Exchanges after := by
  obtain ⟨heq, noted, hjournal, hnoted⟩ := engages
  refine ⟨by rw [heq], noted, hjournal, fun entry hentry => ?_⟩
  obtain ⟨_, _, rfl⟩ := hnoted entry hentry
  exact ⟨rfl, by simp⟩

/-- What an exchange notes leaves the scheduler alone. -/
theorem Session.Exchanges.works {before after : Session κ S} (exchanges : before.Exchanges after)
    (allowed : Request κ → Prop) : before.Works allowed after := by
  obtain ⟨heq, noted, hjournal, hnoted⟩ := exchanges
  have hscheduler : after.scheduler = before.scheduler := by rw [heq]
  refine ⟨?_, noted, hjournal, fun entry hentry => (hnoted entry hentry).1, ?_⟩
  · rw [heq]
    rfl
  · rw [hscheduler]
    exact .idle fun task hmem => (hnoted _ hmem).2 task rfl

namespace Act.Class

variable (Parts : Act.Class κ S)

/-- What is done to one job or one debouncer is made of `Parts`. -/
structure Jobs (allowed : Request κ → Prop) : Prop where
  scheduleTask : ∀ deadline body, (Session.scheduleAt (S := S) deadline (.task body)).MadeOf Parts
  cancelTask : ∀ id reason, allowed (.cancelTask id reason) →
    (Session.cancelTask id reason).MadeOf Parts
  clearTasks : allowed .clearTasks → Session.clearTasks.MadeOf Parts
  newDebouncer : ∀ delay, (Session.newDebouncer delay).MadeOf Parts
  debounce : ∀ id body, (Session.debounce (S := S) id body).MadeOf Parts
  cancelDebounced : ∀ id, (Session.cancelDebounced id).MadeOf Parts
  dropDebouncer : ∀ id, (Session.dropDebouncer id).MadeOf Parts
  markStarted : ∀ id task, (Session.markStarted id task).MadeOf Parts

/-- What the turns of jobs come to is made of `Parts`: a call, of which a debouncer may learn, or a
handle that is picked up. -/
structure Turns : Prop where
  markStarted : ∀ id task, (Session.markStarted id task).MadeOf Parts
  call : ∀ call : Call κ, call.isJob = true → (Act.call (S := S) call).MadeOf Parts
  resolveRequested : ∀ id, (Session.resolveRequested id).MadeOf Parts

/-- What is done to one job, one debouncer or one widget is made of `Parts`, but for the turns of
jobs and for unmounts. -/
structure Singles (allowed : Request κ → Prop) : Prop extends Parts.Jobs allowed where
  publish : ∀ id handle, allowed (.publish id handle) →
    (Session.changeSlots fun slots => slots.publish id handle).MadeOf Parts
  takeHandle : ∀ id, allowed (.takeHandle id) → (Session.takeHandle id).MadeOf Parts
  resolveHandle : ∀ id receiver, (Session.resolveHandle (S := S) id receiver).MadeOf Parts
  invoke : ∀ id command, (Session.invoke id command).MadeOf Parts
  mount : ∀ id node placement, (Session.mount (S := S) id node placement).MadeOf Parts
  updateInPlace : ∀ id node, (Session.updateInPlace (S := S) id node).MadeOf Parts
  updateAt : ∀ id node placement, (Session.updateAt (S := S) id node placement).MadeOf Parts
  countHandlerFailure : (Session.changeBridge (S := S) Bridge.countHandlerFailure).MadeOf Parts
  direct : ∀ request : Request κ, request.isDirect = true → allowed request →
    (request.perform (S := S)).MadeOf Parts

/-- What the bridge does about handles is made of `Parts`; messages are left whole. -/
structure Asking : Prop where
  scheduleAt : ∀ deadline (job : Job κ), job.isOfProgram = false →
    (Session.scheduleAt (S := S) deadline job).MadeOf Parts
  cancelTask : ∀ id reason, (Session.cancelTask id reason).MadeOf Parts
  changeSlots : ∀ f, (Session.changeSlots f).MadeOf Parts
  changeHandles : ∀ f : Bridge (Handler κ) → Bridge (Handler κ),
    (∀ bridge, (f bridge).Alike bridge ∧ (f bridge).mounted = bridge.mounted ∧
      (f bridge).handlers = bridge.handlers) → (Session.changeBridge (S := S) f).MadeOf Parts
  ask : ∀ message, HostMessage.isAsking message = true → (Session.callHost message).MadeOf Parts

/-- What the bridge does without unmounts is made of `Parts`; messages and mounts are left whole. -/
structure Bridged : Prop extends Parts.Asking where
  changeBridge : ∀ f : Bridge (Handler κ) → Bridge (Handler κ),
    (∀ bridge, (f bridge).Alike bridge) → (Session.changeBridge (S := S) f).MadeOf Parts
  declare : ∀ id node, (Act.note (S := S) (.declared id node)).MadeOf Parts
  callHost : ∀ message, HostMessage.isPlacing message = false →
    (Session.callHost message).MadeOf Parts
  mount : ∀ id node placement, (Session.mount (S := S) id node placement).MadeOf Parts
  changeHandles := fun f hf => changeBridge f fun bridge => (hf bridge).1
  ask := fun message hasking => callHost message (HostMessage.isPlacing_of_isAsking hasking)

/-- The operations of the core that unmount nothing are made of `Parts`, messages and mounts being
left whole. -/
structure Steady (allowed : Request κ → Prop) : Prop extends Parts.Bridged where
  scheduleJob : ∀ deadline (job : Job κ), job.isOfProgram = true →
    (Session.scheduleAt (S := S) deadline job).MadeOf Parts
  clearTasks : allowed .clearTasks → Session.clearTasks.MadeOf Parts
  debouncers : ∀ f : Session κ S → List Debouncer,
    (Act.change fun session => { session with debouncers := f session }).MadeOf Parts
  direct : ∀ request : Request κ, request.isDirect = true → allowed request →
    (request.perform (S := S)).MadeOf Parts

/-- The operations of the core are made of `Parts`, messages, mounts and unmounts being left
whole. -/
structure Pieces (allowed : Request κ → Prop) : Prop extends Parts.Steady allowed where
  unmount : ∀ id, (Session.unmount id).MadeOf Parts

/-- Nodes are mounted and updated. -/
structure Placing : Prop where
  mount : ∀ id node placement, (Session.mount (S := S) id node placement).MadeOf Parts
  updateAt : ∀ id node placement, (Session.updateAt (S := S) id node placement).MadeOf Parts

variable {Parts} {allowed : Request κ → Prop}

/-! ## Walks -/

namespace Placing

theorem visit (placing : Parts.Placing) (parent : Option NodeId) (index : Nat)
    (node : Node (Handler κ)) (walk : Session.Walk) :
    (Session.visit (S := S) parent index node walk).MadeOf Parts := by
  apply MadeOf.ite
  · exact .pure _
  refine .bind ?_ fun visited => ?_
  · -- A node that is not mounted yet is mounted, and the host may refuse it.
    refine .bind (.read _) fun mounted => .ite (.pure _) ?_
    refine .bind (placing.mount _ _ _) fun accepted => ?_
    exact .ite (.pure _) (.pure _)
  · apply MadeOf.ite
    · exact .bind (placing.updateAt _ _ _) fun _ => .pure _
    · exact .pure _

mutual

theorem walkTree (placing : Parts.Placing) (parent : Option NodeId) (index : Nat)
    (walk : Session.Walk) (node : Node (Handler κ)) :
    (Session.walkTree (S := S) parent index walk node).MadeOf Parts := by
  match node with
  | ⟨id, kind, style, props, handlers, children, data⟩ =>
      unfold Session.walkTree
      refine .bind (placing.visit parent index _ walk) fun visited => ?_
      obtain ⟨entered?, walk⟩ := visited
      cases entered? with
      | none => exact .pure walk
      | some id => exact placing.walkChildren id 0 walk children

theorem walkChildren (placing : Parts.Placing) (parent : NodeId) (index : Nat)
    (walk : Session.Walk) (children : List (Node (Handler κ))) :
    (Session.walkChildren (S := S) parent index walk children).MadeOf Parts := by
  match children with
  | [] => exact .pure walk
  | child :: children =>
      unfold Session.walkChildren
      refine .bind (placing.walkTree (some parent) index walk child) fun walk => ?_
      exact placing.walkChildren parent (index + 1) walk children

end

theorem render (placing : Parts.Placing)
    (hunmount : ∀ ids, (Session.unmountAll ids : Act κ S Unit).MadeOf Parts)
    (root : Node (Handler κ)) : (Session.render (S := S) root).MadeOf Parts := by
  refine .bind (placing.walkTree none 0 .start root) fun walk => ?_
  -- What the walk has not visited has vanished from the tree.
  refine .bind (.read _) fun vanished => ?_
  refine .bind (hunmount vanished) fun _ => ?_
  exact .pure _

end Placing

/-! ## Passes -/

namespace Turns

variable (turns : Parts.Turns)

include turns

theorem runJob (id : TaskId) (job : Job κ) : (Session.runJob (S := S) id job).MadeOf Parts := by
  cases job with
  | task body => exact .bind (turns.call _ rfl) fun _ => .pure ()
  | debounced debouncer body =>
      refine .bind (turns.markStarted debouncer id) fun _ => ?_
      exact .bind (turns.call _ rfl) fun _ => .pure ()
  | resolveHandle target => exact turns.resolveRequested target
  | deliverHandle target receiver =>
      refine .bind (.read _) fun handle? => ?_
      exact .bind (turns.call _ rfl) fun _ => .pure ()

variable (note : ∀ entry : Entry κ, entry.isPass = true → (Act.note (S := S) entry).MadeOf Parts)

include note

theorem runBatch (count : Nat) (tasks : List (Task (Job κ))) :
    (Session.runBatch (S := S) count tasks).MadeOf Parts := by
  induction tasks generalizing count with
  | nil => exact .pure count
  | cons task rest ih =>
      refine .bind (.read _) fun cancelled => .ite (ih count) ?_
      refine .bind (note _ rfl) fun _ => ?_
      refine .bind (turns.runJob task.id task.job) fun _ => ?_
      exact ih (count + 1)

/-- Passes are made of `Parts` when taking a batch is. -/
theorem runDue (takeBatch : Session.takeBatch.MadeOf Parts) :
    (Session.runDue : Act κ S Nat).MadeOf Parts := by
  refine .bind (.read _) fun now => ?_
  refine .bind (note (.passBegan now) rfl) fun _ => ?_
  refine .bind takeBatch fun batch => ?_
  refine .bind (turns.runBatch note 0 batch) fun count => ?_
  exact .bind (note (.passEnded count) rfl) fun _ => .pure count

end Turns

/-! ## From single operations -/

/-- An interaction is made of `Parts` when counting its failure is. -/
theorem Ordinary.dispatchEvent (ordinary : Parts.Ordinary)
    (countHandlerFailure :
      (Session.changeBridge (S := S) Bridge.countHandlerFailure).MadeOf Parts)
    (event : UiEvent) : (Session.dispatchEvent event : Act κ S Bool).MadeOf Parts := by
  refine .bind (.read _) fun bridge => .ite (.pure false) ?_
  split
  · exact .pure true
  · refine .bind (ordinary.interact _ _) fun outcome => ?_
    split
    · exact .pure true
    · exact .bind countHandlerFailure fun _ => .pure true

namespace Singles

variable (singles : Parts.Singles allowed)

include singles

theorem placing : Parts.Placing := ⟨singles.mount, singles.updateAt⟩

/-- The requests that unmount nothing, when passes are given. -/
theorem request (ordinary : Parts.Ordinary) (runDue : Session.runDue.MadeOf Parts)
    (request : Request κ) (hcore : request.isCore = true) (permitted : allowed request)
    (hunmounts : request.unmounts = false) : (request.perform (S := S)).MadeOf Parts := by
  cases request <;>
    try first
      | exact absurd hcore Bool.false_ne_true
      | exact absurd hunmounts.symm Bool.false_ne_true
  case scheduleAt deadline task => exact singles.scheduleTask deadline _
  case scheduleAfter delay task => exact .bind (.read _) fun now => singles.scheduleTask _ _
  case scheduleNext task => exact singles.scheduleTask .start _
  case cancelTask id reason => exact singles.cancelTask id reason permitted
  case clearTasks => exact singles.clearTasks permitted
  case runDue => exact runDue
  case newDebouncer delay => exact singles.newDebouncer delay
  case debounce id task => exact singles.debounce id _
  case cancelDebounced id => exact singles.cancelDebounced id
  case dropDebouncer id => exact singles.dropDebouncer id
  case publish id handle => exact singles.publish id handle permitted
  case takeHandle id => exact singles.takeHandle id permitted
  case mount id node placement => exact singles.mount id node placement
  case update id node => exact singles.updateInPlace id node
  case resolveHandle id receiver => exact singles.resolveHandle id _
  case invoke id command => exact singles.invoke id command
  case dispatchEvent event => exact ordinary.dispatchEvent singles.countHandlerFailure event
  case sendDirectly message => exact singles.direct _ rfl permitted
  case failOp op => exact singles.direct _ rfl permitted
  case recoverOp op => exact singles.direct _ rfl permitted
  case clearRecording => exact singles.direct _ rfl permitted
  case setWireFault fault? => exact singles.direct _ rfl permitted

/-- What the shell itself does to the core, when its requests are given. -/
theorem inner (runDue : Session.runDue.MadeOf Parts)
    (request : ∀ request : Request κ, request.isCore = true → allowed request →
      (request.perform (S := S)).MadeOf Parts) : Parts.Inner allowed where
  request := request
  runDue := runDue
  resolveHandle := singles.resolveHandle
  invoke := singles.invoke
  newDebouncer := singles.newDebouncer
  debounce := singles.debounce
  dropDebouncer := singles.dropDebouncer

end Singles

/-- The operations of the core are made of passes, of the unmounts and of what is done to single
jobs, debouncers and widgets. -/
theorem Core.of_singles (ordinary : Parts.Ordinary) (singles : Parts.Singles allowed)
    (runDue : Session.runDue.MadeOf Parts)
    (unmount : ∀ id, allowed (.unmount id) → (Session.unmount id).MadeOf Parts)
    (unmountSubtree : ∀ id, (Session.unmountSubtree id).MadeOf Parts)
    (render : ∀ root, (Session.render (S := S) root).MadeOf Parts) : Parts.Core allowed where
  toInner := singles.inner runDue fun request hcore permitted => by
    cases hunmounts : request.unmounts with
    | false => exact singles.request ordinary runDue request hcore permitted hunmounts
    | true =>
        cases request with
        | unmount id => exact unmount id permitted
        | unmountSubtree id => exact unmountSubtree id
        | render root => exact render root
        | renderPanels => cases hcore
        | _ => cases hunmounts
  render := render

theorem unmountAll_of_unmount (unmount : ∀ id, (Session.unmount id : Act κ S Bool).MadeOf Parts)
    (ids : List NodeId) : (Session.unmountAll ids : Act κ S Unit).MadeOf Parts := by
  induction ids with
  | nil => exact .pure ()
  | cons id rest ih => exact .bind (unmount id) fun _ => ih

/-- It is enough that every unmount is given. -/
theorem Core.of_unmount (ordinary : Parts.Ordinary) (singles : Parts.Singles allowed)
    (runDue : Session.runDue.MadeOf Parts)
    (unmount : ∀ id, (Session.unmount id : Act κ S Bool).MadeOf Parts) : Parts.Core allowed := by
  have unmountAll := unmountAll_of_unmount unmount
  apply Core.of_singles ordinary singles runDue
  · exact fun id _ => unmount id
  · intro id
    refine .bind (.read _) fun doomed => ?_
    exact .bind (unmountAll doomed) fun _ => .pure doomed
  · exact singles.placing.render unmountAll

/-! ## From pieces -/

section

variable (cancelTask : ∀ id reason, (Session.cancelTask id reason : Act κ S Unit).MadeOf Parts)

include cancelTask

theorem cancelTask?_of_cancelTask (id? : Option TaskId) (reason : CancellationReason) :
    (Session.cancelTask? id? reason : Act κ S Unit).MadeOf Parts := by
  cases id? with
  | none => exact .pure ()
  | some id => exact cancelTask id reason

/-- Any change of the debouncers is made of `Parts`, and so is what happens to the jobs of the
embedding program. -/
theorem Jobs.of_change
    (scheduleAt : ∀ deadline (job : Job κ), job.isOfProgram = true →
      (Session.scheduleAt (S := S) deadline job).MadeOf Parts)
    (clearTasks : allowed .clearTasks → (Session.clearTasks : Act κ S Unit).MadeOf Parts)
    (change : ∀ f : Session κ S → List Debouncer,
      (Act.change fun session => { session with debouncers := f session }).MadeOf Parts) :
    Parts.Jobs allowed := by
  have cancelDebounced : ∀ id, (Session.cancelDebounced id : Act κ S Unit).MadeOf Parts := by
    intro id
    refine .bind (.read _) fun debouncer => ?_
    refine .bind (change _) fun _ => ?_
    exact cancelTask?_of_cancelTask cancelTask _ _
  constructor
  case scheduleTask => exact fun deadline body => scheduleAt deadline (.task body) rfl
  case cancelTask => exact fun id reason _ => cancelTask id reason
  case clearTasks => exact clearTasks
  case newDebouncer =>
    intro delay
    refine .bind (.read _) fun id => ?_
    exact .bind (change _) fun _ => .pure id
  case debounce =>
    intro id body
    unfold Session.debounce
    refine .bind (.read _) fun debouncer => .ite (.pure ()) ?_
    -- The new job is scheduled before the one that it replaces is cancelled.
    refine .bind (.bind (.read _) fun now => scheduleAt _ _ rfl) fun task => ?_
    refine .bind (change _) fun _ => ?_
    exact cancelTask?_of_cancelTask cancelTask _ _
  case cancelDebounced => exact cancelDebounced
  case dropDebouncer =>
    intro id
    refine .bind (cancelDebounced id) fun _ => ?_
    exact .bind (.read _) fun debouncer => change _
  case markStarted =>
    intro id task
    refine .bind (.read _) fun debouncer => ?_
    exact .ite (change _) (.pure ())

end

namespace Asking

variable (pieces : Parts.Asking)

include pieces

theorem cancelTask? (id? : Option TaskId) (reason : CancellationReason) :
    (Session.cancelTask? id? reason : Act κ S Unit).MadeOf Parts :=
  cancelTask?_of_cancelTask pieces.cancelTask id? reason

theorem takeHandle (id : NodeId) :
    (Session.takeHandle id : Act κ S (Option WidgetHandle)).MadeOf Parts := by
  refine .bind (.read _) fun handle? => ?_
  exact .bind (pieces.changeSlots _) fun _ => .pure handle?

theorem requestHandle (id : NodeId) : (Session.requestHandle id : Act κ S Bool).MadeOf Parts := by
  refine .bind (pieces.ask _ rfl) fun accepted => .ite ?_ (.pure false)
  refine .bind (pieces.scheduleAt _ _ rfl) fun task => ?_
  -- The request before is looked up first, replaced, and only then cancelled.
  refine .bind (.read _) fun previous? => ?_
  refine .bind (pieces.changeHandles _ fun _ => ⟨⟨rfl, fun _ => rfl, rfl⟩, rfl, rfl⟩) fun _ => ?_
  exact .bind (pieces.cancelTask? _ _) fun _ => .pure true

theorem resolveHandle (id : NodeId) (receiver : Receiver κ) :
    (Session.resolveHandle (S := S) id receiver).MadeOf Parts := by
  refine .bind (.read _) fun bridge => .bind (.when ?_) fun _ => ?_
  · exact .bind (pieces.requestHandle id) fun _ => .pure ()
  · exact .bind (pieces.scheduleAt _ _ rfl) fun _ => .pure ()

theorem invoke (id : NodeId) (command : WidgetCommand) :
    (Session.invoke id command : Act κ S Bool).MadeOf Parts := by
  refine .bind (.read _) fun handle? => ?_
  cases handle? with
  | none => exact .pure false
  | some handle => exact pieces.ask _ rfl

theorem askOnce (id : NodeId) : (Session.askOnce id : Act κ S Unit).MadeOf Parts := by
  refine .bind (.read _) fun wanted => .when (.bind (pieces.requestHandle id) fun asked => ?_)
  exact .when (pieces.changeHandles _ fun _ => ⟨⟨rfl, fun _ => rfl, rfl⟩, rfl, rfl⟩)

theorem countHandlerFailure :
    (Session.changeBridge (S := S) Bridge.countHandlerFailure).MadeOf Parts := by
  refine pieces.changeHandles _ fun bridge => ?_
  exact ⟨bridge.alike_countHandlerFailure, rfl, rfl⟩

theorem resolveRequested (id : NodeId) :
    (Session.resolveRequested id : Act κ S Unit).MadeOf Parts := by
  refine .bind (pieces.takeHandle id) fun published? => ?_
  refine pieces.changeHandles _ fun bridge => ⟨bridge.alike_settle id published?, ?_, ?_⟩
  · exact bridge.mounted_settle id published?
  · exact bridge.handlers_settle id published?

end Asking

namespace Bridged

variable (pieces : Parts.Bridged)

include pieces

theorem updateInPlace (id : NodeId) (node : Node (Handler κ)) :
    (Session.updateInPlace (S := S) id node).MadeOf Parts := by
  refine .bind (.read _) fun place? => ?_
  refine .bind (pieces.declare id node) fun _ => ?_
  refine .bind (pieces.callHost _ rfl) fun accepted => .bind (.when ?_) fun _ => .pure accepted
  refine .bind (.when (pieces.changeBridge _ fun _ => ⟨rfl, fun _ => rfl, rfl⟩)) fun _ => ?_
  exact pieces.askOnce id

theorem updateAt (id : NodeId) (node : Node (Handler κ)) (placement : Placement) :
    (Session.updateAt (S := S) id node placement).MadeOf Parts := by
  refine .bind (pieces.changeBridge _ fun bridge => ?_) fun _ => pieces.updateInPlace id node
  exact bridge.alike_place id placement

theorem placing : Parts.Placing := ⟨pieces.mount, pieces.updateAt⟩

/-- What is done to one job, one debouncer or one widget, when the jobs of the embedding program and
the debouncers are given. -/
theorem singles (jobs : Parts.Jobs allowed)
    (direct : ∀ request : Request κ, request.isDirect = true → allowed request →
      (request.perform (S := S)).MadeOf Parts) : Parts.Singles allowed where
  toJobs := jobs
  publish _ _ _ := pieces.changeSlots _
  takeHandle id _ := pieces.takeHandle id
  resolveHandle := pieces.resolveHandle
  invoke := pieces.invoke
  mount := pieces.mount
  updateInPlace := pieces.updateInPlace
  updateAt := pieces.updateAt
  countHandlerFailure := pieces.countHandlerFailure
  direct := direct

end Bridged

namespace Steady

variable (pieces : Parts.Steady allowed)

include pieces

theorem jobs : Parts.Jobs allowed :=
  .of_change pieces.cancelTask pieces.scheduleJob pieces.clearTasks pieces.debouncers

/-- What is done to one job, one debouncer or one widget is made of pieces. -/
theorem singles : Parts.Singles allowed := pieces.toBridged.singles pieces.jobs pieces.direct

theorem turns (call : ∀ call : Call κ, call.isJob = true → (Act.call (S := S) call).MadeOf Parts) :
    Parts.Turns := ⟨pieces.jobs.markStarted, call, pieces.resolveRequested⟩

end Steady

/-- Where the embedding program unmounts nothing, passes and the pieces without unmounts are
enough. -/
theorem Inner.of_steady (ordinary : Parts.Ordinary) (pieces : Parts.Steady allowed)
    (runDue : Session.runDue.MadeOf Parts)
    (hallowed : ∀ request, allowed request → request.unmounts = false) : Parts.Inner allowed := by
  refine pieces.singles.inner runDue fun request hcore permitted => ?_
  have hunmounts := hallowed request permitted
  exact pieces.singles.request ordinary runDue request hcore permitted hunmounts

/-- The operations of the core are made of passes and of their pieces. -/
theorem Core.of_pieces (ordinary : Parts.Ordinary) (pieces : Parts.Pieces allowed)
    (runDue : Session.runDue.MadeOf Parts) : Parts.Core allowed :=
  .of_unmount ordinary pieces.singles runDue pieces.unmount

/-! ## From changes -/

theorem takeBatch_of_change
    (change : ∀ f : Session κ S → Instant,
      (Act.change fun session => { session with
        scheduler := (session.scheduler.takeDue (f session)).2 }).MadeOf Parts) :
    (Session.takeBatch : Act κ S (List (Task (Job κ)))).MadeOf Parts := by
  refine .bind (.read _) fun now => ?_
  refine .bind (.read _) fun batch => ?_
  exact .bind (change fun _ => now) fun _ => .pure batch

section

variable
  (engages : ∀ f : Session κ S → Session κ S,
    (∀ session : Session κ S, session.Engages (f session)) → (Act.change f).MadeOf Parts)
  {message : HostMessage} (host : (Act.call (S := S) (Call.host (κ := κ) message)).MadeOf Parts)

include engages host

theorem sendDirectly_of_engages :
    (Session.sendDirectly (κ := κ) (S := S) message).MadeOf Parts := by
  unfold Session.sendDirectly
  refine .bind host fun outcome => ?_
  split
  · refine .bind (.bind (.read _) fun answer => .bind ?_ fun _ => .pure answer) fun _ => .pure _
    -- The host acts on the message, and leaves a handle at most.
    refine engages _ fun session =>
      ⟨rfl, Session.publicationEntry session.host message, rfl, fun entry hentry => ?_⟩
    unfold Session.publicationEntry at hentry
    split at hentry
    · exact ⟨_, _, List.mem_singleton.1 hentry⟩
    · cases hentry
  · exact .pure _
  · exact .pure _

theorem offer_of_engages : (Session.offer (κ := κ) (S := S) message).MadeOf Parts := by
  have busy : ∀ value, (Session.setHostBusy (κ := κ) (S := S) value).MadeOf Parts :=
    fun value => engages _ fun _ => ⟨rfl, [], rfl, by simp⟩
  refine .bind (.read _) fun taken => .ite (.pure false) ?_
  refine .bind (busy true) fun _ => .bind ?_ fun accepted => ?_
  · refine .bind (sendDirectly_of_engages engages host) fun answer => ?_
    split <;> exact .pure _
  · exact .bind (busy false) fun _ => .pure accepted

theorem callHost_of_engages
    (conclude : ∀ accepted, (Session.conclude (κ := κ) (S := S) message accepted).MadeOf Parts) :
    (Session.callHost (κ := κ) (S := S) message).MadeOf Parts := by
  refine .bind (engages _ fun _ => ⟨rfl, [], rfl, by simp⟩) fun _ => ?_
  refine .bind (offer_of_engages engages host) fun accepted => ?_
  exact .bind (conclude accepted) fun _ => .pure accepted

end

section

variable
  (exchange : ∀ f : Session κ S → Session κ S,
    (∀ session : Session κ S, session.Exchanges (f session)) → (Act.change f).MadeOf Parts)
  (host : ∀ message, (Act.call (S := S) (Call.host (κ := κ) message)).MadeOf Parts)

include exchange

/-- A change of the slots, the host or the bridge that notes nothing. -/
theorem change_of_exchange {f : Session κ S → Session κ S}
    (heq : ∀ session, f session = { session with
      slots := (f session).slots
      host := (f session).host
      hostBusy := (f session).hostBusy
      bridge := (f session).bridge
      journal := (f session).journal })
    (hjournal : ∀ session, (f session).journal = session.journal) :
    (Act.change f).MadeOf Parts := by
  refine exchange f fun session => ⟨heq session, [], hjournal session, fun entry hentry => ?_⟩
  cases hentry

theorem changeBridge_of_exchange (f : Bridge (Handler κ) → Bridge (Handler κ)) :
    (Session.changeBridge (S := S) f).MadeOf Parts :=
  change_of_exchange exchange (fun _ => rfl) fun _ => rfl

theorem changeSlots_of_exchange (f : HandleSlots → HandleSlots) :
    (Session.changeSlots (κ := κ) (S := S) f).MadeOf Parts :=
  change_of_exchange exchange (fun _ => rfl) fun _ => rfl

include host

theorem sendDirectly_of_exchange (message : HostMessage) :
    (Session.sendDirectly (κ := κ) (S := S) message).MadeOf Parts := by
  refine sendDirectly_of_engages (fun f hf => ?_) (host message)
  exact exchange f fun session => (hf session).exchanges

theorem callHost_of_exchange (message : HostMessage) :
    (Session.callHost message : Act κ S Bool).MadeOf Parts := by
  refine callHost_of_engages (fun f hf => ?_) (host message) fun accepted => ?_
  · exact exchange f fun session => (hf session).exchanges
  · refine exchange _ fun session => ?_
    exact ⟨rfl, [.sent message accepted], rfl, by simp [Entry.isRecord]⟩

theorem direct_of_exchange (request : Request κ) (hdirect : request.isDirect = true) :
    (request.perform (S := S)).MadeOf Parts := by
  cases request with
  | sendDirectly message => exact sendDirectly_of_exchange exchange host message
  | failOp | recoverOp | clearRecording | setWireFault =>
      exact change_of_exchange exchange (fun _ => rfl) fun _ => rfl
  | _ => cases hdirect

/-- Any exchange with the host is made of `Parts`, and so is every call of it. -/
theorem Bridged.of_exchange
    (scheduleAt : ∀ deadline (job : Job κ), job.isOfProgram = false →
      (Session.scheduleAt (S := S) deadline job).MadeOf Parts)
    (cancelTask : ∀ id reason, (Session.cancelTask id reason : Act κ S Unit).MadeOf Parts)
    (declare : ∀ id node, (Act.note (S := S) (.declared id node)).MadeOf Parts) :
    Parts.Bridged where
  scheduleAt := scheduleAt
  cancelTask := cancelTask
  changeSlots := changeSlots_of_exchange exchange
  changeBridge f _ := changeBridge_of_exchange exchange f
  declare := declare
  callHost message _ := callHost_of_exchange exchange host message
  mount id node placement := by
    refine .bind (.read _) fun mounted => .ite (.pure false) ?_
    refine .bind (changeSlots_of_exchange exchange _) fun _ => ?_
    refine .bind (declare id node) fun _ => ?_
    refine .bind (callHost_of_exchange exchange host _) fun accepted => .ite ?_ (.pure false)
    exact .bind (changeBridge_of_exchange exchange _) fun _ => .pure true

/-- An unmount is any exchange with the host too. -/
theorem unmount_of_exchange
    (cancelTask : ∀ id reason, (Session.cancelTask id reason : Act κ S Unit).MadeOf Parts)
    (withdraw : ∀ id, (Act.note (S := S) (.withdrawn id)).MadeOf Parts) (id : NodeId) :
    (Session.unmount id : Act κ S Bool).MadeOf Parts := by
  unfold Session.unmount
  refine .bind (.read _) fun record? => ?_
  refine .bind (.read _) fun pending? => ?_
  -- The widget is forgotten before the host hears of it.
  refine .bind (.when (withdraw id)) fun _ => ?_
  refine .bind (changeBridge_of_exchange exchange _) fun _ => ?_
  refine .bind (cancelTask?_of_cancelTask cancelTask _ _) fun _ => ?_
  refine .bind (changeSlots_of_exchange exchange _) fun _ => ?_
  cases record? with
  | none => exact .pure false
  | some record => exact callHost_of_exchange exchange host _

end

section

variable
  (works : ∀ f : Session κ S → Session κ S,
    (∀ session : Session κ S, session.Works allowed (f session)) → (Act.change f).MadeOf Parts)
  (host : ∀ message, (Act.call (S := S) (Call.host (κ := κ) message)).MadeOf Parts)

include works

theorem exchange_of_works (f : Session κ S → Session κ S)
    (hf : ∀ session : Session κ S, session.Exchanges (f session)) :
    (Act.change f).MadeOf Parts := by
  refine works f fun session => ?_
  exact (hf session).works allowed

theorem scheduleAt_of_works (deadline : Instant) (job : Job κ) :
    (Session.scheduleAt (S := S) deadline job).MadeOf Parts := by
  unfold Session.scheduleAt
  refine .bind (.read _) fun id => ?_
  refine .bind (works _ fun session => ?_) fun _ => .pure id
  exact ⟨rfl, [.scheduled ⟨session.scheduler.nextId, deadline, job⟩], rfl,
    by simp [Entry.isRecord], .scheduled deadline job⟩

theorem cancelTask_of_works (id : TaskId) (reason : CancellationReason) :
    (Session.cancelTask id reason : Act κ S Unit).MadeOf Parts := by
  refine works _ fun session => ?_
  exact .of_journal_eq rfl rfl (.cancelled id reason)

include host

/-- Any change of the core is made of `Parts`, and so is every call of the host. -/
theorem Steady.of_change
    (declare : ∀ id node, (Act.note (S := S) (.declared id node)).MadeOf Parts) :
    Parts.Steady allowed where
  toBridged := .of_exchange (exchange_of_works works) host
    (fun deadline job _ => scheduleAt_of_works works deadline job) (cancelTask_of_works works)
    declare
  scheduleJob deadline job _ := scheduleAt_of_works works deadline job
  clearTasks permitted := works _ fun _ => .of_journal_eq rfl rfl (.cleared permitted)
  debouncers f := works _ fun _ => .of_journal_eq rfl rfl (.idle (by simp))
  direct request hdirect _ := direct_of_exchange (exchange_of_works works) host request hdirect

theorem Pieces.of_change
    (note : ∀ entry : Entry κ, entry.isPlacing = true → (Act.note (S := S) entry).MadeOf Parts) :
    Parts.Pieces allowed where
  toSteady := .of_change works host fun _ _ => note _ rfl
  unmount := unmount_of_exchange (exchange_of_works works) host (cancelTask_of_works works)
    fun _ => note _ rfl

end

end Act.Class

end EditorShell
