import EditorShell.Proofs.Handle.Consistency
import EditorShell.Proofs.Handle.Ownership
import EditorShell.Proofs.Handle.Supplying
import EditorShell.Proofs.Task.Passes

/-!
# The delivery of handles

Whoever asks for the handle of a widget is called in the first pass that begins after that, once,
and gets the handle that the widget has just then, if it is mounted and has one
(`handles_delivered`).  Where the host publishes handles and rejects nothing, a widget that stays
mounted has one.

## Strategy

The receiver waits as a job that nobody else knows of, so only a pass can take it from the queue,
and nobody cancels it (`Session.Regular`).  A pass gives it its turn, since it is due at any time
(`Session.exists_turn`).  A handle that was asked for is picked up by a job with a smaller
number, whose turn comes before (`Rostered.served`).
-/

namespace EditorShell

variable {κ S : Type}

/-- The job that hands the handle of a widget over. -/
def Task.delivery (number : TaskId) (id : NodeId) (receiver : Receiver κ) : Task (Job κ) :=
  ⟨number, .start, .deliverHandle id receiver⟩

namespace Session

/-- The sessions of a run in which a pass can begin: those that are reached, and those in the middle
of what is done in which a pass does begin. -/
inductive BeginsPass (allowed : Request κ → Prop) (first : Session κ S) : Session κ S → Prop where
  | reached {session : Session κ S} (reaches : first.Reaches allowed session) :
      BeginsPass allowed first session
  | within {session : Session κ S} {moment : Moment κ S} {now : Instant}
      (occurs : moment.OccursFrom allowed session) (reaches : first.Reaches allowed session)
      (began : moment.entry = .passBegan now) : BeginsPass allowed first moment.session

theorem BeginsPass.passes {allowed : Request κ → Prop} {first session : Session κ S}
    (begins : first.BeginsPass allowed session) : first.Passes allowed session := by
  cases begins with
  | reached reaches => exact .reached reaches
  | within occurs reaches => exact .within occurs reaches

/-- The journal of a session goes on from an earlier one, and no pass has begun since. -/
def NoPassSince (journal : List (Entry κ)) (session : Session κ S) : Prop :=
  ∃ later, session.journal = later ++ journal ∧ ∀ now, .passBegan now ∉ later

/-! ## The turn of a delivery -/

theorem attributing (allowed : Request κ → Prop) : Governs allowed (fun _ => True)
    (fun (_ : List (Task (Job κ))) (session : Session κ S) => Attributed allowed session.core)
    fun _ moment => Attributed allowed moment.session.core :=
  stepwise_attributed.governs_of_walking trivial

/-- The journal of a session tells in good order what became of jobs. -/
structure Regular (allowed : Request κ → Prop) (session : Session κ S) : Prop where
  rostered : ∃ state, Rostered (¬ allowed .clearTasks) state session
  attributed : Attributed allowed session.core
  heralded : Entry.Heralded session.journal

namespace Regular

variable {allowed : Request κ → Prop} {session : Session κ S}

theorem of_passes {sink : ChordSink} {host : Host} {app : S}
    (hpasses : (fresh sink host app).Passes allowed session) : session.Regular allowed where
  rostered := Rostering.exists_rostered (fun hclear => hclear) hpasses
  attributed := by
    refine (attributing allowed).passes (fun _ attributed => attributed)
      (fun _ attributed => attributed) ⟨[], trivial, ?_⟩ hpasses
    exact .fresh sink host app
  heralded := Entry.heralded_of_passes hpasses

/-- It still does during a pass and after it. -/
theorem meets_runDue (regular : session.Regular allowed) {code : Code κ S}
    (within : code.Within allowed) (depth : Nat) :
    Session.runDue.Meets (fun moment => moment.session.Regular allowed) (code.caller depth) session
      fun _ after => after.Regular allowed := by
  obtain ⟨state, rostered⟩ := regular.rostered
  have roster : Governs (κ := κ) (S := S) allowed (fun _ => True) (Rostered (¬ allowed .clearTasks))
      fun _ => RosteredAt (¬ allowed .clearTasks) := Rostering.governs fun hclear => hclear
  have herald : Governs (κ := κ) (S := S) allowed (fun _ => True) Heralding.Holds
      fun _ => Heralding.HoldsAt := Heralding.governs
  have owner := attributing (S := S) allowed
  obtain ⟨hrostered, hrostering⟩ := roster.meets roster.covers.runDue within depth state rostered
  obtain ⟨hattributed, hattributing⟩ :=
    owner.meets owner.covers.runDue within depth [] regular.attributed
  obtain ⟨hheralded, hheralding⟩ :=
    herald.meets herald.covers.runDue within depth () regular.heralded
  exact ⟨⟨⟨state, hrostered⟩, hattributed, hheralded⟩, fun moment hmem =>
    ⟨(hrostering moment hmem).rostered, hattributing moment hmem,
      (hheralding moment hmem).heralded.of_cons⟩⟩

/-- A number belongs to one job. -/
theorem eq_of_id_eq (regular : session.Regular allowed) {first second : Task (Job κ)}
    (hfirst : .scheduled first ∈ session.journal) (hsecond : .scheduled second ∈ session.journal)
    (hid : first.id = second.id) : first = second := by
  obtain ⟨state, rostered⟩ := regular.rostered
  exact rostered.roster.eq_of_id_eq (Entry.mem_scheduledTasks.2 hfirst)
    (Entry.mem_scheduledTasks.2 hsecond) hid

theorem isCancelled_eq_false (regular : session.Regular allowed) {task : Task (Job κ)}
    (hscheduled : .scheduled task ∈ session.journal) (free : task.job.isFree = true)
    (hallowed : ∀ reason, ¬ allowed (.cancelTask task.id reason)) :
    session.scheduler.isCancelled task.id = false :=
  regular.attributed.isCancelled_eq_false
    (fun _ hother hid => regular.eq_of_id_eq hother hscheduled hid) free hallowed

/-- A job calls once at most. -/
theorem count_le_one (regular : session.Regular allowed) (id : TaskId) :
    (Entry.jobCalls session.journal).count id ≤ 1 := by
  obtain ⟨state, rostered⟩ := regular.rostered
  exact rostered.count_jobCalls_le regular.heralded id

/-- A job that has had no turn has called nothing. -/
theorem not_mem_jobCalls (regular : session.Regular allowed) {id : TaskId}
    (hunrun : id ∉ Entry.ranIds session.journal) : id ∉ Entry.jobCalls session.journal := by
  intro hcalled
  have hcount := regular.heralded.count_le id
  have hpos := List.count_pos_iff.2 hcalled
  have hzero := List.count_eq_zero.2 hunrun
  omega

end Regular

variable {allowed : Request κ → Prop} {sink : ChordSink} {host : Host} {app : S}

/-- As long as no pass has begun since it was scheduled a job has had no turn; and it waits in the
queue, if only the bridge can cancel it and does not know of it. -/
theorem unrun_of_noPassSince (hclear : ¬ allowed .clearTasks) {session : Session κ S}
    (hpasses : (fresh sink host app).Passes allowed session) {task : Task (Job κ)}
    {earlier : List (Entry κ)} (hsince : session.NoPassSince (.scheduled task :: earlier))
    (free : task.job.isFree = true) (hallowed : ∀ reason, ¬ allowed (.cancelTask task.id reason)) :
    task.id ∉ Entry.ranIds session.journal ∧ .scheduled task ∈ session.journal ∧
      task ∈ session.scheduler.queue := by
  have regular : session.Regular allowed := .of_passes hpasses
  obtain ⟨state, rostered⟩ := regular.rostered
  obtain ⟨later, hjournal, hlater⟩ := hsince
  obtain ⟨hunrun, hqueued⟩ := rostered.waits hclear hjournal hlater
  have hscheduled : .scheduled task ∈ session.journal := by
    rw [hjournal]
    exact List.mem_append_right later List.mem_cons_self
  exact ⟨hunrun, hscheduled, hqueued (regular.isCancelled_eq_false hscheduled free hallowed)⟩

/-- A pass gives a waiting job that is always due its turn, and the job is not cancelled then. -/
theorem exists_turn {session : Session κ S} (regular : session.Regular allowed)
    {code : Code κ S} (within : code.Within allowed) (depth : Nat) {task : Task (Job κ)}
    (hscheduled : .scheduled task ∈ session.journal) (hqueued : task ∈ session.scheduler.queue)
    (hdue : task.deadline.isDueAt session.clock = true) (free : task.job.isFree = true)
    (hallowed : ∀ reason, ¬ allowed (.cancelTask task.id reason)) :
    ∃ now, (task, now) ∈ session.passTurns (code.caller depth) ∧
      now.scheduler.isCancelled task.id = false := by
  have courses := code.courses within depth
  obtain ⟨state, rostered⟩ := regular.rostered
  have hlive := regular.isCancelled_eq_false hscheduled free hallowed
  obtain ⟨⟨task, now⟩, hturn, rfl⟩ :=
    List.mem_map.1 (mem_passTurns.2 ⟨hqueued, hdue, hlive⟩)
  refine ⟨now, hturn, ?_⟩
  -- What is not cancelled when the pass has ended was not cancelled at the turn.
  apply (turnIn_of_mem_passTurns courses hturn).live_of_after
  refine (regular.meets_runDue within depth).1.isCancelled_eq_false ?_ free hallowed
  obtain ⟨noted, hjournal, -⟩ := (course_runDue courses session).recount
  rw [hjournal]
  exact List.mem_append_right noted hscheduled

/-! ## What a receiver gets -/

theorem isMounted_resolveHandle {caller : Caller κ S} (apart : caller.HostApart) (id : NodeId)
    (receiver : Receiver κ) (session : Session κ S) :
    ((resolveHandle id receiver).run caller session).2.bridge.isMounted id =
      session.bridge.isMounted id := by
  have hleaves : (resolveHandle (S := S) id receiver).LeavesMounted caller := by
    refine .bind (.read _) fun bridge => .bind (.when ?_) fun _ => ?_
    · exact .bind (leavesMounted_requestHandle apart id) fun _ => .pure ()
    · exact .bind (leavesMounted_scheduleNext _) fun _ => .pure ()
  exact Bridge.isMounted_congr (by rw [(hleaves.run session).mounted_eq])

theorem deliverable?_eq_some_iff {session : Session κ S} {id : NodeId} {handle : WidgetHandle} :
    session.deliverable? id = some handle ↔
      session.bridge.isMounted id = true ∧ session.bridge.handles.get? id = some handle := by
  unfold deliverable?
  cases session.bridge.isMounted id <;> simp

/-- In its turn a delivery calls its receiver. -/
theorem called_delivery {caller : Caller κ S} (courses : caller.Courses) {session now : Session κ S}
    {number : TaskId} {id : NodeId} {receiver : Receiver κ}
    (hturn : (.delivery number id receiver, now) ∈ session.passTurns caller)
    (hlive : now.scheduler.isCancelled number = false) :
    ⟨.called (.delivery number receiver (now.deliverable? id)), now.noting (.ran number)⟩ ∈
        runDue.moments caller session ∧
      .called (.delivery number receiver (now.deliverable? id)) ∈
        (runDue.run caller session).2.journal := by
  have turnIn := turnIn_of_mem_passTurns courses hturn
  obtain ⟨hmoments, hcalled⟩ := turnIn.called courses hlive rfl
  refine ⟨hmoments _ ?_, hcalled⟩
  rw [Act.moments_call]
  exact List.mem_cons_self

end Session

/-- At a moment of what is done a receiver is called, with the handle that the widget has just
then. -/
structure Moment.Delivers (moment : Moment κ S) (number : TaskId) (id : NodeId)
    (receiver : Receiver κ) (handle? : Option WidgetHandle) : Prop where
  called : moment.entry = .called (.delivery number receiver handle?)
  eq_some_iff : ∀ handle, handle? = some handle ↔
    moment.session.bridge.isMounted id = true ∧ moment.session.bridge.handles.get? id = some handle

namespace Session

/-- A pass calls the receiver of a waiting delivery, and calls it once. -/
theorem delivers_runDue {allowed : Request κ → Prop} {session : Session κ S}
    (regular : session.Regular allowed) {code : Code κ S} (within : code.Within allowed)
    (depth : Nat) {number : TaskId} {id : NodeId} {receiver : Receiver κ}
    {now : Session κ S}
    (hturn : (.delivery number id receiver, now) ∈ session.passTurns (code.caller depth))
    (hlive : now.scheduler.isCancelled number = false) :
    (∃ moment ∈ Session.runDue.moments (code.caller depth) session,
      moment.session = now.noting (.ran number) ∧
        moment.Delivers number id receiver (now.deliverable? id)) ∧
      (Entry.jobCalls (Session.runDue.run (code.caller depth) session).2.journal).count number =
        1 := by
  obtain ⟨hmoment, hend⟩ := called_delivery (code.courses within depth) hturn hlive
  refine ⟨⟨_, hmoment, rfl, rfl, fun handle => deliverable?_eq_some_iff⟩, ?_⟩
  have hjob : number ∈ Entry.jobCalls (Session.runDue.run (code.caller depth) session).2.journal :=
    List.mem_filterMap.2 ⟨_, hend, rfl⟩
  have honce := (regular.meets_runDue within depth).1.count_le_one number
  have hpos := List.count_pos_iff.2 hjob
  omega

end Session

/-! ## Where a handle is sure to come -/

/-- The job that a widget waits for has yet to pick up its handle. -/
theorem Consistent.isLive_pending {held : List (Task (Job κ))} {core : Core κ}
    (consistent : Consistent core) (ledger : Ledger held core) {id : NodeId} {number : TaskId}
    (hpending : core.bridge.pending.get? id = some number) :
    core.IsLive ⟨number, .start, .resolveHandle id⟩ := by
  obtain ⟨task, hlive, rfl, -⟩ := (consistent.pending_iff id number).1 hpending
  have hown := ledger.attributed.pending id task.id hpending
  have heq := ledger.rosters.unique hlive.1 hown rfl
  rwa [heq] at hlive

/-- No handle that is asked for gets lost: the host publishes them, and the slots and the jobs are
left to the bridge. -/
structure Forthcoming (allowed : Request κ → Prop) (names : NodeId → Prop) (host : Host) : Prop
    extends SlotsApart allowed names where
  jobs : ∀ request, allowed request → request.leavesJobs = true
  kind_eq : host.kind = .recording
  publishes : host.recording.publishes = true

namespace Forthcoming

variable {allowed : Request κ → Prop} {names : NodeId → Prop} {sink : ChordSink} {host : Host}
  {app : S} (forthcoming : Forthcoming allowed names host)

include forthcoming

/-- When a handle is delivered no earlier job is left that would pick it up. -/
theorem not_lt_of_pending {session now : Session κ S}
    (hpasses : (Session.fresh sink host app).Passes allowed session)
    (hidle : Entry.openPasses session.journal = 0) {code : Code κ S} (within : code.Within allowed)
    {depth : Nat} {number waiting : TaskId} {id : NodeId} {receiver : Receiver κ}
    {later noted earlier : List (Entry κ)}
    (hjournal : session.journal = later ++ .scheduled (.delivery number id receiver) :: earlier)
    (hnoted : (now.noting (.ran number)).journal =
      noted ++ .scheduled (.delivery number id receiver) :: earlier)
    (hturn : (.delivery number id receiver, now) ∈ session.passTurns (code.caller depth))
    (hlive : now.scheduler.isCancelled number = false)
    (hpending : now.bridge.pending.get? id = some waiting) : ¬ waiting < number := by
  intro hlt
  have courses := code.courses within depth
  have hmoment := (Session.called_delivery courses hturn hlive).1
  have regular : session.Regular allowed := .of_passes hpasses
  have regular' : (now.noting (.ran number)).Regular allowed :=
    (regular.meets_runDue within depth).2 _ hmoment
  -- The job in question has had no turn, and is not cancelled.
  have hwaits : (now.noting (.ran number)).core.IsLive ⟨waiting, .start, .resolveHandle id⟩ := by
    have steps := Consistent.stepwise (S := S) forthcoming.jobs
    have tables := steps.governs_of_walking trivial
    obtain ⟨held, hconsistent⟩ := steps.of_passes trivial (fun _ ⟨held, h, _⟩ => ⟨held, h⟩)
      ⟨.fresh sink host app, consistent_fresh sink host app⟩ hpasses
    obtain ⟨held, ⟨ledger, consistent⟩, -⟩ :=
      (tables.meets tables.covers.runDue within depth held hconsistent).2 _ hmoment
    exact consistent.isLive_pending ledger hpending
  obtain ⟨hscheduled, huncancelled, hunrun⟩ := hwaits
  -- Its number is smaller, so it was scheduled before the delivery, and before the pass began.
  have hsession : .scheduled ⟨waiting, .start, .resolveHandle id⟩ ∈ session.journal := by
    obtain ⟨state, rostered⟩ := regular'.rostered
    have hsplit : Entry.scheduledTasks (now.noting (.ran number)).journal =
        Entry.scheduledTasks noted ++ .delivery number id receiver ::
          Entry.scheduledTasks earlier := by
      rw [hnoted, Entry.scheduledTasks_append]
      rfl
    have hearlier := rostered.roster.mem_of_lt hsplit (Entry.mem_scheduledTasks.2 hscheduled) hlt
    rw [hjournal]
    exact List.mem_append_right later (List.mem_cons_of_mem _ (Entry.mem_scheduledTasks.1 hearlier))
  have hbefore : Task.ComesBefore (J := Job κ) ⟨waiting, .start, .resolveHandle id⟩
      (.delivery number id receiver) := .inr ⟨rfl, hlt⟩
  have hclear : ¬ allowed .clearTasks := fun hclear => by cases forthcoming.jobs _ hclear
  obtain ⟨state, rostered⟩ := regular.rostered
  rcases rostered.served hclear hidle within hsession (Instant.start_isDueAt _) hbefore hturn with
    hcancelled | hran
  · have hfalse : now.scheduler.isCancelled waiting = false := huncancelled
    rw [hcancelled] at hfalse
    cases hfalse
  · exact hunrun (List.mem_cons_of_mem _ hran)

/-- In every session that is reached there is a supply of handles. -/
theorem reaches {session : Session κ S}
    (hreaches : (Session.fresh sink host app).Reaches allowed session) :
    ∃ held, Supplying.Holds names held session := by
  have law := Supplying.governs (S := S) forthcoming.toSlotsApart
  obtain ⟨held, -, holds⟩ := law.reaches ⟨[], trivial, fun _ =>
    .fresh sink forthcoming.kind_eq forthcoming.publishes app⟩ hreaches
  exact ⟨held, holds⟩

/-- And so there is where a pass begins. -/
theorem begins {session : Session κ S}
    (hbegins : (Session.fresh sink host app).BeginsPass allowed session) :
    ∃ held, Supplying.Holds names held session := by
  have law := Supplying.governs (S := S) forthcoming.toSlotsApart
  cases hbegins with
  | reached hreaches => exact forthcoming.reaches hreaches
  | @within _ moment now occurs hreaches began =>
      obtain ⟨held, holds⟩ := forthcoming.reaches hreaches
      obtain ⟨held, supplied⟩ := law.occurs holds occurs
      refine ⟨held, fun undisturbed => supplied ?_⟩
      rw [began]
      exact undisturbed.cons (by simp) (by simp)

/-- In a pass whatever stays mounted has its handle when the handle is delivered. -/
theorem isSome_deliverable {session now : Session κ S}
    (hbegins : (Session.fresh sink host app).BeginsPass allowed session)
    (hidle : Entry.openPasses session.journal = 0) {code : Code κ S} (within : code.Within allowed)
    {depth : Nat} {number : TaskId} {id : NodeId} {receiver : Receiver κ}
    {later earlier : List (Entry κ)}
    (hjournal : session.journal = later ++ .scheduled (.delivery number id receiver) :: earlier)
    (hmounted : Entry.mountedAfter id earlier = true)
    (hturn : (.delivery number id receiver, now) ∈ session.passTurns (code.caller depth))
    (hlive : now.scheduler.isCancelled number = false)
    (undisturbed : Undisturbed names (now.noting (.ran number)).journal)
    (hstays : ∀ noted, (now.noting (.ran number)).journal =
      noted ++ .scheduled (.delivery number id receiver) :: earlier → .withdrawn id ∉ noted) :
    (now.deliverable? id).isSome = true := by
  have courses := code.courses within depth
  obtain ⟨moments, hsince⟩ := (Session.turnIn_of_mem_passTurns courses hturn).since
  obtain ⟨more, hmore, -⟩ := hsince.recount
  have hgrown : (now.noting (.ran number)).journal = (.ran number :: more ++ later) ++
      .scheduled (.delivery number id receiver) :: earlier := by
    change .ran number :: now.journal = _
    rw [hmore, hjournal]
    simp
  have hkept := hstays _ hgrown
  -- The supply, when the receiver is called.
  have hmoment := (Session.called_delivery courses hturn hlive).1
  have law := Supplying.governs (S := S) forthcoming.toSlotsApart
  obtain ⟨held, holds⟩ := forthcoming.begins hbegins
  obtain ⟨held, hsupplied⟩ := (law.meets law.covers.runDue within depth held holds).2 _ hmoment
  have supplied := hsupplied (undisturbed.cons (by simp) (by simp))
  have hnow : now.bridge.isMounted id = true := by
    have htold := supplied.told id
    rw [hgrown] at htold
    refine htold.trans (Entry.mountedAfter_append ?_ hkept)
    exact hmounted
  unfold Session.deliverable?
  rw [if_pos hnow]
  have hawaited : number ∈ Entry.awaiting id (now.noting (.ran number)).journal := by
    rw [hgrown]
    exact Entry.mem_awaiting hmounted hkept
  rcases supplied.awaited id number hawaited with hhandle | ⟨waiting, hpending, hlt⟩
  · exact hhandle
  · -- The job that picks the handle up would have had its turn.
    exact absurd hlt (forthcoming.not_lt_of_pending hbegins.passes hidle within hjournal hgrown
      hturn hlive hpending)

/-- What is mounted when its handle is asked for is so by what the journal tells before the
delivery. -/
theorem mountedAfter_of_resolveHandle {session : Session κ S}
    (hreaches : (Session.fresh sink host app).Reaches allowed session) {code : Code κ S}
    (within : code.Within allowed) {depth : Nat} {number : TaskId} {id : NodeId}
    {receiver : Receiver κ} {earlier : List (Entry κ)}
    (hjournal : ((Session.resolveHandle id receiver).run (code.caller depth) session).2.journal =
      .scheduled (.delivery number id receiver) :: earlier)
    (undisturbed : Undisturbed names (.scheduled (.delivery number id receiver) :: earlier))
    (hmounted : session.bridge.isMounted id = true) : Entry.mountedAfter id earlier = true := by
  have law := Supplying.governs (S := S) forthcoming.toSlotsApart
  obtain ⟨held, holds⟩ := forthcoming.reaches hreaches
  have hafter := (law.meets (law.covers.resolveHandle id receiver) within depth held holds).1
  rw [← hjournal] at undisturbed
  have htold := (hafter undisturbed).told id
  have hsame := Session.isMounted_resolveHandle (within.apart depth) id receiver session
  rw [hjournal, hsame, hmounted] at htold
  exact htold.symm

end Forthcoming

/-! ## All of it -/

/-- Nothing has been rejected until a moment, and a widget has not been unmounted since some
time. -/
structure Moment.Certain (names : NodeId → Prop) (id : NodeId) (since : List (Entry κ))
    (moment : Moment κ S) : Prop where
  undisturbed : Undisturbed names moment.session.journal
  stays : ∀ noted, moment.session.journal = noted ++ since → .withdrawn id ∉ noted

/-- A pass calls a receiver once, with the handle that the widget has at that moment, and it has one
if it is certain to. -/
structure Session.Serves (session : Session κ S) (caller : Caller κ S) (number : TaskId)
    (id : NodeId) (receiver : Receiver κ) (certain : Moment κ S → Prop) : Prop where
  once : (Entry.jobCalls (Session.runDue.run caller session).2.journal).count number = 1
  delivers : ∃ moment ∈ Session.runDue.moments caller session, ∃ handle?,
    moment.Delivers number id receiver handle? ∧ (certain moment → handle?.isSome = true)

/-- Whoever asks for the handle of a widget is called once, in the first pass that begins after
that, and not before.  What is handed over is the handle that the widget has at that moment, and
nothing if it is not mounted or has none.  If the widget was mounted when its handle was asked for,
and still is, it has one, provided that the host publishes handles and has rejected nothing, no two
widgets share a slot, the slots are left to the bridge, and no other pass was under way. -/
theorem handles_delivered {allowed : Request κ → Prop} {sink : ChordSink} {host : Host} {app : S}
    {session : Session κ S} {code : Code κ S} (hclear : ¬ allowed .clearTasks)
    (hreaches : (Session.fresh sink host app).Reaches allowed session)
    (within : code.Within allowed) (depth : Nat) (id : NodeId) (receiver : Receiver κ) :
    ∃ number earlier,
      ((Session.resolveHandle id receiver).run (code.caller depth) session).2.journal =
          .scheduled (.delivery number id receiver) :: earlier ∧
        (∀ last, (Session.fresh sink host app).Passes allowed last →
          (Entry.jobCalls last.journal).count number ≤ 1) ∧
        ((∀ reason, ¬ allowed (.cancelTask number reason)) → ∀ next : Session κ S,
          next.NoPassSince (.scheduled (.delivery number id receiver) :: earlier) →
            ((Session.fresh sink host app).Passes allowed next →
              number ∉ Entry.jobCalls next.journal) ∧
            ((Session.fresh sink host app).BeginsPass allowed next →
              ∀ code : Code κ S, code.Within allowed → ∀ depth,
                next.Serves (code.caller depth) number id receiver fun moment =>
                  ∃ names, Forthcoming allowed names host ∧ session.bridge.isMounted id = true ∧
                    Entry.openPasses next.journal = 0 ∧
                      moment.Certain names id
                        (.scheduled (.delivery number id receiver) :: earlier))) := by
  have hasked : ∃ number earlier,
      ((Session.resolveHandle id receiver).run (code.caller depth) session).2.journal =
        .scheduled (.delivery number id receiver) :: earlier := ⟨_, _, rfl⟩
  obtain ⟨number, earlier, hjournal⟩ := hasked
  refine ⟨number, earlier, hjournal, fun last hlast =>
    (Session.Regular.of_passes hlast).count_le_one number, fun hallowed next hsince => ⟨?_, ?_⟩⟩
  · intro hpasses
    have hunrun := Session.unrun_of_noPassSince hclear hpasses hsince rfl hallowed
    exact (Session.Regular.of_passes hpasses).not_mem_jobCalls hunrun.1
  · intro hbegins code' within' depth'
    obtain ⟨-, hscheduled, hqueued⟩ :=
      Session.unrun_of_noPassSince hclear hbegins.passes hsince rfl hallowed
    have regular : next.Regular allowed := .of_passes hbegins.passes
    obtain ⟨now, hturn, hlive⟩ := Session.exists_turn regular within' depth' hscheduled hqueued
      (Instant.start_isDueAt _) rfl hallowed
    obtain ⟨⟨moment, hmoment, hnow, hdelivers⟩, honce⟩ :=
      Session.delivers_runDue regular within' depth' hturn hlive
    refine ⟨honce, moment, hmoment, _, hdelivers, ?_⟩
    -- The widget was mounted when it was asked for, and nothing has withdrawn it up to this turn.
    rintro ⟨names, forthcoming, hmounted, hidle, undisturbed, hstays⟩
    obtain ⟨later, hnext, -⟩ := hsince
    rw [hnow] at undisturbed hstays
    have hsuffix : .scheduled (.delivery number id receiver) :: earlier <:+
        (now.noting (.ran number)).journal := by
      have hturned : next.journal <:+ now.journal :=
        (Session.turnIn_of_mem_passTurns (code'.courses within' depth') hturn).journal_suffix
      rw [hnext] at hturned
      exact ((List.suffix_append later _).trans hturned).trans (List.suffix_cons _ _)
    have htold := forthcoming.mountedAfter_of_resolveHandle hreaches within hjournal
      (undisturbed.of_suffix hsuffix) hmounted
    exact forthcoming.isSome_deliverable hbegins hidle within' hnext htold hturn hlive undisturbed
      hstays

/-- A session in which the handle of a mounted widget has been asked for on behalf of a receiver. -/
def Session.expectingSession : Session Unit Unit :=
  ((Request.resolveHandle "a" ()).perform.run (Code.accepting.caller 1)
    ((Request.mount "a" (Node.ofKind .view) .root).perform.run (Code.accepting.caller 1)
      (.fresh .nobody (.fresh .recording true) ())).2).2

/-- A request of a program that leaves jobs and slots alone and knows of one widget only. -/
def Request.isModest (request : Request Unit) : Prop :=
  request.leavesJobs = true ∧ request.usesSlots = false ∧ ∀ id, request = .unmount id → id = "a"

/-- Whether an entry tells neither of a rejection nor of an unmount nor of another widget. -/
def Entry.isCalm : Entry Unit → Bool
  | .sent _ accepted => accepted
  | .declared id _ => id == "a"
  | .withdrawn _ => false
  | _ => true

/-- The receiver is called in the next pass, and gets a handle. -/
theorem handles_delivered_expecting :
    (Entry.jobCalls (Session.runDue.run (Code.accepting.caller 1)
        Session.expectingSession).2.journal).count 1 = 1 ∧
      ∃ moment ∈ Session.runDue.moments (Code.accepting.caller 1) Session.expectingSession,
        ∃ handle, moment.Delivers 1 "a" (.user ()) (some handle) := by
  have within := Code.within_accepting Request.isModest
  have hmount : Request.isModest (.mount "a" (Node.ofKind .view) .root) := ⟨rfl, rfl, by simp⟩
  have hresolve : Request.isModest (.resolveHandle "a" ()) := ⟨rfl, rfl, by simp⟩
  have hmounted : (Session.fresh .nobody (.fresh .recording true) ()).Reaches Request.isModest
      ((Request.mount "a" (Node.ofKind .view) .root).perform.run (Code.accepting.caller 1)
        (Session.fresh .nobody (.fresh .recording true) ())).2 :=
    .act (.request _ hmount) within .refl
  obtain ⟨number, earlier, hjournal, -, hserves⟩ :=
    handles_delivered (fun hclear => by cases hclear.1) hmounted within 1 "a" (.user ())
  have hnumber : number = 1 := by
    have hfirst : (Entry.scheduledTasks Session.expectingSession.journal).head?.map Task.id =
        some 1 := by decide +kernel
    have hhead : (Entry.scheduledTasks Session.expectingSession.journal).head?.map Task.id =
        some number := congrArg (fun journal => (Entry.scheduledTasks journal).head?.map Task.id)
          hjournal
    exact Option.some.inj (hhead.symm.trans hfirst)
  subst hnumber
  obtain ⟨honce, moment, hmoment, handle?, hdelivers, hcertain⟩ :=
    (hserves (fun reason hcancel => by cases hcancel.1) Session.expectingSession
      ⟨[], hjournal, by simp⟩).2 (.reached (.act (.request _ hresolve) within hmounted))
      Code.accepting within 1
  -- Nothing has happened that might keep the handle away.
  have hcalm : ∀ moment ∈ Session.runDue.moments (Code.accepting.caller 1)
      Session.expectingSession, ∀ entry ∈ moment.session.journal, Entry.isCalm entry = true := by
    have hall : ∀ moment ∈ Session.runDue.moments (Code.accepting.caller 1)
      Session.expectingSession, moment.session.journal.all Entry.isCalm = true := by decide +kernel
    exact fun moment hmem => List.all_eq_true.1 (hall moment hmem)
  have forthcoming : Forthcoming Request.isModest (· = "a") (.fresh .recording true) :=
    ⟨⟨fun _ h => h.2.1, fun id h => h.2.2 id rfl, fun _ _ h h' _ => h.trans h'.symm⟩,
      fun _ h => h.1, rfl, rfl⟩
  have certain : moment.Certain (· = "a") "a"
      (.scheduled (.delivery 1 "a" (.user ())) :: earlier) := by
    refine ⟨⟨fun message hmem => ?_, fun id node hmem => ?_⟩, fun noted hnoted hmem => ?_⟩
    · cases hcalm moment hmoment _ hmem
    · exact beq_iff_eq.1 (hcalm moment hmoment _ hmem)
    · have hwithdrawn : .withdrawn "a" ∈ moment.session.journal := by
        rw [hnoted]
        exact List.mem_append_left _ hmem
      cases hcalm moment hmoment _ hwithdrawn
  obtain ⟨handle, rfl⟩ := Option.isSome_iff_exists.1
    (hcertain ⟨_, forthcoming, by decide, by decide +kernel, certain⟩)
  exact ⟨honce, moment, hmoment, handle, hdelivers⟩

end EditorShell
