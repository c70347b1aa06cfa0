import EditorShell.Proofs.Task.Batch
import EditorShell.Proofs.Task.Turns

/-!
# What a pass runs

A pass fixes its batch when it begins, and then gives each job of the batch its turn; meanwhile jobs
may be scheduled and cancelled, and other passes may begin and end (`tasks_run`).

## Strategy

Which jobs get a turn is told by the roster.  What a pass notes and calls itself is found by
induction on the batch: each turn adds the number of its job and the return of its call to the
outermost entries, and what the callback does meanwhile adds nothing.

That a body is called is more than that its turn was noted.  So a pass is compared with the calls as
well: with those that return in the pass itself, in their order, with those that the journal tells
of each job (`Entry.callsOf`), and with the moments of the callbacks.
-/

namespace EditorShell

variable {κ S : Type}

/-! ## The entries of a pass -/

namespace Session

/-- The jobs that wait, are due and are not cancelled when a pass begins get a turn. -/
theorem mem_passTurns {caller : Caller κ S} {session : Session κ S} {task : Task (Job κ)} :
    task ∈ (session.passTurns caller).map Prod.fst ↔ task ∈ session.scheduler.queue ∧
      task.deadline.isDueAt session.clock = true ∧
        session.scheduler.isCancelled task.id = false := by
  rw [passTurns, map_fst_turns]
  exact Scheduler.mem_batch

/-- Of a batch those jobs run that are not cancelled when their turn comes, and each of them makes
its call. -/
theorem runBatch_spec {caller : Caller κ S} (courses : caller.Courses)
    (batch : List (Task (Job κ))) (count : Nat) (session : Session κ S) :
    ∃ noted, ((runBatch count batch).run caller session).2.journal = noted ++ session.journal ∧
      Entry.Whole noted ∧
      (Entry.ranIds (Entry.outermost 0 noted)).reverse =
        ((turns caller batch session).filter isLiveTurn).map (fun turn => turn.1.id) ∧
      (Entry.returnedCalls (Entry.outermost 0 noted)).reverse =
        ((turns caller batch session).filter isLiveTurn).filterMap turnCall? ∧
      ((runBatch count batch).run caller session).1 =
        count + ((turns caller batch session).filter isLiveTurn).length := by
  induction batch generalizing count session with
  | nil => exact ⟨[], rfl, .nil, rfl, rfl, rfl⟩
  | cons task rest ih =>
      cases hcancelled : session.scheduler.isCancelled task.id with
      | true =>
          have hrun := (runBatch_of_cancelled caller hcancelled count rest).1
          have hturns : (turns caller (task :: rest) session).filter isLiveTurn =
              (turns caller rest session).filter isLiveTurn := by
            rw [turns_of_cancelled hcancelled,
              List.filter_cons_of_neg (by simp [isLiveTurn, hcancelled])]
          rw [hrun, hturns]
          exact ih count session
      | false =>
          have hrun := (runBatch_of_live caller hcancelled count rest).1
          have hturns : (turns caller (task :: rest) session).filter isLiveTurn = (task, session) ::
              (turns caller rest ((takeTurn task).run caller session).2).filter isLiveTurn := by
            rw [turns_of_live hcancelled,
              List.filter_cons_of_pos (isLiveTurn_iff.2 hcancelled)]
          obtain ⟨job, hjob, hwhole, hsilent, hreturned⟩ := takeTurn_spec courses task session
          have hturn : ((takeTurn task).run caller session).2.journal =
              (job ++ [.ran task.id]) ++ session.journal := by
            rw [List.append_assoc]
            exact hjob
          obtain ⟨noted, hjournal, whole, hran, hcalls, hcount⟩ :=
            ih (count + 1) ((takeTurn task).run caller session).2
          have houtermost : Entry.outermost 0 (noted ++ (job ++ [.ran task.id])) =
              Entry.outermost 0 noted ++ (Entry.outermost 0 job ++ [.ran task.id]) := by
            rw [whole.outer, hwhole.outer]
            rfl
          rw [hrun, hturns]
          refine ⟨noted ++ (job ++ [.ran task.id]), ?_,
            whole.append (hwhole.append (.singleton rfl)), ?_, ?_, ?_⟩
          · rw [hjournal, hturn, ← List.append_assoc noted]
          · rw [houtermost, Entry.ranIds_append, Entry.ranIds_append, hsilent, List.nil_append,
              List.reverse_append, hran]
            rfl
          · -- A turn has one call at most, so its calls read the same in either order.
            have hsingle : (turnCall? (task, session)).toList.reverse =
                (turnCall? (task, session)).toList := by
              cases turnCall? (task, session) <;> rfl
            rw [houtermost, Entry.returnedCalls_append, Entry.returnedCalls_append, hreturned,
              List.reverse_append, List.reverse_append, hsingle, hcalls]
            cases hcall : turnCall? (task, session) with
            | none => rw [List.filterMap_cons_none hcall]; rfl
            | some call => rw [List.filterMap_cons_some hcall]; rfl
          · rw [hcount, List.length_cons]
            omega

theorem runDue_spec {caller : Caller κ S} (courses : caller.Courses) (session : Session κ S) :
    ∃ noted, (runDue.run caller session).2.journal = noted ++ session.journal ∧
      (Entry.ranIds (Entry.outermost 0 noted)).reverse =
        ((passTurns caller session).filter isLiveTurn).map (fun turn => turn.1.id) ∧
      (Entry.returnedCalls (Entry.outermost 0 noted)).reverse =
        ((passTurns caller session).filter isLiveTurn).filterMap turnCall? ∧
      (runDue.run caller session).1 = ((passTurns caller session).filter isLiveTurn).length := by
  obtain ⟨noted, hjournal, whole, hran, hcalls, hcount⟩ :=
    runBatch_spec courses (session.scheduler.takeDue session.clock).1 0 session.taken
  have hrun : (runDue.run caller session) =
      let ran := (runBatch 0 (session.scheduler.takeDue session.clock).1).run caller session.taken
      (ran.1, ran.2.noting (.passEnded ran.1)) := rfl
  rw [hrun]
  generalize (runBatch 0 (session.scheduler.takeDue session.clock).1).run caller session.taken =
    ran at hjournal hcount ⊢
  -- The marks of the pass itself are neither turns nor calls, so they frame what the batch notes.
  have houtermost : Entry.outermost 0 (.passEnded ran.1 :: (noted ++ [.passBegan session.clock])) =
      .passEnded ran.1 :: (Entry.outermost 0 noted ++ [.passBegan session.clock]) := by
    rw [Entry.outermost_cons rfl, whole.outer]
    rfl
  refine ⟨.passEnded ran.1 :: (noted ++ [.passBegan session.clock]), ?_, ?_, ?_, ?_⟩
  · change .passEnded ran.1 :: ran.2.journal = _
    rw [hjournal]
    simp [taken, noting]
  · rw [houtermost, Entry.ranIds_cons rfl, Entry.ranIds_append, List.reverse_append, hran]
    rfl
  · have hcons : Entry.returnedCalls (.passEnded ran.1 :: (Entry.outermost 0 noted ++
        [.passBegan session.clock])) =
          Entry.returnedCalls (Entry.outermost 0 noted ++ [.passBegan session.clock]) := rfl
    rw [houtermost, hcons, Entry.returnedCalls_append, List.reverse_append, hcalls]
    rfl
  · rw [hcount, Nat.zero_add]
    rfl

end Session

/-! ## All of them -/

/-- A pass that begins in a session gives jobs their turns, calls what they were scheduled with, and
notes this. -/
structure Pass (allowed : Request κ → Prop) (caller : Caller κ S) (session : Session κ S)
    (noted : List (Entry κ)) : Prop where
  journal_eq : (Session.runDue.run caller session).2.journal = noted ++ session.journal
  /-- The jobs that wait, are due and are not cancelled when the pass begins get a turn. -/
  mem_turns : ∀ task, task ∈ (session.passTurns caller).map Prod.fst ↔
    task ∈ session.scheduler.queue ∧ task.deadline.isDueAt session.clock = true ∧
      session.scheduler.isCancelled task.id = false
  ordered : ((session.passTurns caller).map Prod.fst).Pairwise Task.ComesBefore
  /-- Of these the pass runs the ones that are not cancelled when their turn comes. -/
  ran_eq : (Entry.ranIds (Entry.outermost 0 noted)).reverse =
    ((session.passTurns caller).filter Session.isLiveTurn).map fun turn => turn.1.id
  count_eq : (Session.runDue.run caller session).1 =
    ((session.passTurns caller).filter Session.isLiveTurn).length
  /-- The pass itself makes the calls of the jobs that it runs, in their order, and no others. -/
  returned_eq : (Entry.returnedCalls (Entry.outermost 0 noted)).reverse =
    ((session.passTurns caller).filter Session.isLiveTurn).filterMap Session.turnCall?
  /-- A job that runs makes its call exactly once, and all that the callback does is done then. -/
  called : ∀ turn ∈ session.passTurns caller, Session.isLiveTurn turn = true →
    ∀ call, Session.turnCall? turn = some call → Entry.callsOf turn.1.id noted = [call] ∧
      ∀ moment ∈ (Act.call call).moments caller (Session.begun turn),
        moment ∈ Session.runDue.moments caller session
  /-- What is scheduled meanwhile is not run by this pass. -/
  newcomers : ∀ task, .scheduled task ∈ noted →
    task.id ∉ Entry.ranIds (Entry.outermost 0 noted) ∧
      ∀ call ∈ Entry.returnedCalls (Entry.outermost 0 noted), call.job? ≠ some task.id
  /-- When no other pass is under way, and the queue is never emptied at once, every job that is due
  gets a turn if it has had none. -/
  complete : ¬ allowed .clearTasks → Entry.openPasses session.journal = 0 → ∀ task,
    .scheduled task ∈ session.journal → .ran task.id ∉ session.journal →
      session.scheduler.isCancelled task.id = false →
        task.deadline.isDueAt session.clock = true →
          task ∈ (session.passTurns caller).map Prod.fst
  /-- And it runs, unless it is cancelled before the pass is over. -/
  runs : ¬ allowed .clearTasks → Entry.openPasses session.journal = 0 → ∀ task,
    .scheduled task ∈ session.journal → .ran task.id ∉ session.journal →
      (Session.runDue.run caller session).2.scheduler.isCancelled task.id = false →
        task.deadline.isDueAt session.clock = true →
          ∃ now, (task, now) ∈ session.passTurns caller ∧ Session.isLiveTurn (task, now) = true

/-- What the scheduler of a session promises. -/
structure Session.TasksKept (allowed : Request κ → Prop) (session : Session κ S) : Prop where
  /-- Later jobs have larger numbers, so to go by the numbers is to go by the order in which jobs
  were scheduled. -/
  numbered : (Entry.scheduledTasks session.journal).Pairwise fun later earlier =>
    earlier.id < later.id
  /-- Nothing waits that was not scheduled. -/
  waiting : ∀ task ∈ session.scheduler.queue, .scheduled task ∈ session.journal
  /-- A job that is scheduled gets a new number, and waits with its deadline from then on. -/
  schedules : ∀ (caller : Caller κ S) (deadline : Instant) (job : Job κ), ∃ id after,
    (Session.scheduleAt deadline job).run caller session = (id, after) ∧
      (∀ task, .scheduled task ∈ session.journal → task.id < id) ∧
      after.journal = .scheduled ⟨id, deadline, job⟩ :: session.journal ∧
      after.scheduler.queue = session.scheduler.queue ++ [⟨id, deadline, job⟩]
  /-- A job can be cancelled at any time. -/
  cancels : ∀ (caller : Caller κ S) (id : TaskId) (reason : CancellationReason),
    ((Session.cancelTask id reason).run caller session).2.scheduler.isCancelled id = true
  /-- No job has had two turns. -/
  once : (Entry.ranIds session.journal).Nodup
  /-- No job has made two calls. -/
  called_once : (Entry.jobCalls session.journal).Nodup
  /-- A job that was cancelled in an earlier session neither gets a turn nor calls. -/
  cancelled : ∀ moment : Moment κ S, moment.OccursFrom allowed session → ∀ earlier : Session κ S,
    earlier.Precedes allowed moment.session → ∀ id, earlier.scheduler.isCancelled id = true →
      moment.entry ≠ .ran id ∧ moment.entry.jobCall? ≠ some id
  /-- A pass runs what it should, whatever the jobs do. -/
  pass : ∀ code : Code κ S, code.Within allowed → ∀ depth, ∃ noted,
    Pass allowed (code.caller depth) session noted

namespace Rostered

variable {allowed : Request κ → Prop} {state : PassState κ} {session : Session κ S}

/-- A job calls once at most. -/
theorem count_jobCalls_le {lasting : Prop} (rostered : Rostered lasting state session)
    (heralded : Entry.Heralded session.journal) (id : TaskId) :
    (Entry.jobCalls session.journal).count id ≤ 1 := by
  calc (Entry.jobCalls session.journal).count id
      ≤ (Entry.ranIds session.journal).count id := heralded.count_le id
    _ ≤ 1 := List.nodup_iff_count_le_one.1 rostered.roster.ran_nodup id

/-- A job whose turn comes in a pass has called nothing before. -/
theorem callsOf_eq_nil {lasting : Prop} (rostered : Rostered lasting state session)
    (heralded : Entry.Heralded session.journal) {task : Task (Job κ)}
    (hqueued : task ∈ session.scheduler.queue) : Entry.callsOf task.id session.journal = [] := by
  have hunrun := rostered.roster.unrun_of_mem task (List.mem_append_left state.held hqueued)
  have hle := heralded.count_le task.id
  rw [List.count_eq_zero.2 hunrun] at hle
  apply List.eq_nil_of_length_eq_zero
  rw [Entry.length_callsOf]
  exact Nat.le_zero.1 hle

/-- The roster is in order when a pass is over. -/
theorem after_runDue (rostered : Rostered (¬ allowed .clearTasks) state session)
    {code : Code κ S} (within : code.Within allowed) (depth : Nat) :
    Rostered (¬ allowed .clearTasks) state (Session.runDue.run (code.caller depth) session).2 :=
  ((Rostering.passing id).upholds_runDue _ (within.apart depth)
    ((Rostering.governs id).caller within depth) state session rostered).1

/-- When no other pass is under way, a pass takes every job that is due and not cancelled and has
had no turn. -/
theorem takes (rostered : Rostered (¬ allowed .clearTasks) state session)
    (hlasting : ¬ allowed .clearTasks) (hidle : Entry.openPasses session.journal = 0)
    (caller : Caller κ S) {task : Task (Job κ)} (hscheduled : .scheduled task ∈ session.journal)
    (hunrun : .ran task.id ∉ session.journal)
    (hlive : session.scheduler.isCancelled task.id = false)
    (hdue : task.deadline.isDueAt session.clock = true) :
    task ∈ (session.passTurns caller).map Prod.fst := by
  rw [Session.mem_passTurns]
  refine ⟨?_, hdue, hlive⟩
  have hwaiting := rostered.roster.kept hlasting task (Entry.mem_scheduledTasks.2 hscheduled)
    (fun hran => hunrun (Entry.mem_ranIds.1 hran)) hlive
  -- Nothing is held, since no pass is under way.
  rw [rostered.idle (rostered.passes_eq.symm.trans hidle), List.append_nil] at hwaiting
  exact hwaiting

/-- The turns of a pass come in order. -/
theorem pairwise_passTurns {lasting : Prop} (rostered : Rostered lasting state session)
    (caller : Caller κ S) :
    ((session.passTurns caller).map Prod.fst).Pairwise Task.ComesBefore := by
  rw [Session.passTurns, Session.map_fst_turns]
  refine Scheduler.pairwise_batch (rostered.roster.nodup.sublist ?_) session.clock
  exact (List.sublist_append_left session.scheduler.queue state.held).map Task.id

/-- What is scheduled during a pass has no turn in it. -/
theorem not_ran_of_scheduled (rostered : Rostered (¬ allowed .clearTasks) state session)
    {code : Code κ S} (within : code.Within allowed) (depth : Nat) {noted : List (Entry κ)}
    (hjournal : (Session.runDue.run (code.caller depth) session).2.journal =
      noted ++ session.journal)
    {newcomer : Task (Job κ)} (hscheduled : .scheduled newcomer ∈ noted) :
    newcomer.id ∉ (session.passTurns (code.caller depth)).map fun turn => turn.1.id := by
  intro hturn
  obtain ⟨⟨task, now⟩, hturn, hid⟩ := List.mem_map.1 hturn
  -- A job of the batch was scheduled before, so no job that is scheduled later has its number.
  have htask := (Session.mem_passTurns.1 (List.mem_map_of_mem hturn)).1
  have hold := rostered.roster.scheduled_of_mem task (List.mem_append_left _ htask)
  have hunique := (rostered.after_runDue within depth).roster.unique
  rw [hjournal, Entry.scheduledTasks_append, List.map_append] at hunique
  have hnewcomer := List.mem_map_of_mem (f := Task.id) (Entry.mem_scheduledTasks.2 hscheduled)
  exact (List.nodup_append.1 hunique).2.2 _ hnewcomer _ (List.mem_map_of_mem hold) hid.symm

/-- A job that runs in a pass makes its call there, and no other one. -/
theorem callsOf_eq_singleton (rostered : Rostered (¬ allowed .clearTasks) state session)
    (heralded : Entry.Heralded session.journal) {code : Code κ S} (within : code.Within allowed)
    (depth : Nat) {noted : List (Entry κ)}
    (hjournal : (Session.runDue.run (code.caller depth) session).2.journal =
      noted ++ session.journal)
    {task : Task (Job κ)} {now : Session κ S}
    (hturn : (task, now) ∈ session.passTurns (code.caller depth))
    (hlive : now.scheduler.isCancelled task.id = false) {call : Call κ}
    (hcall : Session.turnCall? (task, now) = some call) : Entry.callsOf task.id noted = [call] := by
  have courses := code.courses within depth
  have hafter := rostered.after_runDue within depth
  have hheralded := Heralding.heralded_runDue within depth heralded
  have hqueued := (Session.mem_passTurns.1 (List.mem_map_of_mem hturn)).1
  -- All its calls fall into this pass.
  have hsame : Entry.callsOf task.id (Session.runDue.run (code.caller depth) session).2.journal =
      Entry.callsOf task.id noted := by
    rw [hjournal, Entry.callsOf_append, rostered.callsOf_eq_nil heralded hqueued, List.append_nil]
  have hmem : call ∈ Entry.callsOf task.id noted := by
    have turnIn := Session.turnIn_of_mem_passTurns courses hturn
    rw [← hsame]
    exact Entry.mem_callsOf (turnIn.called courses hlive hcall).2
      (Session.job?_of_turnCall? hcall)
  -- There is one at most.
  have hone : (Entry.callsOf task.id noted).length ≤ 1 := by
    rw [← hsame, Entry.length_callsOf]
    exact hafter.count_jobCalls_le hheralded task.id
  obtain ⟨other, heq⟩ := List.length_eq_one_iff.1
    (Nat.le_antisymm hone (List.length_pos_of_mem hmem))
  rw [heq] at hmem ⊢
  rw [List.mem_singleton.1 hmem]

/-- A pass that begins where the roster is in order, and where jobs have called in their turns
only. -/
theorem pass (rostered : Rostered (¬ allowed .clearTasks) state session)
    (heralded : Entry.Heralded session.journal) {code : Code κ S} (within : code.Within allowed)
    (depth : Nat) : ∃ noted, Pass allowed (code.caller depth) session noted := by
  have courses := code.courses within depth
  obtain ⟨noted, hjournal, hran, hcalls, hcount⟩ := Session.runDue_spec courses session
  refine ⟨noted, ?_⟩
  constructor
  case journal_eq => exact hjournal
  case mem_turns => exact fun task => Session.mem_passTurns
  case ordered => exact rostered.pairwise_passTurns _
  case ran_eq => exact hran
  case count_eq => exact hcount
  case returned_eq => exact hcalls
  case called =>
    rintro ⟨task, now⟩ hturn hlive call hcall
    have huncancelled := Session.isLiveTurn_iff.1 hlive
    have turnIn := Session.turnIn_of_mem_passTurns courses hturn
    exact ⟨rostered.callsOf_eq_singleton heralded within depth hjournal hturn huncancelled hcall,
      (turnIn.called courses huncancelled hcall).1⟩
  case newcomers =>
    intro newcomer hscheduled
    have hunturned := rostered.not_ran_of_scheduled within depth hjournal hscheduled
    -- What was scheduled during the pass has had no turn in it, and only turns run and call.
    have hturns : ∀ turn ∈ (session.passTurns (code.caller depth)).filter Session.isLiveTurn,
        turn.1.id ≠ newcomer.id := by
      rintro turn hturn heq
      rw [← heq] at hunturned
      exact hunturned (List.mem_map_of_mem (List.mem_filter.1 hturn).1)
    constructor
    · intro hmem
      rw [← List.mem_reverse, hran] at hmem
      obtain ⟨turn, hturn, heq⟩ := List.mem_map.1 hmem
      exact hturns turn hturn heq
    · intro call hcall hjob
      rw [← List.mem_reverse, hcalls] at hcall
      obtain ⟨turn, hturn, hcall⟩ := List.mem_filterMap.1 hcall
      have hown := Session.job?_of_turnCall? hcall
      exact hturns turn hturn (Option.some.inj (hown.symm.trans hjob))
  case complete =>
    intro hlasting hidle task hscheduled hunrun hlive hdue
    exact rostered.takes hlasting hidle _ hscheduled hunrun hlive hdue
  case runs =>
    intro hlasting hidle task hscheduled hunrun hafterwards hdue
    have hlive := (Session.course_runDue courses session).lasting.lasts.live hafterwards
    obtain ⟨⟨task, now⟩, hturn, rfl⟩ :=
      List.mem_map.1 (rostered.takes hlasting hidle _ hscheduled hunrun hlive hdue)
    refine ⟨now, hturn, Session.isLiveTurn_iff.2 ?_⟩
    exact (Session.turnIn_of_mem_passTurns courses hturn).live_of_after hafterwards

/-- Jobs that come before another one are over by its turn, if they were scheduled before the pass
began and no other pass was under way then. -/
theorem served (rostered : Rostered (¬ allowed .clearTasks) state session)
    (hclear : ¬ allowed .clearTasks) (hidle : Entry.openPasses session.journal = 0)
    {code : Code κ S} (within : code.Within allowed) {depth : Nat} {now : Session κ S}
    {first second : Task (Job κ)} (hscheduled : .scheduled first ∈ session.journal)
    (hdue : first.deadline.isDueAt session.clock = true) (hbefore : first.ComesBefore second)
    (hturn : (second, now) ∈ session.passTurns (code.caller depth)) :
    now.scheduler.isCancelled first.id = true ∨ .ran first.id ∈ now.journal := by
  have courses := code.courses within depth
  obtain ⟨moments, hsince⟩ := (Session.turnIn_of_mem_passTurns courses hturn).since
  by_cases hran : .ran first.id ∈ session.journal
  · exact .inr ((Session.turnIn_of_mem_passTurns courses hturn).journal_suffix.subset hran)
  cases hcancelled : session.scheduler.isCancelled first.id with
  | true => exact .inl (hsince.lasting.lasts.cancelled first.id hcancelled)
  | false =>
      have hmem := rostered.takes hclear hidle (code.caller depth) hscheduled hran hcancelled hdue
      obtain ⟨⟨first, earlier⟩, hfirst, rfl⟩ := List.mem_map.1 hmem
      have hpast : (session.passTurns (code.caller depth)).Pairwise fun one other =>
          one.1.ComesBefore other.1 ∧
            (other.2.scheduler.isCancelled one.1.id = true ∨ .ran one.1.id ∈ other.2.journal) :=
        (List.pairwise_map.1 (rostered.pairwise_passTurns _)).and
          (Session.past_of_turns courses _ session.taken)
      -- Its turn stands before the other one, since the pass goes by the order of the jobs.
      obtain ⟨front, back, hsplit⟩ := List.append_of_mem hfirst
      rw [hsplit] at hpast hturn
      obtain ⟨-, hback, hfront⟩ := List.pairwise_append.1 hpast
      rcases List.mem_append.1 hturn with hturn | hturn
      · have hafter := (hfront _ hturn _ List.mem_cons_self).1
        exact absurd hafter hbefore.asymm
      · rcases List.mem_cons.1 hturn with heq | hturn
        · obtain ⟨rfl, -⟩ := Prod.mk.inj heq
          exact absurd hbefore hbefore.asymm
        · exact ((List.pairwise_cons.1 hback).1 _ hturn).2

end Rostered

/-- In every session on the way of a run, also in the middle of a pass, no job has run twice or
called twice, and what is cancelled does neither any more.  A pass that begins there runs the jobs
that wait, are due and are not cancelled, in the order of their deadlines and then of their
scheduling, and calls what they were scheduled with. -/
theorem tasks_run {allowed : Request κ → Prop} {sink : ChordSink} {host : Host} {app : S}
    {session : Session κ S} (hpasses : (Session.fresh sink host app).Passes allowed session) :
    session.TasksKept allowed := by
  have law : Governs (κ := κ) (S := S) allowed (fun _ => True) (Rostered (¬ allowed .clearTasks))
      fun _ => RosteredAt (¬ allowed .clearTasks) := Rostering.governs id
  have herald : Governs allowed (fun _ => True) (Heralding.Holds (κ := κ) (S := S))
      fun _ => Heralding.HoldsAt := Heralding.governs
  obtain ⟨state, rostered⟩ : ∃ state, Rostered (¬ allowed .clearTasks) state session :=
    Rostering.exists_rostered id hpasses
  have heralded := Entry.heralded_of_passes hpasses
  constructor
  case numbered => exact rostered.roster.descending
  case waiting =>
    intro task hqueued
    apply Entry.mem_scheduledTasks.1
    exact rostered.roster.scheduled_of_mem task (List.mem_append_left _ hqueued)
  case schedules =>
    intro caller deadline job
    refine ⟨session.scheduler.nextId, _, rfl, fun task hscheduled => ?_, rfl, rfl⟩
    exact rostered.roster.id_lt task (Entry.mem_scheduledTasks.2 hscheduled)
  case cancels =>
    intro caller id reason
    change (session.scheduler.cancel id reason).isCancelled id = true
    simp [Scheduler.isCancelled_cancel]
  case once => exact rostered.roster.ran_nodup
  case called_once => exact List.nodup_iff_count_le_one.2 (rostered.count_jobCalls_le heralded)
  case cancelled =>
    intro moment occurs earlier precedes id hcancelled
    -- A cancellation lasts, and whoever runs or calls at a moment is not cancelled then.
    have hstays := precedes.lasts.cancelled id hcancelled
    constructor
    · intro hran
      rw [(law.occurs rostered occurs).live id hran] at hstays
      cases hstays
    · intro hcalls
      have hholds : Heralding.Holds () session := heralded
      rw [(herald.occurs hholds occurs).live id hcalls] at hstays
      cases hstays
  case pass => exact fun code within depth => rostered.pass heralded within depth

/-! ## A pass in which a job meddles with the others -/

/-- The tasks of a program: one cancels job 2 and schedules another task, and the other panics. -/
def Code.meddling : Code Bool Unit :=
  { Code.ofActions fun _ => .done (.ok ()) with
    task := fun meddles =>
      if meddles then
        .request (.cancelTask 2 .requested) fun _ =>
          .request (.scheduleNext false) fun _ => .done ()
      else .panic "broken" }

theorem Code.within_meddling : Code.meddling.Within (· ≠ .clearTasks) := by
  have answering : (ofActions fun _ => .done (.ok ()) : Code Bool Unit).Within (· ≠ .clearTasks) :=
    within_ofActions fun _ => True.intro
  exact
    { answering with
      task := by
        rintro (_ | _)
        · exact True.intro
        · exact ⟨by simp, fun _ => ⟨by simp, fun _ => True.intro⟩⟩
      apart := hostApart_of_silent fun _ => True.intro }

/-- What schedules three jobs that are due, the one that is scheduled first being due last. -/
def Request.crowding : List (Request Bool) :=
  [.scheduleAt ⟨5⟩ false, .scheduleNext true, .scheduleNext false, .setClock ⟨5⟩]

/-- A session in which three jobs are due. -/
def Session.crowdedSession : Session Bool Unit :=
  Code.meddling.runAll Request.crowding (.fresh .nobody (.fresh .recording true) ())

/-- The first job by deadline cancels the second one, and the job that it schedules waits; the third
one is called, and that it panics ends nothing. -/
theorem tasks_run_crowded :
    (Session.fresh .nobody (.fresh .recording true) ()).Passes (· ≠ .clearTasks)
        Session.crowdedSession ∧
      Session.crowdedSession.TasksKept (· ≠ .clearTasks) ∧
      (Session.runDue.run (Code.meddling.caller 1) Session.crowdedSession).1 = 2 ∧
      ∃ noted, (Session.runDue.run (Code.meddling.caller 1) Session.crowdedSession).2.journal =
          noted ++ Session.crowdedSession.journal ∧
        (Entry.returnedCalls (Entry.outermost 0 noted)).reverse =
          [.task 1 (.user true), .task 0 (.user false)] ∧
        Entry.callsOf 1 noted = [.task 1 (.user true)] ∧
        Entry.callsOf 0 noted = [.task 0 (.user false)] := by
  have hpasses : (Session.fresh .nobody (.fresh .recording true) ()).Passes (· ≠ .clearTasks)
      Session.crowdedSession :=
    .reached (Code.Runs.reached Code.within_meddling
      (Code.Runs.runAll .refl (by simp [Request.crowding])))
  have kept := tasks_run hpasses
  obtain ⟨noted, pass⟩ := kept.pass Code.meddling Code.within_meddling 1
  have hlive : ((Session.passTurns (Code.meddling.caller 1) Session.crowdedSession).filter
      Session.isLiveTurn).filterMap Session.turnCall? =
        [.task 1 (.user true), .task 0 (.user false)] := rfl
  -- Each of these is the call of a job that is live in its turn.
  have hcalls : ∀ {call id}, call ∈ [Call.task 1 (.user true), Call.task 0 (.user false)] →
      call.job? = some id → Entry.callsOf id noted = [call] := by
    intro call id hmem hjob
    rw [← hlive] at hmem
    obtain ⟨turn, hturn, hcall⟩ := List.mem_filterMap.1 hmem
    obtain rfl := Option.some.inj ((Session.job?_of_turnCall? hcall).symm.trans hjob)
    exact (pass.called turn (List.mem_filter.1 hturn).1 (List.mem_filter.1 hturn).2 call hcall).1
  refine ⟨hpasses, kept, by decide +kernel, noted, pass.journal_eq, ?_, ?_, ?_⟩
  · rw [pass.returned_eq, hlive]
  · exact hcalls List.mem_cons_self rfl
  · exact hcalls (List.mem_cons_of_mem _ List.mem_cons_self) rfl

end EditorShell
