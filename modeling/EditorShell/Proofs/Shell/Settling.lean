import EditorShell.Proofs.Shell.Naming
import EditorShell.Proofs.Task.Bursts

/-!
# When a name counts

A name that is typed waits for the pause to pass.  It counts when a tick comes then, unless another
name was typed before (`Session.Greets`).

## Strategy

Which name waits is read off the debouncer of the greeting extension and off the journal, and both
stay as they are while names are left alone.  Only a pass has to look at the queue.  Between the
requests the account of the debouncer says that the job it knows of is the only one of its jobs that
is live (`Core.Tracked`), so the pass runs this job if it is due and no other one that settles a
name.
-/

namespace EditorShell

open Entry Session

variable {κ S : Type}

/-! ## The jobs of a debouncer -/

/-- The jobs of a debouncer are accounted for, and none of them was cancelled by its number. -/
def Core.Tracked (allowed : Request κ → Prop) (id : DebouncerId) (held : List (Task (Job κ)))
    (core : Core κ) : Prop :=
  ∃ dealings, Core.Accounted allowed id dealings held core ∧ ∀ task, .revoked task ∉ dealings

namespace Core.Tracked

variable {allowed : Request κ → Prop} {id : DebouncerId} {held : List (Task (Job κ))}
  {core : Core κ}

theorem of_continues (hcancel : ∀ task reason, ¬ allowed (.cancelTask task reason))
    {told : List (Dealing κ)} (unrevoked : ∀ task, .revoked task ∉ told)
    {waiting : List (Task (Job κ))} {first : Core κ}
    (continues : Core.Continues allowed id told waiting first held core) :
    Core.Tracked allowed id held core := by
  obtain ⟨since, dealt, accounted⟩ := continues
  refine ⟨told ++ since, accounted, fun task hmem => ?_⟩
  rcases List.mem_append.1 hmem with hmem | hmem
  · exact unrevoked task hmem
  · obtain ⟨reason, permitted⟩ := dealt.permitted hmem
    exact hcancel task reason permitted

/-- It is so when the turn of a job comes in a pass that begins now. -/
theorem of_mem_passTurns {code : Code κ S} (within : code.Within allowed)
    (hcancel : ∀ task reason, ¬ allowed (.cancelTask task reason)) {session now : Session κ S}
    (tracked : Core.Tracked allowed id held session.core) {depth : Nat} {task : Task (Job κ)}
    (hturn : (task, now) ∈ session.passTurns (code.caller depth)) :
    ∃ rest, Core.Tracked allowed id (task :: rest) now.core := by
  obtain ⟨dealings, accounted, unrevoked⟩ := tracked
  have steps := Core.Continues.stepwise (S := S) allowed id dealings held session.core
  have keeps : (code.caller depth).Keeps _ _ :=
    (steps.governs_of_walking trivial).caller within depth
  obtain ⟨rest, continues⟩ :=
    steps.of_mem_passTurns (within.apart depth) keeps accounted.continues hturn
  exact ⟨rest, of_continues hcancel unrevoked continues⟩

end Core.Tracked

/-- It is so between the requests of a run. -/
theorem Code.Runs.tracked {allowed : Request κ → Prop} {code : Code κ S}
    (within : code.Within allowed) (hcancel : ∀ task reason, ¬ allowed (.cancelTask task reason))
    {config : ShellConfig} {host : Host} {app : S} {session : Session κ S}
    (runs : code.Runs allowed (code.launch config host app) session) (id : DebouncerId) :
    Core.Tracked allowed id [] session.core := by
  have accounted := Core.Accounted.fresh allowed id .dispatcher host app
  have law := ((Core.Continues.stepwise (S := S) allowed id [] []
    (Session.fresh .dispatcher host app).core).governs_of_walking trivial)
  have launched := (law.undertaking (.start config) within Code.nestingLimit
    (accounted.continues)).1
  exact .of_continues hcancel (by simp) (law.runs within launched runs)

/-! ## Turns -/

/-- The name that an entry tells to count from now on. -/
def Entry.settledName? {κ : Type} : Entry κ → Option String
  | .called (.task _ (.settleName _ name)) => some name
  | _ => none

/-- The names that have counted, newest first. -/
def Entry.settledNames {κ : Type} (journal : List (Entry κ)) : List String :=
  journal.filterMap settledName?

theorem Entry.settledNames_eq_nil {noted : List (Entry κ)}
    (hnoted : ∀ entry ∈ noted, isOfTask entry = false) : settledNames noted = [] := by
  refine List.filterMap_eq_nil_iff.2 fun entry hentry => ?_
  have htask := hnoted entry hentry
  cases entry with
  | called call => cases call <;> first | rfl | cases htask
  | _ => rfl

theorem Entry.settledNames_append {noted : List (Entry κ)}
    (hnoted : ∀ entry ∈ noted, isOfTask entry = false) (rest : List (Entry κ)) :
    settledNames (noted ++ rest) = settledNames rest := by
  have hnone : noted.filterMap settledName? = [] := settledNames_eq_nil hnoted
  unfold settledNames
  rw [List.filterMap_append, hnone, List.nil_append]

namespace Session

theorem NamesStay.settledNames_eq {before after : Session κ S} (stay : before.NamesStay after) :
    settledNames after.journal = settledNames before.journal := by
  obtain ⟨-, noted, hjournal, hnoted⟩ := stay
  rw [hjournal, settledNames_append hnoted]

/-- The name that waits for a debouncer counts from now on. -/
structure NameSettles (id : DebouncerId) (name : String) (before after : Session κ S) : Prop where
  naming_eq : after.naming = { before.naming with
    debouncers := before.debouncers.set id { before.debouncer id with started := true }
    greeters := [(name, some id)] }
  noted : ∃ noted, after.journal = noted ++ before.journal ∧ settledNames noted = [name] ∧
    ∀ task, .scheduled task ∈ noted → task.job.isOfProgram = false

variable {before mid after : Session Empty S} {id : DebouncerId} {name : String}

theorem NamesStay.settles (stay : before.NamesStay mid) (settles : mid.NameSettles id name after) :
    before.NameSettles id name after := by
  obtain ⟨hnaming, noted, hjournal, hnoted⟩ := stay
  obtain ⟨hsettled, later, hlater, hnames, hscheduled⟩ := settles
  have hdebouncers : mid.debouncers = before.debouncers := congrArg Naming.debouncers hnaming
  have hdebouncer : mid.debouncer id = before.debouncer id := by
    unfold Session.debouncer
    rw [hdebouncers]
  refine ⟨?_, later ++ noted, ?_, ?_, fun task hmem => ?_⟩
  · rw [hsettled, hnaming, hdebouncers, hdebouncer]
  · rw [hlater, hjournal, List.append_assoc]
  · have hnone : noted.filterMap settledName? = [] := settledNames_eq_nil hnoted
    rw [← hnames, settledNames, List.filterMap_append, hnone, List.append_nil]
    rfl
  · rcases List.mem_append.1 hmem with hmem | hmem
    · exact hscheduled task hmem
    · exact hnoted _ hmem

theorem NameSettles.stay (settles : before.NameSettles id name mid) (stay : mid.NamesStay after) :
    before.NameSettles id name after := by
  obtain ⟨hsettled, noted, hjournal, hnames, hscheduled⟩ := settles
  obtain ⟨hnaming, later, hlater, hnoted⟩ := stay
  refine ⟨hnaming.trans hsettled, later ++ noted, ?_, ?_, fun task hmem => ?_⟩
  · rw [hlater, hjournal, List.append_assoc]
  · rw [settledNames_append hnoted, hnames]
  · rcases List.mem_append.1 hmem with hmem | hmem
    · exact hnoted _ hmem
    · exact hscheduled task hmem

variable {session : Session Empty S} (depth : Nat)

/-- When its turn comes, a name that waits counts. -/
theorem nameSettles_takeTurn {old : String} (task : Task (Job Empty))
    (hgreeters : session.builtins.helloWorld.map HelloWorldState.naming = [(old, some id)])
    (hlatest : (session.debouncer id).latest? = some task.id)
    (hjob : task.job = .debounced id (.settleName 0 name)) :
    session.NameSettles id name
      ((takeTurn task).run (Code.plain.caller (depth + 1)) session).2 := by
  obtain ⟨task, deadline, job⟩ := task
  obtain rfl : job = .debounced id (.settleName 0 name) := hjob
  obtain ⟨state, hstate, hnaming⟩ := List.map_eq_singleton_iff.1 hgreeters
  -- The job is the latest one of its debouncer, so its start is marked and the name settles.
  have hlatest' : ((session.noting (.ran task)).debouncer id).latest? = some task := hlatest
  have hrun : ((takeTurn ⟨task, deadline, .debounced id (.settleName 0 name)⟩).run
        (Code.plain.caller (depth + 1)) session).2.journal =
      [.returned (.task task (.settleName 0 name)) (.ok ()), .moved,
        .called (.task task (.settleName 0 name)), .ran task] ++ session.journal ∧
      ((takeTurn ⟨task, deadline, .debounced id (.settleName 0 name)⟩).run
        (Code.plain.caller (depth + 1)) session).2.naming = { session.naming with
          debouncers := session.debouncers.set id { session.debouncer id with started := true }
          greeters := (session.builtins.helloWorld.modify 0 fun state =>
            { state with name := name }).map HelloWorldState.naming } := by
    unfold takeTurn runJob markStarted
    simp only [Act.run_bind, Act.run_note, Act.run_read, hlatest', if_pos]
    refine ⟨rfl, ?_⟩
    rw [← hlatest']
    rfl
  obtain ⟨hjournal, hnamed⟩ := hrun
  refine ⟨?_, _, hjournal, rfl, by simp⟩
  rw [hnamed, hstate]
  have howner : state.debouncer? = some id := congrArg Prod.snd hnaming
  simp [HelloWorldState.naming, howner]

end Session

/-- The turn of a job of the bridge leaves names alone. -/
theorem Unnaming.takeTurn {caller : Caller Empty S}
    (answers : ∀ call session, Call.isNaming call = false →
      Session.NamesStay session (caller.answer call session).2) {task : Task (Job Empty)}
    (hjob : task.job.isOfProgram = false) :
    (Session.takeTurn task).MadeOf (Unnaming caller) := by
  obtain ⟨id, deadline, job⟩ := task
  refine .bind ((sees answers).note _ rfl rfl) fun _ => ?_
  cases job with
  | task body => cases hjob
  | debounced debouncer body => cases hjob
  | resolveHandle target => exact (asking answers).resolveRequested target
  | deliverHandle target receiver =>
      exact .bind (.read _) fun _ => .bind ((sees answers).call _ (hidden rfl)) fun _ => .pure ()

/-! ## Passes -/

namespace Session

variable {session : Session Empty S} {id : DebouncerId} (depth : Nat)

/-- The jobs of the bridge at the beginning of a batch leave names alone. -/
theorem exists_runBatch (session : Session Empty S) {front : List (Task (Job Empty))}
    (hfront : ∀ task ∈ front, task.job.isOfProgram = false) (rest : List (Task (Job Empty)))
    (count : Nat) : ∃ later now, session.NamesStay now ∧
      (runBatch count (front ++ rest)).run (Code.plain.caller depth) session =
        (runBatch later rest).run (Code.plain.caller depth) now ∧
      ∀ turn ∈ turns (Code.plain.caller depth) rest now,
        turn ∈ turns (Code.plain.caller depth) (front ++ rest) session := by
  -- The jobs in front settle no name, so they can be run ahead, whether they are live or not.
  induction front generalizing session count with
  | nil => exact ⟨count, session, .refl session, rfl, fun _ => id⟩
  | cons task front ih =>
      have hlater := fun other hother => hfront other (List.mem_cons_of_mem task hother)
      cases hcancelled : session.scheduler.isCancelled task.id with
      | true =>
          obtain ⟨later, now, stay, hrun, hturns⟩ := ih session hlater count
          refine ⟨later, now, stay, ?_, fun turn hturn => ?_⟩
          · exact (runBatch_of_cancelled _ hcancelled count (front ++ rest)).1.trans hrun
          · rw [List.cons_append, turns, if_pos hcancelled]
            exact List.mem_cons_of_mem _ (hturns turn hturn)
      | false =>
          have turned := Unnaming.of_madeOf (Unnaming.takeTurn (Code.namesStay_plain depth)
            (hfront task List.mem_cons_self)) session
          obtain ⟨later, now, stay, hrun, hturns⟩ :=
            ih ((Session.takeTurn task).run (Code.plain.caller depth) session).2 hlater (count + 1)
          refine ⟨later, now, turned.trans stay, ?_, fun turn hturn => ?_⟩
          · exact (runBatch_of_live _ hcancelled count (front ++ rest)).1.trans hrun
          · rw [List.cons_append, turns, if_neg (by simp [hcancelled])]
            exact List.mem_cons_of_mem _ (hturns turn hturn)

theorem namesStay_taken (session : Session Empty S) : session.NamesStay session.taken :=
  ⟨rfl, [.passBegan session.clock], rfl, by simp [Entry.isOfTask]⟩

/-- A pass that begins with jobs of the bridge, from the first other job on. -/
theorem exists_caughtUp (session : Session Empty S) {front : List (Task (Job Empty))}
    (hfront : ∀ task ∈ front, task.job.isOfProgram = false) {rest : List (Task (Job Empty))}
    (hbatch : (session.scheduler.takeDue session.clock).1 = front ++ rest) :
    ∃ later now, session.NamesStay now ∧
      (∀ turn ∈ turns (Code.plain.caller depth) rest now,
        turn ∈ session.passTurns (Code.plain.caller depth)) ∧
      ∃ count, session.caughtUp (Code.plain.caller depth) =
        ((runBatch later rest).run (Code.plain.caller depth) now).2.noting (.passEnded count) := by
  obtain ⟨later, now, stay, hrun, hturns⟩ :=
    exists_runBatch depth session.taken hfront rest 0
  have hpass : session.caughtUp (Code.plain.caller depth) =
      let ran := (runBatch 0 (session.scheduler.takeDue session.clock).1).run
        (Code.plain.caller depth) session.taken
      ran.2.noting (.passEnded ran.1) := rfl
  rw [hbatch, hrun] at hpass
  refine ⟨later, now, session.namesStay_taken.trans stay, fun turn hturn => ?_, _, hpass⟩
  rw [passTurns, hbatch]
  exact hturns turn hturn

/-- A pass over jobs of the bridge leaves names alone. -/
theorem namesStay_caughtUp
    (hbatch : ∀ task ∈ (session.scheduler.takeDue session.clock).1,
      task.job.isOfProgram = false) :
    session.NamesStay (session.caughtUp (Code.plain.caller depth)) := by
  obtain ⟨later, now, stay, -, count, hpass⟩ :=
    exists_caughtUp depth session hbatch (List.append_nil _).symm
  rw [hpass]
  exact stay.trans ⟨rfl, [.passEnded count], rfl, by simp [Entry.isOfTask]⟩

end Session

/-! ## The name that waits -/

namespace Session

/-- This name waits for a debouncer, and it counts from this instant on. -/
def Awaits (id : DebouncerId) (session : Session κ S) : Option (Instant × String) → Prop
  | none => (session.debouncer id).latest? = none ∨ (session.debouncer id).started = true
  | some (deadline, name) => (session.debouncer id).started = false ∧
      ∃ task, (session.debouncer id).latest? = some task ∧
        .scheduled ⟨task, deadline, .debounced id (.settleName 0 name)⟩ ∈ session.journal

/-- There is one greeter.  It greets the name that has counted last, and a debouncer settles the
names that are typed; no other jobs of extensions are there. -/
structure Greets (id : DebouncerId) (waiting? : Option (Instant × String))
    (session : Session κ S) : Prop where
  greeters_eq : session.builtins.helloWorld.map HelloWorldState.naming =
    [((settledNames session.journal).head?.getD "", some id)]
  pauses : (session.debouncer id).delay = namePause ∧ (session.debouncer id).dropped = false
  jobs : ∀ task, .scheduled task ∈ session.journal → task.job.isOfProgram = true →
    ∃ name, task.job = .debounced id (.settleName 0 name)
  awaits : session.Awaits id waiting?

namespace Greets

variable {id : DebouncerId} {waiting? : Option (Instant × String)}

/-- The instant does not matter, and neither does what is noted of other things. -/
theorem congr {before after : Session κ S} (greets : before.Greets id waiting?)
    (hdebouncers : after.debouncers = before.debouncers)
    (hgreeters : after.builtins.helloWorld.map HelloWorldState.naming =
      before.builtins.helloWorld.map HelloWorldState.naming)
    (hjournal : ∃ noted, after.journal = noted ++ before.journal ∧
      ∀ entry ∈ noted, Entry.isOfTask entry = false) : after.Greets id waiting? := by
  obtain ⟨noted, hjournal, hnoted⟩ := hjournal
  have hdebouncer : after.debouncer id = before.debouncer id := by
    unfold Session.debouncer
    rw [hdebouncers]
  refine ⟨?_, hdebouncer ▸ greets.pauses, fun task hmem hprogram => ?_, ?_⟩
  · rw [hgreeters, hjournal, settledNames_append hnoted]
    exact greets.greeters_eq
  · rw [hjournal] at hmem
    rcases List.mem_append.1 hmem with hmem | hmem
    · cases hprogram.symm.trans (hnoted _ hmem)
    · exact greets.jobs task hmem hprogram
  · have hawaits := greets.awaits
    unfold Awaits at hawaits ⊢
    rw [hdebouncer]
    cases waiting? with
    | none => exact hawaits
    | some waiting =>
        obtain ⟨hstarted, task, hlatest, hmem⟩ := hawaits
        exact ⟨hstarted, task, hlatest, hjournal ▸ List.mem_append_right noted hmem⟩

theorem stay {before after : Session κ S} (greets : before.Greets id waiting?)
    (stay : before.NamesStay after) : after.Greets id waiting? :=
  greets.congr (congrArg Naming.debouncers stay.naming_eq)
    (congrArg Naming.greeters stay.naming_eq) stay.noted

/-- When the name that waits counts, none waits any more. -/
theorem settles {before after : Session κ S} (greets : before.Greets id waiting?) {name : String}
    (settles : before.NameSettles id name after) :
    after.Greets id none ∧ settledNames after.journal = name :: settledNames before.journal := by
  obtain ⟨hnaming, noted, hjournal, hnames, hscheduled⟩ := settles
  have hthere : id < before.debouncers.length :=
    before.core.lt_of_dropped_eq_false greets.pauses.2
  have hdebouncers : after.debouncers =
      before.debouncers.set id { before.debouncer id with started := true } :=
    congrArg Naming.debouncers hnaming
  have hdebouncer : after.debouncer id = { before.debouncer id with started := true } := by
    unfold Session.debouncer
    rw [hdebouncers, List.getElem?_set_self hthere]
    rfl
  have hsettled : settledNames after.journal = name :: settledNames before.journal := by
    rw [hjournal, settledNames, List.filterMap_append]
    exact congrArg (· ++ settledNames before.journal) hnames
  -- The debouncer has started its job, so nothing waits any more.
  refine ⟨⟨?_, ?_, fun task hmem hprogram => ?_, ?_⟩, hsettled⟩
  · rw [hsettled]
    exact congrArg Naming.greeters hnaming
  · rw [hdebouncer]
    exact greets.pauses
  · rw [hjournal] at hmem
    rcases List.mem_append.1 hmem with hmem | hmem
    · cases hprogram.symm.trans (hscheduled task hmem)
    · exact greets.jobs task hmem hprogram
  · exact .inr (by rw [hdebouncer])

end Greets

end Session

/-! ## Passes with a name that waits -/

namespace Core.Tracked

variable {allowed : Request κ → Prop} {id : DebouncerId} {held : List (Task (Job κ))}

/-- Which jobs of the debouncer a pass takes. -/
theorem mem_batch_iff (hclear : ¬ allowed .clearTasks) {session : Session κ S}
    (tracked : Core.Tracked allowed id [] session.core) {task : Task (Job κ)}
    (isOf : task.IsOf id) (hscheduled : .scheduled task ∈ session.journal) :
    task ∈ (session.scheduler.takeDue session.clock).1 ↔
      (session.debouncer id).latest? = some task.id ∧ (session.debouncer id).started = false ∧
        task.deadline.isDueAt session.clock = true := by
  obtain ⟨dealings, accounted, unrevoked⟩ := tracked
  have hlive : session.core.IsLive task ↔ (session.debouncer id).latest? = some task.id ∧
      (session.debouncer id).started = false :=
    accounted.reflects.isLive_iff_latest? accounted.rosters accounted.debounces unrevoked isOf
      hscheduled
  rw [Scheduler.mem_batch, ← and_assoc (c := task.deadline.isDueAt session.clock = true), ← hlive]
  constructor
  · rintro ⟨hqueue, hdue, huncancelled⟩
    exact ⟨⟨hscheduled, huncancelled, fun hran => accounted.rosters.unrun_of_mem task
      (List.mem_append_left [] hqueue) (Entry.mem_ranIds.2 hran)⟩, hdue⟩
  · rintro ⟨⟨hscheduled, huncancelled, hunrun⟩, hdue⟩
    have hkept := accounted.rosters.kept hclear task (Entry.mem_scheduledTasks.2 hscheduled)
      (fun hran => hunrun (Entry.mem_ranIds.1 hran)) huncancelled
    exact ⟨(List.append_nil session.scheduler.queue) ▸ hkept, hdue, huncancelled⟩

/-- The job that the debouncer knows of has not been cancelled when its turn comes. -/
theorem isCancelled_eq_false {core : Core κ} {task : Task (Job κ)}
    (tracked : Core.Tracked allowed id (task :: held) core) (isOf : task.IsOf id)
    (hlatest : (core.debouncer id).latest? = some task.id)
    (hstarted : (core.debouncer id).started = false) :
    core.scheduler.isCancelled task.id = false := by
  obtain ⟨dealings, accounted, unrevoked⟩ := tracked
  rw [← accounted.isLive_iff]
  exact (accounted.reflects.isLive_iff_latest? accounted.rosters accounted.debounces unrevoked isOf
    (accounted.rosters.scheduled_of_held List.mem_cons_self)).2 ⟨hlatest, hstarted⟩

theorem nodup_batch {session : Session κ S} (tracked : Core.Tracked allowed id [] session.core) :
    (session.scheduler.takeDue session.clock).1.Nodup := by
  obtain ⟨dealings, accounted, -⟩ := tracked
  have hqueue := accounted.rosters.nodup
  rw [List.append_nil] at hqueue
  refine (Scheduler.pairwise_batch hqueue session.clock).imp ?_
  rintro first second hbefore rfl
  exact hbefore.asymm hbefore

end Core.Tracked

namespace Session.Greets

variable {allowed : Request Empty → Prop} {session : Session Empty S} {id : DebouncerId}
  {waiting? : Option (Instant × String)}

/-- The only job of an extension in a pass is the one of the name that waits. -/
theorem waiting?_eq (greets : session.Greets id waiting?) (hclear : ¬ allowed .clearTasks)
    (tracked : Core.Tracked allowed id [] session.core) {task : Task (Job Empty)}
    (hbatch : task ∈ (session.scheduler.takeDue session.clock).1)
    (hprogram : task.job.isOfProgram = true) :
    (session.debouncer id).latest? = some task.id ∧
      task.deadline.isDueAt session.clock = true ∧ ∃ name,
        waiting? = some (task.deadline, name) ∧ task.job = .debounced id (.settleName 0 name) := by
  have hscheduled : .scheduled task ∈ session.journal := by
    obtain ⟨dealings, accounted, -⟩ := tracked
    exact Entry.mem_scheduledTasks.1 (accounted.rosters.scheduled_of_mem task
      (List.mem_append_left _ (Scheduler.mem_batch.1 hbatch).1))
  obtain ⟨name, hjob⟩ := greets.jobs task hscheduled hprogram
  obtain ⟨hlatest, hstarted, hdue⟩ :=
    (tracked.mem_batch_iff hclear ⟨_, hjob⟩ hscheduled).1 hbatch
  refine ⟨hlatest, hdue, ?_⟩
  -- The latest job has not started, so a name waits, and there is one job of its number.
  have hawaits := greets.awaits
  cases waiting? with
  | none =>
      rcases hawaits with hnone | hstarted'
      · cases hlatest.symm.trans hnone
      · cases hstarted.symm.trans hstarted'
  | some waiting =>
      obtain ⟨deadline, name⟩ := waiting
      obtain ⟨-, other, hother, hmem⟩ := hawaits
      obtain ⟨dealings, accounted, -⟩ := tracked
      obtain rfl := accounted.rosters.unique hscheduled hmem
        (Option.some.inj (hlatest.symm.trans hother))
      exact ⟨name, rfl, rfl⟩

/-- A pass leaves names alone if none waits or if the pause is not over. -/
theorem namesStay_caughtUp (depth : Nat) (greets : session.Greets id waiting?)
    (hclear : ¬ allowed .clearTasks) (tracked : Core.Tracked allowed id [] session.core)
    (hundue : ∀ deadline name, waiting? = some (deadline, name) →
      deadline.isDueAt session.clock = false) :
    session.NamesStay (session.caughtUp (Code.plain.caller depth)) := by
  refine Session.namesStay_caughtUp depth fun task hbatch => ?_
  rw [← Bool.not_eq_true]
  intro hprogram
  obtain ⟨-, hdue, name, hwaiting, -⟩ := greets.waiting?_eq hclear tracked hbatch hprogram
  cases hdue.symm.trans (hundue _ _ hwaiting)

/-- The name that waits counts in the first pass after the pause. -/
theorem nameSettles_caughtUp (depth : Nat) {deadline : Instant} {name : String}
    (greets : session.Greets id (some (deadline, name)))
    (within : (Code.plain (S := S)).Within allowed)
    (hclear : ¬ allowed .clearTasks) (hcancel : ∀ task reason, ¬ allowed (.cancelTask task reason))
    (tracked : Core.Tracked allowed id [] session.core)
    (hdue : deadline.isDueAt session.clock = true) :
    session.NameSettles id name (session.caughtUp (Code.plain.caller (depth + 1))) := by
  obtain ⟨hstarted, number, hlatest, hmem⟩ := greets.awaits
  have hbatch := (tracked.mem_batch_iff hclear ⟨_, rfl⟩ hmem).2 ⟨hlatest, hstarted, hdue⟩
  obtain ⟨front, back, hsplit⟩ := List.append_of_mem hbatch
  have hnodup := tracked.nodup_batch
  rw [hsplit, List.nodup_middle, List.nodup_cons] at hnodup
  -- No other job of the batch is one of an extension.
  have hbridge : ∀ task ∈ front ++ back, task.job.isOfProgram = false := by
    intro task hother
    rw [← Bool.not_eq_true]
    intro hprogram
    have hbatch : task ∈ (session.scheduler.takeDue session.clock).1 := by
      rw [hsplit]
      exact List.perm_middle.mem_iff.2 (List.mem_cons_of_mem _ hother)
    obtain ⟨hid, -, other, hwaiting, hjob⟩ := greets.waiting?_eq hclear tracked hbatch hprogram
    obtain ⟨task, due, job⟩ := task
    obtain rfl := Option.some.inj (hlatest.symm.trans hid)
    obtain ⟨rfl, rfl⟩ := Prod.mk.inj (Option.some.inj hwaiting)
    obtain rfl : job = _ := hjob
    exact hnodup.1 hother
  obtain ⟨later, now, stay, hturns, count, hpass⟩ := exists_caughtUp (depth + 1) session
    (fun task hmem => hbridge task (List.mem_append_left back hmem)) hsplit
  obtain ⟨held, here⟩ :=
    tracked.of_mem_passTurns within hcancel (hturns _ List.mem_cons_self)
  have hdebouncer : now.debouncer id = session.debouncer id := by
    have hdebouncers : now.debouncers = session.debouncers :=
      congrArg Naming.debouncers stay.naming_eq
    unfold Session.debouncer
    rw [hdebouncers]
  have hlatest' : (now.debouncer id).latest? = some number := hdebouncer ▸ hlatest
  have hstarted' : (now.debouncer id).started = false := hdebouncer ▸ hstarted
  have huncancelled := here.isCancelled_eq_false ⟨_, rfl⟩ hlatest' hstarted'
  have hgreeters : now.builtins.helloWorld.map HelloWorldState.naming = _ :=
    (congrArg Naming.greeters stay.naming_eq).trans greets.greeters_eq
  have turned := nameSettles_takeTurn depth
    ⟨number, deadline, .debounced id (.settleName 0 name)⟩ hgreeters hlatest' rfl
  have hbatch := (runBatch_of_live (Code.plain.caller (depth + 1)) huncancelled later back).1
  obtain ⟨later', last, stays, hrun, -⟩ := exists_runBatch (depth + 1)
    ((takeTurn _).run (Code.plain.caller (depth + 1)) now).2
    (fun task hmem => hbridge task (List.mem_append_right front hmem)) [] (later + 1)
  rw [List.append_nil] at hrun
  rw [hpass, hbatch, hrun]
  exact (stay.settles turned).stay (stays.trans ⟨rfl, [.passEnded count], rfl,
    by simp [Entry.isOfTask]⟩)

end Session.Greets

end EditorShell
