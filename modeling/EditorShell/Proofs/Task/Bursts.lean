import EditorShell.Proofs.Task.Dealings
import EditorShell.Proofs.Task.Passes

/-!
# Bursts of calls

A debouncer collapses a burst of calls into one run of the latest closure (`calls_collapse`).
Calls, cancels and drops may come from anywhere, also from the closure itself or from another job of
the pass that has the job in its batch already.

## Strategy

Every step keeps the account of the dealings, so there is one in every session on the way.  What
comes after a session is told by the dealings since then: `Core.Continues` takes any core for the
first one.  When the turn of a job comes the pass holds it as its next one, so it is live unless it
is cancelled (`Core.Accounted.isLive_iff`), and the last dealing tells whether it is live.
-/

namespace EditorShell

variable {κ S : Type}

/-! ## In every step -/

/-- These dealings with a debouncer account for it, and the jobs are in order. -/
structure Core.Accounted (allowed : Request κ → Prop) (id : DebouncerId)
    (dealings : List (Dealing κ)) (held : List (Task (Job κ))) (core : Core κ) : Prop where
  rosters : core.Rosters (¬ allowed .clearTasks) held
  attributed : Attributed allowed core
  debounces : Session.Debounces core
  due : core.Due held
  reflects : core.Reflects id dealings

/-- Steps have led on from a first core, and the dealings among them, together with those that were
told at first, account for the debouncer. -/
def Core.Continues (allowed : Request κ → Prop) (id : DebouncerId) (told : List (Dealing κ))
    (waiting : List (Task (Job κ))) (first : Core κ) : Assertion κ := fun held core =>
  ∃ since, Core.Dealt allowed id waiting first since held core ∧
    Core.Accounted allowed id (told ++ since) held core

namespace Core

variable {allowed : Request κ → Prop} {id : DebouncerId} {told dealings : List (Dealing κ)}
  {waiting held held' : List (Task (Job κ))} {first core core' : Core κ} {session : Session κ S}

theorem Accounted.continues (accounted : Core.Accounted allowed id dealings held core) :
    Core.Continues allowed id dealings held core held core :=
  ⟨[], .refl, (List.append_nil dealings).symm ▸ accounted⟩

theorem Accounted.fresh (allowed : Request κ → Prop) (id : DebouncerId) (sink : ChordSink)
    (host : Host) (app : S) :
    Core.Accounted allowed id [] [] (Session.fresh sink host app).core where
  rosters := .empty
  attributed := .fresh sink host app
  debounces := .fresh sink host app
  due _ hmem := by cases hmem
  reflects := by
    refine ⟨⟨?_, ?_, ?_⟩, ?_⟩
    · simp [Session.core, Session.fresh]
    · exact fun hmade => absurd rfl hmade
    · exact fun _ _ hmem => by cases hmem
    · exact fun _ hlast => by cases hlast

theorem Continues.step (step : Step allowed True held core held' core')
    (continues : Core.Continues allowed id told waiting first held core) :
    Core.Continues allowed id told waiting first held' core' := by
  obtain ⟨since, dealt, accounted⟩ := continues
  obtain ⟨later, hlater, hreflects⟩ :=
    accounted.reflects.step step accounted.rosters accounted.attributed accounted.debounces
  refine ⟨since ++ later, dealt.trans hlater, accounted.rosters.step step fun kept => kept,
    accounted.attributed.step (fun _ _ permitted => permitted) step,
    accounted.debounces.step step, accounted.due.step step, ?_⟩
  rw [← List.append_assoc]
  exact hreflects

theorem Continues.stepwise (allowed : Request κ → Prop) (id : DebouncerId)
    (told : List (Dealing κ)) (waiting : List (Task (Job κ))) (first : Core κ) :
    Stepwise (S := S) allowed True (Core.Continues allowed id told waiting first) fun moment =>
      ∃ held, Core.Continues allowed id told waiting first held moment.session.core ∧
        moment.entry.IsTimely held moment.session.core where
  step step continues := continues.step step
  moment continues timely _ := ⟨_, continues, timely⟩
  callback := fun _ ⟨held, continues, _⟩ => ⟨held, continues⟩
  walks _ _ _ := trivial

/-- The next job that a pass holds is live if it is not cancelled. -/
theorem Accounted.isLive_iff {task : Task (Job κ)}
    (accounted : Core.Accounted allowed id dealings (task :: held) core) :
    core.IsLive task ↔ core.scheduler.isCancelled task.id = false := by
  have hmem : task ∈ core.scheduler.queue ++ task :: held :=
    List.mem_append_right core.scheduler.queue List.mem_cons_self
  exact ⟨fun hlive => hlive.2.1, accounted.rosters.isLive_of_mem hmem⟩

end Core

/-! ## In every session -/

/-- What there is of a debouncer in a session when this has been dealt with it. -/
structure Session.Collapsed (id : DebouncerId) (dealings : List (Dealing κ))
    (session : Session κ S) : Prop where
  made : dealings = [] ↔ session.debouncers.length ≤ id
  orderly : dealings ≠ [] → Dealing.Orderly id (session.debouncer id).delay dealings
  /-- A job is live as long as nothing is dealt with the debouncer after the call. -/
  live_iff : ∀ task, task.IsOf id →
    (session.core.IsLive task ↔ ∃ now, dealings.getLast? = some (.called now task))
  unique : ∀ first second, first.IsOf id → second.IsOf id → session.core.IsLive first →
    session.core.IsLive second → first = second
  pending_iff : session.isDebouncing id = true ↔
    ∃ task, task.IsOf id ∧ session.core.IsLive task

/-- A pass that begins in a session runs the job of the latest call if the job is due and nothing is
dealt with the debouncer before its turn. -/
structure Session.CollapsesIn (allowed : Request κ → Prop) (id : DebouncerId)
    (held : List (Task (Job κ))) (dealings : List (Dealing κ)) (session : Session κ S)
    (caller : Caller κ S) : Prop where
  pass : ∃ noted, Pass allowed caller session noted
  mem_turns_iff : ∀ task, task.IsOf id → (task ∈ (session.passTurns caller).map Prod.fst ↔
    task ∈ session.scheduler.queue ∧ ∃ called, dealings.getLast? = some (.called called task) ∧
      (called.after (session.debouncer id).delay).isDueAt session.clock = true)
  /-- No job is missed that is due, unless a pass under way has it. -/
  complete : ¬ allowed .clearTasks → Entry.openPasses session.journal = 0 → ∀ called task,
    dealings.getLast? = some (.called called task) →
      (called.after (session.debouncer id).delay).isDueAt session.clock = true →
        task ∈ (session.passTurns caller).map Prod.fst
  turn : ∀ task now, (task, now) ∈ session.passTurns caller → task.IsOf id →
    ∃ held' since, Core.Dealt allowed id held session.core since held' now.core ∧
      now.Collapsed id (dealings ++ since) ∧
      (Session.isLiveTurn (task, now) = true ↔
        ∃ called, (dealings ++ since).getLast? = some (.called called task))
  /-- The closure of a job that runs is called when the debouncer has learned of the turn. -/
  runs : ∀ task now body, (task, now) ∈ session.passTurns caller → task.job = .debounced id body →
    Session.isLiveTurn (task, now) = true →
      ∃ begun : Session κ S, begun.core = now.core.starting id task.id ∧
        ⟨.called (.task task.id body), begun⟩ ∈ Session.runDue.moments caller session

/-- Bursts of calls collapse from a session on in which this has been dealt with the debouncer. -/
structure Session.Collapses (allowed : Request κ → Prop) (id : DebouncerId)
    (held : List (Task (Job κ))) (dealings : List (Dealing κ)) (session : Session κ S) : Prop
    extends session.Collapsed id dealings where
  /-- A live job waits in the queue or in the batch of a pass. -/
  waits : ¬ allowed .clearTasks → ∀ task, session.core.IsLive task →
    task ∈ session.scheduler.queue ++ held
  /-- No job has had two turns. -/
  once : (Entry.ranIds session.journal).Nodup
  /-- Whenever a job runs, its call is the last dealing, and it was due when a pass began. -/
  ran : ∀ moment : Moment κ S, moment.OccursFrom allowed session → ∀ task, task.IsOf id →
    .scheduled task ∈ moment.session.journal → moment.entry = .ran task.id →
      (∃ held' since, Core.Dealt allowed id held session.core since held' moment.session.core ∧
        moment.session.Collapsed id (dealings ++ since) ∧
        ∃ called, (dealings ++ since).getLast? = some (.called called task)) ∧
      ∃ now, .passBegan now ∈ moment.session.journal ∧ task.deadline.isDueAt now = true
  passes : ∀ code : Code κ S, code.Within allowed → ∀ depth,
    session.CollapsesIn allowed id held dealings (code.caller depth)
  -- Whatever is done to the debouncer now is one more dealing, but calls that come too late.
  makes : ∀ (caller : Caller κ S) delay, session.debouncers.length = id →
    Core.Dealt allowed id held session.core [.made delay] held
      ((Session.newDebouncer delay).run caller session).2.core
  calls : ∀ (caller : Caller κ S) body, (session.debouncer id).dropped = false →
    Core.Dealt allowed id held session.core
      [.called session.clock ⟨session.scheduler.nextId,
        session.clock.after (session.debouncer id).delay, .debounced id body⟩]
      held ((Session.debounce id body).run caller session).2.core
  ignores : ∀ (caller : Caller κ S) body, (session.debouncer id).dropped = true →
    (Session.debounce id body).run caller session = ((), session)
  cancels : ∀ caller : Caller κ S,
    Core.Dealt allowed id held session.core [.cancelled] held
      ((Session.cancelDebounced id).run caller session).2.core
  drops : ∀ caller : Caller κ S,
    Core.Dealt allowed id held session.core [.dropped] held
      ((Session.dropDebouncer id).run caller session).2.core

/-- When the job of a call runs, its closure is called as soon as the debouncer has learned of the
turn. -/
theorem Session.begins_of_mem_passTurns {caller : Caller κ S} (courses : caller.Courses)
    {session now : Session κ S} {task : Task (Job κ)} {id : DebouncerId} {body : TaskBody κ}
    (hturn : (task, now) ∈ session.passTurns caller) (hjob : task.job = .debounced id body)
    (hlive : Session.isLiveTurn (task, now) = true) :
    ∃ begun : Session κ S, begun.core = now.core.starting id task.id ∧
      ⟨.called (.task task.id body), begun⟩ ∈ Session.runDue.moments caller session := by
  have hcall : Session.turnCall? (task, now) = some (.task task.id body) := by
    unfold Session.turnCall?
    rw [hjob]
  refine ⟨Session.begun (task, now), ?_, ?_⟩
  · have hstarted := Session.core_markStarted caller now id task.id
    rw [Session.run_markStarted caller task now hjob] at hstarted
    exact hstarted
  · have turnIn := Session.turnIn_of_mem_passTurns courses hturn
    apply (turnIn.called courses (Session.isLiveTurn_iff.1 hlive) hcall).1
    rw [Act.moments_call]
    exact List.mem_cons_self

namespace Core.Accounted

variable {allowed : Request κ → Prop} {id : DebouncerId} {dealings : List (Dealing κ)}
  {held : List (Task (Job κ))} {session : Session κ S}

theorem collapsed (accounted : Core.Accounted allowed id dealings held session.core) :
    session.Collapsed id dealings := by
  have reflects := accounted.reflects
  have hlive : ∀ task, task.IsOf id →
      (session.core.IsLive task ↔ ∃ now, dealings.getLast? = some (.called now task)) :=
    fun task isOf => reflects.isLive_iff accounted.rosters accounted.debounces isOf
  refine ⟨reflects.made, reflects.orderly, hlive,
    fun first second hfirst hsecond hone htwo => ?_, ?_⟩
  · obtain ⟨_, hone⟩ := (hlive first hfirst).1 hone
    obtain ⟨_, htwo⟩ := (hlive second hsecond).1 htwo
    exact (Dealing.called.inj (Option.some.inj (hone.symm.trans htwo))).2
  · rw [reflects.isDebouncing_iff]
    constructor
    · rintro ⟨now, task, hlast⟩
      have isOf := (reflects.of_called (List.mem_of_getLast? hlast)).1
      exact ⟨task, isOf, (hlive task isOf).2 ⟨now, hlast⟩⟩
    · rintro ⟨task, isOf, hone⟩
      obtain ⟨now, hlast⟩ := (hlive task isOf).1 hone
      exact ⟨now, task, hlast⟩

/-- The job of the latest call is due when the delay has passed since the call. -/
theorem deadline_eq {core : Core κ} (accounted : Core.Accounted allowed id dealings held core)
    {called : Instant} {task : Task (Job κ)}
    (hlast : dealings.getLast? = some (.called called task)) :
    task.IsOf id ∧ task.deadline = called.after (core.debouncer id).delay :=
  accounted.reflects.of_called (List.mem_of_getLast? hlast)

/-- A pass takes a waiting job of the debouncer if it is the job of the latest call and due. -/
theorem takes_iff (accounted : Core.Accounted allowed id dealings held session.core)
    {task : Task (Job κ)} (isOf : task.IsOf id) (hqueue : task ∈ session.scheduler.queue) :
    task.deadline.isDueAt session.clock = true ∧ session.scheduler.isCancelled task.id = false ↔
      ∃ called, dealings.getLast? = some (.called called task) ∧
        (called.after (session.debouncer id).delay).isDueAt session.clock = true := by
  have collapsed := accounted.collapsed
  have hwaits := List.mem_append_left held hqueue
  constructor
  · rintro ⟨hdue, huncancelled⟩
    have hlive : session.core.IsLive task :=
      accounted.rosters.isLive_of_mem hwaits huncancelled
    obtain ⟨called, hlast⟩ := (collapsed.live_iff task isOf).1 hlive
    exact ⟨called, hlast, (accounted.deadline_eq hlast).2 ▸ hdue⟩
  · rintro ⟨called, hlast, hdue⟩
    have hlive := (collapsed.live_iff task isOf).2 ⟨called, hlast⟩
    exact ⟨(accounted.deadline_eq hlast).2 ▸ hdue, hlive.2.1⟩

/-- A pass that begins now. -/
theorem collapsesIn (accounted : Core.Accounted allowed id dealings held session.core)
    {state : PassState κ} (rostered : Rostered (¬ allowed .clearTasks) state session)
    (heralded : Entry.Heralded session.journal) {code : Code κ S} (within : code.Within allowed)
    (depth : Nat) : session.CollapsesIn allowed id held dealings (code.caller depth) := by
  obtain ⟨noted, pass⟩ := rostered.pass heralded within depth
  have steps := Core.Continues.stepwise (S := S) allowed id dealings held session.core
  have keeps : (code.caller depth).Keeps _ _ :=
    (steps.governs_of_walking trivial).caller within depth
  refine ⟨⟨noted, pass⟩, fun task isOf => ?_,
    fun hclear hidle called task hlast hdue => ?_, fun task now hturn isOf => ?_,
    fun task now body hturn hjob hlive =>
      Session.begins_of_mem_passTurns (code.courses within depth) hturn hjob hlive⟩
  · rw [pass.mem_turns]
    exact and_congr_right fun hqueue => accounted.takes_iff isOf hqueue
  · obtain ⟨isOf, hdeadline⟩ := accounted.deadline_eq hlast
    have hlive := (accounted.collapsed.live_iff task isOf).2 ⟨called, hlast⟩
    exact pass.complete hclear hidle task hlive.1 hlive.2.2 hlive.2.1 (hdeadline ▸ hdue)
  · obtain ⟨rest, since, dealt, later⟩ :=
      steps.of_mem_passTurns (within.apart depth) keeps accounted.continues hturn
    refine ⟨task :: rest, since, dealt, later.collapsed, ?_⟩
    rw [← later.collapsed.live_iff task isOf, later.isLive_iff]
    simp [Session.isLiveTurn, Session.core]

theorem collapses (accounted : Core.Accounted allowed id dealings held session.core)
    {state : PassState κ} (rostered : Rostered (¬ allowed .clearTasks) state session)
    (heralded : Entry.Heralded session.journal) : session.Collapses allowed id held dealings := by
  have steps := Core.Continues.stepwise (S := S) allowed id dealings held session.core
  have dealt : ∀ {dealing : Dealing κ} {core' : Core κ},
      Step allowed True held session.core held core' → dealing.Makes allowed id session.core core' →
        Core.Dealt allowed id held session.core [dealing] held core' :=
    fun step makes => .deal .refl step makes
  refine ⟨accounted.collapsed, fun hclear task hlive => ?_, rostered.roster.ran_nodup,
    fun moment occurs task isOf hscheduled hran => ?_,
    fun code within depth => accounted.collapsesIn rostered heralded within depth,
    fun caller delay next => ?_, fun caller body there => ?_, fun caller body gone => ?_,
    fun caller => ?_, fun caller => ?_⟩
  · exact accounted.rosters.kept hclear task (Entry.mem_scheduledTasks.2 hlive.1)
      (fun hran => hlive.2.2 (Entry.mem_ranIds.1 hran)) hlive.2.1
  · obtain ⟨held', ⟨since, hsince, later⟩, timely⟩ :=
      (steps.governs_of_walking trivial).occurs accounted.continues occurs
    obtain ⟨next, rest, rfl, hid, huncancelled⟩ := timely task.id hran
    -- The job of this turn is the one that the scheduler holds under the number.
    obtain rfl := later.rosters.unique (later.rosters.scheduled_of_held List.mem_cons_self)
      hscheduled hid
    obtain ⟨called, hlast⟩ :=
      (later.collapsed.live_iff next isOf).1 (later.isLive_iff.2 huncancelled)
    exact ⟨⟨_, since, hsince, later.collapsed, called, hlast⟩, later.due next List.mem_cons_self⟩
  · exact dealt (.newDebouncer delay) (.made next delay)
  · rw [Session.core_debounce caller there]
    have makes : Dealing.Makes allowed id _ session.core
        (session.core.calling id session.clock body) := .called session.clock body
    exact dealt (.debounce session.clock body there) makes
  · exact Session.run_debounce_of_dropped caller gone body
  · rw [Session.core_cancelDebounced]
    exact dealt (.release (.inl rfl)) .cancelled
  · rw [Session.core_dropDebouncer]
    exact dealt (.release (.inr rfl)) .dropped

end Core.Accounted

/-- Bursts of calls collapse.  In every session on the way of a run, also in the middle of a pass,
at most one job of a debouncer is live, the debouncer is pending if there is one, and it is the job
of the latest call, with which nothing has been dealt since.  Its turn comes when a pass finds it
due, and it runs then if that is still so. -/
theorem calls_collapse {allowed : Request κ → Prop} {sink : ChordSink} {host : Host} {app : S}
    {session : Session κ S} (hpasses : (Session.fresh sink host app).Passes allowed session)
    (id : DebouncerId) : ∃ dealings held,
      Core.Dealt allowed id [] (Session.fresh sink host app).core dealings held session.core ∧
        (∀ task, .revoked task ∈ dealings → ∃ reason, allowed (.cancelTask task reason)) ∧
        session.Collapses allowed id held dealings := by
  have accounted := Core.Accounted.fresh allowed id sink host app
  have steps := Core.Continues.stepwise (S := S) allowed id [] [] (Session.fresh sink host app).core
  obtain ⟨held, dealings, dealt, now⟩ := steps.of_passes trivial
    (fun _ ⟨held, continues, _⟩ => ⟨held, continues⟩) accounted.continues hpasses
  obtain ⟨state, rostered⟩ := Rostering.exists_rostered (fun kept => kept) hpasses
  have heralded := Entry.heralded_of_passes hpasses
  exact ⟨dealings, held, dealt, fun _ => dealt.permitted, now.collapses rostered heralded⟩

/-- A debouncer that is called twice within its delay. -/
def Session.burstSession : Session Unit Unit :=
  ((Request.debounce 0 ()).perform.run (Code.accepting.caller 0)
    ((Request.advance ⟨50⟩).perform.run (Code.accepting.caller 0)
      ((Request.debounce 0 ()).perform.run (Code.accepting.caller 0)
        ((Request.newDebouncer ⟨200⟩).perform.run (Code.accepting.caller 0)
          (.fresh .nobody (.fresh .recording true) ())).2).2).2).2

theorem calls_collapse_burst :
    (Session.fresh .nobody (.fresh .recording true) ()).Passes (· ≠ .clearTasks)
        Session.burstSession ∧
      Session.burstSession.isDebouncing 0 = true ∧
      ∃ dealings held, Core.Dealt (· ≠ .clearTasks) 0 []
          (Session.fresh (κ := Unit) .nobody (.fresh .recording true) ()).core dealings held
          Session.burstSession.core ∧
        Session.burstSession.Collapses (· ≠ .clearTasks) 0 held dealings := by
  have within := Code.within_accepting (· ≠ .clearTasks)
  have hpasses : (Session.fresh .nobody (.fresh .recording true) ()).Passes (· ≠ .clearTasks)
      Session.burstSession :=
    .reached (.act (.request (.debounce 0 ()) (by simp)) within
      (.act (.request (.advance ⟨50⟩) (by simp)) within
        (.act (.request (.debounce 0 ()) (by simp)) within
          (.act (.request (.newDebouncer ⟨200⟩) (by simp)) within .refl))))
  obtain ⟨dealings, held, dealt, -, collapses⟩ := calls_collapse hpasses 0
  exact ⟨hpasses, by decide +kernel, dealings, held, dealt, collapses⟩

end EditorShell
