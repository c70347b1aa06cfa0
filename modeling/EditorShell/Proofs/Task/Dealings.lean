import EditorShell.Proofs.Handle.Ownership
import EditorShell.Proofs.Task.Debouncing
import EditorShell.Proofs.Task.Stepping

/-!
# Dealings with a debouncer

What is done to a debouncer is a dealing with it, and so is the turn of its latest job.  A run is
told by its dealings (`Core.Dealt`), since all other steps leave the debouncer as it is.

The last dealing tells what the debouncer knows of its job and what has become of this job
(`Core.Reflects`).  So whether a job can still run is read off the dealings: it can if they end with
its call (`Core.Reflects.isLive_iff`).

## Strategy

There is one lemma for each dealing, and `Core.Reflects.aside` is for the other steps.  These could
go wrong in two ways: they might cancel the job of the last call, or take its turn for somebody
else.  Both are excluded by the roster, since no two jobs have the same number (`turn`, `retiring`,
`withdrawing`).
-/

namespace EditorShell

variable {κ S : Type}

/-! ## Dealings -/

/-- Something that is done to a debouncer, or that happens to its latest job. -/
inductive Dealing (κ : Type) where
  | made (delay : Duration)
  /-- It is called at an instant, and a job is scheduled for it. -/
  | called (now : Instant) (task : Task (Job κ))
  | cancelled
  | dropped
  /-- The turn of its latest job comes. -/
  | started (task : TaskId)
  /-- The embedding program cancels its latest job by the number. -/
  | revoked (task : TaskId)

namespace Dealing

/-- The job that is scheduled for a call. -/
def task? : Dealing κ → Option (Task (Job κ))
  | .called _ task => some task
  | .made _ | .cancelled | .dropped | .started _ | .revoked _ => none

theorem mem_filterMap_task? {dealings : List (Dealing κ)} {task : Task (Job κ)} :
    task ∈ dealings.filterMap task? ↔ ∃ now, .called now task ∈ dealings := by
  rw [List.mem_filterMap]
  constructor
  · rintro ⟨dealing, hmem, htask⟩
    cases dealing with
    | called now other =>
        obtain rfl := Option.some.inj htask
        exact ⟨now, hmem⟩
    | _ => cases htask
  · rintro ⟨now, hmem⟩
    exact ⟨_, hmem, rfl⟩

/-- How a dealing with a debouncer changes the core. -/
inductive Makes (allowed : Request κ → Prop) (id : DebouncerId) :
    Dealing κ → Core κ → Core κ → Prop where
  | made {core} (next : core.debouncers.length = id) (delay : Duration) :
      Makes allowed id (.made delay) core
        { core with debouncers := core.debouncers ++ [.ofDelay delay] }
  | called {core} (now : Instant) (body : TaskBody κ) :
      Makes allowed id (.called now
          ⟨core.scheduler.nextId, now.after (core.debouncer id).delay, .debounced id body⟩)
        core (core.calling id now body)
  | cancelled {core} :
      Makes allowed id .cancelled core (core.releasing id (core.debouncer id).dropped)
  | dropped {core} : Makes allowed id .dropped core (core.releasing id true)
  | started {core} {task : TaskId} (latest : (core.debouncer id).latest? = some task) :
      Makes allowed id (.started task) core (core.starting id task)
  | revoked {core} {task : TaskId} {reason : CancellationReason}
      (latest : (core.debouncer id).latest? = some task)
      (permitted : allowed (.cancelTask task reason)) :
      Makes allowed id (.revoked task) core (core.cancelling task reason)

/-- The dealings with a debouncer of this delay: first it is made, each call schedules a job of its
own, and the job is due when the delay has passed since the call. -/
structure Orderly (id : DebouncerId) (delay : Duration) (dealings : List (Dealing κ)) : Prop where
  made : dealings.head? = some (.made delay)
  called : ∀ now task, .called now task ∈ dealings →
    task.IsOf id ∧ task.deadline = now.after delay
  distinct : (dealings.filterMap task?).Pairwise fun earlier later => earlier.id < later.id

/-- What a debouncer knows of its job, and what has become of the job, is as the last dealing has
left it. -/
def Fits (id : DebouncerId) (core : Core κ) : Dealing κ → Prop
  | .called _ task => (core.debouncer id).latest? = some task.id ∧
      (core.debouncer id).started = false ∧ core.IsLive task
  | .started task => (core.debouncer id).latest? = some task ∧
      (core.debouncer id).started = true ∧ .ran task ∈ core.journal
  | .revoked task => (core.debouncer id).latest? = some task ∧
      core.scheduler.isCancelled task = true
  | .made _ | .cancelled | .dropped => (core.debouncer id).latest? = none

end Dealing

/-- Steps lead from one core to another, and these dealings with a debouncer are among them, in this
order.  The other steps leave the debouncer as it is. -/
inductive Core.Dealt (allowed : Request κ → Prop) (id : DebouncerId) (waiting : List (Task (Job κ)))
    (first : Core κ) : List (Dealing κ) → List (Task (Job κ)) → Core κ → Prop where
  | refl : Dealt allowed id waiting first [] waiting first
  | aside {dealings held core held' core'}
      (dealt : Dealt allowed id waiting first dealings held core)
      (step : Step allowed True held core held' core')
      (same : core'.debouncer id = core.debouncer id) :
      Dealt allowed id waiting first dealings held' core'
  | deal {dealings held core held' core'} {dealing : Dealing κ}
      (dealt : Dealt allowed id waiting first dealings held core)
      (step : Step allowed True held core held' core')
      (makes : dealing.Makes allowed id core core') :
      Dealt allowed id waiting first (dealings ++ [dealing]) held' core'

theorem Core.Dealt.trans {allowed : Request κ → Prop} {id : DebouncerId}
    {waiting held held' : List (Task (Job κ))} {first core core' : Core κ}
    {dealings since : List (Dealing κ)}
    (dealt : Core.Dealt allowed id waiting first dealings held core)
    (later : Core.Dealt allowed id held core since held' core') :
    Core.Dealt allowed id waiting first (dealings ++ since) held' core' := by
  induction later with
  | refl =>
      rw [List.append_nil]
      exact dealt
  | aside _ step same ih => exact .aside ih step same
  | deal _ step makes ih =>
      rw [← List.append_assoc]
      exact .deal ih step makes

/-- Nobody but the embedding program cancels the job of a debouncer by its number. -/
theorem Core.Dealt.permitted {allowed : Request κ → Prop} {id : DebouncerId}
    {waiting held : List (Task (Job κ))} {first core : Core κ} {dealings : List (Dealing κ)}
    (dealt : Core.Dealt allowed id waiting first dealings held core) {task : TaskId}
    (hmem : .revoked task ∈ dealings) : ∃ reason, allowed (.cancelTask task reason) := by
  induction dealt with
  | refl => cases hmem
  | aside _ _ _ ih => exact ih hmem
  | deal _ _ makes ih =>
      rcases List.mem_append.1 hmem with hmem | hmem
      · exact ih hmem
      · obtain rfl := List.mem_singleton.1 hmem
        cases makes with
        | revoked _ permitted => exact ⟨_, permitted⟩

/-! ## Keeping account of the dealings -/

/-- These are all the dealings with a debouncer since it was made. -/
structure Core.Records (id : DebouncerId) (dealings : List (Dealing κ)) (core : Core κ) : Prop where
  made : dealings = [] ↔ core.debouncers.length ≤ id
  orderly : dealings ≠ [] → Dealing.Orderly id (core.debouncer id).delay dealings
  scheduled : ∀ now task, .called now task ∈ dealings → .scheduled task ∈ core.journal

/-- Dealings with a debouncer account for what it knows of its job and for what has become of the
job that was dealt with last. -/
structure Core.Reflects (id : DebouncerId) (dealings : List (Dealing κ)) (core : Core κ) : Prop
    extends core.Records id dealings where
  fits : ∀ last, dealings.getLast? = some last → last.Fits id core

namespace Core.Records

variable {id : DebouncerId} {dealings : List (Dealing κ)} {core core' : Core κ}

/-- One more dealing. -/
theorem concat (records : core.Records id dealings) (there : id < core.debouncers.length)
    {dealing : Dealing κ} (hlength : core'.debouncers.length = core.debouncers.length)
    (hdelay : (core'.debouncer id).delay = (core.debouncer id).delay)
    (hjournal : core.journal <:+ core'.journal)
    (hcalled : ∀ now task, dealing = .called now task → task.IsOf id ∧
      task.deadline = now.after (core.debouncer id).delay ∧ .scheduled task ∈ core'.journal ∧
        ∀ earlier, .scheduled earlier ∈ core.journal → earlier.id < task.id) :
    core'.Records id (dealings ++ [dealing]) := by
  have orderly := records.orderly fun hnil => Nat.not_le_of_lt there (records.made.1 hnil)
  refine ⟨?_, fun _ => ⟨?_, fun now task hmem => ?_, ?_⟩, fun now task hmem => ?_⟩
  · rw [hlength]
    simp [there]
  · rw [List.head?_append, orderly.made, hdelay]
    rfl
  · rw [hdelay]
    rcases List.mem_append.1 hmem with hmem | hmem
    · exact orderly.called now task hmem
    · obtain ⟨isOf, hdeadline, -⟩ := hcalled now task (List.mem_singleton.1 hmem).symm
      exact ⟨isOf, hdeadline⟩
  · rw [List.filterMap_append]
    refine List.pairwise_append.2 ⟨orderly.distinct, ?_, fun earlier hearlier later hlater => ?_⟩
    · cases dealing <;> first | exact .nil | exact List.pairwise_singleton _ _
    · -- Numbers are given in rising order, so a new job differs from all the earlier ones.
      obtain ⟨before, hbefore⟩ := Dealing.mem_filterMap_task?.1 hearlier
      obtain ⟨now, hnow⟩ := Dealing.mem_filterMap_task?.1 hlater
      obtain ⟨-, -, -, hlt⟩ := hcalled now later (List.mem_singleton.1 hnow).symm
      exact hlt earlier (records.scheduled before earlier hbefore)
  · rcases List.mem_append.1 hmem with hmem | hmem
    · exact hjournal.subset (records.scheduled now task hmem)
    · exact (hcalled now task (List.mem_singleton.1 hmem).symm).2.2.1

theorem of_called (records : core.Records id dealings) {now : Instant} {task : Task (Job κ)}
    (hmem : .called now task ∈ dealings) :
    task.IsOf id ∧ task.deadline = now.after (core.debouncer id).delay :=
  (records.orderly (List.ne_nil_of_mem hmem)).called now task hmem

theorem reflects_concat {dealing : Dealing κ} (records : core.Records id (dealings ++ [dealing]))
    (hfits : dealing.Fits id core) : core.Reflects id (dealings ++ [dealing]) := by
  refine ⟨records, fun last hlast => ?_⟩
  rw [List.getLast?_concat] at hlast
  exact Option.some.inj hlast ▸ hfits

end Core.Records

namespace Core

/-! What dealings do to the debouncer. -/

variable {core : Core κ} {id : DebouncerId}

theorem debouncer_calling (there : (core.debouncer id).dropped = false) (now : Instant)
    (body : TaskBody κ) : (core.calling id now body).debouncer id =
      { core.debouncer id with latest? := some core.scheduler.nextId, started := false } :=
  (core.debouncer_of_set rfl id).trans (if_pos ⟨rfl, Core.lt_of_dropped_eq_false there⟩)

theorem debouncer_releasing (there : id < core.debouncers.length) (dropped : Bool) :
    (core.releasing id dropped).debouncer id =
      { core.debouncer id with latest? := none, dropped := dropped } :=
  (core.debouncer_of_set rfl id).trans (if_pos ⟨rfl, there⟩)

theorem debouncer_starting_of_latest {task : TaskId}
    (latest : (core.debouncer id).latest? = some task) :
    (core.starting id task).debouncer id = { core.debouncer id with started := true } :=
  (core.debouncer_starting id task id).trans (if_pos ⟨rfl, latest⟩)

theorem length_debouncers_starting (core : Core κ) (id : DebouncerId) (task : TaskId) :
    (core.starting id task).debouncers.length = core.debouncers.length := by
  unfold Core.starting
  split
  · exact List.length_set
  · rfl

end Core

namespace Core.Reflects

variable {allowed : Request κ → Prop} {lasting : Prop} {id : DebouncerId}
  {dealings : List (Dealing κ)} {held held' : List (Task (Job κ))} {core core' : Core κ}

/-- Nothing is dealt with the debouncer. -/
theorem aside (reflects : core.Reflects id dealings)
    (same : core'.debouncer id = core.debouncer id)
    (hlength : core'.debouncers.length ≤ id ↔ core.debouncers.length ≤ id)
    (hjournal : core.journal <:+ core'.journal)
    (hflags : ∀ task, core.scheduler.isCancelled task = true →
      core'.scheduler.isCancelled task = true)
    (hlive : ∀ task, task.IsOf id → .scheduled task ∈ core.journal →
      (core'.scheduler.isCancelled task.id = true → core.scheduler.isCancelled task.id = true) ∧
        (.ran task.id ∈ core'.journal → .ran task.id ∈ core.journal)) :
    core'.Reflects id dealings where
  made := reflects.made.trans hlength.symm
  orderly hmade := same.symm ▸ reflects.orderly hmade
  scheduled now task hmem := hjournal.subset (reflects.scheduled now task hmem)
  fits last hlast := by
    have hfits := reflects.fits last hlast
    unfold Dealing.Fits at hfits ⊢
    rw [same]
    cases last with
    | called now task =>
        obtain ⟨hlatest, hstarted, hscheduled, huncancelled, hunrun⟩ := hfits
        -- The waiting job is one of this debouncer, and what happened left those jobs alone.
        obtain ⟨isOf, -⟩ := reflects.of_called (List.mem_of_getLast? hlast)
        obtain ⟨hcancelled, hran⟩ := hlive task isOf hscheduled
        refine ⟨hlatest, hstarted, hjournal.subset hscheduled, Bool.eq_false_iff.2 fun h => ?_,
          fun h => hunrun (hran h)⟩
        cases huncancelled.symm.trans (hcancelled h)
    | started task => exact ⟨hfits.1, hfits.2.1, hjournal.subset hfits.2.2⟩
    | revoked task => exact ⟨hfits.1, hflags task hfits.2⟩
    | made delay => exact hfits
    | cancelled => exact hfits
    | dropped => exact hfits

theorem beside (reflects : core.Reflects id dealings)
    (hdebouncers : core'.debouncers = core.debouncers) (hjournal : core.journal <:+ core'.journal)
    (hcancelled : core'.scheduler.cancelled = core.scheduler.cancelled)
    (hran : ∀ task, .ran task ∈ core'.journal → .ran task ∈ core.journal) :
    core'.Reflects id dealings := by
  have hflags := Scheduler.isCancelled_congr hcancelled
  exact reflects.aside (Core.debouncer_congr hdebouncers id) (by rw [hdebouncers]) hjournal
    (fun task h => (hflags task).trans h)
    fun task _ _ => ⟨fun h => (hflags task.id).symm.trans h, hran task.id⟩

/-- The turn of a job of somebody else comes. -/
theorem turn (reflects : core.Reflects id dealings) (rosters : core.Rosters lasting held)
    {other : Task (Job κ)} (hother : .scheduled other ∈ core.journal) (foreign : ¬ other.IsOf id)
    (same : core'.debouncer id = core.debouncer id)
    (hlength : core'.debouncers.length = core.debouncers.length)
    (hjournal : core'.journal = .ran other.id :: core.journal)
    (hcancelled : core'.scheduler.cancelled = core.scheduler.cancelled) :
    core'.Reflects id dealings := by
  have hflags := Scheduler.isCancelled_congr hcancelled
  refine reflects.aside same (by rw [hlength]) (hjournal ▸ List.suffix_cons _ _)
    (fun task h => (hflags task).trans h) fun task isOf hscheduled =>
      ⟨fun h => (hflags task.id).symm.trans h, fun hran => ?_⟩
  rw [hjournal] at hran
  rcases List.mem_cons.1 hran with heq | hran
  · obtain rfl := rosters.unique hscheduled hother (Entry.ran.inj heq)
    exact absurd isOf foreign
  · exact hran

/-- Another debouncer cancels its job and is replaced. -/
theorem retiring (reflects : core.Reflects id dealings) (rosters : core.Rosters lasting held)
    (attributed : Attributed allowed core) {other : DebouncerId} (hne : other ≠ id)
    {debouncer : Debouncer} {reason : CancellationReason}
    (hdebouncers : core'.debouncers = core.debouncers.set other debouncer)
    (hjournal : core.journal <:+ core'.journal)
    (hran : ∀ task, .ran task ∈ core'.journal → .ran task ∈ core.journal)
    (hcancelled : core'.scheduler.cancelled = (core.retiring other reason).scheduler.cancelled) :
    core'.Reflects id dealings := by
  have hflags : ∀ task, core'.scheduler.isCancelled task =
      (decide ((core.debouncer other).latest? = some task) || core.scheduler.isCancelled task) := by
    intro task
    rw [← core.isCancelled_retiring other reason]
    exact Scheduler.isCancelled_congr hcancelled task
  have hsame := (core.debouncer_of_set hdebouncers id).trans (if_neg fun h => hne h.1.symm)
  refine reflects.aside hsame (by rw [hdebouncers, List.length_set]) hjournal (fun task h => ?_)
    fun task isOf hscheduled => ⟨fun h => ?_, hran task.id⟩
  · rw [hflags, h, Bool.or_true]
  · rw [hflags, Bool.or_eq_true, decide_eq_true_eq] at h
    rcases h with hlatest | hcancelled
    · obtain ⟨owned, hmem, hid, isOfOther⟩ := attributed.latest other task.id hlatest
      obtain rfl := rosters.unique hmem hscheduled hid
      exact absurd (isOfOther.unique isOf) hne
    · exact hcancelled

/-- The debouncer is called. -/
theorem records_calling (reflects : core.Reflects id dealings) (rosters : core.Rosters lasting held)
    (there : (core.debouncer id).dropped = false) (now : Instant) (body : TaskBody κ) :
    (core.calling id now body).Records id (dealings ++ [.called now
      ⟨core.scheduler.nextId, now.after (core.debouncer id).delay, .debounced id body⟩]) := by
  have hjournal := core.journal_calling id now body
  refine reflects.concat (Core.lt_of_dropped_eq_false there) List.length_set ?_
    (hjournal ▸ List.suffix_cons _ _) ?_
  · rw [Core.debouncer_calling there]
  · rintro _ _ ⟨⟩
    exact ⟨⟨body, rfl⟩, rfl, hjournal ▸ List.mem_cons_self,
      fun earlier hearlier => rosters.id_lt_nextId hearlier⟩

/-- A call does not cancel the job that it schedules. -/
theorem isCancelled_calling (rosters : core.Rosters lasting held)
    (attributed : Attributed allowed core) (id : DebouncerId) (now : Instant) (body : TaskBody κ) :
    (core.calling id now body).scheduler.isCancelled core.scheduler.nextId =
      core.scheduler.isCancelled core.scheduler.nextId := by
  refine (core.isCancelled_retiring id .superseded _).trans ?_
  have hnot : (core.debouncer id).latest? ≠ some core.scheduler.nextId := by
    intro heq
    obtain ⟨task, hmem, hid, -⟩ := attributed.latest id _ heq
    exact absurd hid (Nat.ne_of_lt (rosters.id_lt_nextId hmem))
  simp [hnot]

theorem isLive_calling (rosters : core.Rosters lasting held) (attributed : Attributed allowed core)
    (id : DebouncerId) (now : Instant) (body : TaskBody κ)
    (unflagged : core.scheduler.isCancelled core.scheduler.nextId = false) :
    (core.calling id now body).IsLive
      ⟨core.scheduler.nextId, now.after (core.debouncer id).delay, .debounced id body⟩ := by
  unfold Core.IsLive
  rw [core.journal_calling]
  refine ⟨List.mem_cons_self,
    (isCancelled_calling rosters attributed id now body).trans unflagged, fun hran => ?_⟩
  rcases List.mem_cons.1 hran with heq | hran
  · cases heq
  · exact rosters.not_ran_nextId hran

theorem calling (reflects : core.Reflects id dealings) (rosters : core.Rosters lasting held)
    (attributed : Attributed allowed core)
    (there : (core.debouncer id).dropped = false) (now : Instant) (body : TaskBody κ) :
    ∃ since, Core.Dealt allowed id held core since held (core.calling id now body) ∧
      (core.calling id now body).Reflects id (dealings ++ since) := by
  have hlength : (core.calling id now body).debouncers.length = core.debouncers.length :=
    List.length_set
  have hrecords := reflects.records_calling rosters there now body
  have hcalled : Core.Dealt allowed id held core _ held (core.calling id now body) :=
    .deal .refl (.debounce now body there) (.called now body)
  have hlatest := Core.debouncer_calling there now body
  cases hcancelled : core.scheduler.isCancelled core.scheduler.nextId with
  | false =>
      have hlive := isLive_calling rosters attributed id now body hcancelled
      exact ⟨_, hcalled,
        hrecords.reflects_concat ⟨by rw [hlatest], by rw [hlatest], hlive⟩⟩
  | true =>
      -- Only the embedding program can have raised the flag of a number that belongs to no job, and
      -- it is as if it did so right after the call.
      have hflag := (isCancelled_calling rosters attributed id now body).trans hcancelled
      rcases attributed.cancelled _ hcancelled with ⟨reason, permitted⟩ | ⟨task, hmem, hid, -⟩
      · have hsame : (core.calling id now body).cancelling core.scheduler.nextId reason =
            core.calling id now body := by
          unfold Core.cancelling
          rw [Scheduler.cancel_of_isCancelled hflag]
        have hrevoked := hcalled.deal (.cancel permitted) (.revoked (by rw [hlatest]) permitted)
        rw [hsame] at hrevoked
        refine ⟨_, hrevoked, ?_⟩
        rw [List.nil_append, ← List.append_assoc]
        have hmade : id < (core.calling id now body).debouncers.length :=
          hlength ▸ Core.lt_of_dropped_eq_false there
        refine (hrecords.concat hmade rfl rfl (List.suffix_refl _) ?_).reflects_concat
          ⟨by rw [hlatest], hflag⟩
        rintro _ _ ⟨⟩
      · exact absurd hid (Nat.ne_of_lt (rosters.id_lt_nextId hmem))

/-- The debouncer cancels its job, and it may be dropped. -/
theorem releasing (reflects : core.Reflects id dealings) {dropped : Bool}
    (stays : dropped = (core.debouncer id).dropped ∨ dropped = true) :
    ∃ since, Core.Dealt allowed id held core since held (core.releasing id dropped) ∧
      (core.releasing id dropped).Reflects id (dealings ++ since) := by
  have step : Step allowed True held core held (core.releasing id dropped) := .release stays
  have hlength : (core.releasing id dropped).debouncers.length = core.debouncers.length :=
    List.length_set
  by_cases there : id < core.debouncers.length
  · have hdebouncer := Core.debouncer_releasing there dropped
    have hdealt : ∀ dealing : Dealing κ, dealing.Makes allowed id core (core.releasing id dropped) →
        (∀ now task, dealing ≠ .called now task) →
        dealing.Fits id (core.releasing id dropped) →
        ∃ since, Core.Dealt allowed id held core since held (core.releasing id dropped) ∧
          (core.releasing id dropped).Reflects id (dealings ++ since) := by
      intro dealing makes hcalled hfits
      have hrecords : (core.releasing id dropped).Records id (dealings ++ [dealing]) :=
        reflects.concat there hlength (by rw [hdebouncer]) (List.suffix_refl _)
          fun now task heq => absurd heq (hcalled now task)
      exact ⟨_, .deal .refl step makes, hrecords.reflects_concat hfits⟩
    have hnone : ((core.releasing id dropped).debouncer id).latest? = none := by rw [hdebouncer]
    rcases stays with rfl | rfl
    · exact hdealt .cancelled .cancelled (by simp) hnone
    · exact hdealt .dropped .dropped (by simp) hnone
  · -- What has not been made is not there to be cancelled.
    have hle := Nat.le_of_not_lt there
    have hsame : (core.releasing id dropped).debouncer id = core.debouncer id :=
      (core.debouncer_of_set rfl id).trans (if_neg fun h => there h.2)
    have hscheduler : (core.releasing id dropped).scheduler = core.scheduler := by
      unfold Core.releasing Core.retiring
      rw [Core.debouncer_of_le hle]
    refine ⟨[], .aside .refl step hsame, ?_⟩
    rw [List.append_nil]
    refine reflects.aside hsame (by rw [hlength]) (List.suffix_refl _) (fun task h => ?_)
      fun task _ _ => ⟨fun h => ?_, fun h => h⟩
    · rwa [hscheduler]
    · rwa [hscheduler] at h

/-- The embedding program cancels a job. -/
theorem cancelling (reflects : core.Reflects id dealings) (debounces : Session.Debounces core)
    {number : TaskId} {reason : CancellationReason}
    (permitted : allowed (.cancelTask number reason)) :
    ∃ since, Core.Dealt allowed id held core since held (core.cancelling number reason) ∧
      (core.cancelling number reason).Reflects id (dealings ++ since) := by
  have step : Step allowed True held core held (core.cancelling number reason) := .cancel permitted
  have hflags : ∀ task, (core.cancelling number reason).scheduler.isCancelled task =
      (task == number || core.scheduler.isCancelled task) :=
    fun task => core.scheduler.isCancelled_cancel number task reason
  by_cases latest : (core.debouncer id).latest? = some number
  · have hrecords : (core.cancelling number reason).Records id (dealings ++ [.revoked number]) :=
      reflects.concat (Core.lt_of_latest?_eq_some latest) rfl rfl (List.suffix_refl _)
        fun now task heq => by cases heq
    refine ⟨_, .deal .refl step (.revoked latest permitted), hrecords.reflects_concat ⟨latest, ?_⟩⟩
    simp [hflags]
  · refine ⟨[], .aside .refl step rfl, ?_⟩
    rw [List.append_nil]
    refine reflects.aside rfl .rfl (List.suffix_refl _) (fun task h => by simp [hflags, h])
      fun task isOf hscheduled => ⟨fun h => ?_, fun h => h⟩
    -- A job of the debouncer that is not its latest one has been cancelled before.
    by_contra hlive
    rw [Bool.not_eq_true] at hlive
    have hlatest := debounces.latest task hscheduled hlive id isOf
    rw [hflags, hlive, Bool.or_false, beq_iff_eq] at h
    exact latest (h ▸ hlatest)

/-- The turn of a job of a debouncer comes. -/
theorem starting {task : Task (Job κ)} {other : DebouncerId} {body : TaskBody κ}
    (reflects : core.Reflects id dealings) (rosters : core.Rosters lasting (task :: held))
    (debounces : Session.Debounces core) (live : core.scheduler.isCancelled task.id = false)
    (job : task.job = .debounced other body) :
    ∃ since, Core.Dealt allowed id (task :: held) core since held (core.starting other task.id) ∧
      (core.starting other task.id).Reflects id (dealings ++ since) := by
  have step : Step allowed True (task :: held) core held (core.starting other task.id) :=
    .start live job
  have hscheduled := rosters.scheduled_of_held List.mem_cons_self
  have isOf : task.IsOf other := ⟨body, job⟩
  by_cases heq : other = id
  · subst heq
    -- A live job of the debouncer is its latest one, so its start is noted there.
    have latest := debounces.latest task hscheduled live other isOf
    have hdebouncer := Core.debouncer_starting_of_latest latest
    have hrecords : (core.starting other task.id).Records other
        (dealings ++ [.started task.id]) :=
      reflects.concat (Core.lt_of_latest?_eq_some latest)
        (core.length_debouncers_starting other task.id) (by rw [hdebouncer]) (List.suffix_cons _ _)
        fun now task heq => by cases heq
    exact ⟨_, .deal .refl step (.started latest), hrecords.reflects_concat
      ⟨by rw [hdebouncer, latest], by rw [hdebouncer], List.mem_cons_self⟩⟩
  · have hsame : (core.starting other task.id).debouncer id = core.debouncer id :=
      (core.debouncer_starting other task.id id).trans (if_neg fun h => heq h.1.symm)
    refine ⟨[], .aside .refl step hsame, ?_⟩
    rw [List.append_nil]
    exact reflects.turn rosters hscheduled (fun h => heq (isOf.unique h)) hsame
      (core.length_debouncers_starting other task.id) rfl rfl

theorem newDebouncer (reflects : core.Reflects id dealings) (delay : Duration) :
    ∃ since, Core.Dealt allowed id held core since held
        { core with debouncers := core.debouncers ++ [.ofDelay delay] } ∧
      Core.Reflects id (dealings ++ since)
        { core with debouncers := core.debouncers ++ [.ofDelay delay] } := by
  have happend : Core.debouncer
      { core with debouncers := core.debouncers ++ [.ofDelay delay] } id =
        if id = core.debouncers.length then .ofDelay delay else core.debouncer id :=
    core.debouncer_of_append rfl id
  by_cases next : core.debouncers.length = id
  · -- Nothing has been done with a debouncer that is not there yet.
    obtain rfl := reflects.made.2 (Nat.le_of_eq next)
    rw [if_pos next.symm] at happend
    refine ⟨_, .deal .refl (.newDebouncer delay) (.made next delay),
      ⟨⟨?_, fun _ => ⟨?_, ?_, ?_⟩, ?_⟩, ?_⟩⟩
    · simp [next]
    · rw [happend]
      rfl
    · intro now task hmem
      cases List.mem_singleton.1 hmem
    · exact .nil
    · intro now task hmem
      cases List.mem_singleton.1 hmem
    · rintro last ⟨⟩
      exact congrArg Debouncer.latest? happend
  · rw [if_neg fun h => next h.symm] at happend
    refine ⟨[], .aside .refl (.newDebouncer delay) happend, ?_⟩
    rw [List.append_nil]
    refine reflects.aside happend ?_ (List.suffix_refl _) (fun _ h => h)
      fun _ _ _ => ⟨fun h => h, fun h => h⟩
    rw [List.length_append, List.length_singleton]
    omega

theorem withdrawing (reflects : core.Reflects id dealings) (rosters : core.Rosters lasting held)
    (attributed : Attributed allowed core) (widget : NodeId)
    (hjournal : core.journal <:+ (core.withdrawing widget).journal) :
    (core.withdrawing widget).Reflects id dealings := by
  refine reflects.aside rfl .rfl hjournal (fun task h => ?_) fun task isOf hscheduled =>
    ⟨fun h => ?_, fun hran => (Core.mem_withdrawing_iff (by simp)).1 hran⟩
  · rw [Core.isCancelled_withdrawing, h, Bool.or_true]
  · rw [Core.isCancelled_withdrawing, Bool.or_eq_true, decide_eq_true_eq] at h
    refine h.resolve_left fun hpending => ?_
    -- The job that waits for the handle of the widget is nobody else's.
    have htask := rosters.unique hscheduled (attributed.pending widget task.id hpending) rfl
    obtain ⟨body, hjob⟩ := isOf
    cases hjob.symm.trans (congrArg Task.job htask)

theorem answered (reflects : core.Reflects id dealings) {message : HostMessage} {accepted : Bool}
    (answered : Answered message core accepted core') : core'.Reflects id dealings :=
  reflects.beside answered.debouncers_eq answered.journal_suffix
    (congrArg Scheduler.cancelled answered.scheduler_eq) fun _ hran =>
      (answered.mem_journal_iff (by simp) (by simp)).1 hran

/-- Whatever a step does, the dealings still account for the debouncer if the step is added to them
where it is one. -/
theorem step (step : Step allowed True held core held' core')
    (rosters : core.Rosters lasting held) (attributed : Attributed allowed core)
    (debounces : Session.Debounces core) (reflects : core.Reflects id dealings) :
    ∃ since, Core.Dealt allowed id held core since held' core' ∧
      core'.Reflects id (dealings ++ since) := by
  have hjournal := step.journal_suffix
  have quiet : core'.debouncer id = core.debouncer id → core'.Reflects id dealings →
      ∃ since, Core.Dealt allowed id held core since held' core' ∧
        core'.Reflects id (dealings ++ since) :=
    fun hsame hquiet => ⟨[], .aside .refl step hsame, (List.append_nil dealings).symm ▸ hquiet⟩
  cases step with
  | note idle =>
      refine quiet rfl (reflects.beside rfl hjournal rfl fun task hran => ?_)
      rcases List.mem_cons.1 hran with rfl | hran
      · cases idle
      · exact hran
  | schedule deadline free =>
      refine quiet rfl (reflects.beside rfl hjournal rfl fun task hran => ?_)
      rcases List.mem_cons.1 hran with heq | hran
      · cases heq
      · exact hran
  | cancel permitted => exact reflects.cancelling debounces permitted
  | newDebouncer delay => exact reflects.newDebouncer delay
  | @debounce _ _ other now body there =>
      by_cases heq : other = id
      · subst heq
        exact reflects.calling rosters attributed there now body
      · refine quiet ((core.debouncer_of_set rfl id).trans (if_neg fun h => heq h.1.symm))
          (reflects.retiring rosters attributed heq rfl hjournal (fun task hran => ?_) rfl)
        rw [core.journal_calling] at hran
        rcases List.mem_cons.1 hran with heq | hran
        · cases heq
        · exact hran
  | @release _ _ other dropped stays =>
      by_cases heq : other = id
      · subst heq
        exact reflects.releasing stays
      · exact quiet ((core.debouncer_of_set rfl id).trans (if_neg fun h => heq h.1.symm))
          (reflects.retiring rosters attributed heq rfl hjournal (fun _ hran => hran) rfl)
  | run live free =>
      refine quiet rfl (reflects.turn rosters (rosters.scheduled_of_held List.mem_cons_self)
        (fun isOf => ?_) rfl rfl rfl rfl)
      cases free.symm.trans isOf.isFree_eq_false
  | start live job => exact reflects.starting rosters debounces live job
  | resolve live job =>
      refine quiet rfl (reflects.turn rosters (rosters.scheduled_of_held List.mem_cons_self)
        ?_ rfl rfl rfl rfl)
      rintro ⟨body, hjob⟩
      cases job.symm.trans hjob
  | act permitted =>
      exact quiet rfl (reflects.beside rfl hjournal rfl fun task hran =>
        (Core.mem_hostActing_iff (by simp)).1 hran)
  | answer answered plain =>
      exact quiet (answered.debouncer_eq id) (reflects.answered answered)
  | mount walks absent answered =>
      exact quiet (answered.debouncer_eq id)
        ((reflects.answered answered).beside rfl (List.suffix_refl _) rfl fun _ hran => hran)
  | request mounted unresolved idle answered =>
      refine quiet (answered.debouncer_eq id)
        ((reflects.answered answered).beside rfl (List.suffix_cons _ _) rfl fun task hran => ?_)
      rcases List.mem_cons.1 hran with heq | hran
      · cases heq
      · exact hran
  | withdraw widget =>
      exact quiet rfl (reflects.withdrawing rosters attributed widget hjournal)
  -- The other steps touch neither debouncers nor flags, and nothing runs.
  | _ => exact quiet rfl (reflects.beside rfl hjournal rfl fun _ hran => hran)

/-! What the last dealing tells. -/

theorem latest?_eq_none (reflects : core.Reflects id dealings) (hnone : dealings.getLast? = none) :
    (core.debouncer id).latest? = none := by
  have hle := reflects.made.1 (List.getLast?_eq_none_iff.1 hnone)
  rw [Core.debouncer_of_le hle]

/-- A job of the debouncer is live if the last dealing is its call. -/
theorem isLive_iff (reflects : core.Reflects id dealings) (rosters : core.Rosters lasting held)
    (debounces : Session.Debounces core) {task : Task (Job κ)} (isOf : task.IsOf id) :
    core.IsLive task ↔ ∃ now, dealings.getLast? = some (.called now task) := by
  constructor
  · rintro ⟨hscheduled, huncancelled, hunrun⟩
    have hlatest := debounces.latest task hscheduled huncancelled id isOf
    cases hlast : dealings.getLast? with
    | none => cases hlatest.symm.trans (reflects.latest?_eq_none hlast)
    | some last =>
        have hfits := reflects.fits last hlast
        -- What was done last decides: a call leaves its job waiting, anything else leaves none.
        cases last with
        | called now other =>
            obtain ⟨hother, -, hlive, -⟩ := hfits
            have hid := Option.some.inj (hother.symm.trans hlatest)
            exact ⟨now, by rw [rosters.unique hlive hscheduled hid]⟩
        | started number =>
            obtain rfl := Option.some.inj (hfits.1.symm.trans hlatest)
            exact absurd hfits.2.2 hunrun
        | revoked number =>
            obtain rfl := Option.some.inj (hfits.1.symm.trans hlatest)
            cases huncancelled.symm.trans hfits.2
        | made delay => cases hlatest.symm.trans hfits
        | cancelled => cases hlatest.symm.trans hfits
        | dropped => cases hlatest.symm.trans hfits
  · rintro ⟨now, hlast⟩
    exact (reflects.fits _ hlast).2.2

/-- The debouncer knows which of its jobs is live, if none is cancelled by its number. -/
theorem isLive_iff_latest? (reflects : core.Reflects id dealings)
    (rosters : core.Rosters lasting held)
    (debounces : Session.Debounces core) (unrevoked : ∀ task, .revoked task ∉ dealings)
    {task : Task (Job κ)} (isOf : task.IsOf id) (hscheduled : .scheduled task ∈ core.journal) :
    core.IsLive task ↔
      (core.debouncer id).latest? = some task.id ∧ (core.debouncer id).started = false := by
  rw [reflects.isLive_iff rosters debounces isOf]
  constructor
  · rintro ⟨now, hlast⟩
    obtain ⟨hlatest, hstarted, -⟩ := reflects.fits _ hlast
    exact ⟨hlatest, hstarted⟩
  · rintro ⟨hlatest, hstarted⟩
    cases hlast : dealings.getLast? with
    | none => cases hlatest.symm.trans (reflects.latest?_eq_none hlast)
    | some last =>
        have hfits := reflects.fits last hlast
        cases last with
        | called now other =>
            obtain ⟨hother, -, hlive, -⟩ := hfits
            have hid := Option.some.inj (hother.symm.trans hlatest)
            exact ⟨now, by rw [rosters.unique hlive hscheduled hid]⟩
        | started number => cases hstarted.symm.trans hfits.2.1
        -- Somebody else could cancel the job without the debouncer learning of it.
        | revoked number => exact absurd (List.mem_of_getLast? hlast) (unrevoked number)
        | made delay => cases hlatest.symm.trans hfits
        | cancelled => cases hlatest.symm.trans hfits
        | dropped => cases hlatest.symm.trans hfits

/-- The debouncer says that a job is pending if the last dealing is a call. -/
theorem isDebouncing_iff {session : Session κ S} (reflects : session.core.Reflects id dealings) :
    session.isDebouncing id = true ↔ ∃ now task, dealings.getLast? = some (.called now task) := by
  have hdebouncer : session.debouncer id = session.core.debouncer id := rfl
  have hscheduler : session.scheduler = session.core.scheduler := rfl
  unfold Session.isDebouncing
  rw [hdebouncer, hscheduler]
  cases hlast : dealings.getLast? with
  | none => simp [reflects.latest?_eq_none hlast]
  | some last =>
      have hfits := reflects.fits last hlast
      cases last with
      | called now task =>
          obtain ⟨hlatest, hstarted, -, huncancelled, -⟩ := hfits
          simp [hlatest, hstarted, huncancelled]
      | started task => simp [hfits.1, hfits.2.1]
      | revoked task => simp [hfits.1, hfits.2]
      | made delay => simp [show (session.core.debouncer id).latest? = none from hfits]
      | cancelled => simp [show (session.core.debouncer id).latest? = none from hfits]
      | dropped => simp [show (session.core.debouncer id).latest? = none from hfits]

end Core.Reflects

end EditorShell
