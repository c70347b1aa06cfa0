import EditorShell.Proofs.Run.Steps
import EditorShell.Proofs.Widget.Sending

/-!
# What every step keeps is a law

If every step of the core keeps a statement, then so does everything that happens in a session
(`Stepwise.governs`).  This file cuts the operations of the scheduler, of the slots and of the
bridge into steps, so a proof of a law has to look at the steps only.

Renders and mounts are left open in `Stepwise.governs`.  They make steps too (`Stepwise.mount` and
`Stepwise.render`), but a statement about depths holds only when a render has ended, and is shown
for renders as a whole.

## Strategy

Sequences of acts that the steps allow in any order are taken apart with `Act.Upholds.bind`.  Where
what is done depends on what was seen before, the act is followed from one session (`Act.Leads`).
The one step that takes work is the answer to a message: while a message is on its way the host
runs, and the bridge stays as it was (`Stepwise.exists_answered`).
-/

namespace EditorShell

variable {κ S α : Type}

/-! ## What is done to a debouncer

Each operation on a debouncer is one step of the core. -/

namespace Session

variable (caller : Caller κ S)

theorem core_cancelTask? (session : Session κ S) (id? : Option TaskId)
    (reason : CancellationReason) :
    ((cancelTask? id? reason).run caller session).2.core =
      { session.core with
        scheduler :=
          match id? with
          | some task => session.scheduler.cancel task reason
          | none => session.scheduler } := by
  cases id? <;> rfl

/-- The job of the call before is cancelled last, but it might as well have been cancelled first. -/
theorem core_debounce {session : Session κ S} {id : DebouncerId}
    (there : (session.debouncer id).dropped = false) (body : TaskBody κ) :
    ((debounce id body).run caller session).2.core =
      session.core.calling id session.clock body := by
  have hlatest : (session.core.debouncer id).latest? = (session.debouncer id).latest? := rfl
  unfold debounce
  rw [Act.run_bind, Act.run_read]
  dsimp only
  rw [if_neg (by simp [there])]
  refine (core_cancelTask? caller _ _ _).trans ?_
  unfold Core.calling Core.scheduling
  rw [Core.nextId_retiring]
  unfold Core.retiring
  rw [hlatest]
  cases (session.debouncer id).latest? with
  | none => rfl
  | some task =>
      dsimp only
      rw [Scheduler.cancel_schedule]
      rfl

/-- Calling a debouncer that has been dropped does nothing. -/
theorem run_debounce_of_dropped {session : Session κ S} {id : DebouncerId}
    (gone : (session.debouncer id).dropped = true) (body : TaskBody κ) :
    (debounce id body).run caller session = ((), session) := by
  simp [debounce, gone]

theorem moments_debounce (session : Session κ S) (id : DebouncerId)
    (body : TaskBody κ) : (debounce id body).moments caller session = [] := by
  cases hlatest : (session.debouncer id).latest? <;>
    simp [debounce, scheduleAfter, scheduleAt, setDebouncer,
      cancelTask?, cancelTask, hlatest]

theorem core_cancelDebounced (session : Session κ S) (id : DebouncerId) :
    ((cancelDebounced id).run caller session).2.core =
      session.core.releasing id (session.debouncer id).dropped :=
  core_cancelTask? caller _ _ _

theorem moments_cancelDebounced (session : Session κ S) (id : DebouncerId) :
    (cancelDebounced id).moments caller session = [] := by
  cases hlatest : (session.debouncer id).latest? <;>
    simp [cancelDebounced, setDebouncer, cancelTask?, cancelTask,
      hlatest]

theorem core_dropDebouncer (session : Session κ S) (id : DebouncerId) :
    ((dropDebouncer id).run caller session).2.core = session.core.releasing id true := by
  have hdropped : ∀ cancelled : Session κ S,
      cancelled.core = session.core.releasing id (session.debouncer id).dropped →
        { cancelled.core with
          debouncers := cancelled.core.debouncers.set id
            { cancelled.core.debouncer id with dropped := true } } =
          session.core.releasing id true := by
    rintro cancelled hcancelled
    rw [hcancelled]
    exact session.core.releasing_releasing id _
  exact hdropped _ (core_cancelDebounced caller session id)

theorem moments_dropDebouncer (session : Session κ S) (id : DebouncerId) :
    (dropDebouncer id).moments caller session = [] := by
  unfold dropDebouncer
  rw [Act.moments_bind, moments_cancelDebounced]
  rfl

theorem core_markStarted (session : Session κ S) (id : DebouncerId)
    (task : TaskId) :
    ((markStarted id task).run caller (session.noting (.ran task))).2.core =
      session.core.starting id task := by
  have hsame : session.core.debouncer id = (session.noting (.ran task)).debouncer id := rfl
  unfold markStarted Core.starting
  rw [Act.run_bind, Act.run_read, hsame]
  dsimp only
  split <;> rfl

theorem moments_markStarted (session : Session κ S) (id : DebouncerId)
    (task : TaskId) : (markStarted id task).moments caller session = [] := by
  simp [markStarted, setDebouncer]

end Session

/-! ## Laws from steps -/

/-- If an entry tells that the turn of a job has come, then a pass holds this job as its next one,
and it is not cancelled. -/
def Entry.IsTimely (entry : Entry κ) (waiting : List (Task (Job κ))) (core : Core κ) : Prop :=
  ∀ id, entry = .ran id → ∃ task rest, waiting = task :: rest ∧ task.id = id ∧
    core.scheduler.isCancelled id = false

theorem Entry.isTimely_of_isIdle {entry : Entry κ} (idle : entry.isIdle = true)
    (waiting : List (Task (Job κ))) (core : Core κ) : entry.IsTimely waiting core := by
  rintro id rfl
  cases idle

/-- Whether an entry tells that a mount goes to the host. -/
def Entry.callsMount : Entry κ → Bool
  | .called (.host (.mount _)) => true
  | _ => false

theorem Entry.isIdle_of_isPlain {entry : Entry κ} (hplain : entry.isPlain = true) :
    entry.isIdle = true := by
  cases entry <;> first | rfl | cases hplain

theorem Entry.callsMount_of_isPlain {entry : Entry κ} (hplain : entry.isPlain = true) :
    entry.callsMount = false := by
  cases entry with
  | called call => cases call <;> first | rfl | cases hplain
  | _ => rfl

/-- Whether a request can mount a widget anywhere. -/
def Request.mountsAnywhere : Request κ → Bool
  | .mount _ _ _ | .sendDirectly _ => true
  | _ => false

/-- Steps keep `P`, and `Q` holds wherever `P` does. -/
structure Stepwise (allowed : Request κ → Prop) (walking : Prop) (P : Assertion κ)
    (Q : Moment κ S → Prop) : Prop where
  step : ∀ {waiting core waiting' core'}, Step allowed walking waiting core waiting' core' →
    P waiting core → P waiting' core'
  moment : ∀ {entry : Entry κ} {waiting : List (Task (Job κ))} {session : Session κ S},
    P waiting session.core → entry.IsTimely waiting session.core →
      (entry.callsMount = true → walking) → Q ⟨entry, session⟩
  callback : ∀ {call : Call κ} {session : Session κ S}, call.isHost = false →
    Q ⟨.called call, session⟩ → ∃ waiting, P waiting session.core
  walks : ∀ request, allowed request → request.mountsAnywhere = true → walking

namespace Stepwise

variable {allowed : Request κ → Prop} {walking : Prop} {P : Assertion κ} {Q : Moment κ S → Prop}
  (steps : Stepwise allowed walking P Q)

include steps

theorem note {entry : Entry κ} (idle : entry.isIdle = true)
    (hmount : entry.callsMount = true → walking) : (Act.note (S := S) entry).Keeps P Q := by
  apply Act.Upholds.note
  · exact fun hP => steps.moment hP (Entry.isTimely_of_isIdle idle _ _) hmount
  · exact fun hP => steps.step (.note idle) hP

theorem notePlain {entry : Entry κ} (plain : entry.isPlain = true) :
    (Act.note (S := S) entry).Keeps P Q := by
  refine steps.note (Entry.isIdle_of_isPlain plain) fun hcalls => ?_
  rw [Entry.callsMount_of_isPlain plain] at hcalls
  cases hcalls

theorem call {call : Call κ} (hmount : (Entry.called call).callsMount = true → walking) :
    (Act.call (S := S) call).Keeps P Q := by
  apply Act.Upholds.call
  · exact steps.note rfl hmount
  · exact fun outcome => steps.note rfl (by simp [Entry.callsMount])

theorem callOwn {call : Call κ} (own : call.isHost = false) :
    (Act.call (S := S) call).Keeps P Q := by
  refine steps.call fun hcalls => ?_
  cases call <;> first | cases hcalls | cases own

/-! ## Jobs -/

theorem scheduleAt (deadline : Instant) {job : Job κ} (free : job.isFree = true) :
    (Session.scheduleAt deadline job : Act κ S TaskId).Keeps P Q := by
  refine .bind (.read _) fun id => ?_
  refine .bind (.change fun hP => ?_) fun _ => .pure id
  exact steps.step (.schedule deadline free) hP

theorem scheduleAfter (delay : Duration) {job : Job κ} (free : job.isFree = true) :
    (Session.scheduleAfter delay job : Act κ S TaskId).Keeps P Q := by
  refine .bind (.read _) fun now => ?_
  exact steps.scheduleAt (now.after delay) free

theorem scheduleNext {job : Job κ} (free : job.isFree = true) :
    (Session.scheduleNext job : Act κ S TaskId).Keeps P Q := steps.scheduleAt .start free

theorem newDebouncer (delay : Duration) :
    (Session.newDebouncer delay : Act κ S DebouncerId).Keeps P Q := by
  refine .bind (.read _) fun id => ?_
  refine .bind (.change fun hP => ?_) fun _ => .pure id
  exact steps.step (.newDebouncer delay) hP

theorem debounce (id : DebouncerId) (body : TaskBody κ) :
    (Session.debounce id body : Act κ S Unit).Keeps P Q := by
  intro caller apart keeps waiting session hP
  refine ⟨?_, by simp [Session.moments_debounce]⟩
  cases hdropped : (session.debouncer id).dropped with
  | true =>
      rw [Session.run_debounce_of_dropped caller hdropped]
      exact hP
  | false =>
      rw [Session.core_debounce caller hdropped]
      exact steps.step (.debounce session.clock body hdropped) hP

theorem cancelDebounced (id : DebouncerId) :
    (Session.cancelDebounced id : Act κ S Unit).Keeps P Q := by
  intro caller apart keeps waiting session hP
  have hreleased : P waiting (session.core.releasing id (session.debouncer id).dropped) :=
    steps.step (.release (.inl rfl)) hP
  rw [← Session.core_cancelDebounced caller] at hreleased
  exact ⟨hreleased, by simp [Session.moments_cancelDebounced]⟩

theorem dropDebouncer (id : DebouncerId) :
    (Session.dropDebouncer id : Act κ S Unit).Keeps P Q := by
  intro caller apart keeps waiting session hP
  have hreleased : P waiting (session.core.releasing id true) :=
    steps.step (.release (.inr rfl)) hP
  rw [← Session.core_dropDebouncer caller] at hreleased
  exact ⟨hreleased, by simp [Session.moments_dropDebouncer]⟩

/-! ## Passes -/

/-- What is left of a job when its turn has been noted. -/
theorem leads_runJob {caller : Caller κ S} (apart : caller.HostApart) (keeps : caller.Keeps P Q)
    {waiting : List (Task (Job κ))} {session : Session κ S} {task : Task (Job κ)}
    (hP : P (task :: waiting) session.core)
    (live : session.core.scheduler.isCancelled task.id = false) :
    (Session.runJob task.id task.job).Leads P Q caller waiting
      (session.noting (.ran task.id)) := by
  have hcall : ∀ call : Call κ, call.isHost = false →
      (Act.call (S := S) call >>= fun _ => pure ()).Keeps P Q :=
    fun call own => .bind (steps.callOwn own) fun _ => .pure ()
  cases hjob : task.job with
  | task body =>
      have hrun := steps.step (.run live (by rw [hjob]; rfl)) hP
      exact hcall _ rfl caller apart keeps waiting _ hrun
  | debounced debouncer body =>
      -- The debouncer learns of the turn before the closure runs.
      have hstarted := steps.step (.start live hjob) hP
      rw [← Session.core_markStarted caller] at hstarted
      refine .bind_run (by simp [Session.moments_markStarted]) ?_
      exact hcall _ rfl caller apart keeps waiting _ hstarted
  | resolveHandle target =>
      have hresolved := steps.step (.resolve live hjob) hP
      exact .bind_run (fun moment hmoment => by cases hmoment) (.change hresolved)
  | deliverHandle target receiver =>
      have hrun := steps.step (.run live (by rw [hjob]; rfl)) hP
      refine .read_bind ?_
      exact hcall _ rfl caller apart keeps waiting _ hrun

theorem leads_runBatch {caller : Caller κ S} (apart : caller.HostApart) (keeps : caller.Keeps P Q)
    (count : Nat) (tasks waiting : List (Task (Job κ))) (session : Session κ S)
    (hP : P (tasks ++ waiting) session.core) :
    (Session.runBatch count tasks).Leads P Q caller waiting session := by
  induction tasks generalizing count session with
  | nil => exact .pure hP
  | cons task rest ih =>
      refine .read_bind ?_
      by_cases hcancelled : session.scheduler.isCancelled task.id = true
      · rw [if_pos hcancelled]
        exact ih count session (steps.step (.skip hcancelled) hP)
      · -- The job was not cancelled when the batch was taken or since.
        rw [if_neg hcancelled]
        rw [Bool.not_eq_true] at hcancelled
        have htimely : (Entry.ran task.id).IsTimely (task :: (rest ++ waiting)) session.core := by
          rintro id ⟨⟩
          exact ⟨task, rest ++ waiting, rfl, rfl, hcancelled⟩
        refine .note_bind (steps.moment hP htimely (by simp [Entry.callsMount])) ?_
        obtain ⟨hran, hmoments⟩ := steps.leads_runJob apart keeps hP hcancelled
        exact .bind_run hmoments (ih (count + 1) _ hran)

theorem runDue : (Session.runDue : Act κ S Nat).Keeps P Q := by
  intro caller apart keeps waiting session hP
  have hbegan := steps.step (.note (rfl : (Entry.passBegan session.clock).isIdle = true)) hP
  have htaken := steps.step (.takeDue List.mem_cons_self) hbegan
  have hmoment : Q ⟨.passBegan session.clock, session⟩ :=
    steps.moment hP (Entry.isTimely_of_isIdle rfl _ _) (by simp [Entry.callsMount])
  refine .read_bind (.note_bind hmoment ?_)
  refine .bind_run (fun moment hmoment => by cases hmoment) ?_
  obtain ⟨hran, hmoments⟩ := steps.leads_runBatch apart keeps 0
    (session.scheduler.takeDue session.clock).1 waiting
    { session.noting (.passBegan session.clock) with
      scheduler := (session.scheduler.takeDue session.clock).2 } htaken
  refine .bind_run hmoments ?_
  have hended : ∀ count : Nat,
      (Act.note (S := S) (.passEnded count) >>= fun _ => pure count).Keeps P Q :=
    fun count => .bind (steps.note rfl (by simp [Entry.callsMount])) fun _ => .pure count
  exact hended _ caller apart keeps waiting _ hran

/-! ## Messages -/

omit steps in
/-- When the host has been called, it has refused the message, or it acts on it. -/
theorem run_attempt (message : HostMessage) (caller : Caller κ S) (session : Session κ S) :
    let called := ((Act.call (.host message)).run caller session).2
    (Session.attempt message).run caller session = (false, called) ∨
      ((Session.attempt message).run caller session).1 = called.core.takes message ∧
        ((Session.attempt message).run caller session).2.core = called.core.hostActing message := by
  unfold Session.attempt Session.sendDirectly
  simp only [Act.run_bind]
  generalize (Act.call (.host message)).run caller session = called
  obtain ⟨outcome, called⟩ := called
  rcases outcome with panic | refusal | ⟨⟩
  · exact .inl rfl
  · exact .inl rfl
  · right
    have hanswer : ((Session.letHostAct message).run caller called).1 =
        (called.host.take called.slots message).1 := rfl
    simp only [Act.run_bind, Act.run_pure, hanswer]
    unfold Core.takes Session.core
    cases (called.host.take called.slots message).1 <;> exact ⟨rfl, rfl⟩

omit steps in
theorem moments_attempt (message : HostMessage) (caller : Caller κ S) (session : Session κ S) :
    (Session.attempt message).moments caller session =
      (Act.call (.host message)).moments caller session := by
  unfold Session.attempt Session.sendDirectly
  simp only [Act.moments_bind, Act.run_bind]
  generalize (Act.call (.host message)).run caller session = called
  obtain ⟨outcome, called⟩ := called
  rcases outcome with panic | refusal | ⟨⟩
  · simp
  · simp
  · simp only [Act.moments_bind, Act.run_bind, Act.run_pure, Act.moments_pure]
    cases ((Session.letHostAct message).run caller called).1 <;> simp [Session.letHostAct]

/-- A message that is offered to the host is refused, or the host acts on it.  Until then the bridge
stays as it was. -/
theorem exists_offered {message : HostMessage}
    (hmount : (Entry.called (κ := κ) (.host message)).callsMount = true → walking)
    {caller : Caller κ S} (apart : caller.HostApart) (keeps : caller.Keeps P Q)
    {waiting : List (Task (Job κ))} {session : Session κ S} (hP : P waiting session.core) :
    (∃ core, P waiting core ∧ core.bridge = session.bridge ∧
      (((Session.offer message).run caller session).1 = false ∧
          ((Session.offer message).run caller session).2.core = core ∨
        ((Session.offer message).run caller session).1 = core.takes message ∧
          ((Session.offer message).run caller session).2.core = core.hostActing message)) ∧
      ∀ moment ∈ (Session.offer message).moments caller session, Q moment := by
  by_cases hbusy : session.hostBusy = true
  · have hrun : (Session.offer message).run caller session = (false, session) := by
      simp [Session.offer, hbusy]
    have hmoments : (Session.offer message).moments caller session = [] := by
      simp [Session.offer, hbusy]
    rw [hrun, hmoments]
    exact ⟨⟨session.core, hP, rfl, .inl ⟨rfl, rfl⟩⟩, fun moment hmoment => by cases hmoment⟩
  · have hrun : (Session.offer message).run caller session =
        (((Session.attempt message).run caller { session with hostBusy := true }).1,
          { ((Session.attempt message).run caller { session with hostBusy := true }).2 with
            hostBusy := false }) := by
      simp [Session.offer, Session.setHostBusy, hbusy]
    have hmoments : (Session.offer message).moments caller session =
        (Act.call (.host message)).moments caller { session with hostBusy := true } := by
      simp [Session.offer, Session.setHostBusy, hbusy, moments_attempt]
    -- Three things happen: the host is marked as busy, it is called, and it acts or does not.  The
    -- mark is taken back last, which is the same as before the host acts.
    have hbusied := steps.step (.count session.bridge.stats true) hP
    obtain ⟨hcalled, hcall⟩ := steps.call hmount caller apart keeps waiting
      { session with hostBusy := true } hbusied
    have hbridge := (Session.idle_call apart message { session with hostBusy := true }).bridge_eq
    have hattempt := run_attempt message caller { session with hostBusy := true }
    rw [hrun, hmoments]
    generalize (Session.attempt message).run caller _ = attempted at hattempt ⊢
    generalize ((Act.call (.host message)).run caller _).2 = called at hcalled hbridge hattempt
    refine ⟨⟨{ called.core with hostBusy := false }, ?_, hbridge, ?_⟩, hcall⟩
    · exact steps.step (.count called.bridge.stats false) hcalled
    · rcases hattempt with rfl | ⟨haccepted, hacted⟩
      · exact .inl ⟨rfl, rfl⟩
      · refine .inr ⟨haccepted, ?_⟩
        exact congrArg (fun core : Core κ => { core with hostBusy := false }) hacted

/-- The core just before a message is answered, and its answer.  Until then the bridge stays as it
was, but for the counts. -/
theorem exists_answered {message : HostMessage}
    (hmount : (Entry.called (κ := κ) (.host message)).callsMount = true → walking)
    {caller : Caller κ S} (apart : caller.HostApart) (keeps : caller.Keeps P Q)
    {waiting : List (Task (Job κ))} {session : Session κ S} (hP : P waiting session.core) :
    (∃ core stats, P waiting core ∧ core.bridge = { session.bridge with stats := stats } ∧
      Answered message core ((Session.callHost message).run caller session).1
        ((Session.callHost message).run caller session).2.core) ∧
      ∀ moment ∈ (Session.callHost message).moments caller session, Q moment := by
  have hcounted : P waiting
      ({ session with bridge := session.bridge.countCall message.op } : Session κ S).core :=
    steps.step (.count (session.bridge.countCall message.op).stats session.hostBusy) hP
  obtain ⟨⟨core, hcore, hbridge, hoffered⟩, hmoments⟩ :=
    steps.exists_offered hmount apart keeps hcounted
  have hcall : (Session.callHost message).moments caller session =
      (Session.offer message).moments caller
        { session with bridge := session.bridge.countCall message.op } := List.append_nil _
  have hrun : (Session.callHost message).run caller session =
      let offered := (Session.offer message).run caller
        { session with bridge := session.bridge.countCall message.op }
      (offered.1,
        { offered.2 with
          bridge := offered.2.bridge.countAnswer offered.1
          journal := .sent message offered.1 :: offered.2.journal }) := rfl
  rw [hcall, hrun]
  generalize (Session.offer message).run caller _ = offered at hoffered ⊢
  refine ⟨⟨{ core with bridge := core.bridge.countAnswer offered.1 },
    (core.bridge.countAnswer offered.1).stats, ?_, ?_, ?_⟩, hmoments⟩
  · rw [Bridge.countAnswer_eq]
    exact steps.step (.count _ core.hostBusy) hcore
  · refine (Bridge.countAnswer_eq core.bridge offered.1).trans ?_
    rw [hbridge]
    rfl
  · have hconcluded : ∀ accepted, ({ offered.2 with
        bridge := offered.2.bridge.countAnswer accepted
        journal := .sent message accepted :: offered.2.journal } : Session κ S).core =
          { offered.2.core with
            bridge := offered.2.core.bridge.countAnswer accepted
            journal := .sent message accepted :: offered.2.core.journal } := fun _ => rfl
    rw [hconcluded]
    -- The call is counted before the offer and the answer after it, so the answer is that of the
    -- offer.
    rcases hoffered with ⟨hanswer, hrefused⟩ | ⟨hanswer, hacted⟩
    · rw [hanswer, hrefused]
      exact .refused
    · rw [hanswer, hacted]
      exact .acted

/-- What follows a message may rely on the bridge being as it was, and on the answer. -/
theorem leads_callHost_bind {message : HostMessage}
    (hmount : (Entry.called (κ := κ) (.host message)).callsMount = true → walking)
    {caller : Caller κ S} (apart : caller.HostApart) (keeps : caller.Keeps P Q)
    {waiting : List (Task (Job κ))} {session : Session κ S} (hP : P waiting session.core)
    {next : Bool → Act κ S α}
    (hnext : ∀ core stats accepted session', P waiting core →
      core.bridge = { session.bridge with stats := stats } →
      Answered message core accepted (Session.core session') →
      (next accepted).Leads P Q caller waiting session') :
    (Session.callHost message >>= next).Leads P Q caller waiting session := by
  obtain ⟨⟨core, stats, hcore, hbridge, hanswered⟩, hmoments⟩ :=
    steps.exists_answered hmount apart keeps hP
  exact .bind_run hmoments (hnext core stats _ _ hcore hbridge hanswered)

end Stepwise

end EditorShell
