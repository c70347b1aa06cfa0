import EditorShell.Proofs.Task.Calls

/-!
# The turns in the course of a pass

`Session.turns` are the jobs of a batch, each with the session in which its turn comes.  A job that
is not cancelled then makes its call, if it has one to make (`Session.turnCall?`): its turn is
noted, and the callback is called right after that (`Session.run_takeTurn`).

Between the begin of a pass and the turn of one of its jobs the session takes a course, and so it
does from the end of the turn to the end of the pass (`Session.turnIn_of_mem_turns`).  By the time
of a turn the earlier jobs of the batch have run or are cancelled (`Session.past_of_turns`).
-/

namespace EditorShell

variable {κ S : Type}

/-- The call whose return an entry tells of. -/
def Entry.returned? : Entry κ → Option (Call κ)
  | .returned call _ => some call
  | _ => none

/-- The calls that have returned, newest first. -/
def Entry.returnedCalls (journal : List (Entry κ)) : List (Call κ) := journal.filterMap returned?

theorem Entry.returnedCalls_append (later earlier : List (Entry κ)) :
    returnedCalls (later ++ earlier) = returnedCalls later ++ returnedCalls earlier :=
  List.filterMap_append

namespace Session

variable {caller : Caller κ S}

/-! ## A turn -/

/-- The jobs of a batch, each with the session in which its turn comes. -/
def turns (caller : Caller κ S) :
    List (Task (Job κ)) → Session κ S → List (Task (Job κ) × Session κ S)
  | [], _ => []
  | task :: rest, session =>
    (task, session) :: turns caller rest
      (if session.scheduler.isCancelled task.id then session
      else ((takeTurn task).run caller session).2)

/-- Whether a job is not cancelled when its turn comes. -/
def isLiveTurn (turn : Task (Job κ) × Session κ S) : Bool :=
  !turn.2.scheduler.isCancelled turn.1.id

/-- What a job calls in its turn: a task its body, and a delivery its receiver, with the handle that
the widget has then.  The job that picks up a handle calls nothing. -/
def turnCall? (turn : Task (Job κ) × Session κ S) : Option (Call κ) :=
  match turn.1.job with
  | .task body | .debounced _ body => some (.task turn.1.id body)
  | .resolveHandle _ => none
  | .deliverHandle target receiver =>
    some (.delivery turn.1.id receiver (turn.2.deliverable? target))

/-- The session in which a job makes its call: its turn is noted, and the debouncer whose latest job
it is knows that it has started. -/
def begun (turn : Task (Job κ) × Session κ S) : Session κ S :=
  { turn.2.noting (.ran turn.1.id) with
    debouncers :=
      match turn.1.job with
      | .debounced id _ =>
        if (turn.2.debouncer id).latest? = some turn.1.id then
          turn.2.debouncers.set id { turn.2.debouncer id with started := true }
        else turn.2.debouncers
      | _ => turn.2.debouncers }

/-- The turns of a pass that begins in a session. -/
def passTurns (caller : Caller κ S) (session : Session κ S) : List (Task (Job κ) × Session κ S) :=
  turns caller (session.scheduler.takeDue session.clock).1 session.taken

theorem map_fst_turns (caller : Caller κ S) (batch : List (Task (Job κ))) (session : Session κ S) :
    (turns caller batch session).map Prod.fst = batch := by
  induction batch generalizing session with
  | nil => rfl
  | cons task rest ih => exact congrArg (task :: ·) (ih _)

theorem turns_of_cancelled {task : Task (Job κ)} {session : Session κ S}
    (hcancelled : session.scheduler.isCancelled task.id = true) (rest : List (Task (Job κ))) :
    turns caller (task :: rest) session = (task, session) :: turns caller rest session := by
  rw [turns, if_pos hcancelled]

theorem turns_of_live {task : Task (Job κ)} {session : Session κ S}
    (hlive : session.scheduler.isCancelled task.id = false) (rest : List (Task (Job κ))) :
    turns caller (task :: rest) session =
      (task, session) :: turns caller rest ((takeTurn task).run caller session).2 := by
  rw [turns, if_neg (by simp [hlive])]

theorem isLiveTurn_iff {task : Task (Job κ)} {session : Session κ S} :
    isLiveTurn (task, session) = true ↔ session.scheduler.isCancelled task.id = false := by
  simp [isLiveTurn]

/-- The call that a job makes is known as this job's. -/
theorem job?_of_turnCall? {turn : Task (Job κ) × Session κ S} {call : Call κ}
    (hcall : turnCall? turn = some call) : call.job? = some turn.1.id := by
  obtain ⟨⟨id, deadline, job⟩, now⟩ := turn
  cases job with
  | resolveHandle target => cases hcall
  | _ =>
      obtain rfl := Option.some.inj hcall
      rfl

/-- A debouncer learns that a job of it has started, and then the job is as good as begun. -/
theorem run_markStarted (caller : Caller κ S) (task : Task (Job κ)) (now : Session κ S)
    {id : DebouncerId} {body : TaskBody κ} (hjob : task.job = .debounced id body) :
    (markStarted id task.id).run caller (now.noting (.ran task.id)) = ((), begun (task, now)) := by
  have hsame : (now.noting (.ran task.id)).debouncer id = now.debouncer id := rfl
  unfold markStarted begun
  rw [Act.run_bind, Act.run_read, hsame]
  dsimp only
  rw [hjob]
  dsimp only
  split <;> rfl

/-- The turn of a job that has a call to make is that call. -/
theorem run_takeTurn (caller : Caller κ S) {task : Task (Job κ)} {now : Session κ S} {call : Call κ}
    (hcall : turnCall? (task, now) = some call) :
    ((takeTurn task).run caller now).2 =
        ((Act.call call).run caller (begun (task, now))).2 ∧
      (takeTurn task).moments caller now =
        ⟨.ran task.id, now⟩ :: (Act.call call).moments caller (begun (task, now)) := by
  obtain ⟨id, deadline, job⟩ := task
  unfold takeTurn
  rw [Act.run_bind, Act.moments_bind, Act.run_note, Act.moments_note]
  cases job with
  | task body =>
      obtain rfl := Option.some.inj hcall
      refine ⟨rfl, ?_⟩
      change _ :: (_ ++ []) = _
      rw [List.append_nil]
      rfl
  | debounced debouncer body =>
      obtain rfl := Option.some.inj hcall
      -- That the debouncer learns of the start happens before the call and calls nothing.
      have hstarted := run_markStarted caller ⟨id, deadline, .debounced debouncer body⟩ now rfl
      have hsilent : (markStarted debouncer id).moments caller (now.noting (.ran id)) = [] := by
        simp [markStarted, setDebouncer]
      unfold runJob
      rw [Act.run_bind, Act.moments_bind, hstarted, hsilent]
      refine ⟨rfl, ?_⟩
      change _ :: (_ ++ []) = _
      rw [List.append_nil]
  | resolveHandle target => cases hcall
  | deliverHandle target receiver =>
      obtain rfl := Option.some.inj hcall
      refine ⟨rfl, ?_⟩
      change _ :: (_ ++ []) = _
      rw [List.append_nil]
      rfl

/-- In its turn a job notes that it ran, and then at most that its callback returned. -/
theorem takeTurn_spec (courses : caller.Courses) (task : Task (Job κ)) (now : Session κ S) :
    ∃ noted, ((takeTurn task).run caller now).2.journal = noted ++ .ran task.id :: now.journal ∧
      Entry.Whole noted ∧ Entry.ranIds (Entry.outermost 0 noted) = [] ∧
      Entry.returnedCalls (Entry.outermost 0 noted) = (turnCall? (task, now)).toList := by
  cases hcall : turnCall? (task, now) with
  | none =>
      -- Only the job that picks up a handle calls nothing, and it notes nothing either.
      have hsilent : ((takeTurn task).run caller now).2.journal = .ran task.id :: now.journal := by
        obtain ⟨id, deadline, job⟩ := task
        cases job with
        | resolveHandle target => rfl
        | _ => cases hcall
      exact ⟨[], hsilent, .nil, rfl, rfl⟩
  | some call =>
      obtain ⟨noted, hjournal, whole, houtermost⟩ := call_spec courses call (begun (task, now))
      rw [(run_takeTurn caller hcall).1]
      refine ⟨noted, hjournal, whole, ?_, ?_⟩
      · rw [houtermost]
        rfl
      · rw [houtermost]
        rfl

/-- A job that has a call to make has called when its turn is over. -/
theorem called_mem_takeTurn (courses : caller.Courses) {task : Task (Job κ)} {now : Session κ S}
    {call : Call κ} (hcall : turnCall? (task, now) = some call) :
    .called call ∈ ((takeTurn task).run caller now).2.journal := by
  rw [(run_takeTurn caller hcall).1, Act.run_call]
  -- Whatever the callback does only adds to the journal.
  obtain ⟨noted, hjournal, -⟩ := (courses call ((begun (task, now)).noting (.called call))).recount
  apply List.mem_cons_of_mem
  rw [hjournal]
  exact List.mem_append_right noted List.mem_cons_self

/-! ## Turns in the course of a pass -/

theorem course_takeTurn (courses : caller.Courses) (task : Task (Job κ)) (session : Session κ S) :
    Course session ((takeTurn task).moments caller session)
      ((takeTurn task).run caller session).2 := by
  have hturn : (takeTurn (S := S) task).MadeOf Coursing :=
    .bind (Coursing.note_isPass _ rfl) fun _ => Coursing.turns.runJob task.id task.job
  exact Coursing.of_madeOf hturn caller courses session

theorem course_runBatch (courses : caller.Courses) (count : Nat) (batch : List (Task (Job κ)))
    (session : Session κ S) : Course session ((runBatch count batch).moments caller session)
      ((runBatch count batch).run caller session).2 :=
  Coursing.of_madeOf (Coursing.turns.runBatch Coursing.note_isPass count batch) caller courses
    session

theorem course_runDue (courses : caller.Courses) (session : Session κ S) :
    Course session (runDue.moments caller session) (runDue.run caller session).2 :=
  Coursing.of_madeOf (Coursing.core fun _ => True).runDue caller courses session

/-- The turn of a job comes in the course of its batch. -/
structure TurnIn (caller : Caller κ S) (before : Session κ S) (task : Task (Job κ))
    (now : Session κ S) (moments : List (Moment κ S)) (after : Session κ S) : Prop where
  since : ∃ earlier, Course before earlier now
  until_end : ∃ later, Course now later after
  /-- If it is not cancelled then. -/
  turn : now.scheduler.isCancelled task.id = false →
    (∀ moment ∈ (takeTurn task).moments caller now, moment ∈ moments) ∧
      ∃ later, Course ((takeTurn task).run caller now).2 later after

theorem TurnIn.journal_suffix {before now after : Session κ S} {task : Task (Job κ)}
    {moments : List (Moment κ S)} (turnIn : TurnIn caller before task now moments after) :
    before.journal <:+ now.journal := by
  obtain ⟨earlier, hsince⟩ := turnIn.since
  obtain ⟨noted, hjournal, -⟩ := hsince.recount
  exact ⟨noted, hjournal.symm⟩

/-- What is not cancelled when the pass has ended was not cancelled in its turn. -/
theorem TurnIn.live_of_after {before now after : Session κ S} {task : Task (Job κ)}
    {moments : List (Moment κ S)} (turnIn : TurnIn caller before task now moments after)
    {id : TaskId} (hafter : after.scheduler.isCancelled id = false) :
    now.scheduler.isCancelled id = false := by
  obtain ⟨later, huntil⟩ := turnIn.until_end
  exact huntil.lasting.lasts.live hafter

/-- What a job calls in its turn is called in the course of the pass. -/
theorem TurnIn.called {before now after : Session κ S} {task : Task (Job κ)}
    {moments : List (Moment κ S)} (turnIn : TurnIn caller before task now moments after)
    (courses : caller.Courses) (hlive : now.scheduler.isCancelled task.id = false) {call : Call κ}
    (hcall : turnCall? (task, now) = some call) :
    (∀ moment ∈ (Act.call call).moments caller (begun (task, now)), moment ∈ moments) ∧
      .called call ∈ after.journal := by
  obtain ⟨hmoments, later, huntil⟩ := turnIn.turn hlive
  refine ⟨fun moment hmem => hmoments moment ?_, ?_⟩
  · rw [(run_takeTurn caller hcall).2]
    exact List.mem_cons_of_mem _ hmem
  · obtain ⟨noted, hjournal, -⟩ := huntil.recount
    rw [hjournal]
    exact List.mem_append_right noted (called_mem_takeTurn courses hcall)

theorem turnIn_of_mem_turns (courses : caller.Courses) {batch : List (Task (Job κ))} (count : Nat)
    {session now : Session κ S} {task : Task (Job κ)}
    (hturn : (task, now) ∈ turns caller batch session) :
    TurnIn caller session task now ((runBatch count batch).moments caller session)
      ((runBatch count batch).run caller session).2 := by
  induction batch generalizing count session with
  | nil => cases hturn
  | cons first rest ih =>
      have hcourse := course_runBatch courses count (first :: rest) session
      -- The turn is the one of the first job or comes in the rest of the batch, after this job is
      -- done.
      cases hfirst : session.scheduler.isCancelled first.id with
      | true =>
          obtain ⟨hrun, hmoments⟩ := runBatch_of_cancelled caller hfirst count rest
          rw [turns_of_cancelled hfirst] at hturn
          rcases List.mem_cons.1 hturn with heq | hturn
          · obtain ⟨rfl, rfl⟩ := Prod.mk.inj heq
            refine ⟨⟨_, .done now⟩, ⟨_, hcourse⟩, fun hlive => ?_⟩
            rw [hfirst] at hlive
            cases hlive
          · rw [hrun, hmoments]
            exact ih count hturn
      | false =>
          obtain ⟨hrun, hmoments⟩ := runBatch_of_live caller hfirst count rest
          rw [turns_of_live hfirst] at hturn
          rcases List.mem_cons.1 hturn with heq | hturn
          · obtain ⟨rfl, rfl⟩ := Prod.mk.inj heq
            refine ⟨⟨_, .done now⟩, ⟨_, hcourse⟩, fun _ => ?_⟩
            rw [hrun, hmoments]
            exact ⟨fun _ hmem => List.mem_append_left _ hmem,
              _, course_runBatch courses (count + 1) rest _⟩
          · obtain ⟨⟨earlier, hbefore⟩, hend, hlater⟩ := ih (count + 1) hturn
            rw [hrun, hmoments]
            refine ⟨⟨_, (course_takeTurn courses first session).trans hbefore⟩, hend,
              fun hlive => ?_⟩
            obtain ⟨hmem, hafter⟩ := hlater hlive
            exact ⟨fun moment hmoment => List.mem_append_right _ (hmem moment hmoment), hafter⟩

/-- The jobs of a batch get their turns in the course of the pass. -/
theorem turnIn_of_mem_passTurns (courses : caller.Courses) {session now : Session κ S}
    {task : Task (Job κ)} (hturn : (task, now) ∈ passTurns caller session) :
    TurnIn caller session task now (runDue.moments caller session)
      (runDue.run caller session).2 := by
  obtain ⟨⟨earlier, hsince⟩, ⟨later, huntil⟩, hlater⟩ := turnIn_of_mem_turns courses 0 hturn
  have hbegan : Course session [⟨.passBegan session.clock, session⟩] session.taken :=
    .shift (.note (.done session) rfl) (.of_journal_eq ⟨fun _ hid => hid, .refl _⟩ rfl)
  refine ⟨⟨_, hbegan.trans hsince⟩, ⟨_, .note huntil rfl⟩, fun hlive => ?_⟩
  obtain ⟨hmoments, rest, hlast⟩ := hlater hlive
  have hpass : ∃ count last, runDue.moments caller session = ⟨.passBegan session.clock, session⟩ ::
      ((runBatch 0 (session.scheduler.takeDue session.clock).1).moments caller session.taken ++
        [⟨.passEnded count, last⟩]) := ⟨_, _, rfl⟩
  obtain ⟨count, last, hpass⟩ := hpass
  refine ⟨fun moment hmem => ?_, _, .note hlast rfl⟩
  rw [hpass]
  exact List.mem_cons_of_mem _ (List.mem_append_left _ (hmoments moment hmem))

/-- By the turn of a job the earlier ones of its batch have run or are cancelled. -/
theorem past_of_turns (courses : caller.Courses) (batch : List (Task (Job κ)))
    (session : Session κ S) : (turns caller batch session).Pairwise fun earlier later =>
      later.2.scheduler.isCancelled earlier.1.id = true ∨ .ran earlier.1.id ∈ later.2.journal := by
  induction batch generalizing session with
  | nil => exact .nil
  | cons first rest ih =>
      refine List.pairwise_cons.2 ⟨fun later hlater => ?_, ih _⟩
      obtain ⟨moments, hcourse⟩ := (turnIn_of_mem_turns courses 0 hlater).since
      by_cases hfirst : session.scheduler.isCancelled first.id = true
      · rw [if_pos hfirst] at hcourse
        exact .inl (hcourse.lasting.lasts.cancelled first.id hfirst)
      · rw [if_neg hfirst] at hcourse
        right
        obtain ⟨noted, hjournal, -⟩ := hcourse.recount
        obtain ⟨done, hturn, -⟩ := takeTurn_spec courses first session
        rw [hjournal, hturn]
        apply List.mem_append_right
        exact List.mem_append_right done List.mem_cons_self

end Session

end EditorShell
