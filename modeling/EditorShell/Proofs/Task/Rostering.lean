import EditorShell.Proofs.Run.Course
import EditorShell.Proofs.Run.Turns
import EditorShell.Proofs.Task.Roster

/-!
# The roster in a run

In every session on the way of a run the roster of jobs is in order (`Rostering.exists_rostered`).
A job that was scheduled waits in the queue if no pass has begun since then (`Rostered.waits`).

Passes nest.  The index of the law holds the jobs of all passes that are under way, and their
number; when no pass is under way no job is held.
-/

namespace EditorShell

variable {κ S : Type}

/-! ## What the journal tells of passes -/

namespace Entry

/-- The number of passes that are under way. -/
def openPasses : List (Entry κ) → Nat
  | [] => 0
  | .passBegan _ :: rest => openPasses rest + 1
  | .passEnded _ :: rest => openPasses rest - 1
  | _ :: rest => openPasses rest

/-- What had been noted when the latest pass began. -/
def beforePass : List (Entry κ) → List (Entry κ)
  | [] => []
  | .passBegan _ :: rest => rest
  | _ :: rest => beforePass rest

/-- Whether an entry tells of a job or of a pass. -/
def isOfTasks (entry : Entry κ) : Bool := entry.scheduled?.isSome || entry.isPass

theorem openPasses_cons {entry : Entry κ} (hpass : entry.isPass = false)
    (rest : List (Entry κ)) : openPasses (entry :: rest) = openPasses rest := by
  cases entry <;> first | rfl | cases hpass

theorem openPasses_append {noted : List (Entry κ)} (hnoted : ∀ entry ∈ noted, isPass entry = false)
    (rest : List (Entry κ)) : openPasses (noted ++ rest) = openPasses rest := by
  induction noted with
  | nil => rfl
  | cons entry noted ih =>
      rw [List.cons_append, openPasses_cons (hnoted entry List.mem_cons_self)]
      exact ih fun other hmem => hnoted other (List.mem_cons_of_mem entry hmem)

theorem beforePass_cons {entry : Entry κ} (hbegan : ∀ now, entry ≠ .passBegan now)
    (rest : List (Entry κ)) : beforePass (entry :: rest) = beforePass rest := by
  cases entry with
  | passBegan now => exact absurd rfl (hbegan now)
  | _ => rfl

theorem beforePass_append {noted : List (Entry κ)} (hnoted : ∀ now, .passBegan now ∉ noted)
    (rest : List (Entry κ)) : beforePass (noted ++ rest) = beforePass rest := by
  induction noted with
  | nil => rfl
  | cons entry noted ih =>
      have hbegan : ∀ now, entry ≠ .passBegan now := by
        rintro now rfl
        exact hnoted now List.mem_cons_self
      rw [List.cons_append, beforePass_cons hbegan]
      exact ih fun now hmem => hnoted now (List.mem_cons_of_mem entry hmem)

theorem beforePass_suffix (journal : List (Entry κ)) : beforePass journal <:+ journal := by
  induction journal with
  | nil => exact List.suffix_refl _
  | cons entry rest ih =>
      cases entry with
      | passBegan now => exact List.suffix_cons _ _
      | _ => exact ih.trans (List.suffix_cons _ _)

theorem isPass_of_isRecord {entry : Entry κ} (hrecord : entry.isRecord = true) :
    entry.isPass = false := by
  cases entry <;> first | rfl | cases hrecord

theorem ran?_of_isPass_eq_false {entry : Entry κ} (hpass : entry.isPass = false) :
    entry.ran? = none := by
  cases entry <;> first | rfl | cases hpass

theorem ranIds_eq_nil {noted : List (Entry κ)} (hnoted : ∀ entry ∈ noted, isPass entry = false) :
    ranIds noted = [] :=
  List.filterMap_eq_nil_iff.2 fun entry hmem => ran?_of_isPass_eq_false (hnoted entry hmem)

end Entry

/-! ## The law -/

/-- The passes that are under way. -/
structure PassState (κ : Type) where
  /-- The jobs that they have taken out of the queue, and whose turn has not come. -/
  held : List (Task (Job κ))
  /-- The number of passes. -/
  passes : Nat

/-- What passes hold, and what has had its turn, was scheduled before the latest pass began. -/
structure Early (held : List (Task (Job κ))) (journal : List (Entry κ)) : Prop where
  held : ∀ task ∈ held, task ∈ Entry.scheduledTasks (Entry.beforePass journal)
  ran : ∀ id ∈ Entry.ranIds journal,
    ∃ task ∈ Entry.scheduledTasks (Entry.beforePass journal), task.id = id

/-- The roster of a session is in order. -/
structure Rostered (lasting : Prop) (state : PassState κ) (session : Session κ S) : Prop where
  roster : Roster lasting state.held session.scheduler (Entry.scheduledTasks session.journal)
    (Entry.ranIds session.journal)
  passes_eq : Entry.openPasses session.journal = state.passes
  idle : state.passes = 0 → state.held = []
  early : Early state.held session.journal

/-- The roster is in order at a moment, and a job whose turn comes is not cancelled. -/
structure RosteredAt (lasting : Prop) (moment : Moment κ S) : Prop where
  rostered : ∃ state, Rostered lasting state moment.session
  live : ∀ id, moment.entry = .ran id → moment.session.scheduler.isCancelled id = false

namespace Early

variable {held : List (Task (Job κ))} {journal : List (Entry κ)}

theorem empty : Early (κ := κ) [] [] where
  held _ hmem := by cases hmem
  ran _ hmem := by cases hmem

/-- Entries that tell of no pass may be noted at any time. -/
theorem append (early : Early held journal) {noted : List (Entry κ)}
    (hnoted : ∀ entry ∈ noted, Entry.isPass entry = false) : Early held (noted ++ journal) := by
  have hbefore : Entry.beforePass (noted ++ journal) = Entry.beforePass journal :=
    Entry.beforePass_append (fun now hmem => by cases hnoted _ hmem) journal
  have hran : Entry.ranIds (noted ++ journal) = Entry.ranIds journal := by
    rw [Entry.ranIds_append, Entry.ranIds_eq_nil hnoted, List.nil_append]
  refine ⟨?_, ?_⟩
  · rw [hbefore]
    exact early.held
  · rw [hbefore, hran]
    exact early.ran

/-- When a pass begins, all jobs have been scheduled before. -/
theorem passBegan (early : Early held journal) (now : Instant) {batch : List (Task (Job κ))}
    (hbatch : ∀ task ∈ batch, task ∈ Entry.scheduledTasks journal) :
    Early (batch ++ held) (.passBegan now :: journal) := by
  have hbefore : ∀ task ∈ Entry.scheduledTasks (Entry.beforePass journal),
      task ∈ Entry.scheduledTasks journal := fun task hmem =>
    ((Entry.beforePass_suffix journal).filterMap Entry.scheduled?).subset hmem
  refine ⟨fun task hmem => ?_, fun id hid => ?_⟩
  · rcases List.mem_append.1 hmem with hmem | hmem
    · exact hbatch task hmem
    · exact hbefore task (early.held task hmem)
  · obtain ⟨task, hmem, heq⟩ := early.ran id hid
    exact ⟨task, hbefore task hmem, heq⟩

/-- The turn of a held job comes. -/
theorem run {task : Task (Job κ)} (early : Early (task :: held) journal) :
    Early held (.ran task.id :: journal) := by
  refine ⟨fun other hmem => early.held other (List.mem_cons_of_mem task hmem), fun id hid => ?_⟩
  rcases List.mem_cons.1 hid with rfl | hid
  · exact ⟨task, early.held task List.mem_cons_self, rfl⟩
  · exact early.ran id hid

end Early

namespace Rostered

variable {lasting : Prop} {state : PassState κ} {session : Session κ S}

theorem fresh (sink : ChordSink) (host : Host) (app : S) :
    Rostered (κ := κ) lasting ⟨[], 0⟩ (Session.fresh sink host app) where
  roster := .empty
  passes_eq := rfl
  idle _ := rfl
  early := .empty

/-- An entry that tells of no job and of no pass may be noted at any time. -/
theorem noting (rostered : Rostered lasting state session) {entry : Entry κ}
    (hentry : entry.isOfTasks = false) : Rostered lasting state (session.noting entry) := by
  simp only [Entry.isOfTasks, Bool.or_eq_false_iff, Option.isSome_eq_false_iff,
    Option.isNone_iff_eq_none] at hentry
  obtain ⟨hscheduled, hpass⟩ := hentry
  refine ⟨?_, (Entry.openPasses_cons hpass _).trans rostered.passes_eq, rostered.idle,
    rostered.early.append fun other hmem => List.mem_singleton.1 hmem ▸ hpass⟩
  change Roster lasting state.held session.scheduler (Entry.scheduledTasks (entry :: _))
    (Entry.ranIds (entry :: _))
  rw [Entry.scheduledTasks_cons hscheduled, Entry.ranIds_cons (Entry.ran?_of_isPass_eq_false hpass)]
  exact rostered.roster

/-- A pass takes its batch. -/
theorem taken (rostered : Rostered lasting state session) :
    Rostered lasting
      ⟨(session.scheduler.takeDue session.clock).1 ++ state.held, state.passes + 1⟩
      session.taken where
  roster := rostered.roster.takeDue session.clock
  passes_eq := congrArg (· + 1) rostered.passes_eq
  idle hzero := absurd hzero (by simp)
  early := rostered.early.passBegan session.clock fun task hmem =>
    (rostered.roster.takeDue session.clock).scheduled_of_mem task
      (List.mem_append_right _ (List.mem_append_left _ hmem))

/-- The turn of the next job comes in a pass. -/
theorem ran {task : Task (Job κ)} {held : List (Task (Job κ))} {passes : Nat}
    (rostered : Rostered lasting ⟨task :: held, passes⟩ session) :
    Rostered lasting ⟨held, passes⟩ (session.noting (.ran task.id)) := by
  refine ⟨rostered.roster.run, rostered.passes_eq, fun hzero => ?_, rostered.early.run⟩
  have hnil : task :: held = [] := rostered.idle hzero
  cases hnil

/-- A job that was scheduled when the latest pass had begun has had no turn, and it waits in the
queue unless it is cancelled. -/
theorem waits (rostered : Rostered lasting state session) (lasts : lasting)
    {later earlier : List (Entry κ)} {task : Task (Job κ)}
    (hjournal : session.journal = later ++ .scheduled task :: earlier)
    (hlater : ∀ now, .passBegan now ∉ later) : task.id ∉ Entry.ranIds session.journal ∧
      (session.scheduler.isCancelled task.id = false → task ∈ session.scheduler.queue) := by
  have hbefore : Entry.beforePass session.journal = Entry.beforePass earlier := by
    rw [hjournal, Entry.beforePass_append hlater]
    rfl
  -- What was scheduled before has smaller numbers.
  have hlt : ∀ other ∈ Entry.scheduledTasks (Entry.beforePass session.journal),
      other.id < task.id := by
    intro other hother
    have hsorted := rostered.roster.descending
    rw [hjournal, Entry.scheduledTasks_append] at hsorted
    rw [hbefore] at hother
    refine (List.pairwise_cons.1 (List.pairwise_append.1 hsorted).2.1).1 other ?_
    exact ((Entry.beforePass_suffix earlier).filterMap Entry.scheduled?).subset hother
  have hunrun : task.id ∉ Entry.ranIds session.journal := by
    intro hran
    obtain ⟨other, hother, hid⟩ := rostered.early.ran task.id hran
    exact Nat.ne_of_lt (hlt other hother) hid
  refine ⟨hunrun, fun hlive => ?_⟩
  have hscheduled : task ∈ Entry.scheduledTasks session.journal := by
    rw [Entry.mem_scheduledTasks, hjournal]
    exact List.mem_append_right _ List.mem_cons_self
  rcases List.mem_append.1 (rostered.roster.kept lasts task hscheduled hunrun hlive) with
    hqueue | hheld
  · exact hqueue
  · exact absurd (hlt task (rostered.early.held task hheld)) (Nat.lt_irrefl _)

end Rostered

namespace Rostering

variable {lasting : Prop}

/-- The acts that keep the roster. -/
abbrev Keepers (κ S : Type) (lasting : Prop) : Act.Class κ S :=
  Upholding (Rostered lasting) fun _ => RosteredAt lasting

theorem law : ViewLaw Session.scheduler Entry.isOfTasks (Rostered (κ := κ) (S := S) lasting)
    fun _ => RosteredAt lasting where
  congr {state session later} hview hjournal rostered := by
    obtain ⟨roster, hpasses, hidle, hearly⟩ := rostered
    refine ⟨?_, ?_, hidle, ?_⟩
    · rwa [hview, hjournal]
    · rwa [hjournal]
    · rwa [hjournal]
  note hentry rostered := rostered.noting hentry
  moment {state session entry} hentry rostered := by
    refine ⟨⟨state, rostered⟩, ?_⟩
    rintro id rfl
    cases hentry

theorem sees : (Keepers κ S lasting).Sees Session.scheduler Entry.isOfTasks :=
  law.sees fun _ _ => rfl

theorem ordinary : (Keepers κ S lasting).Ordinary :=
  sees.ordinary fun _ _ _ _ _ => ⟨rfl, fun _ => rfl⟩

theorem call (call : Call κ) (_ : call.isJob = true) :
    (Act.call (S := S) call).MadeOf (Keepers κ S lasting) :=
  sees.call call ⟨rfl, fun _ => rfl⟩

theorem pieces {allowed : Request κ → Prop} (hlasting : lasting → ¬ allowed .clearTasks) :
    (Keepers κ S lasting).Pieces allowed := by
  refine .of_change (fun f hf => .part (.change fun {state session} rostered => ?_))
    (fun message => .part (law.upholds_call ⟨rfl, fun _ => rfl⟩)) fun entry hplacing => ?_
  · obtain ⟨heq, noted, hjournal, hnoted, worked⟩ := hf session
    have hpass : ∀ entry ∈ noted, Entry.isPass entry = false :=
      fun entry hmem => Entry.isPass_of_isRecord (hnoted entry hmem)
    refine ⟨?_, ?_, rostered.idle, ?_⟩
    · rw [hjournal, Entry.scheduledTasks_append, Entry.ranIds_append, Entry.ranIds_eq_nil hpass]
      exact rostered.roster.worked hlasting worked
    · rw [hjournal, Entry.openPasses_append hpass]
      exact rostered.passes_eq
    · rw [hjournal]
      exact rostered.early.append hpass
  · exact .part (law.upholds_note (by cases entry <;> first | rfl | cases hplacing))

/-- A batch is held from the moment it is taken, and its jobs leave one by one. -/
theorem passing {allowed : Request κ → Prop} (hlasting : lasting → ¬ allowed .clearTasks) :
    Passing (Rostered (κ := κ) (S := S) lasting) (RosteredAt lasting)
      fun tasks state => ⟨tasks ++ state.held, state.passes + 1⟩ where
  began {state session} rostered := ⟨⟨⟨state, rostered⟩, nofun⟩, rostered.taken⟩
  skip rostered hcancelled :=
    ⟨rostered.roster.skip hcancelled, rostered.passes_eq, fun hzero => absurd hzero (by simp),
      fun task hmem => rostered.early.held task (List.mem_cons_of_mem _ hmem),
      rostered.early.ran⟩
  turn {caller state session task rest} apart upholds rostered hlive := by
    have pieces : (Keepers κ S lasting).Pieces allowed := pieces hlasting
    have hjob : (Session.runJob (S := S) task.id task.job).Upholds (Rostered lasting)
        fun _ => RosteredAt lasting :=
      .of_madeOf ((pieces.turns call).runJob task.id task.job)
    have hmoment : RosteredAt lasting ⟨.ran task.id, session⟩ := by
      refine ⟨⟨_, rostered⟩, ?_⟩
      rintro id ⟨⟩
      exact hlive
    exact .note_bind hmoment (hjob caller apart upholds _ _ rostered.ran)
  ended count hfirst rostered :=
    ⟨⟨⟨_, rostered⟩, nofun⟩, rostered.roster, congrArg (· - 1) rostered.passes_eq, hfirst.idle,
      rostered.early.held, rostered.early.ran⟩

theorem core {allowed : Request κ → Prop} (hlasting : lasting → ¬ allowed .clearTasks) :
    (Keepers κ S lasting).Core allowed :=
  .of_pieces ordinary (pieces hlasting) (.part (passing hlasting).upholds_runDue)

theorem covers {allowed : Request κ → Prop} (hlasting : lasting → ¬ allowed .clearTasks) :
    (Keepers κ S lasting).Covers allowed := by
  have hidden : ∀ call : Call κ, call.Hidden Entry.isOfTasks := fun _ => ⟨rfl, fun _ => rfl⟩
  have panels : (Keepers κ S lasting).Panels := sees.panels ordinary rfl fun _ _ => rfl
  have events : (Keepers κ S lasting).Events := sees.events (fun _ _ _ => ⟨rfl, fun _ => rfl⟩)
    (fun entry hevent => by cases entry <;> first | rfl | cases hevent) fun _ _ => rfl
  have shell : (Keepers κ S lasting).Shell := sees.shell panels (core hlasting)
    (fun entry hdisplay => by cases entry <;> first | rfl | cases hdisplay) fun _ _ _ => rfl
  exact sees.covers ordinary (fun entry hpress => by cases entry <;> first | rfl | cases hpress)
    (fun _ _ => hidden _) (fun _ _ _ _ _ _ _ => rfl) events panels (core hlasting) shell

/-- Everything keeps the roster, if emptying the queue is not allowed or does not matter. -/
theorem governs {allowed : Request κ → Prop} (hlasting : lasting → ¬ allowed .clearTasks) :
    Governs (κ := κ) (S := S) allowed (fun _ => True) (Rostered lasting)
      fun _ => RosteredAt lasting where
  covers := covers hlasting
  store _ rostered := ⟨rostered.roster, rostered.passes_eq, rostered.idle, rostered.early⟩
  callback _ _ hQ := by
    obtain ⟨state, rostered⟩ := hQ.rostered
    exact ⟨state, trivial, rostered.noting rfl⟩

/-- The roster is in order in every session on the way of a run. -/
theorem exists_rostered {allowed : Request κ → Prop} (hlasting : lasting → ¬ allowed .clearTasks)
    {sink : ChordSink} {host : Host} {app : S} {session : Session κ S}
    (hpasses : (Session.fresh sink host app).Passes allowed session) :
    ∃ state, Rostered lasting state session :=
  (governs hlasting).passes (R := fun session => ∃ state, Rostered lasting state session)
    (fun _ rostered => ⟨_, rostered⟩) (fun _ hmoment => hmoment.rostered)
    ⟨_, trivial, .fresh sink host app⟩ hpasses

end Rostering

end EditorShell
