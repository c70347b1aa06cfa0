import EditorShell.Proofs.Run.Governing

/-!
# Passes, turn by turn

A pass takes its batch and gives each job of it its turn.  For a law that follows the jobs this has
to be shown by hand; `Passing` says what: how the pass begins, that a cancelled job is passed over,
what a turn does, and how the pass ends.  The index of the law says meanwhile which jobs are held.
-/

namespace EditorShell

variable {κ S ι : Type}

/-- The session in which a pass that begins has taken its batch. -/
def Session.taken (session : Session κ S) : Session κ S :=
  { session.noting (.passBegan session.clock) with
    scheduler := (session.scheduler.takeDue session.clock).2 }

/-- Gives a job its turn. -/
def Session.takeTurn (task : Task (Job κ)) : Act κ S Unit := do
  .note (.ran task.id)
  runJob task.id task.job

namespace Session

/-- A cancelled job of a batch is passed over. -/
theorem runBatch_of_cancelled (caller : Caller κ S) {task : Task (Job κ)}
    {session : Session κ S} (hcancelled : session.scheduler.isCancelled task.id = true)
    (count : Nat) (rest : List (Task (Job κ))) :
    (runBatch count (task :: rest)).run caller session = (runBatch count rest).run caller session ∧
      (runBatch count (task :: rest)).moments caller session =
        (runBatch count rest).moments caller session := by
  constructor <;> simp [runBatch, hcancelled]

/-- Another one gets its turn. -/
theorem runBatch_of_live (caller : Caller κ S) {task : Task (Job κ)} {session : Session κ S}
    (hlive : session.scheduler.isCancelled task.id = false) (count : Nat)
    (rest : List (Task (Job κ))) :
    (runBatch count (task :: rest)).run caller session =
        (runBatch (count + 1) rest).run caller ((takeTurn task).run caller session).2 ∧
      (runBatch count (task :: rest)).moments caller session =
        (takeTurn task).moments caller session ++
          (runBatch (count + 1) rest).moments caller ((takeTurn task).run caller session).2 := by
  constructor <;> simp [runBatch, takeTurn, hlive]

end Session

/-- Passes keep `P`, if `P` holds at the index `hold tasks index` while a pass that began at `index`
holds `tasks`. -/
structure Passing (P : ι → Session κ S → Prop) (Q : Moment κ S → Prop)
    (hold : List (Task (Job κ)) → ι → ι) : Prop where
  began : ∀ {index session}, P index session → Q ⟨.passBegan session.clock, session⟩ ∧
    P (hold (session.scheduler.takeDue session.clock).1 index) session.taken
  skip : ∀ {index session task rest}, P (hold (task :: rest) index) session →
    session.scheduler.isCancelled task.id = true → P (hold rest index) session
  turn : ∀ {caller : Caller κ S} {index session task rest}, caller.HostApart →
    caller.Upholds P (fun _ => Q) → P (hold (task :: rest) index) session →
      session.scheduler.isCancelled task.id = false →
        (Session.takeTurn task).Meets Q caller session fun _ => P (hold rest index)
  ended : ∀ {index first session} count, P index first → P (hold [] index) session →
    Q ⟨.passEnded count, session⟩ ∧ P index (session.noting (.passEnded count))

namespace Passing

variable {P : ι → Session κ S → Prop} {Q : Moment κ S → Prop}
  {hold : List (Task (Job κ)) → ι → ι} (passing : Passing P Q hold)

include passing

theorem meets_runBatch {caller : Caller κ S} (apart : caller.HostApart)
    (upholds : caller.Upholds P fun _ => Q) (batch : List (Task (Job κ))) (count : Nat) {index : ι}
    {session : Session κ S} (hP : P (hold batch index) session) :
    (Session.runBatch count batch).Meets Q caller session fun _ => P (hold [] index) := by
  induction batch generalizing count session with
  | nil => exact .pure hP
  | cons task rest ih =>
      refine .read_bind ?_
      cases hcancelled : session.scheduler.isCancelled task.id with
      | true => exact ih count (passing.skip hP hcancelled)
      | false =>
          have hturn : (Session.takeTurn task >>= fun _ =>
              Session.runBatch (count + 1) rest).Meets Q caller session
                fun _ => P (hold [] index) :=
            .bind (passing.turn apart upholds hP hcancelled) fun _ after hafter =>
              ih (count + 1) hafter
          unfold Session.takeTurn at hturn
          rw [bind_assoc] at hturn
          exact hturn

theorem upholds_runDue : (Session.runDue : Act κ S Nat).Upholds P fun _ => Q := by
  intro caller apart upholds index session hP
  obtain ⟨hbegan, htaken⟩ := passing.began hP
  refine .read_bind (.note_bind hbegan ?_)
  refine .bind (R := fun batch after => batch = (session.scheduler.takeDue session.clock).1 ∧
    after = session.taken) (.read_bind (.read_bind (.change_bind (.pure ⟨rfl, rfl⟩)))) ?_
  rintro batch after ⟨rfl, rfl⟩
  refine .bind (passing.meets_runBatch apart upholds _ 0 htaken) fun count last hlast => ?_
  obtain ⟨hended, hdone⟩ := passing.ended count hP hlast
  exact .note_bind hended (.pure hdone)

end Passing

end EditorShell
