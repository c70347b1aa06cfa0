import EditorShell.Proofs.Shell.Offscreen

/-!
# What managing extensions leaves alone

The built-in extensions may be activated, deactivated and unregistered while a shell is used.  The
readouts outlive that, and so do the names that are greeted (`Request.standing_manage`).

No event is told of on the way, and no work is done.  The callbacks that are called are those of the
extensions themselves and the announcement of a chord, so nothing else has to be looked at.
-/

namespace EditorShell

open Session

variable {S α : Type}

/-- The clock, what the readouts show and the names that are greeted. -/
def Session.standing (session : Session Empty S) :
    Instant × (InstanceId → Nat × Nat × String) × (InstanceId → String) :=
  (session.clock, session.reading, fun copy => (session.greeter copy).name)

/-- Whether a call is made while extensions are managed. -/
def Call.manages {κ : Type} : Call κ → Bool
  | .announce _ _ => true
  | call => call.isLifecycle

/-- The acts that leave the clock, the readouts and the names alone. -/
def Managing (caller : Caller Empty S) : Act.Class Empty S := fun _ act =>
  ∀ session : Session Empty S, (act.run caller session).2.standing = session.standing

namespace Managing

variable {caller : Caller Empty S}

theorem of_madeOf {act : Act Empty S α} (hact : act.MadeOf (Managing caller)) :
    Managing caller α act := by
  refine hact.covered (fun _ _ => rfl) (fun _ _ => rfl) (fun hnext session => hnext session session)
    fun {_ _ first next} hfirst hnext session => ?_
  exact (hnext _ _).trans (hfirst session)

/-- Whether an entry tells of another call. -/
def isElsewhere : Entry Empty → Bool
  | .called call | .returned call _ => !call.manages
  | _ => false

theorem hidden {call : Call Empty} (hmanages : call.manages = true) : call.Hidden isElsewhere := by
  have hcall : (!call.manages) = false := by rw [hmanages]; rfl
  exact ⟨hcall, fun _ => hcall⟩

theorem manages_of_isLifecycle {call : Call Empty} (hlifecycle : call.isLifecycle = true) :
    call.manages = true := by
  cases call <;> first | rfl | cases hlifecycle

section

variable (answers : ∀ call session, call.manages = true →
  Session.standing (caller.answer call session).2 = Session.standing session)

include answers

theorem sees : (Managing caller).Sees Session.standing isElsewhere where
  change f hf := .part fun session => (hf session).view_eq
  note entry _ _ := .part fun _ => rfl
  call call hcall := by
    have hmanages : call.manages = true := by simpa [isElsewhere] using hcall.1
    exact .bind (.part fun _ => rfl) fun _ =>
      .bind (.part fun session => answers _ session hmanages) fun _ =>
        .bind (.part fun _ => rfl) fun _ => .pure _

theorem registering : (Managing caller).Registering :=
  (sees answers).registering (fun _ _ => hidden rfl) fun _ _ _ => rfl

theorem extensions : (Managing caller).Extensions :=
  (sees answers).extensions (registering answers)
    (fun _ hlifecycle => hidden (manages_of_isLifecycle hlifecycle)) fun _ _ => rfl

theorem equippingGreeter : (Managing caller).EquippingGreeter := by
  have sees := sees answers
  have aside : ∀ {f : Session Empty S → Session Empty S},
      (∀ session, (f session).standing = session.standing) →
        (∀ session, (f session).journal = session.journal) →
          (Act.change f).MadeOf (Managing caller) := sees.aside
  have changePanels : ∀ f : PanelHost Empty → PanelHost Empty,
      (Session.changePanels f : Act Empty S Unit).MadeOf (Managing caller) :=
    fun f => aside (fun _ => rfl) fun _ => rfl
  have touch : (Session.touch : Act Empty S Unit).MadeOf (Managing caller) :=
    .bind (changePanels _) fun _ => sees.note .moved rfl rfl
  have jobs : (Managing caller).Jobs fun _ => True := sees.jobs (fun _ _ => rfl) fun _ _ _ _ => rfl
  -- Panels, listeners and debouncers are not part of what is compared, the texts of the copies are.
  exact
    { subscribe := fun event listener => .bind (.read _) fun id =>
        .bind (aside (fun _ => rfl) fun _ => rfl) fun _ => .pure id
      unsubscribe := fun event id => .bind (.read _) fun found =>
        .bind (aside (fun _ => rfl) fun _ => rfl) fun _ => .pure found
      newAction := (registering answers).newAction
      registerCommand := (registering answers).registerCommand
      unregisterCommand := (registering answers).unregisterCommand
      registerStatus := fun id component => .bind (changePanels _) fun _ => touch
      unregisterStatus := fun id => .bind (.read _) fun found =>
        .bind (.when (.bind (changePanels _) fun _ => touch)) fun _ => .pure found
      setKeyListener := fun _ _ => aside (fun _ => rfl) fun _ => rfl
      changeEditorStatus := fun copy f hf => aside (fun session => Prod.ext rfl
        (Prod.ext (reading_changeEditorStatus caller session copy hf) rfl)) fun _ => rfl
      registerPanel := fun id component => .bind (changePanels _) fun _ => touch
      unregisterPanel := fun id => .bind (.read _) fun found =>
        .bind (.when (.bind (changePanels _) fun _ => touch)) fun _ => .pure found
      newDebouncer := jobs.newDebouncer
      dropDebouncer := jobs.dropDebouncer
      changeGreeter := fun copy f hf => aside (fun session => Prod.ext rfl (Prod.ext rfl
        (funext (name_changeGreeter caller session copy fun state => by
          obtain ⟨debouncer?, hstate⟩ := hf state
          rw [hstate])))) fun _ => rfl }

theorem respond (call : Call Empty) (hmanages : call.manages = true) :
    ((Code.plain (S := S)).respond call).MadeOf (Managing caller) := by
  have program : ∀ {R : Type} {program : Program Empty S R}, (program.Uses fun _ => False) →
      program.toAct.MadeOf (Managing caller) := fun uses =>
    .program (fun _ => (sees answers).aside (fun _ => rfl) fun _ => rfl) nofun uses
  have within := Code.within_plain (S := S) fun _ => False
  cases hlifecycle : call.isLifecycle with
  | true => exact (equippingGreeter answers).respond program within call hlifecycle
  | false =>
      cases call with
      | announce chord command => exact program (within.announce chord command)
      | _ => cases hmanages <;> cases hlifecycle

end

end Managing

theorem Code.standing_plain (depth : Nat) (call : Call Empty) (session : Session Empty S)
    (hmanages : call.manages = true) :
    ((Code.plain.caller depth).answer call session).2.standing = session.standing := by
  induction depth generalizing call session with
  | zero => rfl
  | succ depth ih =>
      exact Managing.of_madeOf
        (Managing.respond (fun call session => ih call session) call hmanages)
        session

/-- Managing extensions leaves the clock, the readouts and the names alone. -/
theorem Request.standing_manage {request : Request Empty} (hmanaging : request.isManaging = true)
    (depth : Nat) (session : Session Empty S) :
    (request.perform.run (Code.plain.caller depth) session).2.standing = session.standing := by
  exact Managing.of_madeOf ((Managing.extensions (Code.standing_plain depth)).perform hmanaging)
    session

end EditorShell
