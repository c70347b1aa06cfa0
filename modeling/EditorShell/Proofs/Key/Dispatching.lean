import EditorShell.Proofs.Run.Course
import Mathlib.Data.List.Chain

/-!
# Nested presses

A command may press keys itself, and the commands behind those keys may do so again.  The
dispatcher remembers one dispatch only, the last one.  Within one press, while the clock stands
still, it therefore drops a chord that was dispatched last, but not one that was dispatched before
another one: no two neighbours among the dispatched chords are equal (`dispatches_alternate`), and
this is all.  Two commands that press each other's chords start each other as deep as callbacks can
nest (`dispatches_press`).

## Strategy

`Remembers` says that the dispatcher remembers what the journal tells of the last dispatch.  It is
kept by everything, and under it every dispatch is compared with the one before
(`dispatchedAt_of_remembers`).  The journal of the press tells at which moments the dispatches were
noted, so the comparisons can be read off from the newest dispatch to the oldest.
-/

namespace EditorShell

variable {κ S : Type}

/-- The chord that an entry tells was dispatched, and when. -/
def Entry.dispatch? : Entry κ → Option (Chord × Instant)
  | .dispatched chord time _ _ => some (chord, time)
  | _ => none

/-- The dispatches that a stretch of the journal tells of, newest first. -/
def Entry.dispatches (noted : List (Entry κ)) : List (Chord × Instant) :=
  noted.filterMap dispatch?

namespace Dispatching

/-! ## What is remembered -/

/-- The last dispatch is remembered: the last one noted since `base`, or else the one remembered
there. -/
def Remembers (base session : Session κ S) : Prop :=
  ∃ noted, session.journal = noted ++ base.journal ∧
    session.keys.lastDispatch? = (Entry.dispatches noted).head?.or base.keys.lastDispatch?

/-- Whether an entry tells of a dispatch. -/
def isDispatch (entry : Entry κ) : Bool := entry.dispatch?.isSome

/-- What holds of the dispatches when an entry is noted. -/
structure DispatchedAt (base : Session κ S) (moment : Moment κ S) : Prop where
  /-- A dispatch was compared with the one before. -/
  compared : ∀ chord time command args, moment.entry = .dispatched chord time command args →
    time = moment.session.clock ∧ ∃ noted, moment.session.journal = noted ++ base.journal ∧
      ∀ last, (Entry.dispatches noted).head?.or base.keys.lastDispatch? = some last →
        last.1 = chord → moment.session.keys.window.millis ≤ (time.since last.2).millis
  remembered : isDispatch moment.entry = false → Remembers base moment.session

theorem dispatchedAt_of_hidden {base session : Session κ S} {entry : Entry κ}
    (hentry : isDispatch entry = false) (remembers : Remembers base session) :
    DispatchedAt base ⟨entry, session⟩ where
  compared := by
    rintro chord time command args rfl
    cases hentry
  remembered _ := remembers

theorem law : ViewLaw (fun session : Session κ S => session.keys.lastDispatch?) isDispatch
    Remembers DispatchedAt where
  congr {base session later} hview hjournal remembers := by
    obtain ⟨noted, hnoted, hlast⟩ := remembers
    exact ⟨noted, hjournal.trans hnoted, hview.trans hlast⟩
  note {base session entry} hentry remembers := by
    obtain ⟨noted, hnoted, hlast⟩ := remembers
    refine ⟨entry :: noted, congrArg (entry :: ·) hnoted, ?_⟩
    have hnone : entry.dispatch? = none := by simpa [isDispatch] using hentry
    rw [Entry.dispatches, List.filterMap_cons_none hnone]
    exact hlast
  moment hentry remembers := dispatchedAt_of_hidden hentry remembers

theorem sees : (Upholding (Remembers (κ := κ) (S := S)) DispatchedAt).Sees
    (fun session => session.keys.lastDispatch?) isDispatch := law.sees fun _ _ => rfl

theorem ordinary : (Upholding (Remembers (κ := κ) (S := S)) DispatchedAt).Ordinary :=
  sees.ordinary fun _ _ _ _ _ => ⟨rfl, fun _ => rfl⟩

/-- A chord is dispatched only if it does not repeat the last dispatch. -/
theorem dispatchedAt_of_remembers {base session : Session κ S} {chord : Chord}
    (remembers : Remembers base session)
    (hfresh : session.keys.isRepeat chord session.clock = false) (command : String)
    (args : Json.Value) :
    DispatchedAt base ⟨.dispatched chord session.clock command args,
      { session with keys := session.keys.record chord session.clock }⟩ := by
  refine ⟨fun chord' time command' args' heq => ?_, fun hidden => by cases hidden⟩
  cases heq
  obtain ⟨noted, hnoted, hremembered⟩ := remembers
  refine ⟨rfl, noted, hnoted, fun last hlast hchord => ?_⟩
  rw [hlast] at hremembered
  unfold KeyDispatcher.isRepeat at hfresh
  rw [hremembered] at hfresh
  have hwindow : session.keys.window.millis ≤ (session.clock.since last.2).millis := by
    simpa [hchord] using hfresh
  exact hwindow

theorem remembers_dispatched {base session : Session κ S} (remembers : Remembers base session)
    (chord : Chord) (command : String) (args : Json.Value) :
    Remembers base (Session.noting
      { session with keys := session.keys.record chord session.clock }
      (.dispatched chord session.clock command args)) := by
  obtain ⟨noted, hnoted, -⟩ := remembers
  exact ⟨_ :: noted, congrArg (_ :: ·) hnoted, rfl⟩

theorem upholds_dispatchBound (chord : Chord) (binding : KeyBinding) :
    (Session.dispatchBound (κ := κ) (S := S) chord binding).Upholds Remembers DispatchedAt := by
  intro caller apart upholds base session remembers
  refine .read_bind (.read_bind ?_)
  cases hrepeat : session.keys.isRepeat chord session.clock with
  | true => exact .pure remembers
  | false =>
      have hexecute : (do
          let _ ← Session.execute binding.command (binding.args.getD .null)
          pure () : Act κ S Unit).Upholds Remembers DispatchedAt :=
        .of_madeOf
          (.bind (Act.Class.Commands.execute_of_call ordinary.toActing _ _) fun _ => .pure ())
      refine .change_bind (.note_bind (dispatchedAt_of_remembers remembers hrepeat _ _) ?_)
      exact hexecute caller apart upholds base _ (remembers_dispatched remembers _ _ _)

theorem press (raw : String) : (Session.press raw : Act κ S Bool).MadeOf
    (Upholding (Remembers (κ := κ) (S := S)) DispatchedAt) := by
  unfold Session.press Session.pressText
  refine .bind (sees.note _ rfl rfl) fun _ => .bind ?_ fun handled =>
    .bind (sees.note _ rfl rfl) fun _ => .pure handled
  split
  · exact .pure false
  · refine .bind (.read _) fun binding? => ?_
    cases binding? with
    | none => exact .pure false
    | some binding =>
        exact .bind (.part (upholds_dispatchBound _ binding)) fun _ => .pure true

/-- Everything keeps the last dispatch in mind. -/
theorem covers {allowed : Request κ → Prop} :
    (Upholding (Remembers (κ := κ) (S := S)) DispatchedAt).Covers allowed := by
  have hidden : ∀ call : Call κ, call.Hidden isDispatch := fun _ => ⟨rfl, fun _ => rfl⟩
  have commands := Act.Class.Commands.of_bindings (ordinary (κ := κ) (S := S)).toActing
    (fun _ _ => sees.aside (fun _ => rfl) fun _ => rfl)
    (fun f hf => sees.aside (fun session => hf session) fun _ => rfl) press
  have panels := sees.panels (ordinary (κ := κ) (S := S)) rfl fun _ _ => rfl
  have core : (Upholding (Remembers (κ := κ) (S := S)) DispatchedAt).Core allowed :=
    sees.core ordinary (fun _ => hidden _) (fun _ _ => hidden _)
      (fun entry hinner => by cases entry <;> first | rfl | cases hinner) fun _ _ => rfl
  exact .of_core panels core (sees.outer fun _ _ _ _ => rfl)
    (sees.events (fun _ _ _ => ⟨rfl, fun _ => rfl⟩)
      (fun entry hevent => by cases entry <;> first | rfl | cases hevent) fun _ _ => rfl)
    commands (sees.extensions commands.toRegistering (fun _ _ => hidden _) fun _ _ => rfl)
    (sees.shell panels core (fun entry hdisplay => by cases entry <;> first | rfl | cases hdisplay)
      fun _ _ _ => rfl)

/-- A callback starts with what was remembered before. -/
theorem governs_since (Top : Session κ S → Prop) :
    Governs (fun _ => True) Top Remembers DispatchedAt where
  covers := covers
  store _ remembers := remembers
  callback {base _ _} htop _ hQ := ⟨base, htop, law.note rfl (hQ.remembered rfl)⟩

theorem governs : Governs (κ := κ) (S := S) (fun _ => True) (fun _ => True) Remembers
    DispatchedAt := governs_since fun _ => True

/-! ## Neighbouring dispatches -/

/-- What is done in the course of one press leaves a trace of dispatches that were each compared
with the one before. -/
theorem dispatches_of_told {session : Session κ S} {moments : List (Moment κ S)}
    (hdispatched : ∀ moment ∈ moments, DispatchedAt session moment)
    (hstill : ∀ moment ∈ moments, moment.session.clock = session.clock ∧
      0 < moment.session.keys.window.millis)
    {noted later earlier : List (Entry κ)} (told : Session.Told session.journal moments noted)
    (hsplit : noted = later ++ earlier) :
    (∀ dispatch ∈ Entry.dispatches earlier, dispatch.2 = session.clock) ∧
      (Entry.dispatches earlier ++ session.keys.lastDispatch?.toList).IsChain
        fun newer older => older.2 = session.clock → newer.1 ≠ older.1 := by
  induction earlier generalizing later with
  | nil =>
      refine ⟨by simp [Entry.dispatches], ?_⟩
      cases session.keys.lastDispatch? <;> simp [Entry.dispatches]
  | cons entry rest ih =>
      have hrest : noted = (later ++ [entry]) ++ rest := by simpa using hsplit
      obtain ⟨htimes, hchain⟩ := ih hrest
      cases hentry : entry.dispatch? with
      | none =>
          rw [Entry.dispatches, List.filterMap_cons_none hentry]
          exact ⟨htimes, hchain⟩
      | some dispatch =>
          rw [Entry.dispatches, List.filterMap_cons_some hentry, List.cons_append]
          cases entry with
          | dispatched chord time command args =>
              obtain rfl : (chord, time) = dispatch := Option.some.inj hentry
              obtain ⟨moment, hmem, hmoment, hjournal⟩ := told later _ rest hsplit rfl
              obtain ⟨hclock, hwindow⟩ := hstill moment hmem
              obtain ⟨htime, noted', hnoted', hcompared⟩ :=
                (hdispatched moment hmem).compared chord time command args hmoment
              obtain rfl : noted' = rest := List.append_cancel_right (hnoted'.symm.trans hjournal)
              have hnow : time = session.clock := htime.trans hclock
              refine ⟨List.forall_mem_cons.2 ⟨hnow, htimes⟩, List.isChain_cons.2 ⟨?_, hchain⟩⟩
              intro older holder hsame hchord
              -- The older dispatch is the one that was remembered, and no time has passed since.
              have hlast : (Entry.dispatches noted').head?.or session.keys.lastDispatch? =
                  some older := by
                rw [Option.mem_def, List.head?_append] at holder
                simpa [Entry.dispatches] using holder
              have hpassed := hcompared older hlast hchord.symm
              rw [hnow, hsame] at hpassed
              simp only [Instant.since, Nat.sub_self] at hpassed
              omega
          | _ => cases hentry

/-! ## Two commands that press each other's chords -/

/-- The chord of the first command or of the other one. -/
def chordOf (other : Bool) : Chord := ⟨.ctrl, if other then "b" else "a"⟩

/-- The name of the first command or of the other one. -/
def nameOf (other : Bool) : String := if other then "b" else "a"

/-- How the chords are written. -/
def rawOf (other : Bool) : String := if other then "ctrl+b" else "ctrl+a"

theorem parse?_rawOf (other : Bool) : Chord.parse? (rawOf other) = some (chordOf other) := by
  cases other <;> decide +kernel

theorem chordOf_ne (other : Bool) : chordOf other ≠ chordOf (!other) := by
  cases other <;> decide

/-- Each command presses the chord of the other one. -/
def mutualCode : Code Bool Unit :=
  .ofActions fun other => .request (.press (rawOf !other)) fun _ => .done (.ok ())

theorem within_mutualCode : mutualCode.Within fun _ => True :=
  Code.within_ofActions fun _ => ⟨trivial, fun _ => trivial⟩

/-- Both commands are registered, and their chords are bound to them. -/
structure Wired (session : Session Bool Unit) : Prop where
  binding : ∀ other,
    session.keys.binding? (chordOf other) = some ⟨chordOf other, nameOf other, none⟩
  command : ∀ other, ∃ command, session.commands.get? (nameOf other) = some command ∧
    command.descriptor.enabled = true ∧ command.action.body = .user other

/-- The chords that are dispatched when a chord is pressed and callbacks nest so deep, newest
first. -/
def echoes (other : Bool) : Nat → List Chord
  | 0 => [chordOf other]
  | depth + 1 => echoes (!other) depth ++ [chordOf other]

/-- What a dispatch makes of a session up to the call of the action. -/
def dispatching (session : Session Bool Unit) (other : Bool) (action : Action (ActionBody Bool)) :
    Session Bool Unit :=
  { session with
    keys := session.keys.record (chordOf other) session.clock
    journal := .called (.action (nameOf other) action .null) ::
      .dispatched (chordOf other) session.clock (nameOf other) .null ::
        .pressBegan (rawOf other) :: session.journal }

theorem Wired.dispatching {session : Session Bool Unit} (wired : Wired session) (other : Bool)
    (action : Action (ActionBody Bool)) : Wired (dispatching session other action) :=
  ⟨wired.binding, wired.command⟩

/-- The other chord does not repeat this one. -/
theorem isRepeat_dispatching (session : Session Bool Unit) (other : Bool)
    (action : Action (ActionBody Bool)) (now : Instant) :
    (dispatching session other action).keys.isRepeat (chordOf !other) now = false := by
  simp [Dispatching.dispatching, KeyDispatcher.isRepeat, KeyDispatcher.record, chordOf_ne]

/-- A press whose chord does not repeat the last one calls the action of the command, and nothing
else is dispatched but what the action dispatches. -/
theorem dispatches_press_eq {session : Session Bool Unit} (wired : Wired session) {other : Bool}
    (hfresh : session.keys.isRepeat (chordOf other) session.clock = false)
    (caller : Caller Bool Unit) :
    ∃ action, action.body = .user other ∧
      Entry.dispatches ((Session.press (rawOf other)).run caller session).2.journal =
        Entry.dispatches (caller.answer (.action (nameOf other) action .null)
          (dispatching session other action)).2.journal := by
  obtain ⟨command, hget, henabled, hbody⟩ := wired.command other
  refine ⟨command.action, hbody, ?_⟩
  simp [Session.press, Session.pressText, parse?_rawOf, Session.pressChord, Session.dispatchBound,
    Session.execute, Session.noting, wired.binding other, hfresh, hget, henabled, Act.run_call,
    Dispatching.dispatching, Entry.dispatches]
  rfl

/-- Two commands that press each other's chords start each other as deep as callbacks nest. -/
theorem dispatches_press {session : Session Bool Unit} (wired : Wired session) {other : Bool}
    (hfresh : session.keys.isRepeat (chordOf other) session.clock = false) (depth : Nat) :
    (Entry.dispatches ((Session.press (rawOf other)).run (mutualCode.caller depth)
      session).2.journal).map Prod.fst =
        echoes other depth ++ (Entry.dispatches session.journal).map Prod.fst := by
  induction depth generalizing session other with
  | zero =>
      obtain ⟨action, -, hdispatches⟩ := dispatches_press_eq wired hfresh (mutualCode.caller 0)
      rw [hdispatches]
      rfl
  | succ depth ih =>
      obtain ⟨action, hbody, hdispatches⟩ :=
        dispatches_press_eq wired hfresh (mutualCode.caller (depth + 1))
      have hanswer : ((mutualCode.caller (depth + 1)).answer
          (.action (nameOf other) action .null) (dispatching session other action)).2 =
            ((Session.press (rawOf !other)).run (mutualCode.caller depth)
              (dispatching session other action)).2 := by
        simp [Code.caller, Code.respond, hbody, mutualCode, Code.ofActions, Program.toAct,
          Request.perform]
      rw [hdispatches, hanswer, ih (wired.dispatching other action)
        (isRepeat_dispatching session other action _), echoes, List.append_assoc]
      rfl

theorem count_echoes (other : Bool) (starts : Nat) :
    (echoes other (2 * starts)).count (chordOf other) = starts + 1 := by
  induction starts with
  | zero => simp [echoes]
  | succ starts ih =>
      have hechoes : echoes other (2 * (starts + 1)) =
          echoes other (2 * starts) ++ [chordOf !other] ++ [chordOf other] := by
        change echoes (!other) (2 * starts + 1) ++ [chordOf other] = _
        rw [echoes, Bool.not_not]
      rw [hechoes, List.count_append, List.count_append, ih]
      simp [(chordOf_ne other).symm]

/-- A session with the two commands, whose default chords are bound. -/
def mutualSession : Session Bool Unit :=
  let register := fun (other : Bool) =>
    (Request.registerDescriptor { CommandDescriptor.named (nameOf other) with
      keys := some (chordOf other) } other).perform.run (mutualCode.caller 0)
  (register true (register false (.fresh .dispatcher (.fresh .recording true) ())).2).2

theorem wired_mutualSession : Wired mutualSession where
  binding other := by cases other <;> decide +kernel
  command other := by cases other <;> exact ⟨_, rfl, rfl, rfl⟩

/-- One press starts the same command as often as callbacks nest. -/
theorem count_dispatches_press (starts : Nat) :
    ((Entry.dispatches ((Session.press "ctrl+a").run (mutualCode.caller (2 * starts))
      mutualSession).2.journal).map Prod.fst).count (chordOf false) = starts + 1 := by
  have hfresh : mutualSession.keys.isRepeat (chordOf false) mutualSession.clock = false := rfl
  have hdispatches := dispatches_press wired_mutualSession hfresh (2 * starts)
  rw [show rawOf false = "ctrl+a" from rfl] at hdispatches
  rw [hdispatches, List.count_append, count_echoes]
  rfl

/-- The clock stands still and the window is never empty while the two commands start each other. -/
theorem still_mutualSession :
    ∀ moment ∈ (Session.press "ctrl+a").moments (mutualCode.caller 2) mutualSession,
      moment.session.clock = mutualSession.clock ∧ 0 < moment.session.keys.window.millis := by
  decide +kernel

end Dispatching

/-! ## One press -/

open Dispatching

/-- Within one press, nested presses included, no chord is dispatched twice in a row, provided that
the clock stands still and the window is not empty.  A chord that was dispatched at the same instant
right before the press counts as well.  Only these repeats are dropped: a chord may be dispatched
again once another one has been dispatched. -/
theorem dispatches_alternate {code : Code κ S} (within : code.Within fun _ => True) (depth : Nat)
    (raw : String) (session : Session κ S)
    (hstill : ∀ moment ∈ (Session.press raw).moments (code.caller depth) session,
      moment.session.clock = session.clock ∧ 0 < moment.session.keys.window.millis) :
    ∃ noted, ((Session.press raw).run (code.caller depth) session).2.journal =
        noted ++ session.journal ∧
      (∀ dispatch ∈ Entry.dispatches noted, dispatch.2 = session.clock) ∧
      (Entry.dispatches noted ++ session.keys.lastDispatch?.toList).IsChain
        fun newer older => older.2 = session.clock → newer.1 ≠ older.1 := by
  have undertaking : Undertaking (fun _ => True) (Session.press raw : Act κ S Bool) :=
    .request (.press raw) trivial
  have remembers : Remembers session session := ⟨[], rfl, rfl⟩
  obtain ⟨-, hdispatched⟩ := governs.undertaking undertaking within depth remembers
  obtain ⟨noted, hjournal, recount⟩ := (undertaking.course within depth session).recount
  refine ⟨noted, hjournal, ?_⟩
  exact dispatches_of_told hdispatched hstill recount.told (List.nil_append _).symm

theorem dispatches_alternate_mutual :
    (∀ moment ∈ (Session.press "ctrl+a").moments (mutualCode.caller 2) mutualSession,
      moment.session.clock = mutualSession.clock ∧ 0 < moment.session.keys.window.millis) ∧
    ∃ noted, ((Session.press "ctrl+a").run (mutualCode.caller 2) mutualSession).2.journal =
        noted ++ mutualSession.journal ∧
      (∀ dispatch ∈ Entry.dispatches noted, dispatch.2 = mutualSession.clock) ∧
      (Entry.dispatches noted ++ mutualSession.keys.lastDispatch?.toList).IsChain
        fun newer older => older.2 = mutualSession.clock → newer.1 ≠ older.1 :=
  ⟨still_mutualSession,
    dispatches_alternate within_mutualCode 2 "ctrl+a" mutualSession still_mutualSession⟩

/-- With callbacks that nest two deep the first of the two commands is started twice within one
press, while the clock stands still and the window is not empty. -/
theorem mutual_dispatched_twice :
    (∀ moment ∈ (Session.press "ctrl+a").moments (mutualCode.caller 2) mutualSession,
      moment.session.clock = mutualSession.clock ∧ 0 < moment.session.keys.window.millis) ∧
    ((Entry.dispatches ((Session.press "ctrl+a").run (mutualCode.caller 2)
      mutualSession).2.journal).map Prod.fst).count (chordOf false) = 2 :=
  ⟨still_mutualSession, count_dispatches_press 1⟩

end EditorShell
