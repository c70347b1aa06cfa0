import EditorShell.Proofs.Event.Delivery
import EditorShell.Proofs.Key.Deciding
import EditorShell.Proofs.Key.Spelling

/-!
# Handling keys

A key comes as a text.  If the text is a chord, the chord is pressed first, provided that it holds a
modifier, and then everyone who listens for keys is told of it (`keys_handled`).  The telling is
part of handling the key: it does not depend on what the press came to, nor on what a command has
done in the course of it, and it happens once.

## Strategy

The course of handling a key is two acts, the press and the event, and it is read off the outermost
entries of the journal.  What a press notes itself is told by the session in which it begins
(`Session.Presses`); of all that its command does only the return is seen.  The chord is read,
written and read again on the way to the dispatcher, so it is the same chord that is looked up there
(`Chord.parse?_text_of_parse?`).
-/

namespace EditorShell

open Json

variable {κ S : Type}

/-- The event that an entry says began to be delivered, with its payload. -/
def Entry.emission? : Entry κ → Option (String × Value)
  | .emitBegan event payload => some (event, payload)
  | _ => none

/-- Of an event that is delivered it is told once. -/
theorem Delivery.emissions {event : String} {payload : Value}
    {listeners : List (Subscription (Listener κ))} {report : EmitReport} {noted : List (Entry κ)}
    (delivery : Delivery event payload listeners report noted) :
    (Entry.outermost 0 noted).filterMap Entry.emission? = [(event, payload)] := by
  obtain ⟨outcomes, -, hcalls, -⟩ := delivery.calls
  have hanswers : (answersOf event payload listeners outcomes).filterMap Entry.emission? = [] := by
    refine List.filterMap_eq_nil_iff.2 fun entry hentry => ?_
    obtain ⟨index, hindex, rfl⟩ := List.mem_iff_getElem.1 hentry
    simp [answersOf, Entry.emission?]
  rw [← List.reverse_inj, ← List.filterMap_reverse, hcalls]
  simp [Entry.emission?, hanswers]

/-! ## What a press notes -/

/-- The outermost entries of executing a command: its action returned, or there was none to run. -/
inductive CommandRegistry.Executes (commands : CommandRegistry (ActionBody κ)) (name : String)
    (args : Value) : List (Entry κ) → Prop where
  | ran {command : Command (ActionBody κ)} (hcommand : commands.get? name = some command)
      (henabled : command.descriptor.enabled = true)
      (outcome : Guarded (Except HandlerError Unit)) :
      Executes commands name args [.returned (.action name command.action args) outcome]
  | idle (hidle : ∀ command, commands.get? name = some command →
      command.descriptor.enabled = false) : Executes commands name args []

/-- There is one entry at most. -/
theorem CommandRegistry.Executes.reverse_eq {commands : CommandRegistry (ActionBody κ)}
    {name : String} {args : Value} {noted : List (Entry κ)}
    (executes : commands.Executes name args noted) : noted.reverse = noted := by
  cases executes <;> rfl

namespace Session

/-- What pressing a chord for its modifiers comes to: whether it was handled, the session after it
and the outermost entries, first one first. -/
inductive Presses (caller : Caller κ S) (session : Session κ S) (chord : Chord) :
    Bool → Session κ S → List (Entry κ) → Prop where
  /-- A chord without modifiers is not pressed at all. -/
  | plain (hplain : chord.hasModifiers = false) : Presses caller session chord false session []
  /-- Nothing is bound to the chord. -/
  | unbound (hheld : chord.hasModifiers = true) (hunbound : session.keys.binding? chord = none) :
      Presses caller session chord false
        ((session.noting (.pressBegan chord.text)).noting (.pressEnded chord.text false))
        [.pressBegan chord.text, .pressEnded chord.text false]
  /-- The chord is bound, and repeats the last dispatch. -/
  | repeated {binding : KeyBinding} (hheld : chord.hasModifiers = true)
      (hbinding : session.keys.binding? chord = some binding)
      (hrepeat : session.keys.isRepeat chord session.clock = true) :
      Presses caller session chord true
        ((session.noting (.pressBegan chord.text)).noting (.pressEnded chord.text true))
        [.pressBegan chord.text, .pressEnded chord.text true]
  /-- The chord is bound, and its command is executed. -/
  | dispatched {binding : KeyBinding} {executed : List (Entry κ)}
      (hheld : chord.hasModifiers = true)
      (hbinding : session.keys.binding? chord = some binding)
      (hfresh : session.keys.isRepeat chord session.clock = false)
      (executes : session.commands.Executes binding.command (binding.args.getD .null) executed) :
      Presses caller session chord true
        (((executeBound binding).run caller
          (session.dispatched chord.text binding chord)).2.noting (.pressEnded chord.text true))
        (.pressBegan chord.text :: session.dispatchEntry binding chord ::
          (executed ++ [.pressEnded chord.text true]))

variable {caller : Caller κ S} {session : Session κ S} {chord : Chord}

theorem Presses.handled_iff {handled : Bool} {after : Session κ S} {trail : List (Entry κ)}
    (presses : Presses caller session chord handled after trail) :
    handled = true ↔
      chord.hasModifiers = true ∧ ∃ binding, session.keys.binding? chord = some binding := by
  cases presses with
  | plain hplain => simp [hplain]
  | unbound _ hunbound => simp [hunbound]
  | repeated hheld hbinding => simp [hheld, hbinding]
  | dispatched hheld hbinding => simp [hheld, hbinding]

/-- A press itself tells nobody of anything. -/
theorem Presses.emissions {handled : Bool} {after : Session κ S} {trail : List (Entry κ)}
    (presses : Presses caller session chord handled after trail) :
    trail.filterMap Entry.emission? = [] := by
  cases presses with
  | plain => rfl
  | unbound => rfl
  | repeated => rfl
  | dispatched _ _ _ executes => cases executes <;> rfl

theorem execute_spec (courses : caller.Courses) (name : String) (args : Value)
    (session : Session κ S) :
    ∃ noted, ((execute name args).run caller session).2.journal = noted ++ session.journal ∧
      Entry.Whole noted ∧
      session.commands.Executes name args (Entry.outermost 0 noted) := by
  cases hcommand : session.commands.get? name with
  | none =>
      exact ⟨[], by simp [execute, hcommand], .nil, .idle (by simp [hcommand])⟩
  | some command =>
      cases henabled : command.descriptor.enabled with
      | false =>
          refine ⟨[], by simp [execute, hcommand, henabled], .nil, .idle fun other hother => ?_⟩
          rw [hcommand] at hother
          rw [← Option.some.inj hother, henabled]
      | true =>
          obtain ⟨noted, hjournal, hwhole, houtermost⟩ :=
            call_spec courses (.action name command.action args) session
          refine ⟨noted, by simp [execute, hcommand, henabled, hjournal], hwhole, ?_⟩
          rw [houtermost]
          exact .ran hcommand henabled _

theorem run_press_dispatched {binding : KeyBinding}
    (hparse : Chord.parse? chord.text = some chord)
    (hbinding : session.keys.binding? chord = some binding)
    (hfresh : session.keys.isRepeat chord session.clock = false) :
    (press chord.text).run caller session = (true,
      ((executeBound binding).run caller (session.dispatched chord.text binding chord)).2.noting
        (.pressEnded chord.text true)) := by
  obtain ⟨after, rfl, hrun, -⟩ := press_dispatched hparse hbinding hfresh
  exact hrun

theorem run_press_unbound (hparse : Chord.parse? chord.text = some chord)
    (hunbound : session.keys.binding? chord = none) :
    (press chord.text).run caller session = (false,
      (session.noting (.pressBegan chord.text)).noting (.pressEnded chord.text false)) := by
  simp [press, pressText, pressChord, noting, hparse, hunbound]

theorem run_press_repeated {binding : KeyBinding} (hparse : Chord.parse? chord.text = some chord)
    (hbinding : session.keys.binding? chord = some binding)
    (hrepeat : session.keys.isRepeat chord session.clock = true) :
    (press chord.text).run caller session = (true,
      (session.noting (.pressBegan chord.text)).noting (.pressEnded chord.text true)) := by
  simp [press, pressText, pressChord, dispatchBound, noting, hparse, hbinding, hrepeat]

/-- What a dispatched press notes: the dispatch, the return of the command's action, and that it
began and ended. -/
theorem presses_dispatched (courses : caller.Courses) {binding : KeyBinding}
    (hheld : chord.hasModifiers = true) (hparse : Chord.parse? chord.text = some chord)
    (hbinding : session.keys.binding? chord = some binding)
    (hfresh : session.keys.isRepeat chord session.clock = false) :
    ∃ noted, ((press chord.text).run caller session).2.journal = noted ++ session.journal ∧
      Entry.Whole noted ∧
      Presses caller session chord ((press chord.text).run caller session).1
        ((press chord.text).run caller session).2 (Entry.outermost 0 noted).reverse := by
  obtain ⟨executed, hjournal, hwhole, executes⟩ :=
    execute_spec courses binding.command (binding.args.getD .null)
      (session.dispatched chord.text binding chord)
  have began : Entry.Whole [session.dispatchEntry binding chord, .pressBegan chord.text] :=
    .of_forall (by simp [dispatchEntry, Entry.isCall])
  have ended : Entry.Whole [(.pressEnded chord.text true : Entry κ)] := .singleton rfl
  refine ⟨.pressEnded chord.text true :: (executed ++
    [session.dispatchEntry binding chord, .pressBegan chord.text]), ?_, ?_, ?_⟩
  · rw [run_press_dispatched hparse hbinding hfresh, executeBound]
    change .pressEnded chord.text true :: ((execute _ _).run caller _).2.journal = _
    rw [hjournal]
    simp [Session.dispatched, recorded, noting]
  · exact ended.append (hwhole.append began)
  · -- The press and its dispatch frame what the command does, and no call is open between them.
    have houtermost : (Entry.outermost 0 (.pressEnded chord.text true :: (executed ++
          [session.dispatchEntry binding chord, .pressBegan chord.text]))).reverse =
        .pressBegan chord.text :: session.dispatchEntry binding chord ::
          ((Entry.outermost 0 executed).reverse ++ [.pressEnded chord.text true]) := by
      rw [Entry.outermost_cons rfl, hwhole.outer]
      simp [dispatchEntry, Entry.outermost]
    rw [houtermost, executes.reverse_eq, run_press_dispatched hparse hbinding hfresh]
    exact .dispatched hheld hbinding hfresh executes

/-- What pressing a chord for its modifiers notes. -/
theorem pressHeld_spec (courses : caller.Courses) (hparse : Chord.parse? chord.text = some chord)
    (session : Session κ S) :
    ∃ noted, ((pressHeld chord).run caller session).2.journal = noted ++ session.journal ∧
      Entry.Whole noted ∧
      Presses caller session chord ((pressHeld chord).run caller session).1
        ((pressHeld chord).run caller session).2 (Entry.outermost 0 noted).reverse := by
  cases hheld : chord.hasModifiers with
  | false =>
      have hnot : pressHeld chord = (pure false : Act κ S Bool) := by simp [pressHeld, hheld]
      rw [hnot]
      exact ⟨[], rfl, .nil, .plain hheld⟩
  | true =>
      have hpress : pressHeld chord = (press chord.text : Act κ S Bool) := by
        simp [pressHeld, hheld]
      have idle : ∀ handled, Entry.Whole (κ := κ)
          [.pressEnded chord.text handled, .pressBegan chord.text] := fun handled =>
        .of_forall (by simp [Entry.isCall])
      rw [hpress]
      -- A press with modifiers ends in one of three ways: unbound, too early again, or dispatched.
      cases hbinding : session.keys.binding? chord with
      | none =>
          rw [run_press_unbound hparse hbinding]
          exact ⟨_, rfl, idle false, .unbound hheld hbinding⟩
      | some binding =>
          cases hrepeat : session.keys.isRepeat chord session.clock with
          | false => exact presses_dispatched courses hheld hparse hbinding hrepeat
          | true =>
              rw [run_press_repeated hparse hbinding hrepeat]
              exact ⟨_, rfl, idle true, .repeated hheld hbinding hrepeat⟩

/-! ## Handling a key -/

/-- How the key of a chord is handled: what came of it, and what was noted. -/
structure HandlesKey (caller : Caller κ S) (session : Session κ S) (chord : Chord)
    (handled : Bool × Session κ S) (noted : List (Entry κ)) : Prop where
  journal : handled.2.journal = noted ++ session.journal
  /-- It is consumed if the chord holds a modifier and is bound when the key arrives. -/
  consumed_iff : handled.1 = true ↔
    chord.hasModifiers = true ∧ ∃ binding, session.keys.binding? chord = some binding
  /-- The chord is pressed first, and then those who listen after the press are told of it. -/
  course : ∃ after trail delivered report,
    Presses caller session chord handled.1 after trail ∧
    handled.2 = ((emit keyPressedEvent (.string chord.text)).run caller after).2 ∧
    Delivery keyPressedEvent (.string chord.text) (after.events.listeners keyPressedEvent) report
      delivered ∧
    (Entry.outermost 0 noted).reverse = trail ++ (Entry.outermost 0 delivered).reverse
  /-- The event is emitted once, with the canonical text. -/
  once : (Entry.outermost 0 noted).filterMap Entry.emission? =
    [(keyPressedEvent, .string chord.text)]

theorem handleKey_spec (courses : caller.Courses) {raw : String}
    (hparse : Chord.parse? raw = some chord) (session : Session κ S) :
    ∃ noted, HandlesKey caller session chord ((handleKey raw).run caller session) noted := by
  obtain ⟨pressed, hpressed, hwhole, presses⟩ :=
    pressHeld_spec courses (Chord.parse?_text_of_parse? hparse) session
  have hrun : (handleKey raw).run caller session =
      (((pressHeld chord).run caller session).1,
        ((emit keyPressedEvent (.string chord.text)).run caller
          ((pressHeld chord).run caller session).2).2) := by
    simp [handleKey, hparse]
  rw [hrun]
  generalize (pressHeld chord).run caller session = after at hpressed presses ⊢
  obtain ⟨delivered, hdelivered, delivery⟩ :=
    emit_spec courses keyPressedEvent (.string chord.text) after.2
  have hemitted : Entry.Whole delivered :=
    (Coursing.of_madeOf (Coursing.events.emit _ _) caller courses after.2).whole hdelivered
  have houtermost : Entry.outermost 0 (delivered ++ pressed) =
      Entry.outermost 0 delivered ++ Entry.outermost 0 pressed := hemitted.outer pressed
  -- The press emits nothing of its own, so the emission that comes after it is the only one.
  have hsilent : (Entry.outermost 0 pressed).filterMap Entry.emission? = [] := by
    have hnone := presses.emissions
    rwa [List.filterMap_reverse, List.reverse_eq_nil_iff] at hnone
  exact ⟨delivered ++ pressed,
    { journal := by rw [hdelivered, hpressed, List.append_assoc]
      consumed_iff := presses.handled_iff
      course := ⟨after.2, _, delivered, _, presses, rfl, delivery, by
        rw [houtermost, List.reverse_append]⟩
      once := by rw [houtermost, List.filterMap_append, hsilent, delivery.emissions]; rfl }⟩

end Session

open Dispatching

/-- A text that is no chord is ignored.  A key whose text is a chord is handled as the chord says,
however it is spelled and whatever callbacks do: the chord is dispatched if it holds a modifier,
consumed if it is bound besides, and told once to those who listen for keys. -/
theorem keys_handled (code : Code κ S) (depth : Nat) (session : Session κ S) (raw : String) :
    (Chord.parse? raw = none →
      (Session.handleKey raw).run (code.caller depth) session = (false, session) ∧
        (Session.handleKey raw).moments (code.caller depth) session = []) ∧
    (∀ chord, Chord.parse? raw = some chord → ∃ noted,
      Session.HandlesKey (code.caller depth) session chord
        ((Session.handleKey raw).run (code.caller depth) session) noted) ∧
    ∀ other, Chord.parse? other = Chord.parse? raw →
      (Session.handleKey other : Act κ S Bool) = Session.handleKey raw := by
  refine ⟨fun hnone => ?_, fun chord hparse => ?_, fun other hsame => ?_⟩
  · simp [Session.handleKey, hnone]
  · exact Session.handleKey_spec (code.caller_courses depth) hparse session
  · rw [Session.handleKey, Session.handleKey, hsame]

/-- A chord in another spelling than its own; its command presses the chord of another one. -/
theorem keys_handled_spelled :
    ∃ noted, Session.HandlesKey (mutualCode.caller 2) mutualSession (chordOf false)
        ((Session.handleKey " Ctrl + A").run (mutualCode.caller 2) mutualSession) noted ∧
      ((Session.handleKey " Ctrl + A").run (mutualCode.caller 2) mutualSession).1 = true := by
  have hparse : Chord.parse? " Ctrl + A" = some (chordOf false) := by decide +kernel
  obtain ⟨noted, handles⟩ :=
    (keys_handled mutualCode 2 mutualSession " Ctrl + A").2.1 (chordOf false) hparse
  have hbinding := wired_mutualSession.binding false
  exact ⟨noted, handles, handles.consumed_iff.2 ⟨by decide, _, hbinding⟩⟩

end EditorShell
