import EditorShell.Proofs.Key.Dispatching

/-!
# Which presses are dispatched

A press whose chord is bound counts as handled.  Whether the command behind it is executed depends
on the run so far: on the last dispatch that the journal tells of, whenever it was and whatever has
been pressed, bound or set since.  A press that is dropped changes nothing but what the journal says
of it.  `presses_decided` says both of every press that begins in the course of a run, nested
presses included, and what follows for two dispatches of one chord.

## Strategy

The dispatcher does not read the journal.  That what it remembers is what the journal tells last is
kept by everything (`Dispatching.governs_since`), and it holds wherever a press can begin.  From
there a press is followed by running it (`run_press_dispatched`, `run_press_dropped`).
-/

namespace EditorShell

variable {κ S : Type}

namespace Session

open Dispatching

/-- The run has dispatched nothing yet, or another chord last, or it did so at least a window
ago. -/
def Admits (session : Session κ S) (chord : Chord) : Prop :=
  match (Entry.dispatches session.journal).head? with
  | none => True
  | some (last, time) =>
    last ≠ chord ∨ session.keys.window.millis ≤ (session.clock.since time).millis

/-- What the dispatcher remembers is the last dispatch of the run. -/
def Recalls (session : Session κ S) : Prop :=
  session.keys.lastDispatch? = (Entry.dispatches session.journal).head?

theorem Recalls.isRepeat_eq_false_iff {session : Session κ S} (recalls : session.Recalls)
    (chord : Chord) :
    session.keys.isRepeat chord session.clock = false ↔ session.Admits chord := by
  unfold KeyDispatcher.isRepeat Admits
  rw [recalls]
  cases (Entry.dispatches session.journal).head? with
  | none => simp
  | some dispatch => simp [← imp_iff_not_or]

/-! ## Following one press -/

/-- A session in which a press has begun and is about to be noted as a dispatch. -/
def recorded (session : Session κ S) (raw : String) (chord : Chord) : Session κ S :=
  { session.noting (.pressBegan raw) with keys := session.keys.record chord session.clock }

/-- The entry of a dispatch. -/
def dispatchEntry (session : Session κ S) (binding : KeyBinding) (chord : Chord) : Entry κ :=
  .dispatched chord session.clock binding.command (binding.args.getD .null)

/-- The session in which the command of a dispatched press is executed. -/
def dispatched (session : Session κ S) (raw : String) (binding : KeyBinding) (chord : Chord) :
    Session κ S :=
  (session.recorded raw chord).noting (session.dispatchEntry binding chord)

/-- The command of a binding is executed with the arguments of the binding. -/
def executeBound (binding : KeyBinding) : Act κ S (Except CommandError CommandOutcome) :=
  execute binding.command (binding.args.getD .null)

/-- What a press does in a session whose callbacks are called like this. -/
structure Decides (caller : Caller κ S) (session : Session κ S) (raw : String) : Prop where
  handled : ((press raw).run caller session).1 = true ↔
    ∃ chord binding, Chord.parse? raw = some chord ∧ session.keys.binding? chord = some binding
  /-- An admitted chord is recorded, and then its command is executed once. -/
  dispatched : ∀ chord binding, Chord.parse? raw = some chord →
    session.keys.binding? chord = some binding → session.Admits chord →
      ∃ after, after = ((executeBound binding).run caller
          (session.dispatched raw binding chord)).2 ∧
        (press raw).run caller session = (true, after.noting (.pressEnded raw true)) ∧
        (press raw).moments caller session =
          [⟨.pressBegan raw, session⟩,
            ⟨session.dispatchEntry binding chord, session.recorded raw chord⟩] ++
          (executeBound binding).moments caller (session.dispatched raw binding chord) ++
          [⟨.pressEnded raw true, after⟩]
  /-- In every other case nothing happens but that the press begins and ends. -/
  dropped : (∀ chord binding, Chord.parse? raw = some chord →
      session.keys.binding? chord = some binding → ¬ session.Admits chord) →
    ∃ handled, (press raw).run caller session =
        (handled, (session.noting (.pressBegan raw)).noting (.pressEnded raw handled)) ∧
      (press raw).moments caller session =
        [⟨.pressBegan raw, session⟩,
          ⟨.pressEnded raw handled, session.noting (.pressBegan raw)⟩]

variable {caller : Caller κ S} {session : Session κ S} {raw : String} {chord : Chord}
  {binding : KeyBinding}

theorem handled_press : ((press raw).run caller session).1 = true ↔
    ∃ chord binding, Chord.parse? raw = some chord ∧
      session.keys.binding? chord = some binding := by
  cases hparse : Chord.parse? raw with
  | none => simp [press, pressText, hparse]
  | some chord =>
      cases hbinding : session.keys.binding? chord with
      | none => simp [press, pressText, pressChord, noting, hparse, hbinding]
      | some binding => simp [press, pressText, pressChord, noting, hparse, hbinding]

/-- A bound chord that is no repeat. -/
theorem press_dispatched (hparse : Chord.parse? raw = some chord)
    (hbinding : session.keys.binding? chord = some binding)
    (hfresh : session.keys.isRepeat chord session.clock = false) :
    ∃ after, after = ((executeBound binding).run caller (session.dispatched raw binding chord)).2 ∧
      (press raw).run caller session = (true, after.noting (.pressEnded raw true)) ∧
      (press raw).moments caller session =
        [⟨.pressBegan raw, session⟩,
          ⟨session.dispatchEntry binding chord, session.recorded raw chord⟩] ++
        (executeBound binding).moments caller (session.dispatched raw binding chord) ++
        [⟨.pressEnded raw true, after⟩] := by
  refine ⟨_, rfl, ?_, ?_⟩
  all_goals
    simp [press, pressText, pressChord, dispatchBound, noting, hparse, hbinding, hfresh,
      executeBound, Session.dispatched, recorded, dispatchEntry]

/-- A text that is no chord, a chord that is not bound, or a repeat. -/
theorem press_dropped (hdropped : ∀ chord binding, Chord.parse? raw = some chord →
    session.keys.binding? chord = some binding →
      session.keys.isRepeat chord session.clock = true) :
    ∃ handled, (press raw).run caller session =
        (handled, (session.noting (.pressBegan raw)).noting (.pressEnded raw handled)) ∧
      (press raw).moments caller session =
        [⟨.pressBegan raw, session⟩,
          ⟨.pressEnded raw handled, session.noting (.pressBegan raw)⟩] := by
  cases hparse : Chord.parse? raw with
  | none => exact ⟨false, by simp [press, pressText, hparse]⟩
  | some chord =>
      cases hbinding : session.keys.binding? chord with
      | none => exact ⟨false, by simp [press, pressText, pressChord, noting, hparse, hbinding]⟩
      | some binding =>
          have hrepeat := hdropped chord binding hparse hbinding
          exact ⟨true, by simp [press, pressText, pressChord, dispatchBound, noting, hparse,
            hbinding, hrepeat]⟩

/-- If the last dispatch of the run is remembered, it decides. -/
theorem Recalls.decides (recalls : session.Recalls) (caller : Caller κ S) (raw : String) :
    session.Decides caller raw where
  handled := handled_press
  dispatched chord binding hparse hbinding hadmits :=
    press_dispatched hparse hbinding ((recalls.isRepeat_eq_false_iff chord).2 hadmits)
  dropped hdropped := by
    refine press_dropped fun chord binding hparse hbinding => ?_
    have hrefused := hdropped chord binding hparse hbinding
    rw [← recalls.isRepeat_eq_false_iff, Bool.not_eq_false] at hrefused
    exact hrefused

/-! ## Two dispatches of one chord -/

/-- The clock was not set back from one dispatch to the next; the newest one comes first. -/
def Forward (dispatches : List (Chord × Instant)) : Prop :=
  dispatches.Pairwise fun newer older => older.2.millis ≤ newer.2.millis

/-- A dispatch that was compared with the last one is a window apart from each earlier one of its
chord, if no other chord was dispatched in between and the clock was not set back. -/
theorem spaced_of_compared {window : Nat} {time earlier : Instant}
    {between older : List (Chord × Instant)} (hsame : ∀ dispatch ∈ between, dispatch.1 = chord)
    (hcompared : ∀ last, (between ++ (chord, earlier) :: older).head? = some last →
      last.1 = chord → window ≤ (time.since last.2).millis)
    (hforward : Forward ((chord, time) :: between ++ [(chord, earlier)])) :
    earlier.millis + window ≤ time.millis := by
  obtain ⟨hnewest, hrest⟩ := List.pairwise_cons.1 hforward
  cases between with
  | nil =>
      have hwindow : window ≤ time.millis - earlier.millis := hcompared _ rfl rfl
      have hle : earlier.millis ≤ time.millis := hnewest (chord, earlier) (by simp)
      omega
  | cons last rest =>
      have hwindow : window ≤ time.millis - last.2.millis :=
        hcompared last rfl (hsame last List.mem_cons_self)
      have hlast : last.2.millis ≤ time.millis := hnewest last (by simp)
      have hearlier : earlier.millis ≤ last.2.millis :=
        (List.pairwise_cons.1 hrest).1 (chord, earlier) (by simp)
      omega

/-! ## Runs -/

theorem recalls_of_remembers {sink : ChordSink} {host : Host} {app : S}
    (remembers : Remembers (fresh sink host app) session) : session.Recalls := by
  obtain ⟨noted, hjournal, hlast⟩ := remembers
  obtain rfl : session.journal = noted := hjournal.trans (List.append_nil noted)
  exact hlast.trans Option.or_none

/-- Whatever goes on in a run, the dispatcher remembers the last dispatch of the run, and each
dispatch was compared with the one before. -/
theorem dispatchedAt_of_occurs {first : Session κ S} {moment : Moment κ S}
    (reaches : first.Reaches (fun _ => True) session)
    (occurs : moment.OccursFrom (fun _ => True) session) : DispatchedAt first moment := by
  have law := governs_since fun other : Session κ S => other = first
  obtain ⟨base, rfl, remembers⟩ := law.reaches ⟨first, rfl, [], rfl, rfl⟩ reaches
  exact law.occurs remembers occurs

end Session

open Session Dispatching

/-- In a run, a press is handled if and only if its text is a chord that is bound just then.  It is
dispatched if and only if, besides, nothing has been dispatched before in the run, or another chord
last, or the last dispatch started at least the current window ago; then the command that is bound
just then is executed once.  Otherwise nothing changes.  So, unless the clock was set back, a chord
is dispatched at least one window after every earlier dispatch of it that no dispatch of another
chord separates from it. -/
theorem presses_decided {sink : ChordSink} {host : Host} {app : S} {session : Session κ S}
    (reaches : (Session.fresh sink host app).Reaches (fun _ => True) session) :
    (∀ (moment : Moment κ S) (raw : String), moment.OccursFrom (fun _ => True) session →
      moment.entry = .pressBegan raw → ∀ caller, Decides caller moment.session raw) ∧
    ∀ (moment : Moment κ S) (chord : Chord) (time : Instant) (command : String)
      (args : Json.Value), moment.OccursFrom (fun _ => True) session →
      moment.entry = .dispatched chord time command args →
        time = moment.session.clock ∧
        ∀ between earlier older,
          Entry.dispatches moment.session.journal = between ++ (chord, earlier) :: older →
          (∀ dispatch ∈ between, dispatch.1 = chord) →
          Forward ((chord, time) :: between ++ [(chord, earlier)]) →
            earlier.millis + moment.session.keys.window.millis ≤ time.millis := by
  refine ⟨fun moment raw occurs hentry caller => ?_,
    fun moment chord time command args occurs hentry => ?_⟩
  · have hremembered := (dispatchedAt_of_occurs reaches occurs).remembered
    rw [hentry] at hremembered
    exact (recalls_of_remembers (hremembered rfl)).decides caller raw
  · obtain ⟨htime, noted, hnoted, hcompared⟩ :=
      (dispatchedAt_of_occurs reaches occurs).compared chord time command args hentry
    refine ⟨htime, fun between earlier older hdispatches hsame hforward => ?_⟩
    obtain rfl : moment.session.journal = noted := hnoted.trans (List.append_nil noted)
    have hlast : ∀ last, (between ++ (chord, earlier) :: older).head? = some last →
        last.1 = chord → moment.session.keys.window.millis ≤ (time.since last.2).millis := by
      intro last hlast
      refine hcompared last ?_
      rw [hdispatches, hlast]
      rfl
    exact spaced_of_compared hsame hlast hforward

/-- The chord of the first of two commands that press each other's chords has been dispatched, and a
whole window has gone by. -/
def Dispatching.pressedSession : Session Bool Unit :=
  ((Request.advance ⟨150⟩).perform.run (mutualCode.caller 0)
    ((Request.press "ctrl+a").perform.run (mutualCode.caller 0) mutualSession).2).2

theorem Dispatching.reaches_pressedSession :
    (Session.fresh .dispatcher (.fresh .recording true) ()).Reaches (fun _ => True)
      pressedSession :=
  .act (.request (.advance _) trivial) within_mutualCode
    (.act (.request (.press _) trivial) within_mutualCode
      (.act (.request (.registerDescriptor _ _) trivial) within_mutualCode
        (.act (.request (.registerDescriptor _ _) trivial) within_mutualCode .refl)))

theorem presses_decided_again :
    (Session.fresh .dispatcher (.fresh .recording true) ()).Reaches (fun _ => True)
      pressedSession ∧
    Decides (mutualCode.caller 1) pressedSession "ctrl+a" ∧
    Entry.dispatches pressedSession.journal = [(chordOf false, .start)] ∧
    Instant.start.millis + pressedSession.keys.window.millis ≤ pressedSession.clock.millis := by
  have occurs : ∀ moment ∈ (Session.press "ctrl+a").moments (mutualCode.caller 1) pressedSession,
      moment.OccursFrom (fun _ => True) pressedSession := fun moment hmem =>
    .intro (.request (.press "ctrl+a") trivial) within_mutualCode hmem
  have hdecides : Decides (mutualCode.caller 1) pressedSession "ctrl+a" :=
    (presses_decided reaches_pressedSession).1 ⟨.pressBegan "ctrl+a", pressedSession⟩ "ctrl+a"
      (occurs _ List.mem_cons_self) rfl _
  have hlast : Entry.dispatches pressedSession.journal = [(chordOf false, .start)] := by
    decide +kernel
  have hbinding : pressedSession.keys.binding? (chordOf false) =
      some ⟨chordOf false, nameOf false, none⟩ := by decide +kernel
  -- The window has passed since the last dispatch of the chord, so it is admitted again.
  have hadmits : pressedSession.Admits (chordOf false) := by
    unfold Admits
    rw [hlast]
    exact .inr (by decide +kernel)
  obtain ⟨_, -, -, hmoments⟩ := hdecides.dispatched _ _ (parse?_rawOf false) hbinding hadmits
  have hforward : Forward [(chordOf false, pressedSession.clock), (chordOf false, .start)] := by
    simp [Forward, Instant.start]
  have hdispatch := List.mem_of_mem_head? (congrArg (List.head? ∘ List.tail) hmoments)
  obtain ⟨-, hspaced⟩ := (presses_decided reaches_pressedSession).2 _ _ _ _ _
    (occurs _ (List.mem_of_mem_tail hdispatch)) rfl
  exact ⟨reaches_pressedSession, hdecides, hlast, hspaced [] .start [] hlast (by simp) hforward⟩

end EditorShell
