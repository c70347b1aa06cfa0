import EditorShell.Proofs.Shell.Typing
import Mathlib.Data.List.Infix

/-!
# The name that is greeted

A name that is typed is greeted if a tick finds that typing has paused since (`greeting_follows`).
All timings are met: names come at any rate, the clock goes to and fro, and ticks are made at any
time.

## Strategy

At most one name waits.  So what a request does is told by the clock and by the name that waits
(`Request.waits`, `Request.counts`), and every request does what they tell
(`Session.Greets.advances`).  That the names which count from request to request are those which
count on the whole is a fact about the requests alone (`Request.countingNames_eq`).
-/

namespace EditorShell

open Entry Session

variable {κ S : Type}

/-! ## Which names count -/

namespace Request

/-- Whether a request is a tick. -/
def isTick : Request κ → Bool
  | .tick => true
  | _ => false

/-- The name that a request types. -/
def typedName? : Request κ → Option String
  | .dispatchEvent event => if event.typesName then some (typedName event) else none
  | _ => none

/-- What the clock says after a request. -/
def clockAfter (clock : Instant) : Request κ → Instant
  | .advance span => clock.after span
  | .setClock now => now
  | _ => clock

/-- Before another name is typed there is a tick at or after the deadline. -/
def Settles (deadline clock : Instant) (requests : List (Request κ)) : Prop :=
  ∃ between rest, requests = between ++ .tick :: rest ∧
    (∀ request ∈ between, request.typedName? = none) ∧
      deadline.isDueAt (between.foldl clockAfter clock) = true

theorem settles_cons {deadline clock : Instant} {request : Request κ} {rest : List (Request κ)} :
    Settles deadline clock (request :: rest) ↔
      request.isTick = true ∧ deadline.isDueAt clock = true ∨
        request.typedName? = none ∧ Settles deadline (request.clockAfter clock) rest := by
  constructor
  · rintro ⟨between, later, hsplit, huntyped, hdue⟩
    cases between with
    | nil =>
        obtain ⟨rfl, rfl⟩ := List.cons.inj hsplit
        exact .inl ⟨rfl, hdue⟩
    | cons first between =>
        obtain ⟨rfl, rfl⟩ := List.cons.inj hsplit
        obtain ⟨hfirst, hbetween⟩ := List.forall_mem_cons.1 huntyped
        exact .inr ⟨hfirst, between, later, rfl, hbetween, hdue⟩
  · rintro (⟨htick, hdue⟩ | ⟨huntyped, between, later, rfl, hbetween, hdue⟩)
    · cases request with
      | tick => exact ⟨[], rest, rfl, by simp, hdue⟩
      | _ => cases htick
    · exact ⟨request :: between, later, rfl, List.forall_mem_cons.2 ⟨huntyped, hbetween⟩, hdue⟩

instance decidableSettles (deadline : Instant) :
    ∀ (clock : Instant) (requests : List (Request κ)), Decidable (Settles deadline clock requests)
  | _, [] => .isFalse (by rintro ⟨between, rest, hsplit, -⟩; simp at hsplit)
  | clock, request :: rest =>
    have := decidableSettles deadline (request.clockAfter clock) rest
    decidable_of_iff _ settles_cons.symm

/-- The names that are typed and then count, in this order. -/
def settledNames (clock : Instant) : List (Request κ) → List String
  | [] => []
  | request :: rest =>
    (request.typedName?.filter fun _ => Settles (clock.after namePause) clock rest).toList ++
      settledNames (request.clockAfter clock) rest

/-! ### From request to request -/

/-- The name that waits after a request. -/
def waits (clock : Instant) (waiting? : Option (Instant × String)) (request : Request κ) :
    Option (Instant × String) :=
  match request.typedName? with
  | some name => some (clock.after namePause, name)
  | none =>
    if request.isTick then waiting?.filter fun waiting => !waiting.1.isDueAt clock else waiting?

/-- The name that counts from a request on. -/
def counts (clock : Instant) (waiting? : Option (Instant × String)) (request : Request κ) :
    Option String :=
  if request.isTick then (waiting?.filter fun waiting => waiting.1.isDueAt clock).map Prod.snd
  else none

/-- The names that count when one waits at first. -/
def countingNames (clock : Instant) (waiting? : Option (Instant × String)) :
    List (Request κ) → List String
  | [] => []
  | request :: rest => (request.counts clock waiting?).toList ++
      countingNames (request.clockAfter clock) (request.waits clock waiting?) rest

/-- A tick leaves a name alone as long as the pause is not over. -/
theorem tick_of_undue {clock : Instant} {waiting? : Option (Instant × String)}
    (hundue : ∀ deadline name, waiting? = some (deadline, name) →
      deadline.isDueAt clock = false) :
    (tick (κ := κ)).waits clock waiting? = waiting? ∧
      (tick (κ := κ)).counts clock waiting? = none := by
  cases waiting? with
  | none => exact ⟨rfl, rfl⟩
  | some waiting =>
      have hnot := hundue waiting.1 waiting.2 rfl
      simp [waits, counts, typedName?, isTick, Option.filter, hnot]

/-- When the pause is over the name counts from the tick on. -/
theorem tick_of_due {clock deadline : Instant} (name : String)
    (hdue : deadline.isDueAt clock = true) :
    (tick (κ := κ)).waits clock (some (deadline, name)) = none ∧
      (tick (κ := κ)).counts clock (some (deadline, name)) = some name := by
  simp [waits, counts, typedName?, isTick, Option.filter, hdue]

/-- What is told from request to request is what is told of the whole: the name that waits counts if
it settles, and so does each name that is typed. -/
theorem countingNames_eq (clock : Instant) (waiting? : Option (Instant × String))
    (requests : List (Request κ)) :
    countingNames clock waiting? requests =
      ((waiting?.filter fun waiting => Settles waiting.1 clock requests).map Prod.snd).toList ++
        settledNames clock requests := by
  induction requests generalizing clock waiting? with
  | nil =>
      have hnever : ∀ deadline, ¬ Settles deadline clock ([] : List (Request κ)) := by
        rintro deadline ⟨between, rest, hsplit, -⟩
        simp at hsplit
      cases waiting? <;> simp [countingNames, settledNames, Option.filter, hnever]
  | cons request rest ih =>
      unfold countingNames settledNames
      rw [ih]
      -- A request types a name, is a tick or is neither; what waits is replaced, may settle, or
      -- goes on.
      cases htyped : request.typedName? with
      | some name =>
          have htick : request.isTick = false := by
            cases request <;> first | rfl | cases htyped
          have hclock : request.clockAfter clock = clock := by
            cases request <;> first | rfl | cases htyped
          have hnever : ∀ deadline, ¬ Settles deadline clock (request :: rest) := by
            simp [settles_cons, htick, htyped]
          cases waiting? <;>
            simp [counts, waits, Option.filter, htick, htyped, hclock, hnever, apply_ite]
      | none =>
          cases waiting? with
          | none => simp [counts, waits, htyped]
          | some waiting =>
              cases htick : request.isTick with
              | false =>
                  simp [counts, waits, Option.filter, htick, htyped, settles_cons]
              | true =>
                  cases hdue : waiting.1.isDueAt clock <;>
                    simp [counts, waits, Option.filter, htick, htyped, hdue, settles_cons]

end Request

/-! ## What a request does to names -/

namespace Session

/-- What a request does to the name that waits and to the names that have counted. -/
structure Advances (id : DebouncerId) (waiting? : Option (Instant × String))
    (request : Request Empty) (before after : Session Empty S) : Prop where
  greets : after.Greets id (request.waits before.clock waiting?)
  clock_eq : after.clock = request.clockAfter before.clock
  settled : Entry.settledNames after.journal =
    (request.counts before.clock waiting?).toList ++ Entry.settledNames before.journal

variable {session : Session Empty S} {id : DebouncerId} {waiting? : Option (Instant × String)}

/-- At a tick the name that waits counts if the pause is over. -/
theorem Greets.advances_tick (depth : Nat) (greets : session.Greets id waiting?)
    (tracked : Core.Tracked (fun request => request.isUsual = true) id [] session.core) :
    Advances id waiting? .tick session (tick.run (Code.plain.caller (depth + 1)) session).2 := by
  have rendered := namesStay_tick depth session
  have hclear : ¬ (Request.clearTasks (κ := Empty)).isUsual = true := Bool.false_ne_true
  by_cases hundue : ∀ deadline name, waiting? = some (deadline, name) →
      deadline.isDueAt session.clock = false
  · obtain ⟨hwaits, hcounts⟩ := Request.tick_of_undue (κ := Empty) hundue
    have stay := (greets.namesStay_caughtUp (depth + 1) hclear tracked hundue).trans rendered
    exact ⟨hwaits.symm ▸ greets.stay stay, congrArg Naming.clock stay.naming_eq,
      by rw [hcounts]; exact stay.settledNames_eq⟩
  · simp only [not_forall, Bool.not_eq_false] at hundue
    obtain ⟨deadline, name, rfl, hdue⟩ := hundue
    obtain ⟨hwaits, hcounts⟩ := Request.tick_of_due (κ := Empty) name hdue
    have settles := (greets.nameSettles_caughtUp depth (Code.within_plain _) hclear
      (fun _ _ => Bool.false_ne_true) tracked hdue).stay rendered
    obtain ⟨after, hsettled⟩ := greets.settles settles
    exact ⟨hwaits.symm ▸ after, congrArg Naming.clock settles.naming_eq,
      by rw [hcounts]; exact hsettled⟩

/-- Between ticks the same name waits if no other one is typed. -/
theorem Greets.perform (depth : Nat) (greets : session.Greets id waiting?)
    {request : Request Empty} (husual : request.isUsual = true) (htick : request ≠ .tick)
    (huntyped : ∀ event copy debouncer, request = .dispatchEvent event →
      session.handlerOf? event ≠ some (.nameTyped copy debouncer))
    (inOrder : session.fixtures.InOrder)
    (hactive : session.extensions.isActive Builtin.helloWorld.name = true)
    (hstill : (request.perform.run (Code.plain.caller (depth + 1)) session).2.extensions.isActive
      Builtin.helloWorld.name = true) :
    let after := (request.perform.run (Code.plain.caller (depth + 1)) session).2
    after.Greets id waiting? ∧ after.clock = request.clockAfter session.clock ∧
      Entry.settledNames after.journal = Entry.settledNames session.journal := by
  -- The clock is part of what is compared, so the requests that set it are told apart.
  cases hsets : request.setsClock with
  | true =>
      have hclock : (request.perform.run (Code.plain.caller (depth + 1)) session).2 =
          { session with clock := request.clockAfter session.clock } := by
        cases request with
        | advance span => rfl
        | setClock now => rfl
        | _ => cases hsets
      dsimp only
      rw [hclock]
      exact ⟨greets.congr rfl rfl ⟨[], rfl, by simp⟩, rfl, rfl⟩
  | false =>
      have stay := namesStay_perform depth husual htick hsets huntyped inOrder hactive hstill
      have hclock : request.clockAfter session.clock = session.clock := by
        cases request with
        | advance span => cases hsets
        | setClock now => cases hsets
        | _ => rfl
      exact ⟨greets.stay stay, (congrArg Naming.clock stay.naming_eq).trans hclock.symm,
        stay.settledNames_eq⟩

/-- A request that is made when names are taken. -/
theorem Greets.advances (depth : Nat) (greets : session.Greets id waiting?)
    (takes : session.TakesNames id) {request : Request Empty} (husual : request.isUsual = true)
    (inOrder : session.fixtures.InOrder)
    (tracked : Core.Tracked (fun request => request.isUsual = true) id [] session.core)
    (hactive : session.extensions.isActive Builtin.helloWorld.name = true)
    (hstill : (request.perform.run (Code.plain.caller (depth + 1)) session).2.extensions.isActive
      Builtin.helloWorld.name = true)
    (unrefused : (request.perform.run (Code.plain.caller (depth + 1)) session).2.Unrefused) :
    let after := (request.perform.run (Code.plain.caller (depth + 1)) session).2
    Advances id waiting? request session after ∧ after.TakesNames id := by
  by_cases htick : request = .tick
  · subst htick
    have advances := greets.advances_tick depth tracked
    exact ⟨advances, advances.greets.takesNames_tick depth inOrder hstill unrefused fun _ => takes⟩
  have hnot : request.isTick = false := by
    cases request with
    | tick => exact absurd rfl htick
    | _ => rfl
  have hcounts : request.counts session.clock waiting? = none := by simp [Request.counts, hnot]
  refine ⟨?_, takes.between (Offscreen.of_madeOf (Offscreen.perform _ husual htick) session)⟩
  cases htyped : request.typedName? with
  | some name =>
      cases request with
      | dispatchEvent event =>
          have htypes : event.typesName = true ∧ typedName event = name := by
            simpa [Request.typedName?, Option.ite_none_right_eq_some] using htyped
          obtain ⟨htypes, rfl⟩ := htypes
          have hwaits : (Request.dispatchEvent (κ := Empty) event).waits session.clock waiting? =
              some (session.clock.after namePause, typedName event) := by
            simp [Request.waits, htyped]
          obtain ⟨after, hclock, hsettled⟩ :=
            greets.typed depth ((takes event 0 id).2 ⟨htypes, rfl, rfl⟩)
          exact ⟨hwaits ▸ after, hclock, by rw [hcounts]; exact hsettled⟩
      | _ => cases htyped
  | none =>
      have hwaits : request.waits session.clock waiting? = waiting? := by
        simp [Request.waits, htyped, hnot]
      -- By the picture on display only the input of the greeting types names.
      have huntyped : ∀ event copy debouncer, request = .dispatchEvent event →
          session.handlerOf? event ≠ some (.nameTyped copy debouncer) := by
        rintro event copy debouncer rfl hhandler
        have htypes := ((takes event copy debouncer).1 hhandler).1
        simp [Request.typedName?, htypes] at htyped
      obtain ⟨after, hclock, hsettled⟩ :=
        greets.perform depth husual htick huntyped inOrder hactive hstill
      exact ⟨hwaits.symm ▸ after, hclock, by rw [hcounts]; exact hsettled⟩

end Session

/-! ## Over a run -/

/-- The names that count when names are taken. -/
theorem Code.Runs.settledNames_runAll {config : ShellConfig} {host : Host} {app : S}
    {session : Session Empty S} (runs : Code.plain.Runs (fun request => request.isUsual = true)
      (Code.plain.launch config host app) session)
    {requests : List (Request Empty)} (husual : ∀ request ∈ requests, request.isUsual = true)
    (hactive : ∀ done, done <+: requests → (Code.plain.runAll done session).extensions.isActive
      Builtin.helloWorld.name = true)
    (unrefused : (Code.plain.runAll requests session).Unrefused)
    {id : DebouncerId} {waiting? : Option (Instant × String)}
    (greets : session.Greets id waiting?) (takes : session.TakesNames id) :
    let last := Code.plain.runAll requests session
    (∃ waiting?, last.Greets id waiting?) ∧
      Entry.settledNames last.journal =
        (Request.countingNames session.clock waiting? requests).reverse ++
          Entry.settledNames session.journal := by
  induction requests generalizing session waiting? with
  | nil => exact ⟨⟨waiting?, greets⟩, rfl⟩
  | cons request rest ih =>
      have husual' := husual request List.mem_cons_self
      have within := Code.within_plain (S := S) fun request => request.isUsual = true
      obtain ⟨advances, takes⟩ := greets.advances 199 takes husual'
        (runs.inOrder (Code.within_plain _))
        (runs.tracked within (fun _ _ => Bool.false_ne_true) id)
        (hactive [] List.nil_prefix) (hactive [request] (List.prefix_append [request] rest))
        (unrefused.before (Code.exists_noted_runAll within
          (fun other hother => husual other (List.mem_cons_of_mem request hother)) _))
      have later := ih (.request request husual' runs)
        (fun other hother => husual other (List.mem_cons_of_mem request hother))
        (fun done hdone => hactive (request :: done) ((List.prefix_cons_inj request).2 hdone))
        unrefused advances.greets takes
      -- The names that count from here on start from what this request leaves waiting.
      have hclock : (Code.plain.run request.perform session).2.clock = _ := advances.clock_eq
      have hsettled : Entry.settledNames (Code.plain.run request.perform session).2.journal = _ :=
        advances.settled
      refine ⟨later.1, later.2.trans ?_⟩
      rw [hclock, hsettled, Request.countingNames]
      cases request.counts session.clock waiting? <;> simp

/-! ### Before the first tick -/

/-- Before the first tick nothing that is typed is taken. -/
theorem Code.Runs.greets_runAll {config : ShellConfig} {host : Host} {app : S}
    {session : Session Empty S} (runs : Code.plain.Runs (fun request => request.isUsual = true)
      (Code.plain.launch config host app) session)
    {requests : List (Request Empty)} (husual : ∀ request ∈ requests, request.isUsual = true)
    (hunticked : .tick ∉ requests)
    (hactive : ∀ done, done <+: requests → (Code.plain.runAll done session).extensions.isActive
      Builtin.helloWorld.name = true)
    {id : DebouncerId} {waiting? : Option (Instant × String)}
    (greets : session.Greets id waiting?) (unrendered : session.Unrendered) :
    let last := Code.plain.runAll requests session
    last.Greets id waiting? ∧ last.Unrendered ∧
      Entry.settledNames last.journal = Entry.settledNames session.journal := by
  induction requests generalizing session with
  | nil => exact ⟨greets, unrendered, rfl⟩
  | cons request rest ih =>
      have husual' := husual request List.mem_cons_self
      have htick : request ≠ .tick := fun heq => hunticked (heq ▸ List.mem_cons_self)
      obtain ⟨greets, -, hsettled⟩ := greets.perform 199 husual' htick
        (fun event copy debouncer _ hhandler => by
          cases (unrendered.handlerOf?_eq event).symm.trans hhandler)
        (runs.inOrder (Code.within_plain _)) (hactive [] List.nil_prefix)
        (hactive [request] (List.prefix_append [request] rest))
      have unrendered := unrendered.between
        (Offscreen.of_madeOf (Offscreen.perform 200 husual' htick) session)
      obtain ⟨greets, unrendered, hsame⟩ := ih (.request request husual' runs)
        (fun other hother => husual other (List.mem_cons_of_mem request hother))
        (fun hmem => hunticked (List.mem_cons_of_mem request hmem))
        (fun done hdone => hactive (request :: done) ((List.prefix_cons_inj request).2 hdone))
        greets unrendered
      exact ⟨greets, unrendered, hsame.trans hsettled⟩

/-- With the first tick names begin to be taken. -/
theorem Code.exists_greets_first (config : ShellConfig) (host : Host) (app : S)
    {before : List (Request Empty)} (husual : ∀ request ∈ before, request.isUsual = true)
    (hunticked : .tick ∉ before)
    (hactive : ∀ done, done <+: before ++ [.tick] → (Code.plain.runAll done
      (Code.plain.launch config host app)).extensions.isActive Builtin.helloWorld.name = true)
    (unrefused : (Code.plain.runAll (before ++ [.tick])
      (Code.plain.launch config host app)).Unrefused) :
    let first := Code.plain.runAll (before ++ [.tick]) (Code.plain.launch config host app)
    (∃ id, first.Greets id none ∧ first.TakesNames id) ∧ Entry.settledNames first.journal = [] ∧
      first.clock = (Code.plain.runAll before (Code.plain.launch config host app)).clock := by
  let launched : Session Empty S := Code.plain.launch config host app
  have within := Code.within_plain (S := S) fun request => request.isUsual = true
  have untyped : launched.Untyped := untyped_start 199 config host app
  have launch : Code.plain.Runs (fun request => request.isUsual = true) launched launched := .refl
  obtain ⟨id, greets⟩ := untyped.exists_greets (launch.inOrder (Code.within_plain _))
    (hactive [] List.nil_prefix)
  obtain ⟨greets, unrendered, hsettled⟩ := launch.greets_runAll husual hunticked
    (fun done hdone => hactive done (hdone.trans (List.prefix_append before [.tick]))) greets
    (unrendered_start _ config host app)
  have runs := launch.runAll husual
  have advances := greets.advances_tick 199 (runs.tracked within (fun _ _ => Bool.false_ne_true) id)
  rw [Code.runAll_append] at unrefused ⊢
  have hstill := hactive _ List.prefix_rfl
  rw [Code.runAll_append] at hstill
  have inOrder := runs.inOrder (Code.within_plain _)
  -- Nothing has been rendered before the first tick, so this tick puts the input on display.
  have takes := advances.greets.takesNames_tick 199 inOrder hstill unrefused
    fun hrendered => absurd unrendered.renderedVersion?_eq hrendered
  have hnone := settledNames_eq_nil untyped.noted
  exact ⟨⟨id, advances.greets, takes⟩, advances.settled.trans (hsettled.trans hnone),
    advances.clock_eq⟩

/-! ## What is shown -/

/-- A host that is up to date was told of the name that is greeted. -/
theorem Session.UpToDate.greeting {session : Session Empty S} (upToDate : session.UpToDate)
    {id : DebouncerId}
    (hpanels : session.panelHost.panels.entries = [(greetingPanelId, .greeting 0 id)]) :
    session.shownText? "panel::hello-world::text" =
      some (Session.greeting (session.greeter 0).name) := by
  have hpanel : greetingPanel 0 id (session.greeter 0).name ∈
      session.nodesOf session.panelHost.panels.entries := by
    rw [hpanels]
    exact List.mem_singleton_self _
  -- The text is a member of the greeting panel, so of the stack of panels, so of the tree.
  have htext : ∀ parent index, ("panel::hello-world::text",
      (Node.ofText (Session.greeting (session.greeter 0).name)).withId
        "panel::hello-world::text") ∈
      (panelStack session.panelHost.ui (session.nodesOf session.panelHost.panels.entries)).members
        parent index :=
    Node.mem_members_of_child (Node.mem_members_of_child (Node.mem_members_self rfl)
      List.mem_cons_self) hpanel
  have hdisplays := upToDate.displays _ (Node.mem_members_of_child htext List.mem_cons_self none 0)
  exact hdisplays.shownText?_eq rfl

/-- The name that is greeted is the one that was typed last and then left alone for the pause.

From the first tick on, a name counts from the first tick that comes when the pause is over, if no
other name has been typed by then.  The extensions may be managed, keys pressed and panels shown in
between, in any order, as long as the greeting extension is active.  After every tick the host was
told last to greet the last name that has counted, if it has refused nothing and no version has come
around since the last render. -/
theorem greeting_follows (config : ShellConfig) (host : Host) (app : S)
    (before after : List (Request Empty))
    (husual : ∀ request ∈ before ++ .tick :: after, request.isUsual = true)
    (hfirst : .tick ∉ before)
    (hactive : ∀ done, done <+: before ++ .tick :: after → (Code.plain.runAll done
      (Code.plain.launch config host app)).extensions.isActive Builtin.helloWorld.name = true)
    (unrefused : (Code.plain.runAll (before ++ .tick :: after)
      (Code.plain.launch config host app)).Unrefused) :
    let launched := Code.plain.launch config host app
    let session := Code.plain.runAll (before ++ .tick :: after) launched
    let names := Request.settledNames (Code.plain.runAll before launched).clock after
    (Entry.settledNames session.journal).reverse = names ∧
      (session.greeter 0).name = names.getLast?.getD "" ∧
      ∀ done, before ++ .tick :: after = done ++ [.tick] →
        (Code.plain.runAll done launched).Unwrapped →
          session.shownText? "panel::hello-world::text" =
            some (Session.greeting (names.getLast?.getD "")) := by
  intro launched session names
  let first := Code.plain.runAll (before ++ [.tick]) launched
  have hsplit : before ++ .tick :: after = (before ++ [.tick]) ++ after := by simp
  have hsession : session = Code.plain.runAll after first :=
    (congrArg (Code.plain.runAll · launched) hsplit).trans (Code.runAll_append _ _ _ _)
  have hstill : ∀ done, done <+: after → (Code.plain.runAll done first).extensions.isActive
      Builtin.helloWorld.name = true := by
    intro done hdone
    rw [← Code.runAll_append]
    exact hactive _ (hsplit ▸ (List.prefix_append_right_inj _).2 hdone)
  have launch : Code.plain.Runs (fun request => request.isUsual = true) launched launched := .refl
  have inOrder : session.fixtures.InOrder := (launch.runAll husual).inOrder (Code.within_plain _)
  have hnow : session.extensions.isActive Builtin.helloWorld.name = true :=
    hactive _ List.prefix_rfl
  rw [hsplit] at husual hactive
  have husual' : ∀ request ∈ before ++ [.tick], request.isUsual = true := fun request hmem =>
    husual request (List.mem_append_left after hmem)
  have hunrefused : (Code.plain.runAll after first).Unrefused := hsession ▸ unrefused
  obtain ⟨⟨id, greets, takes⟩, hnone, hclock⟩ := Code.exists_greets_first config host app
    (fun request hmem => husual' request (List.mem_append_left [.tick] hmem)) hfirst
    (fun done hdone => hactive done (hdone.trans (List.prefix_append _ after)))
    (hunrefused.before (Code.exists_noted_runAll (Code.within_plain _)
      (fun request hmem => husual request (List.mem_append_right _ hmem)) first))
  obtain ⟨⟨waiting?, greets⟩, hsettled⟩ := (launch.runAll husual').settledNames_runAll
    (fun request hmem => husual request (List.mem_append_right _ hmem)) hstill hunrefused greets
    takes
  -- No name counted before the first tick and none waits there, so only those after it are left.
  rw [hnone, List.append_nil, hclock, Request.countingNames_eq] at hsettled
  rw [← hsession] at greets hsettled
  have hnames : Entry.settledNames session.journal = names.reverse := hsettled
  have hlast : (Entry.settledNames session.journal).head?.getD "" = names.getLast?.getD "" := by
    rw [hnames, List.head?_reverse]
  have hgreeter : (session.greeter 0).name = names.getLast?.getD "" := by
    obtain ⟨state, hstate, hnaming⟩ := List.map_eq_singleton_iff.1 greets.greeters_eq
    unfold Session.greeter
    rw [hstate, ← hlast]
    exact congrArg Prod.fst hnaming
  refine ⟨by rw [hnames, List.reverse_reverse], hgreeter, fun done hdone unwrapped => ?_⟩
  have runs : Code.plain.Runs (fun request => request.isUsual = true) launched
      (Code.plain.runAll done launched) := launch.runAll fun request hmem =>
    husual request (hsplit ▸ hdone ▸ List.mem_append_left [.tick] hmem)
  have hticked : session = (Code.plain.run tick (Code.plain.runAll done launched)).2 :=
    (congrArg (Code.plain.runAll · launched) hdone).trans (Code.runAll_append _ _ _ _)
  -- The run ends with a tick, so what is displayed is what the greeter says now.
  have upToDate : session.UpToDate := by
    have hall : session.Unrefused := unrefused
    rw [hticked] at hall ⊢
    exact runs.upToDate_tick unwrapped hall
  rw [← hgreeter]
  exact upToDate.greeting (greets.panels_eq inOrder hnow)

/-- A name is typed, another one before the pause is over, and a third one that has no text. -/
def Session.typedRequests : List (Request Empty) :=
  [.dispatchEvent ⟨"panel::hello-world::input", .changeText, .string "Al"⟩, .advance ⟨299⟩, .tick,
    .dispatchEvent ⟨"panel::hello-world::input", .changeText, .string " Ada "⟩, .advance ⟨300⟩,
    .tick, .dispatchEvent ⟨"panel::hello-world::input", .changeText, .null⟩, .advance ⟨1⟩]

/-- A configuration with a greeting. -/
def Session.typingConfig : ShellConfig :=
  { ShellConfig.default with extensions := ["hello-world"] }

/-- Only one of the names counts. -/
theorem greeting_follows_ada :
    let requests := .tick :: (Session.typedRequests ++ [.tick])
    let launched := Code.plain.launch Session.typingConfig (.fresh .recording true) ()
    let session := Code.plain.runAll requests launched
    ((∀ request ∈ requests, request.isUsual = true) ∧
      (∀ done, done <+: requests → (Code.plain.runAll done launched).extensions.isActive
        Builtin.helloWorld.name = true) ∧
      session.Unrefused ∧ (Code.plain.runAll (.tick :: Session.typedRequests) launched).Unwrapped) ∧
    Entry.settledNames session.journal = ["Ada"] ∧ (session.greeter 0).name = "Ada" ∧
      session.shownText? "panel::hello-world::text" = some "Hello, Ada" := by
  have husual : ∀ request ∈ (.tick :: (Session.typedRequests ++ [.tick]) : List (Request Empty)),
      request.isUsual = true := by decide
  have hactive : ∀ done, done <+: .tick :: (Session.typedRequests ++ [.tick]) →
      (Code.plain.runAll done
        (Code.plain.launch Session.typingConfig (.fresh .recording true) ())).extensions.isActive
          Builtin.helloWorld.name = true := by
    intro done hdone
    rw [← List.mem_inits] at hdone
    revert done
    decide +kernel
  have hmoves : Entry.movesSince ((Code.plain.runAll (.tick :: Session.typedRequests)
      (Code.plain.launch Session.typingConfig (.fresh .recording true) ())).caughtUp
        (Code.plain.caller Code.nestingLimit)).journal < UInt64.size := by
    decide +kernel
  have hunrefused : (Code.plain.runAll (.tick :: (Session.typedRequests ++ [.tick]))
      (Code.plain.launch Session.typingConfig (.fresh .recording true) ())).journal.all
        (fun entry => !entry.isRefusal) = true := by
    decide +kernel
  have hnames : Request.settledNames (Code.plain.runAll []
      (Code.plain.launch Session.typingConfig (.fresh .recording true) ())).clock
        (Session.typedRequests ++ [.tick]) = ["Ada"] := by
    decide +kernel
  have follows := greeting_follows Session.typingConfig (.fresh .recording true) () [] _ husual
    (by simp) hactive (unrefused_of_all hunrefused)
  have hgreeting : Session.greeting ((["Ada"] : List String).getLast?.getD "") = "Hello, Ada" := by
    decide +kernel
  dsimp only at follows
  rw [hnames, hgreeting] at follows
  -- The session is a variable from here on, so that nothing evaluates it.
  generalize Code.plain.launch Session.typingConfig (.fresh .recording true) () = launched
    at hmoves hunrefused hactive follows ⊢
  obtain ⟨hsettled, hname, hshown⟩ := follows
  exact ⟨⟨husual, hactive, unrefused_of_all hunrefused, fun _ => hmoves⟩,
    List.reverse_eq_iff.1 hsettled, hname, hshown _ rfl fun _ => hmoves⟩

end EditorShell
