import EditorShell.Proofs.Run.Course

/-!
# Delivery of events

An event goes to those who listened when it was emitted, whatever they do meanwhile
(`events_delivered`).  While it is delivered listeners may come and go, and other events may be
emitted; the list of listeners was read before the first of them was called.

## Strategy

That the bus is orderly is kept by everything, since only the three operations of the bus change it.
What one delivery notes itself is found by induction on the list of listeners: each call adds its
return to the outermost entries of the journal, and what the listener does adds nothing.
-/

namespace EditorShell

open Json

variable {κ S : Type}

/-! ## The bus stays orderly -/

namespace Listening

/-- The bus is orderly. -/
def Orderly (_ : Unit) (session : Session κ S) : Prop := session.events.Orderly

/-- The bus is orderly at every moment. -/
def OrderlyAt (_ : Unit) (moment : Moment κ S) : Prop := moment.session.events.Orderly

theorem law : ViewLaw Session.events (fun _ => false) (Orderly (κ := κ) (S := S)) OrderlyAt where
  congr hview _ orderly := (congrArg EventBus.Orderly hview).mpr orderly
  note _ orderly := orderly
  moment _ orderly := orderly

theorem sees : (Upholding (Orderly (κ := κ) (S := S)) OrderlyAt).Sees Session.events
    fun _ => false := law.sees fun _ _ => rfl

theorem ordinary : (Upholding (Orderly (κ := κ) (S := S)) OrderlyAt).Ordinary :=
  sees.ordinary fun _ _ _ _ _ => ⟨rfl, fun _ => rfl⟩

theorem events : (Upholding (Orderly (κ := κ) (S := S)) OrderlyAt).Events where
  subscribe event listener :=
    .bind (.read _) fun id => .bind (.part (.change fun {_ session} (orderly :
      session.events.Orderly) => orderly.subscribe event listener)) fun _ => .pure id
  unsubscribe event id :=
    .bind (.read _) fun found => .bind (.part (.change fun {_ session} (orderly :
      session.events.Orderly) => orderly.unsubscribe event id)) fun _ => .pure found
  clearEvent event := .part (.change fun {_ session} (orderly : session.events.Orderly) =>
    orderly.clear event)
  emit := Act.Class.emit_of_call (fun _ _ _ => sees.call _ ⟨rfl, fun _ => rfl⟩)
    (sees.note_of (fun _ hevent => Entry.isCall_eq_false (.inl hevent)) fun _ _ => rfl)

/-- Everything keeps the bus orderly. -/
theorem governs : Governs (κ := κ) (S := S) (fun _ => True) (fun _ => True) Orderly
    OrderlyAt where
  covers := by
    have hidden : ∀ call : Call κ, call.Hidden fun _ => false := fun _ => ⟨rfl, fun _ => rfl⟩
    have panels := sees.panels (ordinary (κ := κ) (S := S)) rfl fun _ _ => rfl
    have core : (Upholding (Orderly (κ := κ) (S := S)) OrderlyAt).Core fun _ => True :=
      sees.core ordinary (fun _ => hidden _) (fun _ _ => hidden _) (fun _ _ => rfl) fun _ _ => rfl
    exact sees.covers ordinary (fun _ _ => rfl) (fun _ _ => hidden _) (fun _ _ _ _ _ _ _ => rfl)
      events panels core (sees.shell panels core (fun _ _ => rfl) fun _ _ _ => rfl)
  store _ orderly := orderly
  callback _ _ orderly := ⟨(), trivial, orderly⟩

/-- A shell starts with one listener. -/
theorem orderly_fresh (sink : ChordSink) (host : Host) (app : S) :
    (Session.fresh (κ := κ) sink host app).events.Orderly :=
  EventBus.orderly_empty.subscribe _ _

theorem orderly_of_passes {first session : Session κ S} (hfirst : first.events.Orderly)
    (hpasses : first.Passes (fun _ => True) session) : session.events.Orderly :=
  governs.passes (fun _ orderly => orderly) (fun _ orderly => orderly) ⟨(), trivial, hfirst⟩ hpasses

end Listening

/-! ## One delivery -/

/-- Whether a listener reported an error or panicked. -/
def isFailure : Guarded (Except HandlerError Unit) → Bool
  | .ok (.ok ()) => false
  | .ok (.error _) | .error _ => true

/-- The returns of listeners, first called first. -/
def answersOf (event : String) (payload : Value) :
    List (Subscription (Listener κ)) → List (Guarded (Except HandlerError Unit)) →
      List (Entry κ) :=
  List.zipWith fun subscription outcome =>
    .returned (.listener event subscription payload) outcome

/-- An event was delivered to these listeners, each called once and in this order, and the report
counts how they took it.  What they did meanwhile does not stand among the outermost entries. -/
structure Delivery (event : String) (payload : Value)
    (listeners : List (Subscription (Listener κ))) (report : EmitReport)
    (noted : List (Entry κ)) : Prop where
  calls : ∃ outcomes, outcomes.length = listeners.length ∧
    (Entry.outermost 0 noted).reverse = .emitBegan event payload ::
      (answersOf event payload listeners outcomes ++ [.emitEnded event report]) ∧
    report.failed = outcomes.countP isFailure
  total : report.delivered + report.failed = listeners.length

namespace Session

theorem failed_tally (report : EmitReport) (outcome : Guarded (Except HandlerError Unit)) :
    (tally report outcome).failed = report.failed + if isFailure outcome then 1 else 0 := by
  rcases outcome with panic | (error | ⟨⟨⟩⟩) <;> rfl

theorem total_tally (report : EmitReport) (outcome : Guarded (Except HandlerError Unit)) :
    (tally report outcome).delivered + (tally report outcome).failed =
      report.delivered + report.failed + 1 := by
  rcases outcome with panic | (error | ⟨⟨⟩⟩)
  · rfl
  · rfl
  · exact Nat.add_right_comm _ _ _

/-- Delivering to a list of listeners calls each of them, whatever the callbacks do. -/
theorem deliver_spec {caller : Caller κ S} (courses : caller.Courses) (event : String)
    (payload : Value) (listeners : List (Subscription (Listener κ))) (report : EmitReport)
    (session : Session κ S) :
    ∃ outcomes noted, outcomes.length = listeners.length ∧
      ((deliver event payload report listeners).run caller session).2.journal =
        noted ++ session.journal ∧
      Entry.Whole noted ∧
      (Entry.outermost 0 noted).reverse = answersOf event payload listeners outcomes ∧
      ((deliver event payload report listeners).run caller session).1.failed =
        report.failed + outcomes.countP isFailure ∧
      ((deliver event payload report listeners).run caller session).1.delivered +
          ((deliver event payload report listeners).run caller session).1.failed =
        report.delivered + report.failed + listeners.length := by
  induction listeners generalizing report session with
  | nil => exact ⟨[], [], rfl, rfl, .nil, rfl, rfl, rfl⟩
  | cons subscription rest ih =>
      obtain ⟨called, hcalled, hwhole, houtermost⟩ :=
        call_spec courses (.listener event subscription payload) session
      -- The outcome of the first call is a variable from here on: any outcome leads to the next.
      have hrun : (deliver event payload report (subscription :: rest)).run caller session =
          let answered := (Act.call (.listener event subscription payload)).run caller session
          (deliver event payload (tally report answered.1) rest).run caller answered.2 := rfl
      rw [hrun]
      generalize (Act.call (.listener event subscription payload)).run caller session = answered
        at hcalled houtermost ⊢
      obtain ⟨outcomes, noted, hlength, hjournal, whole, hcalls, hfailed, htotal⟩ :=
        ih (tally report answered.1) answered.2
      refine ⟨answered.1 :: outcomes, noted ++ called, by simp [hlength], ?_, whole.append hwhole,
        ?_, ?_, ?_⟩
      · rw [hjournal, hcalled, List.append_assoc]
      · rw [whole.outer, houtermost, List.reverse_append, hcalls]
        rfl
      · rw [hfailed, failed_tally, List.countP_cons]
        omega
      · rw [htotal, total_tally, List.length_cons]
        omega

/-- An event goes to those who listen when it is emitted. -/
theorem emit_spec {caller : Caller κ S} (courses : caller.Courses) (event : String)
    (payload : Value) (session : Session κ S) :
    ∃ noted, ((emit event payload).run caller session).2.journal = noted ++ session.journal ∧
      Delivery event payload (session.events.listeners event)
        ((emit event payload).run caller session).1 noted := by
  obtain ⟨outcomes, noted, hlength, hjournal, whole, hcalls, hfailed, htotal⟩ :=
    deliver_spec courses event payload (session.events.listeners event) ⟨0, 0⟩
      (session.noting (.emitBegan event payload))
  have hrun : (emit event payload).run caller session =
      let delivered := (deliver event payload ⟨0, 0⟩ (session.events.listeners event)).run caller
        (session.noting (.emitBegan event payload))
      (delivered.1, delivered.2.noting (.emitEnded event delivered.1)) := rfl
  rw [hrun]
  generalize (deliver event payload ⟨0, 0⟩ (session.events.listeners event)).run caller
    (session.noting (.emitBegan event payload)) = delivered at hjournal hfailed htotal ⊢
  refine ⟨.emitEnded event delivered.1 :: (noted ++ [.emitBegan event payload]), ?_,
    ⟨outcomes, hlength, ?_, by simpa using hfailed⟩, by simpa using htotal⟩
  · change .emitEnded event delivered.1 :: delivered.2.journal = _
    rw [hjournal]
    simp [noting]
  · rw [Entry.outermost_cons rfl, whole.outer]
    simp [hcalls, Entry.outermost]

end Session

/-! ## All of them -/

/-- What the bus of a session promises. -/
structure Session.EventsKept (session : Session κ S) : Prop where
  /-- Each event in the table has listeners, in the order of their numbers; no number belongs to two
  of them. -/
  orderly : session.events.Orderly
  /-- Whoever listens later under a number given out by now has been listening all the time. -/
  grows : ∀ later, session.Precedes (fun _ => True) later → session.events.Grows later.events
  /-- An event goes to those who listen now, whatever callbacks do. -/
  emit : ∀ (code : Code κ S), code.Within (fun _ => True) → ∀ depth event payload, ∃ noted,
    ((Session.emit event payload).run (code.caller depth) session).2.journal =
        noted ++ session.journal ∧
      Delivery event payload (session.events.listeners event)
        ((Session.emit event payload).run (code.caller depth) session).1 noted
  /-- Unsubscribing takes one subscription away or does nothing. -/
  unsubscribe : ∀ caller event id, ∃ found events,
    (Session.unsubscribe event id).run caller session = (found, { session with events := events }) ∧
      session.events.Unsubscribed event id found events

/-- A session with a listener of its own, to whom an event was delivered. -/
def Listening.listeningSession : Session Unit Unit :=
  ((Request.emit "tick" .null).perform.run (Code.accepting.caller 1)
    ((Request.subscribe "tick" ()).perform.run (Code.accepting.caller 1)
      (.fresh .nobody (.fresh .recording true) ())).2).2

/-- In every session on the way of a run, also in the middle of a delivery, the bus is orderly,
gives out no number twice, delivers to exactly those who listen, and takes away what it is asked
to. -/
theorem events_delivered {sink : ChordSink} {host : Host} {app : S} {session : Session κ S}
    (hpasses : (Session.fresh sink host app).Passes (fun _ => True) session) :
    session.EventsKept := by
  have orderly : session.events.Orderly :=
    Listening.orderly_of_passes (Listening.orderly_fresh sink host app) hpasses
  exact
    { orderly := orderly
      grows := fun later precedes => precedes.lasts.events
      emit := fun code within depth event payload =>
        Session.emit_spec (code.courses within depth) event payload session
      unsubscribe := fun caller event id => ⟨_, _, rfl, orderly.unsubscribed event id⟩ }

theorem events_delivered_listening :
    (Session.fresh .nobody (.fresh .recording true) ()).Passes (fun _ => True)
        Listening.listeningSession ∧
      Listening.listeningSession.EventsKept := by
  have within := Code.within_accepting fun _ => True
  have hpasses : (Session.fresh .nobody (.fresh .recording true) ()).Passes (fun _ => True)
      Listening.listeningSession :=
    .reached (.act (.request (.emit "tick" .null) trivial) within
      (.act (.request (.subscribe "tick" ()) trivial) within .refl))
  exact ⟨hpasses, events_delivered hpasses⟩

end EditorShell
