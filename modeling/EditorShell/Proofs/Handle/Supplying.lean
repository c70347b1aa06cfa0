import EditorShell.Proofs.Handle.Supply
import EditorShell.Proofs.Task.Batch
import EditorShell.Proofs.Widget.Unmounting

/-!
# Runs keep the supply of handles

Whatever is done in a session whose program leaves the slots to the bridge and the host keeps the
supply of handles (`Supplying.governs`), as long as nothing is rejected and the slots of the widgets
are apart.

## Strategy

While a message is on its way the host runs, and it may do what it likes with jobs and with the
slots of widgets that are not mounted.  So the law is carried up to the answer
(`Supplying.Replied`), and what the bridge does after the answer is added by hand.
-/

namespace EditorShell

variable {κ S : Type}

/-- Whether a request reads or writes the slots past the bridge. -/
def Request.usesSlots : Request κ → Bool
  | .publish _ _ | .takeHandle _ | .sendDirectly _ => true
  | _ => false

/-- The program leaves the slots to the bridge and the host, and no two of `names` share a slot. -/
structure SlotsApart (allowed : Request κ → Prop) (names : NodeId → Prop) : Prop where
  slots : ∀ request, allowed request → request.usesSlots = false
  unmount : ∀ id, allowed (.unmount id) → names id
  injective : ∀ id id', names id → names id' → slotName id = slotName id' → id = id'

namespace Supplying

/-- As long as nothing was disturbed there is a supply of handles. -/
def Holds (names : NodeId → Prop) (held : List (Task (Job κ))) (session : Session κ S) : Prop :=
  Undisturbed names session.journal → Supplied names held session

/-- As long as nothing is disturbed with the entry of a moment there is a supply of handles then. -/
def HoldsAt (names : NodeId → Prop) (moment : Moment κ S) : Prop :=
  ∃ held, Undisturbed names (moment.entry :: moment.session.journal) →
    Supplied names held moment.session

variable {names : NodeId → Prop} {held : List (Task (Job κ))} {session later : Session κ S}

theorem Holds.mono (holds : Holds names held session) {rest : List (Task (Job κ))}
    (hjournal : session.journal <:+ later.journal)
    (hsupplied : Supplied names held session → Supplied names rest later) :
    Holds names rest later :=
  fun undisturbed => hsupplied (holds (undisturbed.of_suffix hjournal))

theorem Holds.leaving {task : Task (Job κ)} (holds : Holds names (task :: held) session) :
    Holds names held session :=
  fun undisturbed => (holds undisturbed).leaving

theorem Holds.at (holds : Holds names held session) (entry : Entry κ) :
    HoldsAt names ⟨entry, session⟩ :=
  ⟨held, fun undisturbed => holds (undisturbed.of_suffix (List.suffix_cons _ _))⟩

/-- The part of a session that the law is about. -/
def view (session : Session κ S) :
    Bridge (Handler κ) × HandleSlots × Host × Scheduler (Job κ) :=
  (session.bridge, session.slots, session.host, session.scheduler)

/-- The acts that keep the supply. -/
abbrev Keepers (κ S : Type) (names : NodeId → Prop) : Act.Class κ S :=
  Upholding (Holds (κ := κ) (S := S) names) fun _ => HoldsAt names

theorem law : ViewLaw view Entry.isSupply (Holds (κ := κ) (S := S) names)
    fun _ => HoldsAt names where
  congr {held session later} hview hjournal holds := by
    simp only [view, Prod.mk.injEq] at hview
    obtain ⟨hbridge, hslots, hhost, hscheduler⟩ := hview
    refine holds.mono (hjournal ▸ List.suffix_refl _) fun supplied => ?_
    exact supplied.congr (by simp [hbridge]) (by rw [hbridge]) (by rw [hbridge]) hslots hhost
      hscheduler (by simp [hjournal]) (by simp [hjournal])
  note hentry holds := holds.mono (List.suffix_cons _ _) fun supplied => supplied.noting hentry
  moment _ holds := holds.at _

theorem Holds.congr (holds : Holds names held session) (hview : view later = view session)
    (hjournal : later.journal = session.journal) : Holds names held later :=
  law.congr hview hjournal holds

theorem sees : (Keepers κ S names).Sees view Entry.isSupply := law.sees fun _ _ => rfl

theorem hidden (call : Call κ) : call.Hidden Entry.isSupply := ⟨rfl, fun _ => rfl⟩

theorem ordinary : (Keepers κ S names).Ordinary := sees.ordinary fun call _ _ _ _ => hidden call

/-- A change that only adds to the journal. -/
theorem change {f : Session κ S → Session κ S}
    (hjournal : ∀ session : Session κ S, session.journal <:+ (f session).journal)
    (hf : ∀ {held} {session : Session κ S}, Supplied names held session →
      Supplied names held (f session)) : (Act.change f).MadeOf (Keepers κ S names) :=
  .part (.change fun {_ session} holds => holds.mono (hjournal session) hf)

theorem cancelTask (id : TaskId) (reason : CancellationReason) :
    (Session.cancelTask id reason : Act κ S Unit).MadeOf (Keepers κ S names) :=
  change (fun _ => List.suffix_refl _) fun supplied => supplied.cancelling id reason

theorem jobs {allowed : Request κ → Prop} : (Keepers κ S names).Jobs allowed := by
  refine .of_change cancelTask (fun deadline job hjob => ?_) (fun _ => ?_) fun f =>
    sees.aside (fun _ => rfl) fun _ => rfl
  · exact .bind (.read _) fun id => .bind (change (fun _ => List.suffix_cons _ _)
      fun supplied => supplied.scheduling deadline hjob) fun _ => .pure id
  · refine change (fun _ => List.suffix_refl _) fun supplied => supplied.withScheduler ?_ rfl
    exact fun task hmem => List.mem_append_right _ hmem

/-! ### Messages -/

/-- The host was offered a message: the bridge is as before, and what the host accepted it did. -/
structure Offered (names : NodeId → Prop) (held : List (Task (Job κ))) (message : HostMessage)
    (before : Session κ S) (accepted : Bool) (after : Session κ S) : Prop where
  holds : Holds names held after
  bridge_eq : after.bridge = before.bridge
  journal_suffix : before.journal <:+ after.journal
  mounted : accepted = true → Undisturbed names after.journal → ∀ node, message = .mount node →
    after.host.recording.live.contains node.id = true
  published : accepted = true → Undisturbed names after.journal → ∀ id,
    message = .requestHandle id → before.bridge.isMounted id = true →
      (after.slots.peek? id).isSome = true

theorem Offered.of_refused {message : HostMessage} {before after : Session κ S}
    (holds : Holds names held after) (hbridge : after.bridge = before.bridge)
    (hjournal : before.journal <:+ after.journal) :
    Offered names held message before false after :=
  ⟨holds, hbridge, hjournal, fun haccepted => (by cases haccepted),
    fun haccepted => by cases haccepted⟩

variable {caller : Caller κ S}

/-- The host is called: the law goes on, and the bridge stays as it is. -/
theorem meets_call (apart : caller.HostApart)
    (upholds : caller.Upholds (Holds names) fun _ => HoldsAt names) (message : HostMessage)
    (holds : Holds names held session) :
    (Act.call (.host message)).Meets (HoldsAt names) caller session fun _ after =>
      Holds names held after ∧ after.bridge = session.bridge ∧
        session.journal <:+ after.journal := by
  have hcalled : Holds names held (session.noting (.called (.host message))) :=
    law.note rfl holds
  refine .call (holds.at _) (upholds.moments _ hcalled) fun outcome after hanswer => ?_
  have hkept := upholds.answer (.host message) hcalled
  have hbridge := apart.bridge_eq message (session.noting (.called (.host message)))
  obtain ⟨noted, hjournal, -⟩ := apart.journal_eq message (session.noting (.called (.host message)))
  rw [hanswer] at hkept hbridge hjournal
  refine ⟨hkept.at _, law.note rfl hkept, hbridge, ?_⟩
  have hafter : after.journal = noted ++ .called (.host message) :: session.journal := hjournal
  change session.journal <:+ .returned (.host message) outcome :: after.journal
  rw [hafter]
  exact ((List.suffix_cons _ _).trans (List.suffix_append _ _)).trans (List.suffix_cons _ _)

/-- A host that a message was handed to acts on it. -/
theorem Offered.of_taken {message : HostMessage} {before called : Session κ S} {accepted : Bool}
    (holds : Holds names held called) (hbridge : called.bridge = before.bridge)
    (hjournal : before.journal <:+ called.journal)
    (hunmount : ∀ node, message = .unmount node → before.bridge.isMounted node.id = false)
    (hanswer : accepted = true → (called.host.take called.slots message).1 = .ok ()) :
    Offered names held message before accepted { called with
      host := (called.host.take called.slots message).2.1
      slots := (called.host.take called.slots message).2.2
      journal := Session.publicationEntry called.host message ++ called.journal } := by
  have hsuffix : called.journal <:+
      Session.publicationEntry called.host message ++ called.journal := List.suffix_append _ _
  have takes := called.host.recording.takes_take called.slots message
  -- While nobody meddles, the host answers what its recording says.
  have htake : Undisturbed names (Session.publicationEntry called.host message ++ called.journal) →
      Supplied names held called ∧ called.host.take called.slots message =
        ((called.host.recording.take called.slots message).1,
          { called.host with
            recording := (called.host.recording.take called.slots message).2.1 },
          (called.host.recording.take called.slots message).2.2) := by
    intro undisturbed
    have supplied := holds (undisturbed.of_suffix hsuffix)
    exact ⟨supplied, Host.take_eq_of_recording supplied.kind_eq called.slots message⟩
  refine ⟨holds.mono hsuffix fun supplied => supplied.taking ?_, hbridge, hjournal.trans hsuffix,
    ?_, ?_⟩
  · rw [hbridge]
    exact hunmount
  · intro haccepted undisturbed node hmount
    obtain ⟨-, heq⟩ := htake undisturbed
    have hok := hanswer haccepted
    rw [heq] at hok
    dsimp only
    rw [heq]
    exact takes.mounted hok node hmount
  · intro haccepted undisturbed id hrequest hmounted
    obtain ⟨supplied, heq⟩ := htake undisturbed
    have hok := hanswer haccepted
    rw [heq] at hok
    dsimp only
    rw [heq]
    rw [← hbridge] at hmounted
    exact takes.published hok supplied.publishes id hrequest (supplied.live id hmounted)

theorem meets_attempt (apart : caller.HostApart)
    (upholds : caller.Upholds (Holds names) fun _ => HoldsAt names) {message : HostMessage}
    (hunmount : ∀ node, message = .unmount node → session.bridge.isMounted node.id = false)
    (holds : Holds names held session) :
    (Session.attempt message).Meets (HoldsAt names) caller session fun accepted after =>
      Offered names held message session accepted after := by
  refine .bind (R := fun answer after => ∀ accepted, (accepted = true → answer = .ok (.ok ())) →
    Offered names held message session accepted after) ?_ ?_
  · refine .bind (meets_call apart upholds message holds) ?_
    rintro outcome called ⟨hholds, hbridge, hjournal⟩
    rcases outcome with panic | refusal | ⟨⟩
    · refine .pure fun accepted haccepted => ?_
      cases accepted with
      | false => exact .of_refused hholds hbridge hjournal
      | true => cases haccepted rfl
    · refine .pure fun accepted haccepted => ?_
      cases accepted with
      | false => exact .of_refused hholds hbridge hjournal
      | true => cases haccepted rfl
    · -- The program's part of the host lets the host act.
      refine .bind (R := fun answer after => ∀ accepted, (accepted = true → answer = .ok ()) →
        Offered names held message session accepted after) ?_ fun answer after hafter => ?_
      · refine .read_bind (.change_bind (.pure fun accepted haccepted => ?_))
        exact .of_taken hholds hbridge hjournal hunmount haccepted
      · exact .pure fun accepted haccepted => hafter accepted fun hyes =>
          Except.ok.inj (haccepted hyes)
  · intro answer after hafter
    rcases answer with panic | refusal | ⟨⟩
    · exact .pure (hafter false fun haccepted => by cases haccepted)
    · exact .pure (hafter false fun haccepted => by cases haccepted)
    · exact .pure (hafter true fun _ => rfl)

theorem meets_offer (apart : caller.HostApart)
    (upholds : caller.Upholds (Holds names) fun _ => HoldsAt names) {message : HostMessage}
    (hunmount : ∀ node, message = .unmount node → session.bridge.isMounted node.id = false)
    (holds : Holds names held session) :
    (Session.offer message).Meets (HoldsAt names) caller session fun accepted after =>
      Offered names held message session accepted after := by
  unfold Session.offer
  refine .read_bind ?_
  split
  · exact .pure (.of_refused holds rfl (List.suffix_refl _))
  · refine .change_bind ?_
    have hbusied : Holds names held { session with hostBusy := true } := holds.congr rfl rfl
    refine .bind (meets_attempt apart upholds hunmount hbusied) ?_
    rintro accepted after ⟨hholds, hbridge, hjournal, hmounted, hpublished⟩
    exact .change_bind (.pure ⟨hholds.congr rfl rfl, hbridge, hjournal, hmounted, hpublished⟩)

/-- A message was offered and answered, and the bridge has counted it. -/
def Replied (names : NodeId → Prop) (held : List (Task (Job κ))) (message : HostMessage)
    (before : Session κ S) (accepted : Bool) (after : Session κ S) : Prop :=
  ∃ called, Offered names held message
      { before with bridge := before.bridge.countCall message.op } accepted called ∧
    after = { called with
      bridge := called.bridge.countAnswer accepted
      journal := .sent message accepted :: called.journal }

namespace Replied

variable {message : HostMessage} {before after : Session κ S} {accepted : Bool}

theorem journal_suffix (replied : Replied names held message before accepted after) :
    before.journal <:+ after.journal := by
  obtain ⟨called, offered, rfl⟩ := replied
  exact offered.journal_suffix.trans (List.suffix_cons _ _)

theorem bridge_eq (replied : Replied names held message before accepted after) :
    after.bridge = (before.bridge.countCall message.op).countAnswer accepted := by
  obtain ⟨called, offered, rfl⟩ := replied
  exact congrArg (Bridge.countAnswer · accepted) offered.bridge_eq

/-- A message that was not accepted disturbs the supply. -/
theorem of_refused (replied : Replied names held message before false after) :
    ¬ Undisturbed names after.journal := by
  obtain ⟨called, offered, rfl⟩ := replied
  exact fun undisturbed => undisturbed.accepted message List.mem_cons_self

/-- Messages other than mounts keep the supply. -/
theorem holds (replied : Replied names held message before accepted after)
    (hmount : ∀ node, message ≠ .mount node) : Holds names held after := by
  obtain ⟨called, offered, rfl⟩ := replied
  refine offered.holds.mono (List.suffix_cons _ _) fun supplied => supplied.concluding ?_
  cases message with
  | mount node => exact absurd rfl (hmount node)
  | _ => rfl

/-- A recording host knows a widget whose mount it has accepted. -/
theorem mounted (replied : Replied names held message before true after)
    (undisturbed : Undisturbed names after.journal) {node : HostNode}
    (hmessage : message = .mount node) :
    after.host.recording.live.contains node.id = true := by
  obtain ⟨called, offered, rfl⟩ := replied
  exact offered.mounted rfl (undisturbed.of_suffix (List.suffix_cons _ _)) node hmessage

/-- A publishing host leaves a handle for a request that it accepts. -/
theorem published (replied : Replied names held message before true after)
    (undisturbed : Undisturbed names after.journal) {id : NodeId}
    (hmessage : message = .requestHandle id) (hmounted : before.bridge.isMounted id = true) :
    (after.slots.peek? id).isSome = true := by
  obtain ⟨called, offered, rfl⟩ := replied
  exact offered.published rfl (undisturbed.of_suffix (List.suffix_cons _ _)) id hmessage hmounted

end Replied

theorem meets_callHost (apart : caller.HostApart)
    (upholds : caller.Upholds (Holds names) fun _ => HoldsAt names) {message : HostMessage}
    (hunmount : ∀ node, message = .unmount node → session.bridge.isMounted node.id = false)
    (holds : Holds names held session) :
    (Session.callHost message).Meets (HoldsAt names) caller session fun accepted after =>
      Replied names held message session accepted after := by
  refine .change_bind ?_
  have hcounted : Holds names held
      { session with bridge := session.bridge.countCall message.op } :=
    holds.mono (List.suffix_refl _) fun supplied =>
      supplied.congr (fun _ => rfl) rfl rfl rfl rfl rfl (fun _ => rfl) fun _ => rfl
  refine .bind (meets_offer apart upholds hunmount hcounted) fun accepted called offered => ?_
  exact .change_bind (.pure ⟨called, offered, rfl⟩)

/-- Messages other than mounts and unmounts keep the supply wherever they are sent. -/
theorem callHost {message : HostMessage} (hmessage : message.isPlacing = false) :
    (Session.callHost message).MadeOf (Keepers κ S names) := by
  refine .part fun caller apart upholds held session holds => ?_
  have hmount : ∀ node, message ≠ .mount node := by
    rintro node rfl
    cases hmessage
  have hunmount : ∀ node, message = .unmount node → session.bridge.isMounted node.id = false := by
    rintro node rfl
    cases hmessage
  exact (meets_callHost apart upholds hunmount holds).mono fun _ _ replied => replied.holds hmount

/-! ### Handles -/

theorem meets_scheduleAt {Q : Moment κ S → Prop} (deadline : Instant) (job : Job κ) :
    (Session.scheduleAt deadline job).Meets Q caller session fun id after =>
      id = session.scheduler.nextId ∧ after = { session with
        scheduler := (session.scheduler.schedule deadline job).2
        journal := .scheduled ⟨session.scheduler.nextId, deadline, job⟩ :: session.journal } :=
  .read_bind (.change_bind (.pure ⟨rfl, rfl⟩))

/-- A handle is asked for that is not there and not under way. -/
theorem meets_requestHandle (apart : caller.HostApart)
    (upholds : caller.Upholds (Holds names) fun _ => HoldsAt names) {id : NodeId}
    (hmounted : session.bridge.isMounted id = true)
    (hhandles : session.bridge.handles.contains id = false)
    (hpending : session.bridge.pending.get? id = none) (holds : Holds names held session) :
    (Session.requestHandle id).Meets (HoldsAt names) caller session fun _ after =>
      Holds names held after ∧ (Undisturbed names after.journal →
        ∃ number, after.bridge.pending.get? id = some number) := by
  refine .bind (meets_callHost apart upholds (by simp) holds) fun accepted after replied => ?_
  cases accepted with
  | false =>
      refine .pure ⟨replied.holds (by simp), fun undisturbed => ?_⟩
      exact absurd undisturbed replied.of_refused
  | true =>
      have hbridge : after.bridge = session.bridge.countCall .requestHandle := replied.bridge_eq
      refine .bind (meets_scheduleAt .start (.resolveHandle id)) ?_
      rintro task scheduled ⟨rfl, rfl⟩
      -- Nothing is under way that this request would replace.
      have hprevious : after.bridge.pending.get? id = none := by
        rw [hbridge]
        exact hpending
      refine .read_bind ?_
      dsimp only
      rw [hprevious]
      refine .change_bind (.pure ⟨?_, fun _ => ⟨after.scheduler.nextId, ?_⟩⟩)
      · intro undisturbed
        have hafter := undisturbed.of_suffix (List.suffix_cons _ _)
        have supplied := replied.holds (by simp) hafter
        refine supplied.requesting ?_ ?_ hprevious (replied.published hafter rfl hmounted)
        · rw [hbridge]
          exact hmounted
        · rw [hbridge]
          exact hhandles
      · exact (Table.get?_insert _ _ _ _).trans (if_pos rfl)

theorem meets_askOnce (id : NodeId) (apart : caller.HostApart)
    (upholds : caller.Upholds (Holds names) fun _ => HoldsAt names)
    (hmounted : session.bridge.isMounted id = true) (holds : Holds names held session) :
    (Session.askOnce id).Meets (HoldsAt names) caller session fun _ => Holds names held := by
  refine .read_bind ?_
  unfold Act.when
  split
  · rename_i hwanted
    simp only [Bridge.wantsHandle, Bool.and_eq_true, Bool.not_eq_true'] at hwanted
    obtain ⟨⟨hhandles, hpending⟩, -⟩ := hwanted
    refine .bind (meets_requestHandle apart upholds hmounted hhandles
      (Table.contains_eq_false_iff.1 hpending) holds) ?_
    rintro asked after ⟨hholds, -⟩
    split
    · exact .change (hholds.mono (List.suffix_refl _) fun supplied =>
        supplied.congr (fun _ => rfl) rfl rfl rfl rfl rfl (fun _ => rfl) fun _ => rfl)
    · exact .pure hholds
  · exact .pure holds

theorem resolveHandle (id : NodeId) (receiver : Receiver κ) :
    (Session.resolveHandle (S := S) id receiver).MadeOf (Keepers κ S names) := by
  refine .part fun caller apart upholds held session holds => ?_
  refine .read_bind (.bind (R := fun _ after => Holds names held after ∧
    (Undisturbed names after.journal → after.bridge.isMounted id = true →
      after.bridge.handles.contains id = true ∨
        ∃ number, after.bridge.pending.get? id = some number)) ?_ ?_)
  · unfold Act.when
    split
    · rename_i hwanted
      simp only [Bool.and_eq_true, Bool.not_eq_true'] at hwanted
      obtain ⟨⟨hmounted, hhandles⟩, hpending⟩ := hwanted
      refine .bind (meets_requestHandle apart upholds hmounted hhandles
        (Table.contains_eq_false_iff.1 hpending) holds) ?_
      rintro asked after ⟨hholds, hasked⟩
      exact .pure ⟨hholds, fun undisturbed _ => .inr (hasked undisturbed)⟩
    · -- No request is sent when the handle is cached or already asked for, or nothing is mounted.
      rename_i hunwanted
      refine .pure ⟨holds, fun _ hmounted => ?_⟩
      cases hhandles : session.bridge.handles.contains id with
      | true => exact .inl rfl
      | false =>
          refine .inr (Table.contains_iff.1 ?_)
          simpa [hmounted, hhandles] using hunwanted
  · rintro - after ⟨hholds, hready⟩
    refine .bind (meets_scheduleAt .start (.deliverHandle id receiver)) ?_
    rintro task scheduled ⟨-, rfl⟩
    refine .pure fun undisturbed => ?_
    have hafter := undisturbed.of_suffix (List.suffix_cons _ _)
    exact (hholds hafter).delivering id receiver (hready hafter)

/-! ### Widgets -/

section

variable (apart : ∀ id id', names id → names id' → slotName id = slotName id' → id = id')

include apart

theorem mount (id : NodeId) (node : Node (Handler κ)) (placement : Placement) :
    (Session.mount (S := S) id node placement).MadeOf (Keepers κ S names) := by
  refine .part fun caller hostApart upholds held session holds => ?_
  refine .read_bind ?_
  split
  · exact .pure holds
  · rename_i hmounted
    -- Only the note tells that the widget has one of the names.
    have hdiscarded : Undisturbed names (.declared id node :: session.journal) →
        Supplied names held { session with slots := session.slots.discard id } := by
      intro undisturbed
      have supplied := holds (undisturbed.of_suffix (List.suffix_cons _ _))
      refine supplied.discarding apart (undisturbed.named id node List.mem_cons_self) ?_
      refine Option.eq_none_iff_forall_ne_some.2 fun number hpending => ?_
      exact hmounted (supplied.pending_mounted id number hpending)
    have hdeclared : Holds names held (Session.noting
        { session with slots := session.slots.discard id } (.declared id node)) :=
      fun undisturbed => (hdiscarded undisturbed).noting rfl
    refine .change_bind (.note_bind ⟨held, hdiscarded⟩ ?_)
    refine .bind (meets_callHost hostApart upholds (by simp) hdeclared) ?_
    rintro accepted after replied
    cases accepted with
    | false => exact .pure fun undisturbed => absurd undisturbed replied.of_refused
    | true =>
        refine .change_bind (.pure fun undisturbed => ?_)
        have hid : names id :=
          undisturbed.named id node (replied.journal_suffix.subset List.mem_cons_self)
        have hlive := replied.mounted undisturbed rfl
        obtain ⟨called, offered, rfl⟩ := replied
        have supplied := offered.holds (undisturbed.of_suffix (List.suffix_cons _ _))
        exact supplied.mounting rfl hid hlive node.kind placement node.handlers

omit apart in
theorem updateInPlace (id : NodeId) (node : Node (Handler κ)) :
    (Session.updateInPlace (S := S) id node).MadeOf (Keepers κ S names) := by
  refine .part fun caller hostApart upholds held session holds => ?_
  refine .read_bind (.note_bind (holds.at _) ?_)
  refine .bind (meets_callHost hostApart upholds (by simp) (law.note rfl holds)) ?_
  rintro accepted after replied
  have hbridge := replied.bridge_eq
  have hholds := replied.holds (by simp)
  refine .bind (R := fun _ => Holds names held) ?_ fun _ _ hasked => .pure hasked
  unfold Act.when
  split
  · rename_i hplace
    rw [Option.isSome_map] at hplace
    -- Where the widget was mounted it still is.
    have hmounted : after.bridge.isMounted id = true := by
      rw [hbridge, Bridge.countAnswer_eq]
      exact hplace
    refine .bind (R := fun _ last => Holds names held last ∧ last.bridge.isMounted id = true) ?_
      fun _ last hlast => meets_askOnce id hostApart upholds hlast.2 hlast.1
    split
    · refine .change ⟨hholds.mono (List.suffix_refl _) fun supplied => ?_, hmounted⟩
      exact supplied.congr (fun _ => rfl) rfl rfl rfl rfl rfl (fun _ => rfl) fun _ => rfl
    · exact .pure ⟨hholds, hmounted⟩
  · exact .pure hholds

omit apart in
theorem updateAt (id : NodeId) (node : Node (Handler κ)) (placement : Placement) :
    (Session.updateAt (S := S) id node placement).MadeOf (Keepers κ S names) := by
  refine .bind (change (fun _ => List.suffix_refl _) fun supplied => ?_) fun _ =>
    updateInPlace id node
  refine supplied.congr (fun other => ?_) rfl rfl rfl rfl rfl (fun _ => rfl) fun _ => rfl
  exact Table.contains_modify _ _ _ _

theorem meets_unmount (id : NodeId) (hostApart : caller.HostApart)
    (upholds : caller.Upholds (Holds names) fun _ => HoldsAt names)
    (hid : Undisturbed names session.journal → names id) (holds : Holds names held session) :
    (Session.unmount id).Meets (HoldsAt names) caller session fun _ after =>
      Holds names held after ∧ session.journal <:+ after.journal := by
  have hsuffix : session.journal <:+ (session.withdrawing id).journal := by
    unfold Session.withdrawing
    dsimp only
    split
    · exact List.suffix_cons _ _
    · exact List.suffix_refl _
  have hwithdrawn : Holds names held (session.withdrawing id) := by
    intro undisturbed
    have hbefore := undisturbed.of_suffix hsuffix
    exact (holds hbefore).withdrawing apart (hid hbefore)
  unfold Act.Meets
  rw [Session.run_unmount, Session.moments_unmount]
  cases session.bridge.mounted.get? id with
  | none => exact ⟨⟨hwithdrawn, hsuffix⟩, fun moment hmoment => by cases hmoment⟩
  | some record =>
      -- The host is told only after the widget is withdrawn here, as a recording host expects.
      have hunmount : ∀ node, Session.unmountMessage id record = .unmount node →
          (session.withdrawing id).bridge.isMounted node.id = false := by
        intro node hnode
        obtain rfl := HostMessage.unmount.inj hnode
        refine (Bridge.isMounted_evict _ _ _).trans ?_
        simp
      obtain ⟨replied, hmoments⟩ := meets_callHost hostApart upholds hunmount hwithdrawn
      refine ⟨⟨replied.holds (by simp [Session.unmountMessage]),
        hsuffix.trans replied.journal_suffix⟩, fun moment hmoment => ?_⟩
      rcases List.mem_cons.1 hmoment with rfl | hmoment
      · exact holds.at _
      · exact hmoments moment hmoment

theorem meets_unmountAll (ids : List NodeId) (hostApart : caller.HostApart)
    (upholds : caller.Upholds (Holds names) fun _ => HoldsAt names)
    (hids : Undisturbed names session.journal → ∀ id ∈ ids, names id)
    (holds : Holds names held session) :
    (Session.unmountAll ids).Meets (HoldsAt names) caller session fun _ => Holds names held := by
  induction ids generalizing session with
  | nil => exact .pure holds
  | cons id rest ih =>
      have hid : Undisturbed names session.journal → names id :=
        fun undisturbed => hids undisturbed id List.mem_cons_self
      refine .bind (meets_unmount apart id hostApart upholds hid holds) ?_
      rintro - after ⟨hholds, hsuffix⟩
      refine ih (fun undisturbed other hother => ?_) hholds
      exact hids (undisturbed.of_suffix hsuffix) other (List.mem_cons_of_mem id hother)

/-- Widgets that are mounted are unmounted. -/
theorem unmountMounted {doomed : Session κ S → List NodeId}
    (hdoomed : ∀ session, ∀ id ∈ doomed session, session.bridge.isMounted id = true) {α : Type}
    (result : List NodeId → α) : (do
      let ids ← Act.read doomed
      Session.unmountAll ids
      pure (result ids) : Act κ S α).MadeOf (Keepers κ S names) := by
  refine .part fun caller hostApart upholds held session holds => .read_bind ?_
  refine .bind (meets_unmountAll apart _ hostApart upholds ?_ holds) fun _ _ hholds => .pure hholds
  exact fun undisturbed id hid => (holds undisturbed).named id (hdoomed session id hid)

end

/-! ### Everything -/

/-- The supply does not depend on what else a host remembers, nor on what it fails to do. -/
theorem changeHost {f : Session κ S → Host}
    (hf : ∀ session : Session κ S, (f session).kind = session.host.kind ∧
      (f session).recording.publishes = session.host.recording.publishes ∧
        (f session).recording.live = session.host.recording.live) :
    (Act.change fun session : Session κ S => { session with host := f session }).MadeOf
      (Keepers κ S names) := by
  refine change (fun _ => List.suffix_refl _) fun {held session} supplied => ?_
  obtain ⟨hkind, hpublishes, hlive⟩ := hf session
  refine { supplied with
    kind_eq := hkind.trans supplied.kind_eq
    publishes := hpublishes.trans supplied.publishes
    live := fun id hmounted => ?_ }
  rw [hlive]
  exact supplied.live id hmounted

variable {allowed : Request κ → Prop}

theorem singles (slotsApart : SlotsApart allowed names) :
    (Keepers κ S names).Singles allowed where
  toJobs := jobs
  -- Who fills or empties slots could take an awaited handle away, so nobody may.
  publish id handle permitted :=
    absurd (slotsApart.slots _ permitted) (by simp [Request.usesSlots])
  takeHandle id permitted :=
    absurd (slotsApart.slots _ permitted) (by simp [Request.usesSlots])
  resolveHandle := resolveHandle
  invoke id command := by
    refine .bind (.read _) fun handle? => ?_
    cases handle? with
    | none => exact .pure false
    | some handle => exact callHost rfl
  mount := mount slotsApart.injective
  updateInPlace := updateInPlace
  updateAt := updateAt
  countHandlerFailure := change (fun _ => List.suffix_refl _) fun supplied =>
    supplied.congr (fun _ => rfl) rfl rfl rfl rfl rfl (fun _ => rfl) fun _ => rfl
  direct request hdirect permitted := by
    cases request with
    | sendDirectly message =>
        exact absurd (slotsApart.slots _ permitted) (by simp [Request.usesSlots])
    | failOp | recoverOp | clearRecording | setWireFault =>
        exact changeHost fun _ => ⟨rfl, rfl, rfl⟩
    | _ => cases hdirect

/-- The turn of a job that picks up no handle. -/
theorem runJob (id : TaskId) {job : Job κ} (hjob : ∀ target, job ≠ .resolveHandle target) :
    (Session.runJob (S := S) id job).MadeOf (Keepers κ S names) := by
  have hcall : ∀ call : Call κ, (Act.call (S := S) call).MadeOf (Keepers κ S names) :=
    fun call => sees.call call (hidden call)
  have hjobs : (Keepers κ S names).Jobs fun _ => False := jobs
  cases job with
  | task body => exact .bind (hcall _) fun _ => .pure ()
  | debounced debouncer body =>
      exact .bind (hjobs.markStarted debouncer id) fun _ => .bind (hcall _) fun _ => .pure ()
  | resolveHandle target => exact absurd rfl (hjob target)
  | deliverHandle target receiver =>
      exact .bind (.read _) fun _ => .bind (hcall _) fun _ => .pure ()

section

variable (injective : ∀ id id', names id → names id' → slotName id = slotName id' → id = id')

include injective

/-- A job picks up the handle of a widget of one of the names. -/
theorem meets_resolveRequested {id : NodeId} {task : Task (Job κ)}
    (htask : task.job = .resolveHandle id) (holds : Holds names (task :: held) session) :
    (Session.resolveRequested id).Meets (HoldsAt names) caller session fun _ =>
      Holds names held := by
  refine .bind (.read_bind (.change_bind (.pure ⟨rfl, rfl⟩))) (R := fun published? after =>
    published? = session.slots.peek? id ∧
      after = { session with slots := session.slots.discard id }) ?_
  rintro published? after ⟨rfl, rfl⟩
  refine .change (holds.mono (List.suffix_refl _) fun supplied => ?_)
  have hid : names id := supplied.jobs_named task
    (List.mem_append_right _ List.mem_cons_self) id htask
  exact (supplied.resolving injective hid).leaving

/-- The jobs of a batch are held from the moment it is taken, and leave one by one. -/
theorem passing : Passing (Holds (κ := κ) (S := S) names) (HoldsAt names)
    fun tasks held => tasks ++ held where
  began {held session} holds := by
    have hbegan : Holds names held (session.noting (.passBegan session.clock)) := law.note rfl holds
    refine ⟨holds.at _, hbegan.mono (List.suffix_refl _) fun supplied => ?_⟩
    refine supplied.withScheduler (fun task hmem => ?_) rfl
    have hlive := (session.scheduler.takeDue_perm session.clock held).mem_iff.1 hmem
    exact (List.filter_sublist.append_right held).subset hlive
  skip holds _ := holds.leaving
  turn {caller held session task rest} apart upholds holds _ := by
    have hran : Holds names (task :: (rest ++ held)) (session.noting (.ran task.id)) :=
      law.note rfl holds
    refine .note_bind (holds.at _) ?_
    -- A request that is served settles what is awaited; the other jobs are made of the usual acts.
    by_cases hjob : ∃ id, task.job = .resolveHandle id
    · obtain ⟨id, hjob⟩ := hjob
      rw [hjob]
      exact meets_resolveRequested injective hjob hran
    · have hrun : (Session.runJob (S := S) task.id task.job).Upholds (Holds names)
          fun _ => HoldsAt names :=
        .of_madeOf (runJob task.id fun target htarget => hjob ⟨target, htarget⟩)
      exact hrun caller apart upholds _ _ hran.leaving
  ended _ _ holds := ⟨holds.at _, law.note rfl holds⟩

end

theorem core (slotsApart : SlotsApart allowed names) : (Keepers κ S names).Core allowed := by
  have singles := singles (κ := κ) (S := S) slotsApart
  refine .of_singles ordinary singles (.part (passing slotsApart.injective).upholds_runDue)
    (fun id permitted => .part fun caller apart upholds held session holds => ?_)
    (fun id => ?_) fun root => ?_
  · have hid := slotsApart.unmount id permitted
    exact (meets_unmount slotsApart.injective id apart upholds (fun _ => hid) holds).mono
      fun _ _ hafter => hafter.1
  · exact unmountMounted slotsApart.injective
      (fun _ _ hother => (Bridge.mem_unmountOrder.1 hother).1) fun doomed => doomed
  · refine .bind (singles.placing.walkTree none 0 .start root) fun walk => ?_
    exact unmountMounted slotsApart.injective
      (fun _ _ hother => (Bridge.mem_unmountOrder.1 hother).1)
      fun vanished => (⟨walk.mounted.reverse, walk.updated, vanished, walk.duplicates⟩ :
        RenderReport)

theorem covers (slotsApart : SlotsApart allowed names) : (Keepers κ S names).Covers allowed := by
  have panels : (Keepers κ S names).Panels := sees.panels ordinary rfl fun _ _ => rfl
  have events : (Keepers κ S names).Events := sees.events (fun _ _ _ => ⟨rfl, fun _ => rfl⟩)
    (fun entry hevent => by cases entry <;> first | rfl | cases hevent) fun _ _ => rfl
  have shell : (Keepers κ S names).Shell := sees.shell panels (core slotsApart)
    (fun entry hdisplay => by cases entry <;> first | rfl | cases hdisplay) fun _ _ _ => rfl
  exact sees.covers ordinary (fun entry hpress => by cases entry <;> first | rfl | cases hpress)
    (fun _ _ => hidden _) (fun _ _ _ _ _ _ _ => rfl) events panels (core slotsApart) shell

/-- Everything keeps the supply. -/
theorem governs (slotsApart : SlotsApart allowed names) :
    Governs (κ := κ) (S := S) allowed (fun _ => True) (Holds names) fun _ => HoldsAt names where
  covers := covers slotsApart
  store _ holds := holds.congr rfl rfl
  callback {_ call session} _ _ hQ := by
    obtain ⟨held, supplied⟩ := hQ
    refine ⟨held, trivial, fun undisturbed => (supplied undisturbed).noting rfl⟩

end Supplying

end EditorShell
