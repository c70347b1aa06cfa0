import EditorShell.Proofs.Widget.Sending

/-!
# What the operations on one widget do to the mounted widgets

Only three operations touch the table of mounted widgets: a mount that the host accepts adds an
entry (`mounted_mount`), an update at a place moves one (`mounted_updateAt`), an unmount takes one
out (`mounted_unmount`).  Requests for handles and updates in place leave the table alone
(`Act.LeavesMounted`).

Each lemma also says what the journal tells of accepted mounts, and with which mounted widgets a
mount or an unmount goes to the host.
-/

namespace EditorShell

variable {κ S α β : Type}

/-- Whether an entry tells that the host has accepted the mount of a widget. -/
def Entry.acceptsMount (id : NodeId) : Entry κ → Bool
  | .sent (.mount node) true => node.id == id
  | _ => false

/-- Whether an entry tells that the mount of a widget was refused. -/
def Entry.refusesMount : Entry κ → Bool
  | .sent (.mount _) false => true
  | _ => false

/-- Whether a message mounts or unmounts a widget. -/
def HostMessage.places : HostMessage → Bool
  | .mount _ | .unmount _ => true
  | .update _ | .requestHandle _ | .invoke _ _ => false

/-- The host has accepted no mount, and the same widgets are mounted at the same places. -/
structure Session.Beside (before after : Session κ S) : Prop where
  mounted_eq : after.bridge.mounted = before.bridge.mounted
  journal_eq : ∃ noted, after.journal = noted ++ before.journal ∧
    ∀ id, noted.any (Entry.acceptsMount id) = false

namespace Session.Beside

theorem refl (session : Session κ S) : session.Beside session := ⟨rfl, [], rfl, fun _ => rfl⟩

theorem trans {first second third : Session κ S} (hfirst : first.Beside second)
    (hsecond : second.Beside third) : first.Beside third := by
  obtain ⟨noted, hjournal, hnoted⟩ := hfirst.journal_eq
  obtain ⟨noted', hjournal', hnoted'⟩ := hsecond.journal_eq
  refine ⟨hsecond.mounted_eq.trans hfirst.mounted_eq, noted' ++ noted, ?_, fun id => ?_⟩
  · rw [hjournal', hjournal, List.append_assoc]
  · rw [List.any_append, hnoted', hnoted, Bool.or_false]

theorem isMounted_eq {before after : Session κ S} (hbeside : before.Beside after) (id : NodeId) :
    after.bridge.isMounted id = before.bridge.isMounted id := by
  unfold Bridge.isMounted
  rw [hbeside.mounted_eq]

end Session.Beside

/-- At a moment the same widgets are mounted as in a session, and the moment is not one at which a
mount or an unmount goes to the host. -/
structure Moment.IsBeside (session : Session κ S) (moment : Moment κ S) : Prop where
  mounted_eq : moment.session.bridge.mounted = session.bridge.mounted
  called_host : ∀ call, moment.entry = .called call →
    ∃ message, call = .host message ∧ message.places = false

/-- An act that leaves the mounted widgets alone. -/
structure Act.LeavesMounted (caller : Caller κ S) (act : Act κ S α) : Prop where
  run : ∀ session : Session κ S, session.Beside (act.run caller session).2
  moments : ∀ session : Session κ S, ∀ moment ∈ act.moments caller session, moment.IsBeside session

namespace Act.LeavesMounted

variable {caller : Caller κ S}

theorem pure (value : α) : (Pure.pure value : Act κ S α).LeavesMounted caller :=
  ⟨fun session => .refl session, fun _ _ hmoment => by cases hmoment⟩

theorem bind {first : Act κ S α} {next : α → Act κ S β} (hfirst : first.LeavesMounted caller)
    (hnext : ∀ value, (next value).LeavesMounted caller) :
    (first >>= next).LeavesMounted caller := by
  constructor
  · exact fun session => (hfirst.run session).trans ((hnext _).run _)
  · intro session moment hmoment
    rw [Act.moments_bind, List.mem_append] at hmoment
    rcases hmoment with hmoment | hmoment
    · exact hfirst.moments session moment hmoment
    · obtain ⟨hmounted, hcalled⟩ := (hnext _).moments _ moment hmoment
      exact ⟨hmounted.trans (hfirst.run session).mounted_eq, hcalled⟩

theorem read (view : Session κ S → α) : (Act.read view).LeavesMounted caller :=
  ⟨fun session => .refl session, fun _ _ hmoment => by cases hmoment⟩

theorem ite {condition : Prop} [Decidable condition] {first second : Act κ S α}
    (hfirst : first.LeavesMounted caller) (hsecond : second.LeavesMounted caller) :
    (if condition then first else second).LeavesMounted caller := by
  split
  · exact hfirst
  · exact hsecond

theorem when {condition : Bool} {act : Act κ S Unit} (hact : act.LeavesMounted caller) :
    (Act.when condition act).LeavesMounted caller := by
  cases condition
  · exact pure ()
  · exact hact

theorem change {f : Session κ S → Session κ S}
    (hf : ∀ session : Session κ S, session.Beside (f session)) :
    (Act.change f).LeavesMounted caller :=
  ⟨hf, fun _ _ hmoment => by cases hmoment⟩

theorem note {entry : Entry κ} (hentry : ∀ call, entry ≠ .called call)
    (haccepts : ∀ id, entry.acceptsMount id = false) :
    (Act.note (S := S) entry).LeavesMounted caller := by
  refine ⟨fun session => ⟨rfl, [entry], rfl, fun id => by simp [haccepts]⟩, ?_⟩
  intro session moment hmoment
  obtain rfl := List.mem_singleton.1 hmoment
  exact ⟨rfl, fun call hcalled => absurd hcalled (hentry call)⟩

end Act.LeavesMounted

namespace Session

variable {caller : Caller κ S}

/-! ## Messages -/

theorem mounted_callHost (apart : caller.HostApart) (message : HostMessage)
    (session : Session κ S) :
    ((callHost message).run caller session).2.bridge.mounted = session.bridge.mounted := by
  rw [bridge_callHost apart, Bridge.mounted_countAnswer, Bridge.mounted_countCall]

theorem acceptsMount_eq_false {entry : Entry κ}
    (hentry : ∀ message accepted, entry ≠ .sent message accepted) (id : NodeId) :
    entry.acceptsMount id = false := by
  unfold Entry.acceptsMount
  split
  · exact absurd rfl (hentry _ _)
  · rfl

theorem any_acceptsMount_eq_false {noted : List (Entry κ)}
    (hnoted : ∀ message accepted, Entry.sent message accepted ∉ noted) (id : NodeId) :
    noted.any (Entry.acceptsMount id) = false := by
  rw [List.any_eq_false]
  intro entry hmem
  rw [acceptsMount_eq_false]
  · exact Bool.false_ne_true
  · rintro message accepted rfl
    exact hnoted message accepted hmem

/-- The journal of a message tells of its answer, and at most of the mount in it. -/
theorem accepted_callHost (apart : caller.HostApart) (message : HostMessage)
    (session : Session κ S) :
    ∃ noted, ((callHost message).run caller session).2.journal = noted ++ session.journal ∧
      .sent message ((callHost message).run caller session).1 ∈ noted ∧
      ∀ id, noted.any (Entry.acceptsMount id) =
        Entry.acceptsMount id
          (.sent (κ := κ) message ((callHost message).run caller session).1) := by
  obtain ⟨noted, hjournal, hnoted⟩ := journal_callHost apart message session
  refine ⟨_ :: noted, hjournal, List.mem_cons_self, fun id => ?_⟩
  rw [List.any_cons, any_acceptsMount_eq_false hnoted, Bool.or_false]

/-- What is called while a message is on its way is the host. -/
theorem eq_of_called {entry : Entry κ} {message : HostMessage} {call : Call κ}
    (hentry : entry = .called (.host message) ∨
      ∃ outcome, entry = .returned (.host message) outcome)
    (hcalled : entry = .called call) : call = .host message := by
  rcases hentry with rfl | ⟨outcome, rfl⟩
  · exact (Entry.called.inj hcalled).symm
  · cases hcalled

theorem leavesMounted_callHost (apart : caller.HostApart) {message : HostMessage}
    (hmessage : message.places = false) :
    (callHost message : Act κ S Bool).LeavesMounted caller := by
  have haccepts : ∀ accepted id,
      Entry.acceptsMount id (.sent (κ := κ) message accepted) = false := by
    intro accepted id
    cases message <;> first | rfl | cases hmessage
  constructor
  · intro session
    obtain ⟨noted, hjournal, -, hnoted⟩ := accepted_callHost apart message session
    exact ⟨mounted_callHost apart message session, noted, hjournal, fun id => by
      rw [hnoted, haccepts]⟩
  · intro session moment hmoment
    obtain ⟨hbridge, hentry⟩ := moments_callHost apart message session moment hmoment
    refine ⟨by rw [hbridge, Bridge.mounted_countCall], fun call hcalled => ?_⟩
    exact ⟨message, eq_of_called hentry hcalled, hmessage⟩

/-! ## Acts that leave the mounted widgets alone -/

theorem leavesMounted_scheduleNext (job : Job κ) :
    (scheduleNext job : Act κ S TaskId).LeavesMounted caller := by
  refine .bind (.read _) fun id => .bind (.change fun session => ?_) fun _ => .pure id
  exact ⟨rfl, [.scheduled ⟨session.scheduler.nextId, .start, job⟩], rfl, fun _ => rfl⟩

theorem leavesMounted_cancelTask? (id? : Option TaskId) (reason : CancellationReason) :
    (cancelTask? id? reason : Act κ S Unit).LeavesMounted caller := by
  cases id? with
  | none => exact .pure ()
  | some id => exact .change fun _ => ⟨rfl, [], rfl, fun _ => rfl⟩

theorem leavesMounted_changeBridge {f : Bridge (Handler κ) → Bridge (Handler κ)}
    (hf : ∀ bridge, (f bridge).mounted = bridge.mounted) :
    (changeBridge f : Act κ S Unit).LeavesMounted caller :=
  .change fun session => ⟨hf session.bridge, [], rfl, fun _ => rfl⟩

theorem leavesMounted_requestHandle (apart : caller.HostApart) (id : NodeId) :
    (requestHandle id : Act κ S Bool).LeavesMounted caller := by
  refine .bind (leavesMounted_callHost apart rfl) fun accepted => .ite ?_ (.pure false)
  refine .bind (leavesMounted_scheduleNext _) fun task => .bind (.read _) fun previous? => ?_
  refine .bind (leavesMounted_changeBridge fun _ => rfl) fun _ => ?_
  exact .bind (leavesMounted_cancelTask? _ _) fun _ => .pure true

theorem leavesMounted_askOnce (apart : caller.HostApart) (id : NodeId) :
    (askOnce id : Act κ S Unit).LeavesMounted caller := by
  refine .bind (.read _) fun wanted => .when ?_
  refine .bind (leavesMounted_requestHandle apart id) fun asked => .when ?_
  exact leavesMounted_changeBridge fun _ => rfl

theorem leavesMounted_updateInPlace (apart : caller.HostApart) (id : NodeId)
    (node : Node (Handler κ)) : (updateInPlace id node : Act κ S Bool).LeavesMounted caller := by
  refine .bind (.read _) fun place? => .bind (.note (by simp) fun _ => rfl) fun _ => ?_
  refine .bind (leavesMounted_callHost apart rfl) fun accepted => .bind (.when ?_) fun _ =>
    .pure accepted
  refine .bind (.when (leavesMounted_changeBridge fun _ => rfl)) fun _ => ?_
  exact leavesMounted_askOnce apart id

/-! ## Moving a widget -/

/-- An update at a place moves the widget there first and leaves the others where they are. -/
theorem mounted_updateAt (apart : caller.HostApart) (id : NodeId) (node : Node (Handler κ))
    (placement : Placement) (session : Session κ S) :
    ((updateAt id node placement).run caller session).2.bridge.mounted =
        (session.bridge.place id placement).mounted ∧
      ∃ noted, ((updateAt id node placement).run caller session).2.journal =
        noted ++ session.journal ∧ ∀ id, noted.any (Entry.acceptsMount id) = false := by
  have hrun : (updateAt id node placement).run caller session = (updateInPlace id node).run caller
      { session with bridge := session.bridge.place id placement } := rfl
  rw [hrun]
  have hbeside := (leavesMounted_updateInPlace apart id node).run
    { session with bridge := session.bridge.place id placement }
  exact ⟨hbeside.mounted_eq, hbeside.journal_eq⟩

theorem moments_updateAt (apart : caller.HostApart) (id : NodeId) (node : Node (Handler κ))
    (placement : Placement) (session : Session κ S) :
    ∀ moment ∈ (updateAt id node placement).moments caller session,
      moment.IsBeside { session with bridge := session.bridge.place id placement } :=
  (leavesMounted_updateInPlace apart id node).moments
    { session with bridge := session.bridge.place id placement }

/-! ## Mounting a widget -/

/-- A widget that is not mounted becomes so if the host accepts it; else the journal tells that the
mount was refused. -/
theorem mounted_mount (apart : caller.HostApart) {id : NodeId} (node : Node (Handler κ))
    (placement : Placement) {session : Session κ S}
    (habsent : session.bridge.isMounted id = false) :
    ((mount id node placement).run caller session).2.bridge.mounted =
        (if ((mount id node placement).run caller session).1 then
          session.bridge.mounted.insert id ⟨node.kind, placement, session.bridge.depthAt placement⟩
        else session.bridge.mounted) ∧
      ∃ noted, ((mount id node placement).run caller session).2.journal =
        noted ++ session.journal ∧ (∀ other, noted.any (Entry.acceptsMount other) =
          (((mount id node placement).run caller session).1 && id == other)) ∧
        (((mount id node placement).run caller session).1 = false →
          noted.any Entry.refusesMount = true) := by
  have hmounted := mounted_callHost apart (.mount (.ofNode node id (some placement)))
    ({ session with slots := session.slots.discard id }.noting (.declared id node))
  obtain ⟨noted, hjournal, hsent, hnoted⟩ := accepted_callHost apart
    (.mount (.ofNode node id (some placement)))
    ({ session with slots := session.slots.discard id }.noting (.declared id node))
  unfold mount changeSlots
  simp only [Act.run_bind, Act.run_read, habsent, Bool.false_eq_true, if_false, Act.run_change,
    Act.run_note]
  generalize (callHost _).run caller _ = sent at hmounted hjournal hsent hnoted ⊢
  obtain ⟨accepted, sent⟩ := sent
  have hjournal' : sent.journal = (noted ++ [Entry.declared id node]) ++ session.journal := by
    rw [hjournal, List.append_assoc]
    rfl
  have hnoted' : ∀ other, (noted ++ [Entry.declared id node]).any (Entry.acceptsMount other) =
      (accepted && id == other) := by
    intro other
    rw [List.any_append, hnoted]
    cases accepted <;> simp [Entry.acceptsMount, HostNode.ofNode]
  -- The widget is recorded when the host has accepted it; a refusal is seen in the journal.
  cases accepted with
  | true =>
      refine ⟨?_, _, hjournal', hnoted', nofun⟩
      have hsame : sent.bridge.mounted = session.bridge.mounted := hmounted
      have hdepth := Bridge.depthAt_congr hsame placement
      simp only [if_true, Act.run_bind, Act.run_pure, changeBridge, Act.run_change,
        Bridge.recordMount, hsame, hdepth]
  | false =>
      refine ⟨hmounted, _, hjournal', hnoted', fun _ => List.any_eq_true.2 ?_⟩
      exact ⟨_, List.mem_append_left _ hsent, rfl⟩

/-- At the moments of a mount the mounted widgets are those before it; the message names the parent
of the place. -/
theorem moments_mount (apart : caller.HostApart) (id : NodeId) (node : Node (Handler κ))
    (placement : Placement) (session : Session κ S) :
    ∀ moment ∈ (mount id node placement).moments caller session,
      moment.session.bridge.mounted = session.bridge.mounted ∧
        ∀ call, moment.entry = .called call →
          call = .host (.mount (.ofNode node id (some placement))) := by
  intro moment hmoment
  unfold mount changeSlots at hmoment
  simp only [Act.moments_bind, Act.moments_read, Act.run_read, Act.moments_ite, Act.moments_pure,
    Act.moments_change, Act.run_change, Act.moments_note, Act.run_note, changeBridge,
    List.nil_append, List.append_nil, ite_self] at hmoment
  split at hmoment
  · cases hmoment
  · rcases List.mem_cons.1 hmoment with rfl | hmoment
    · exact ⟨rfl, fun call hcalled => by cases hcalled⟩
    · obtain ⟨hbridge, hentry⟩ := moments_callHost apart _ _ moment hmoment
      exact ⟨by rw [hbridge]; rfl, fun call hcalled => eq_of_called hentry hcalled⟩

/-! ## Unmounting a widget -/

/-- A session in which everything about a widget is forgotten, just before the host is told. -/
def withdrawing (session : Session κ S) (id : NodeId) : Session κ S :=
  { session with
    bridge := session.bridge.evict id
    scheduler :=
      match session.bridge.pending.get? id with
      | some task => session.scheduler.cancel task .targetUnmounted
      | none => session.scheduler
    slots := session.slots.discard id
    journal :=
      if session.bridge.isMounted id then .withdrawn id :: session.journal else session.journal }

theorem run_unmount (id : NodeId) (session : Session κ S) :
    (unmount id).run caller session =
      match session.bridge.mounted.get? id with
      | none => (false, session.withdrawing id)
      | some record =>
          (callHost (unmountMessage id record)).run caller (session.withdrawing id) := by
  unfold unmount withdrawing Bridge.isMounted Table.contains
  cases hpending : session.bridge.pending.get? id <;>
    cases hrecord : session.bridge.mounted.get? id <;>
    simp [cancelTask?, changeBridge, cancelTask, changeSlots, Session.noting, hpending, hrecord]

theorem moments_unmount (id : NodeId) (session : Session κ S) :
    (unmount id).moments caller session =
      match session.bridge.mounted.get? id with
      | none => []
      | some record => ⟨.withdrawn id, session⟩ ::
          (callHost (unmountMessage id record)).moments caller (session.withdrawing id) := by
  unfold unmount withdrawing Bridge.isMounted Table.contains
  cases hpending : session.bridge.pending.get? id <;>
    cases hrecord : session.bridge.mounted.get? id <;>
    simp [cancelTask?, changeBridge, cancelTask, changeSlots, Session.noting, hpending, hrecord]

/-- An unmounted widget is forgotten, whether the host accepts it or not. -/
theorem mounted_unmount (apart : caller.HostApart) (id : NodeId) (session : Session κ S) :
    ((unmount id).run caller session).2.bridge.mounted = session.bridge.mounted.erase id ∧
      ∃ noted, ((unmount id).run caller session).2.journal = noted ++ session.journal ∧
        ∀ other, noted.any (Entry.acceptsMount other) = false := by
  have hprepared : ∃ noted, (session.withdrawing id).journal = noted ++ session.journal ∧
      ∀ other, noted.any (Entry.acceptsMount other) = false := by
    unfold withdrawing
    by_cases hmounted : session.bridge.isMounted id = true
    · exact ⟨[.withdrawn id], by simp [hmounted], fun _ => rfl⟩
    · exact ⟨[], by simp [hmounted], fun _ => rfl⟩
  rw [run_unmount]
  cases session.bridge.mounted.get? id with
  | none => exact ⟨rfl, hprepared⟩
  | some record =>
      obtain ⟨noted, hjournal, hnoted⟩ := hprepared
      obtain ⟨noted', hjournal', -, hnoted'⟩ :=
        accepted_callHost apart (unmountMessage id record) (session.withdrawing id)
      refine ⟨mounted_callHost apart _ _, noted' ++ noted, ?_, fun other => ?_⟩
      · rw [List.append_assoc, ← hjournal, hjournal']
      · rw [List.any_append, hnoted', hnoted]
        rfl

/-- When an unmount goes to the host the widget is forgotten already. -/
theorem called_unmount (apart : caller.HostApart) (id : NodeId) (session : Session κ S)
    {moment : Moment κ S} (hmoment : moment ∈ (unmount id).moments caller session)
    {call : Call κ} (hcalled : moment.entry = .called call) :
    moment.session.bridge.mounted = session.bridge.mounted.erase id ∧
      ∃ record, session.bridge.mounted.get? id = some record ∧
        call = .host (unmountMessage id record) := by
  rw [moments_unmount] at hmoment
  split at hmoment
  · cases hmoment
  · rename_i record hrecord
    rcases List.mem_cons.1 hmoment with rfl | hmoment
    · cases hcalled
    · obtain ⟨hbridge, hentry⟩ := moments_callHost apart _ _ moment hmoment
      exact ⟨by rw [hbridge]; rfl, record, hrecord, eq_of_called hentry hcalled⟩

end Session

end EditorShell
