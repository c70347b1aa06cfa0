import EditorShell.Proofs.Run.Course
import EditorShell.Proofs.Widget.Mounting

/-!
# Which handler an interaction runs

An interaction runs the handler that the latest accepted node of its widget bound
(`interactions_handled`).  Which node that is follows from the journal alone: `Entry.installed?`
reads it off the accepted mounts and updates since the current mount.

## Strategy

`Bound` says that the bridge keeps the handlers that the journal tells of.  A mount, an update and
an unmount note what is about to happen before they send their message, and change the tables after
the answer.  In between the host is called.  It leaves the bridge alone, but the journal may grow;
the index of the law is a journal from which on nothing may be declared or withdrawn unless a
message is sent as well (`Since`), so the answer belongs to the node that was noted before it.
-/

namespace EditorShell

variable {κ S : Type}

/-! ## What the journal tells of handlers -/

namespace Entry

/-- The node with which a widget was last mounted or updated, whether the host accepted it or
not. -/
def declared? (id : NodeId) : List (Entry κ) → Option (Node (Handler κ))
  | [] => none
  | .declared other node :: rest => if other = id then some node else declared? id rest
  | _ :: rest => declared? id rest

/-- The node of the latest accepted mount or update of a widget since its current mount; there is
none if the widget is not mounted. -/
def installed? (id : NodeId) : List (Entry κ) → Option (Node (Handler κ))
  | [] => none
  | .sent (.mount node) true :: rest =>
    if node.id = id then declared? id rest else installed? id rest
  | .sent (.update node) true :: rest =>
    -- A widget that is not mounted can be updated too, which binds nothing.
    if node.id = id then (installed? id rest).bind fun _ => declared? id rest
    else installed? id rest
  | .withdrawn other :: rest => if other = id then none else installed? id rest
  | _ :: rest => installed? id rest

/-- Whether an entry can change which handlers are bound. -/
def isInstalling : Entry κ → Bool
  | .withdrawn _ | .sent (.mount _) true | .sent (.update _) true => true
  | _ => false

theorem installed?_cons {entry : Entry κ} (hentry : entry.isInstalling = false) (id : NodeId)
    (rest : List (Entry κ)) : installed? id (entry :: rest) = installed? id rest := by
  cases entry with
  | withdrawn other => cases hentry
  | sent message accepted =>
      cases accepted with
      | false => cases message <;> rfl
      | true =>
          cases message with
          | mount node => cases hentry
          | update node => cases hentry
          | unmount node => rfl
          | requestHandle other => rfl
          | invoke handle command => rfl
  | _ => rfl

theorem installed?_append {noted : List (Entry κ)}
    (hnoted : ∀ entry ∈ noted, isInstalling entry = false) (id : NodeId) (rest : List (Entry κ)) :
    installed? id (noted ++ rest) = installed? id rest := by
  induction noted with
  | nil => rfl
  | cons entry noted ih =>
      rw [List.cons_append, installed?_cons (hnoted entry List.mem_cons_self)]
      exact ih fun other hmem => hnoted other (List.mem_cons_of_mem entry hmem)

theorem declared?_append {noted : List (Entry κ)}
    (hnoted : ∀ entry ∈ noted, isPlacing entry = false) (id : NodeId) (rest : List (Entry κ)) :
    declared? id (noted ++ rest) = declared? id rest := by
  induction noted with
  | nil => rfl
  | cons entry noted ih =>
      have hrest := ih fun other hmem => hnoted other (List.mem_cons_of_mem entry hmem)
      have hentry := hnoted entry List.mem_cons_self
      cases entry with
      | declared other node => cases hentry
      | _ => exact hrest

end Entry

/-! ## The law -/

/-- The mounted widgets and their handlers are those that the journal tells of. -/
structure Bound (session : Session κ S) : Prop where
  isMounted_eq : ∀ id, session.bridge.isMounted id = (Entry.installed? id session.journal).isSome
  handlers_eq : ∀ id, session.bridge.handlers.get? id =
    (Entry.installed? id session.journal).map Node.handlers

/-- Since some time nothing has been declared or withdrawn unless a message was sent as well. -/
def Since (base : List (Entry κ)) (session : Session κ S) : Prop :=
  ∃ noted, session.journal = noted ++ base ∧
    ((∀ message accepted, Entry.sent message accepted ∉ noted) →
      ∀ entry ∈ noted, Entry.isPlacing entry = false)

/-- The law, seen from a journal. -/
structure BoundSince (base : List (Entry κ)) (session : Session κ S) : Prop where
  bound : Bound session
  since : Since base session

/-- Handlers are as the journal tells at a moment too. -/
def BoundAt (moment : Moment κ S) : Prop := Bound moment.session

theorem Bound.noting {session : Session κ S} (bound : Bound session) {entry : Entry κ}
    (hentry : entry.isInstalling = false) : Bound (session.noting entry) := by
  refine ⟨fun id => ?_, fun id => ?_⟩
  · exact (bound.isMounted_eq id).trans
      (congrArg Option.isSome (Entry.installed?_cons hentry id _).symm)
  · exact (bound.handlers_eq id).trans
      (congrArg (Option.map Node.handlers) (Entry.installed?_cons hentry id _).symm)

namespace Since

variable {base : List (Entry κ)} {session : Session κ S}

theorem refl (session : Session κ S) : Since session.journal session := by
  refine ⟨[], rfl, ?_⟩
  simp

theorem noting (since : Since base session) {entry : Entry κ} (hentry : entry.isPlacing = false) :
    Since base (session.noting entry) := by
  obtain ⟨noted, hjournal, hnoted⟩ := since
  refine ⟨entry :: noted, congrArg (entry :: ·) hjournal, fun unsent other hother => ?_⟩
  rcases List.mem_cons.1 hother with rfl | hother
  · exact hentry
  · exact hnoted (fun message accepted hmem =>
      unsent message accepted (List.mem_cons_of_mem _ hmem)) other hother

/-- Whatever was noted before a message was sent is settled. -/
theorem of_sent (since : Since base session) {later : Session κ S} {message : HostMessage}
    {accepted : Bool} {noted : List (Entry κ)}
    (hjournal : later.journal = .sent message accepted :: noted ++ session.journal) :
    Since base later := by
  obtain ⟨before, hbefore, -⟩ := since
  refine ⟨.sent message accepted :: noted ++ before, ?_, fun unsent => ?_⟩
  · rw [hjournal, hbefore, List.append_assoc]
  · exact absurd (List.mem_append_left _ List.mem_cons_self) (unsent message accepted)

end Since

namespace Binding

/-- The part of a session that the law is about. -/
def view (session : Session κ S) : (NodeId → Bool) × Table (Interaction → Option (Handler κ)) :=
  (session.bridge.isMounted, session.bridge.handlers)

/-- The entries that the law looks at. -/
def isShown (entry : Entry κ) : Bool := entry.isInstalling || entry.isPlacing

/-- The acts that keep the law. -/
abbrev Keepers (κ S : Type) : Act.Class κ S :=
  Upholding (BoundSince (κ := κ) (S := S)) fun _ => BoundAt

theorem law : ViewLaw view isShown (BoundSince (κ := κ) (S := S)) fun _ => BoundAt where
  congr {base session later} hview hjournal bound := by
    obtain ⟨hmounted, hhandlers⟩ := Prod.mk.inj hview
    refine ⟨⟨fun id => ?_, fun id => ?_⟩, ?_⟩
    · rw [hjournal, ← bound.bound.isMounted_eq]
      exact congrFun hmounted id
    · rw [hjournal, ← bound.bound.handlers_eq, hhandlers]
    · obtain ⟨noted, hnoted⟩ := bound.since
      exact ⟨noted, hjournal ▸ hnoted⟩
  note {base session entry} hentry bound := by
    obtain ⟨hinstalling, hplacing⟩ := Bool.or_eq_false_iff.1 hentry
    exact ⟨bound.bound.noting hinstalling, bound.since.noting hplacing⟩
  moment _ bound := bound.bound

theorem sees : (Keepers κ S).Sees view isShown := law.sees fun _ _ => rfl

theorem hidden (call : Call κ) : call.Hidden isShown := ⟨rfl, fun _ => rfl⟩

theorem ordinary : (Keepers κ S).Ordinary := sees.ordinary fun call _ _ _ _ => hidden call

/-! ### Messages -/

theorem engages (f : Session κ S → Session κ S)
    (hf : ∀ session : Session κ S, session.Engages (f session)) :
    (Act.change f).MadeOf (Keepers κ S) := by
  refine sees.change f fun session => ?_
  obtain ⟨heq, noted, hjournal, hnoted⟩ := hf session
  refine ⟨by rw [heq]; rfl, noted, hjournal, fun entry hentry => ?_⟩
  obtain ⟨_, _, rfl⟩ := hnoted entry hentry
  exact ⟨rfl, rfl⟩

theorem offer (message : HostMessage) :
    (Session.offer message : Act κ S Bool).MadeOf (Keepers κ S) :=
  Act.Class.offer_of_engages engages (sees.call _ (hidden _))

/-- A message was answered: the bridge has only counted it, and the journal tells of the answer and
of how the host was called. -/
structure Exchanged (message : HostMessage) (before : Session κ S) (accepted : Bool)
    (after : Session κ S) : Prop where
  isMounted_eq : after.bridge.isMounted = before.bridge.isMounted
  handlers_eq : after.bridge.handlers = before.bridge.handlers
  journal_eq : ∃ noted, after.journal = .sent message accepted :: noted ++ before.journal ∧
    (∀ entry ∈ noted, Entry.isInstalling entry = false) ∧
      ∀ entry ∈ noted, Entry.isPlacing entry = false

theorem isInstalling_eq_false {entry : Entry κ} (hplacing : entry.isPlacing = false)
    (hsent : ∀ message accepted, entry ≠ .sent message accepted) : entry.isInstalling = false := by
  cases entry with
  | withdrawn id => cases hplacing
  | sent message accepted => exact absurd rfl (hsent message accepted)
  | _ => rfl

variable {caller : Caller κ S}

theorem meets_callHost (apart : caller.HostApart)
    (upholds : caller.Upholds (BoundSince (κ := κ)) fun _ => BoundAt) (message : HostMessage)
    {session : Session κ S} (bound : Bound session) :
    (Session.callHost message).Meets BoundAt caller session fun accepted after =>
      Exchanged message session accepted after := by
  have hcounted : BoundSince session.journal
      { session with bridge := session.bridge.countCall message.op } :=
    ⟨⟨bound.isMounted_eq, bound.handlers_eq⟩, .refl session⟩
  obtain ⟨⟨-, hsince⟩, hmoments⟩ :=
    (Act.Upholds.of_madeOf (offer message)).meets apart upholds hcounted
  obtain ⟨noted, hjournal, hunsent⟩ := Session.journal_callHost apart message session
  -- What is noted while the message is on its way has been noted since the message was counted.
  obtain ⟨noted', hoffered, hplacing⟩ := (hsince session.journal hcounted).since
  have hsame : ((Session.callHost message).run caller session).2.journal =
      .sent message ((Session.callHost message).run caller session).1 ::
        ((Session.offer message).run caller
          { session with bridge := session.bridge.countCall message.op }).2.journal := rfl
  have heq : noted = noted' := by
    rw [hsame, hoffered, List.cons_append, List.cons.injEq] at hjournal
    exact (List.append_cancel_right hjournal.2).symm
  subst heq
  have hplacing := hplacing hunsent
  have hbridge := Session.bridge_callHost apart message session
  refine ⟨⟨?_, ?_, noted, hjournal, fun entry hentry => ?_, hplacing⟩, ?_⟩
  · rw [hbridge, Bridge.countAnswer_eq]
    rfl
  · rw [hbridge, Bridge.countAnswer_eq]
    rfl
  · refine isInstalling_eq_false (hplacing entry hentry) ?_
    rintro sent accepted rfl
    exact hunsent sent accepted hentry
  · -- Neither counting a message nor counting its answer is a moment.
    have hsent : (Session.callHost message).moments caller session =
        (Session.offer message).moments caller
          { session with bridge := session.bridge.countCall message.op } := List.append_nil _
    rw [hsent]
    exact hmoments

/-- What is installed does not depend on how the host was called. -/
theorem Exchanged.installed?_eq {message : HostMessage} {before after : Session κ S}
    {accepted : Bool} (exchanged : Exchanged message before accepted after)
    (hquiet : (Entry.sent (κ := κ) message accepted).isInstalling = false) (id : NodeId) :
    Entry.installed? id after.journal = Entry.installed? id before.journal := by
  obtain ⟨noted, hjournal, hnoted, -⟩ := exchanged.journal_eq
  rw [hjournal]
  refine Entry.installed?_append (fun entry hentry => ?_) id _
  rcases List.mem_cons.1 hentry with rfl | hentry
  · exact hquiet
  · exact hnoted entry hentry

/-- A message that installs nothing leaves the handlers as the journal tells. -/
theorem Exchanged.bound {message : HostMessage} {before after : Session κ S} {accepted : Bool}
    (exchanged : Exchanged message before accepted after)
    (hquiet : (Entry.sent (κ := κ) message accepted).isInstalling = false) (bound : Bound before) :
    Bound after := by
  refine ⟨fun id => ?_, fun id => ?_⟩
  · rw [exchanged.installed?_eq hquiet, exchanged.isMounted_eq]
    exact bound.isMounted_eq id
  · rw [exchanged.installed?_eq hquiet, exchanged.handlers_eq]
    exact bound.handlers_eq id

theorem Exchanged.since {message : HostMessage} {session before after : Session κ S}
    {accepted : Bool} {base : List (Entry κ)} (noted : List (Entry κ))
    (exchanged : Exchanged message before accepted after)
    (hbefore : before.journal = noted ++ session.journal) (since : Since base session) :
    Since base after := by
  obtain ⟨more, hjournal, -⟩ := exchanged.journal_eq
  have hsent : after.journal = .sent message accepted :: (more ++ noted) ++ session.journal := by
    rw [hjournal, hbefore]
    simp
  exact since.of_sent hsent

/-! ### Mounts and updates -/

/-- The answer to a message about a node comes after the declaration of this node. -/
theorem Exchanged.exists_declared {message : HostMessage} {before after : Session κ S}
    {accepted : Bool} {id : NodeId} {node : Node (Handler κ)}
    (exchanged : Exchanged message (before.noting (.declared id node)) accepted after) :
    ∃ rest, after.journal = .sent message accepted :: rest ∧
      Entry.declared? id rest = some node ∧
        ∀ other, Entry.installed? other rest = Entry.installed? other before.journal := by
  obtain ⟨noted, hjournal, hinstalling, hplacing⟩ := exchanged.journal_eq
  refine ⟨noted ++ .declared id node :: before.journal, hjournal, ?_, fun other => ?_⟩
  · rw [Entry.declared?_append hplacing, Entry.declared?, if_pos rfl]
  · rw [Entry.installed?_append hinstalling, Entry.installed?_cons rfl]

theorem Exchanged.bound_mount {before after : Session κ S} {id : NodeId}
    {node : Node (Handler κ)} {placement : Placement}
    (exchanged : Exchanged (.mount (.ofNode node id (some placement)))
      (before.noting (.declared id node)) true after) (bound : Bound before) :
    Bound { after with
      bridge := after.bridge.recordMount id node.kind placement node.handlers } := by
  obtain ⟨rest, hjournal, hdeclared, hrest⟩ := exchanged.exists_declared
  have hinstalled : ∀ other, Entry.installed? other after.journal =
      if other = id then some node else Entry.installed? other before.journal := by
    intro other
    have hnode : Entry.installed? other after.journal =
        if id = other then Entry.declared? other rest else Entry.installed? other rest := by
      rw [hjournal]
      rfl
    -- The mount binds the handlers declared last for its own widget, and no others.
    by_cases hid : other = id
    · subst hid
      rw [hnode, if_pos rfl, if_pos rfl, hdeclared]
    · rw [hnode, if_neg (Ne.symm hid), if_neg hid, hrest]
  refine ⟨fun other => ?_, fun other => ?_⟩
  · have hmounted : after.bridge.isMounted other = before.bridge.isMounted other :=
      congrFun exchanged.isMounted_eq other
    rw [Bridge.isMounted_recordMount, hmounted, bound.isMounted_eq, hinstalled]
    by_cases hid : other = id <;> simp [hid]
  · have hhandlers : (after.bridge.recordMount id node.kind placement node.handlers).handlers =
        before.bridge.handlers.insert id node.handlers :=
      congrArg (Table.insert · id node.handlers) exchanged.handlers_eq
    rw [hhandlers, Table.get?_insert, bound.handlers_eq, hinstalled]
    by_cases hid : other = id <;> simp [hid]

theorem Exchanged.bound_update {before after : Session κ S} {id : NodeId}
    {node : Node (Handler κ)} {place? : Option Placement}
    (exchanged : Exchanged (.update (.ofNode node id place?)) (before.noting (.declared id node))
      true after) (bound : Bound before) :
    Bound { after with bridge := if before.bridge.isMounted id then
      { after.bridge with handlers := after.bridge.handlers.insert id node.handlers }
      else after.bridge } := by
  obtain ⟨rest, hjournal, hdeclared, hrest⟩ := exchanged.exists_declared
  have hinstalled : ∀ other, Entry.installed? other after.journal =
      if other = id then (Entry.installed? id before.journal).map fun _ => node
      else Entry.installed? other before.journal := by
    intro other
    have hnode : Entry.installed? other after.journal =
        if id = other then (Entry.installed? other rest).bind fun _ => Entry.declared? other rest
        else Entry.installed? other rest := by
      rw [hjournal]
      rfl
    by_cases hid : other = id
    · subst hid
      rw [hnode, if_pos rfl, if_pos rfl, hdeclared, hrest]
      cases Entry.installed? other before.journal <;> rfl
    · rw [hnode, if_neg (Ne.symm hid), if_neg hid, hrest]
  have hmounted : ∀ other, after.bridge.isMounted other = before.bridge.isMounted other :=
    congrFun exchanged.isMounted_eq
  have hknown := bound.isMounted_eq id
  refine ⟨fun other => ?_, fun other => ?_⟩
  · have hsame : Bridge.isMounted (if before.bridge.isMounted id then
        { after.bridge with handlers := after.bridge.handlers.insert id node.handlers }
        else after.bridge) other = before.bridge.isMounted other := by
      refine Eq.trans ?_ (hmounted other)
      split <;> rfl
    rw [hsame, bound.isMounted_eq, hinstalled]
    by_cases hid : other = id <;> simp [hid]
  · -- An update binds handlers only where a widget is mounted, which is what the journal counts as
    -- well.
    cases hid : before.bridge.isMounted id with
    | true =>
        rw [if_pos rfl, exchanged.handlers_eq, Table.get?_insert, hinstalled]
        rw [hid] at hknown
        by_cases hother : other = id
        · obtain ⟨old, hold⟩ := Option.isSome_iff_exists.1 hknown.symm
          simp [hother, hold]
        · rw [if_neg hother, if_neg hother]
          exact bound.handlers_eq other
    | false =>
        rw [hid] at hknown
        have hnone := Option.isSome_eq_false_iff.1 hknown.symm
        rw [if_neg Bool.false_ne_true, exchanged.handlers_eq, hinstalled]
        by_cases hother : other = id
        · have hbefore := bound.handlers_eq id
          rw [Option.isNone_iff_eq_none.1 hnone] at hbefore
          rw [if_pos hother, hother, Option.isNone_iff_eq_none.1 hnone]
          exact hbefore
        · rw [if_neg hother]
          exact bound.handlers_eq other

/-! ### Operations -/

theorem upholds_callHost {message : HostMessage}
    (hquiet : ∀ accepted, (Entry.sent (κ := κ) message accepted).isInstalling = false) :
    (Session.callHost message).Upholds (BoundSince (κ := κ) (S := S)) fun _ => BoundAt := by
  intro caller apart upholds base session h
  refine (meets_callHost apart upholds message h.bound).mono fun accepted after exchanged => ?_
  exact ⟨exchanged.bound (hquiet accepted) h.bound, exchanged.since [] rfl h.since⟩

theorem upholds_mount (id : NodeId) (node : Node (Handler κ)) (placement : Placement) :
    (Session.mount id node placement).Upholds (BoundSince (κ := κ) (S := S)) fun _ => BoundAt := by
  intro caller apart upholds base session h
  refine .read_bind ?_
  cases hmounted : session.bridge.isMounted id with
  | true => exact .pure h
  | false =>
      have hdiscarded : Bound { session with slots := session.slots.discard id } :=
        ⟨h.bound.isMounted_eq, h.bound.handlers_eq⟩
      refine .change_bind (.note_bind hdiscarded ?_)
      refine (meets_callHost apart upholds _ (hdiscarded.noting rfl)).bind ?_
      intro accepted after exchanged
      have hsince : Since base after := exchanged.since [.declared id node] rfl h.since
      cases accepted with
      | false => exact .pure ⟨exchanged.bound rfl (hdiscarded.noting rfl), hsince⟩
      | true => exact .change_bind (.pure ⟨exchanged.bound_mount hdiscarded, hsince⟩)

theorem scheduleAt (deadline : Instant) (job : Job κ) :
    (Session.scheduleAt deadline job : Act κ S TaskId).MadeOf (Keepers κ S) := by
  refine .bind (.read _) fun id => .bind (sees.change _ fun session => ?_) fun _ => .pure id
  exact ⟨rfl, [.scheduled ⟨session.scheduler.nextId, deadline, job⟩], rfl, by
    simp [Entry.isRecord, isShown, Entry.isInstalling, Entry.isPlacing]⟩

theorem takeHandle (id : NodeId) :
    (Session.takeHandle id : Act κ S (Option WidgetHandle)).MadeOf (Keepers κ S) :=
  .bind (.read _) fun handle? =>
    .bind (sees.aside (fun _ => rfl) fun _ => rfl) fun _ => .pure handle?

theorem requestHandle (id : NodeId) :
    (Session.requestHandle id : Act κ S Bool).MadeOf (Keepers κ S) := by
  refine .bind (.part (upholds_callHost fun _ => rfl)) fun accepted => .ite ?_ (.pure false)
  refine .bind (scheduleAt _ _) fun task => .bind (.read _) fun previous? => ?_
  refine .bind (sees.aside (fun _ => rfl) fun _ => rfl) fun _ => ?_
  refine .bind (Act.Class.cancelTask?_of_cancelTask (fun id reason => ?_) _ _) fun _ => .pure true
  exact sees.aside (fun _ => rfl) fun _ => rfl

theorem askOnce (id : NodeId) : (Session.askOnce id : Act κ S Unit).MadeOf (Keepers κ S) := by
  refine .bind (.read _) fun wanted => .when (.bind (requestHandle id) fun asked => .when ?_)
  exact sees.aside (fun _ => rfl) fun _ => rfl

theorem upholds_updateInPlace (id : NodeId) (node : Node (Handler κ)) :
    (Session.updateInPlace id node).Upholds (BoundSince (κ := κ) (S := S)) fun _ => BoundAt := by
  intro caller apart upholds base session h
  refine .read_bind (.note_bind h.bound ?_)
  refine (meets_callHost apart upholds _ (h.bound.noting rfl)).bind ?_
  intro accepted after exchanged
  have hsince : Since base after := exchanged.since [.declared id node] rfl h.since
  -- Whether it is mounted is read before the call, as is the placement that the host is told.
  have hplace : ((session.bridge.mounted.get? id).map MountRecord.placement).isSome =
      session.bridge.isMounted id := Option.isSome_map ..
  rw [hplace]
  have hask := Act.Upholds.of_madeOf (askOnce (κ := κ) (S := S) id)
  cases accepted with
  | false =>
      have hafter : BoundSince base after := ⟨exchanged.bound rfl (h.bound.noting rfl), hsince⟩
      cases hmounted : session.bridge.isMounted id with
      | false => exact .pure hafter
      | true =>
          refine (hask caller apart upholds base after hafter).bind ?_
          intro _ last hlast
          exact .pure hlast
  | true =>
      have hbound := exchanged.bound_update h.bound
      cases hmounted : session.bridge.isMounted id with
      | false =>
          rw [hmounted, if_neg Bool.false_ne_true] at hbound
          exact .pure ⟨hbound, hsince⟩
      | true =>
          rw [hmounted, if_pos rfl] at hbound
          refine .bind (.change_bind (hask caller apart upholds base _ ⟨hbound, hsince⟩)) ?_
          intro _ last hlast
          exact .pure hlast

theorem bound_withdrawing {session : Session κ S} (bound : Bound session) (id : NodeId) :
    Bound (session.withdrawing id) := by
  have hinstalled : ∀ other, Entry.installed? other (session.withdrawing id).journal =
      if other = id then none else Entry.installed? other session.journal := by
    intro other
    have hknown := bound.isMounted_eq id
    cases hmounted : session.bridge.isMounted id with
    | true =>
        have hjournal : (session.withdrawing id).journal = .withdrawn id :: session.journal :=
          if_pos hmounted
        have hcons : Entry.installed? other (.withdrawn id :: session.journal) =
            if id = other then none else Entry.installed? other session.journal := rfl
        rw [hjournal, hcons]
        simp only [eq_comm]
    | false =>
        have hjournal : (session.withdrawing id).journal = session.journal :=
          if_neg (by simp [hmounted])
        rw [hmounted] at hknown
        rw [hjournal]
        by_cases hid : other = id
        · -- A widget that is not mounted had no handlers installed, so none are taken away.
          rw [if_pos hid, hid]
          simpa using hknown.symm
        · rw [if_neg hid]
  refine ⟨fun other => ?_, fun other => ?_⟩
  · rw [hinstalled]
    refine (Bridge.isMounted_evict session.bridge id other).trans ?_
    rw [bound.isMounted_eq]
    by_cases hid : other = id <;> simp [hid]
  · rw [hinstalled]
    refine (Table.get?_erase session.bridge.handlers id other).trans ?_
    rw [bound.handlers_eq]
    by_cases hid : other = id <;> simp [hid]

theorem upholds_unmount (id : NodeId) :
    (Session.unmount id).Upholds (BoundSince (κ := κ) (S := S)) fun _ => BoundAt := by
  intro caller apart upholds base session h
  have hwithdrawn := bound_withdrawing h.bound id
  unfold Act.Meets
  rw [Session.run_unmount, Session.moments_unmount]
  cases hrecord : session.bridge.mounted.get? id with
  | none =>
      have hmounted : session.bridge.isMounted id = false := Table.contains_eq_false_iff.2 hrecord
      have hjournal : (session.withdrawing id).journal = session.journal :=
        if_neg (by simp [hmounted])
      obtain ⟨noted, hnoted⟩ := h.since
      exact ⟨⟨hwithdrawn, noted, hjournal ▸ hnoted⟩, fun moment hmoment => by cases hmoment⟩
  | some record =>
      have hmounted : session.bridge.isMounted id = true := Table.contains_iff.2 ⟨record, hrecord⟩
      have hjournal : (session.withdrawing id).journal = [.withdrawn id] ++ session.journal :=
        if_pos hmounted
      -- The handlers are gone before the host is told, and its answer does not bring them back.
      obtain ⟨exchanged, hmoments⟩ :=
        meets_callHost apart upholds (Session.unmountMessage id record) hwithdrawn
      refine ⟨⟨exchanged.bound rfl hwithdrawn, exchanged.since _ hjournal h.since⟩, ?_⟩
      intro moment hmoment
      rcases List.mem_cons.1 hmoment with rfl | hmoment
      · exact h.bound
      · exact hmoments moment hmoment

/-! ### Everything -/

theorem jobs {allowed : Request κ → Prop} : (Keepers κ S).Jobs allowed :=
  sees.jobs (fun _ _ => rfl) fun _ _ _ _ => rfl

theorem turns : (Keepers κ S).Turns where
  markStarted := (jobs : (Keepers κ S).Jobs fun _ => False).markStarted
  call call _ := sees.call call (hidden call)
  resolveRequested id := by
    refine .bind (takeHandle id) fun published? => ?_
    refine sees.aside (fun session => Prod.ext (funext fun other => ?_) ?_) fun _ => rfl
    · exact Bridge.isMounted_congr (by simp)
    · exact Bridge.handlers_settle _ _ _

theorem singles {allowed : Request κ → Prop} : (Keepers κ S).Singles allowed where
  toJobs := jobs
  publish _ _ _ := sees.aside (fun _ => rfl) fun _ => rfl
  takeHandle id _ := takeHandle id
  resolveHandle id receiver := by
    refine .bind (.read _) fun bridge => .bind (.when ?_) fun _ => ?_
    · exact .bind (requestHandle id) fun _ => .pure ()
    · exact .bind (scheduleAt _ _) fun _ => .pure ()
  invoke id command := by
    refine .bind (.read _) fun handle? => ?_
    cases handle? with
    | none => exact .pure false
    | some handle => exact .part (upholds_callHost fun _ => rfl)
  mount id node placement := .part (upholds_mount id node placement)
  updateInPlace id node := .part (upholds_updateInPlace id node)
  updateAt id node placement := by
    refine .bind (sees.aside (fun session => Prod.ext (funext fun other => ?_) rfl) fun _ => rfl)
      fun _ => .part (upholds_updateInPlace id node)
    exact Bridge.isMounted_place _ _ _ _
  countHandlerFailure := sees.aside (fun _ => rfl) fun _ => rfl
  direct request hdirect _ := by
    cases request with
    -- What is sent past the bridge installs nothing, even if it is a mount.
    | sendDirectly message =>
        exact Act.Class.sendDirectly_of_engages engages (sees.call _ (hidden _))
    | failOp | recoverOp | clearRecording | setWireFault =>
        exact sees.aside (fun _ => rfl) fun _ => rfl
    | _ => cases hdirect

theorem core {allowed : Request κ → Prop} : (Keepers κ S).Core allowed := by
  have runDue : (Session.runDue : Act κ S Nat).MadeOf (Keepers κ S) := by
    refine turns.runDue (fun entry hpass => ?_) ?_
    · cases entry <;> first | exact sees.note _ rfl rfl | cases hpass
    · exact Act.Class.takeBatch_of_change fun _ => sees.aside (fun _ => rfl) fun _ => rfl
  exact .of_unmount ordinary singles runDue fun id => .part (upholds_unmount id)

theorem governs {allowed : Request κ → Prop} :
    Governs allowed (fun _ => True) (BoundSince (κ := κ) (S := S)) fun _ => BoundAt where
  covers := by
    have hplain : ∀ entry : Entry κ, entry.isPlain = true → isShown entry = false := by
      intro entry hentry
      cases entry <;> first | rfl | cases hentry
    have core : (Keepers κ S).Core allowed := core
    have panels : (Keepers κ S).Panels := sees.panels ordinary rfl fun _ _ => rfl
    have events : (Keepers κ S).Events := sees.events (fun _ _ _ => ⟨rfl, fun _ => rfl⟩)
      (fun entry hevent => hplain entry (Entry.isPlain_of_isEvent hevent)) fun _ _ => rfl
    have shell : (Keepers κ S).Shell := sees.shell panels core
      (fun entry hdisplay => hplain entry (Entry.isPlain_of_isDisplay hdisplay)) fun _ _ _ => rfl
    exact sees.covers ordinary (fun entry hpress => hplain entry (Entry.isPlain_of_isPress hpress))
      (fun call _ => hidden call) (fun _ _ _ _ _ _ _ => rfl) events panels core shell
  store _ h := ⟨⟨h.bound.isMounted_eq, h.bound.handlers_eq⟩, h.since⟩
  callback {_ call session} _ _ bound :=
    ⟨(session.noting (.called call)).journal, trivial, Bound.noting bound rfl, .refl _⟩

end Binding

/-! ## What a dispatch does -/

namespace Session

variable {caller : Caller κ S}

theorem handlers_requestHandle (apart : caller.HostApart) (id : NodeId) (session : Session κ S) :
    ((requestHandle id).run caller session).2.bridge.handlers = session.bridge.handlers := by
  have hbridge := bridge_callHost apart (.requestHandle id) session
  unfold requestHandle
  rw [Act.run_bind]
  generalize (callHost _).run caller session = sent at hbridge ⊢
  obtain ⟨accepted, sent⟩ := sent
  have hsent : sent.bridge.handlers = session.bridge.handlers := by
    rw [hbridge, Bridge.countAnswer_eq]
    rfl
  cases accepted with
  | false => exact hsent
  | true =>
      have hpending : ∀ previous? (later : Session κ S),
          later.bridge.handlers = session.bridge.handlers →
            ((cancelTask? previous? .superseded).run caller later).2.bridge.handlers =
              session.bridge.handlers := by
        intro previous? later hlater
        cases previous? <;> exact hlater
      exact hpending _ _ hsent

theorem handlers_askOnce (apart : caller.HostApart) (id : NodeId) (session : Session κ S) :
    ((askOnce id).run caller session).2.bridge.handlers = session.bridge.handlers := by
  have hasked := handlers_requestHandle apart id session
  unfold askOnce
  simp only [Act.run_bind, Act.run_read, Act.run_when]
  split
  · split
    · exact hasked
    · exact hasked
  · rfl

/-- An update that the host rejects leaves the handlers alone. -/
theorem handlers_updateInPlace (apart : caller.HostApart) (id : NodeId) (node : Node (Handler κ))
    (session : Session κ S)
    (hrejected : ((updateInPlace id node).run caller session).1 = false) :
    ((updateInPlace id node).run caller session).2.bridge.handlers = session.bridge.handlers := by
  have hbridge := bridge_callHost apart
    (.update (.ofNode node id ((session.bridge.mounted.get? id).map MountRecord.placement)))
    (session.noting (.declared id node))
  unfold updateInPlace at hrejected ⊢
  simp only [Act.run_bind, Act.run_read, Act.run_note, Act.run_pure] at hrejected ⊢
  generalize (callHost _).run caller _ = sent at hbridge hrejected ⊢
  obtain ⟨accepted, sent⟩ := sent
  subst hrejected
  have hsent : sent.bridge.handlers = session.bridge.handlers := by
    rw [hbridge, Bridge.countAnswer_eq]
    rfl
  rw [Act.run_when]
  split
  · exact (handlers_askOnce apart id sent).trans hsent
  · exact hsent

theorem handlers_updateAt (apart : caller.HostApart) (id : NodeId) (node : Node (Handler κ))
    (placement : Placement) (session : Session κ S)
    (hrejected : ((updateAt id node placement).run caller session).1 = false) :
    ((updateAt id node placement).run caller session).2.bridge.handlers =
      session.bridge.handlers :=
  handlers_updateInPlace apart id node
    { session with bridge := session.bridge.place id placement } hrejected

/-- An interaction reaches the handler that the installed node of its widget binds, and no other
one. -/
structure Handles (caller : Caller κ S) (event : UiEvent) (session : Session κ S) : Prop where
  isMounted_eq : session.bridge.isMounted event.node =
    (Entry.installed? event.node session.journal).isSome
  /-- The dispatch tells whether the widget is mounted. -/
  result_eq : ((dispatchEvent event).run caller session).1 = session.bridge.isMounted event.node
  /-- Where no handler is bound nothing happens. -/
  idle : ((Entry.installed? event.node session.journal).bind fun node =>
      node.handlers event.kind) = none →
    ((dispatchEvent event).run caller session).2 = session ∧
      (dispatchEvent event).moments caller session = []
  /-- The handler is called once with the event, and a panic is counted when it has ended. -/
  handled : ∀ node handler, Entry.installed? event.node session.journal = some node →
    node.handlers event.kind = some handler → ∃ outcome ended noted,
      caller.answer (.interaction handler event)
          (session.noting (.called (.interaction handler event))) = (outcome, ended) ∧
        ((dispatchEvent event).run caller session).2.journal = noted ++ session.journal ∧
        Entry.outermost 0 noted = [.returned (.interaction handler event) outcome] ∧
        ((dispatchEvent event).run caller session).2.bridge.stats.handlerFailures =
          ended.bridge.stats.handlerFailures + if outcome.isOk then 0 else 1

theorem run_dispatchEvent_of_unbound {event : UiEvent} {session : Session κ S}
    (hunbound : ((session.bridge.handlers.get? event.node).bind fun handlers =>
      handlers event.kind) = none) :
    (dispatchEvent event).run caller session = (session.bridge.isMounted event.node, session) ∧
      (dispatchEvent event).moments caller session = [] := by
  unfold dispatchEvent
  simp only [Act.run_bind, Act.run_read, Act.moments_bind, Act.moments_read, List.nil_append,
    hunbound]
  cases session.bridge.isMounted event.node <;> exact ⟨rfl, rfl⟩

theorem run_dispatchEvent_of_bound {event : UiEvent} {session : Session κ S} {handler : Handler κ}
    (hmounted : session.bridge.isMounted event.node = true)
    (hbound : ((session.bridge.handlers.get? event.node).bind fun handlers =>
      handlers event.kind) = some handler)
    {outcome : Guarded Unit} {called : Session κ S}
    (hcalled : (Act.call (.interaction handler event)).run caller session = (outcome, called)) :
    (dispatchEvent event).run caller session = (true,
      if outcome.isOk then called
      else { called with bridge := called.bridge.countHandlerFailure }) := by
  unfold dispatchEvent
  simp only [Act.run_bind, Act.run_read, hmounted, hbound, hcalled, Bool.not_true,
    Bool.false_eq_true, if_false]
  cases outcome <;> rfl

theorem handles_of_bound {session : Session κ S} (bound : Bound session)
    (courses : caller.Courses) (event : UiEvent) : session.Handles caller event := by
  have hmounted := bound.isMounted_eq event.node
  have hbinds : ((session.bridge.handlers.get? event.node).bind fun handlers =>
      handlers event.kind) = (Entry.installed? event.node session.journal).bind fun node =>
        node.handlers event.kind := by
    rw [bound.handlers_eq]
    cases Entry.installed? event.node session.journal <;> rfl
  have hidle : ((Entry.installed? event.node session.journal).bind fun node =>
      node.handlers event.kind) = none →
      (dispatchEvent event).run caller session = (session.bridge.isMounted event.node, session) ∧
        (dispatchEvent event).moments caller session = [] :=
    fun hnone => run_dispatchEvent_of_unbound (hbinds.trans hnone)
  refine ⟨hmounted, ?_, fun hnone => ?_, fun node handler hnode hhandler => ?_⟩
  · cases hhandler : (Entry.installed? event.node session.journal).bind fun node =>
        node.handlers event.kind with
    | none => rw [(hidle hhandler).1]
    | some handler =>
        obtain ⟨node, hnode, -⟩ := Option.bind_eq_some_iff.1 hhandler
        rw [hnode] at hmounted
        rw [run_dispatchEvent_of_bound hmounted (hbinds.trans hhandler) rfl]
        exact hmounted.symm
  · obtain ⟨hrun, hmoments⟩ := hidle hnone
    rw [hrun]
    exact ⟨rfl, hmoments⟩
  · -- The widget has a handler: it is called exactly once, and its outcome is the result.
    rw [hnode] at hmounted hbinds
    obtain ⟨noted, hjournal, -, houtermost⟩ :=
      call_spec courses (.interaction handler event) session
    cases hanswer : caller.answer (.interaction handler event)
        (session.noting (.called (.interaction handler event))) with
    | mk outcome ended =>
        have hcalled : (Act.call (.interaction handler event)).run caller session =
            (outcome, ended.noting (.returned (.interaction handler event) outcome)) := by
          rw [Act.run_call, hanswer]
        rw [hcalled] at hjournal houtermost
        rw [run_dispatchEvent_of_bound hmounted (hbinds.trans hhandler) hcalled]
        refine ⟨outcome, ended, noted, rfl, ?_, houtermost, ?_⟩
        · rw [← hjournal]
          cases outcome <;> rfl
        · cases outcome <;> rfl

end Session

/-- In every session on the way of a run, also in the middle of a handler, an interaction runs the
handler that the latest accepted node of its widget binds, and a rejected update changes none. -/
theorem interactions_handled {allowed : Request κ → Prop} {sink : ChordSink} {host : Host} {app : S}
    {session : Session κ S} (hpasses : (Session.fresh sink host app).Passes allowed session)
    {code : Code κ S} (within : code.Within allowed) (depth : Nat) :
    (∀ event, session.Handles (code.caller depth) event) ∧
      (∀ id node, ((Session.updateInPlace id node).run (code.caller depth) session).1 = false →
        ((Session.updateInPlace id node).run (code.caller depth) session).2.bridge.handlers =
          session.bridge.handlers) ∧
      ∀ id node placement,
        ((Session.updateAt id node placement).run (code.caller depth) session).1 = false →
          ((Session.updateAt id node placement).run (code.caller depth) session).2.bridge.handlers =
            session.bridge.handlers := by
  have hfresh : BoundSince [] (Session.fresh (κ := κ) sink host app) :=
    ⟨⟨fun _ => rfl, fun _ => rfl⟩, .refl _⟩
  have bound : Bound session := Binding.governs.passes (fun _ h => h.bound) (fun _ h => h)
    ⟨[], trivial, hfresh⟩ hpasses
  have apart := within.apart depth
  refine ⟨fun event => ?_, fun id node hrejected => ?_, fun id node placement hrejected => ?_⟩
  · exact Session.handles_of_bound bound (code.courses within depth) event
  · exact Session.handlers_updateInPlace apart id node session hrejected
  · exact Session.handlers_updateAt apart id node placement session hrejected

/-- A node that binds clicks to a handler of the embedding program. -/
def Node.clickable : Node (Handler Unit) :=
  { Node.ofKind .view with handlers := fun kind => if kind = .click then some (.user ()) else none }

/-- The code of a program whose handlers panic. -/
def Code.brittle : Code Unit Unit :=
  { Code.accepting with interaction := fun _ _ => .panic "broken" }

theorem Code.within_brittle (allowed : Request Unit → Prop) : Code.brittle.Within allowed :=
  { Code.within_accepting allowed with
    interaction := fun _ _ => True.intro
    apart := Code.hostApart_of_silent fun _ => True.intro }

/-- A widget that binds clicks to a handler that panics. -/
def Session.clickableSession : Session Unit Unit :=
  ((Request.mount "a" Node.clickable .root).perform.run (Code.brittle.caller 1)
    (.fresh .nobody (.fresh .recording true) ())).2

theorem interactions_handled_panic :
    Session.clickableSession.Handles (Code.brittle.caller 1) ⟨"a", .click, .null⟩ ∧
      (Entry.installed? "a" Session.clickableSession.journal).isSome = true ∧
      ((Session.dispatchEvent ⟨"a", .click, .null⟩).run (Code.brittle.caller 1)
        Session.clickableSession).1 = true ∧
      ((Session.dispatchEvent ⟨"a", .click, .null⟩).run (Code.brittle.caller 1)
        Session.clickableSession).2.bridge.stats.handlerFailures = 1 := by
  have within := Code.within_brittle fun _ => True
  have hreaches : (Session.fresh .nobody (.fresh .recording true) ()).Reaches (fun _ => True)
      Session.clickableSession := .act (.request _ True.intro) within .refl
  have hhandled := (interactions_handled (.reached hreaches) within 1).1 ⟨"a", .click, .null⟩
  refine ⟨hhandled, by decide +kernel, ?_, by decide +kernel⟩
  rw [hhandled.result_eq]
  decide +kernel

end EditorShell
