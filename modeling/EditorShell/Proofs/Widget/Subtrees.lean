import EditorShell.Proofs.Host.Recording
import EditorShell.Proofs.Widget.Ancestry
import EditorShell.Proofs.Widget.Unmounting

/-!
# Unmounting a subtree

The unmount of a subtree takes out a widget and whatever has it above, by the recorded parents of
mounted widgets (`subtrees_unmounted`).  The recorded parents are any partial map: a parent may be
missing, it may have been mounted after its children, and the way up may go round in circles.  What
is picked is decided by `Bridge.descendsFrom_iff`; this module follows the unmounts one after the
other.
-/

namespace EditorShell

variable {κ S : Type}

/-- Some widgets are forgotten, and nothing changes for the other ones. -/
structure Bridge.Forgets {ι : Type} (ids : List NodeId) (before after : Bridge ι) : Prop where
  mounted : ∀ id, after.mounted.get? id = if id ∈ ids then none else before.mounted.get? id
  handlers : ∀ id, after.handlers.get? id = if id ∈ ids then none else before.handlers.get? id
  handles : ∀ id, after.handles.get? id = if id ∈ ids then none else before.handles.get? id

namespace Bridge.Forgets

variable {ι : Type} {first second third : Bridge ι}

theorem nothing (bridge : Bridge ι) : Forgets [] bridge bridge :=
  ⟨fun _ => by simp, fun _ => by simp, fun _ => by simp⟩

theorem evict (bridge : Bridge ι) (id : NodeId) : Forgets [id] bridge (bridge.evict id) := by
  refine ⟨fun other => ?_, fun other => ?_, fun other => ?_⟩
  all_goals
    rw [Bridge.evict, Table.get?_erase]
    simp only [List.mem_singleton]

/-- Two lists of lookups that are emptied one after the other are emptied together. -/
theorem if_mem_append {α : Type} {ids rest : List NodeId} {id : NodeId} (value? : Option α) :
    (if id ∈ rest then none else if id ∈ ids then none else value?) =
      if id ∈ ids ++ rest then none else value? := by
  by_cases hids : id ∈ ids <;> by_cases hrest : id ∈ rest <;> simp [hids, hrest]

theorem trans {ids rest : List NodeId} (hfirst : Forgets ids first second)
    (hsecond : Forgets rest second third) : Forgets (ids ++ rest) first third where
  mounted id := by rw [hsecond.mounted, hfirst.mounted, if_mem_append]
  handlers id := by rw [hsecond.handlers, hfirst.handlers, if_mem_append]
  handles id := by rw [hsecond.handles, hfirst.handles, if_mem_append]

/-- Counting a message forgets nothing. -/
theorem answered {ids : List NodeId} (forgets : Forgets ids first second) (sent : SentMessage) :
    Forgets ids first (second.answered sent) := by
  unfold Bridge.answered
  rw [Bridge.countAnswer_eq]
  exact ⟨forgets.mounted, forgets.handlers, forgets.handles⟩

end Bridge.Forgets

namespace Session

variable {caller : Caller κ S}

/-- What one after the other is sent when widgets are unmounted: for each of them one unmount of its
id, with the kind and the place that were recorded of it and without attributes. -/
def Unmounts (before : Bridge (Handler κ)) (ids : List NodeId) (messages : List SentMessage) :
    Prop :=
  List.Forall₂ (fun id sent => ∃ record, before.mounted.get? id = some record ∧
    sent.message = .unmount
      { id := id, kind := record.kind, parent := record.placement.parent,
        order := some record.placement.order, style := .empty, props := .empty }) ids messages

theorem sent_callHost (apart : caller.HostApart) (message : HostMessage) (session : Session κ S) :
    ((callHost message).run caller session).2.sent =
      session.sent ++ [⟨message, ((callHost message).run caller session).1⟩] := by
  obtain ⟨noted, hjournal, hnoted⟩ := journal_callHost apart message session
  rw [sent_append hjournal, List.reverse_cons, List.filterMap_append,
    filterMap_sent?_eq_nil hnoted]
  rfl

/-- A mounted widget that is unmounted is sent one unmount and is forgotten. -/
theorem unmounts_unmount (apart : caller.HostApart) {id : NodeId} {record : MountRecord}
    {session : Session κ S} (hrecord : session.bridge.mounted.get? id = some record) :
    session.bridge.Forgets [id] ((unmount id).run caller session).2.bridge ∧
      ∃ accepted, ((unmount id).run caller session).2.sent =
        session.sent ++ [⟨unmountMessage id record, accepted⟩] := by
  have hwithdrawn : (session.withdrawing id).sent = session.sent := by
    have hjournal : (session.withdrawing id).journal = [.withdrawn id] ++ session.journal :=
      if_pos (Table.contains_iff.2 ⟨record, hrecord⟩)
    rw [sent_append hjournal]
    exact List.append_nil _
  rw [run_unmount, hrecord]
  dsimp only
  rw [sent_callHost apart, hwithdrawn, bridge_callHost apart]
  exact ⟨(Bridge.Forgets.evict session.bridge id).answered ⟨unmountMessage id record, _⟩, _, rfl⟩

/-- Unmounting several mounted widgets sends each of them one unmount and forgets them. -/
theorem unmounts_unmountAll (apart : caller.HostApart) {ids : List NodeId}
    {session : Session κ S} (hnodup : ids.Nodup)
    (hmounted : ∀ id ∈ ids, session.bridge.isMounted id = true) :
    session.bridge.Forgets ids ((unmountAll ids).run caller session).2.bridge ∧
      ∃ messages, ((unmountAll ids).run caller session).2.sent = session.sent ++ messages ∧
        Unmounts session.bridge ids messages := by
  induction ids generalizing session with
  | nil => exact ⟨.nothing _, [], (List.append_nil _).symm, .nil⟩
  | cons id rest ih =>
      obtain ⟨hfresh, hrest⟩ := List.nodup_cons.1 hnodup
      obtain ⟨record, hrecord⟩ := Table.contains_iff.1 (hmounted id List.mem_cons_self)
      obtain ⟨hforgets, accepted, hsent⟩ := unmounts_unmount apart hrecord
      -- The others are still mounted, at the same places.
      have hkept : ∀ other ∈ rest, ((unmount id).run caller session).2.bridge.mounted.get? other =
          session.bridge.mounted.get? other := by
        intro other hother
        have hne : other ∉ [id] := fun hmem =>
          hfresh ((List.mem_singleton.1 hmem) ▸ hother)
        rw [hforgets.mounted, if_neg hne]
      have hstill : ∀ other ∈ rest,
          ((unmount id).run caller session).2.bridge.isMounted other = true := by
        intro other hother
        rw [Bridge.isMounted_congr (hkept other hother)]
        exact hmounted other (List.mem_cons_of_mem _ hother)
      obtain ⟨hforgets', messages, hsent', hmessages⟩ := ih hrest hstill
      have hrun : (unmountAll (id :: rest)).run caller session =
          (unmountAll rest).run caller ((unmount id).run caller session).2 := rfl
      rw [hrun]
      refine ⟨hforgets.trans hforgets', ⟨unmountMessage id record, accepted⟩ :: messages, ?_,
        .cons ⟨record, hrecord, rfl⟩ ?_⟩
      · rw [hsent', hsent, List.append_assoc, List.singleton_append]
      · refine ((List.forall₂_and_left _ _).2 ⟨hkept, hmessages⟩).imp fun other sent hother => ?_
        rw [← hother.1]
        exact hother.2

end Session

/-! ## The subtree -/

/-- A widget and everything that had it above has been unmounted, and nothing else has. -/
structure Session.WithoutSubtree (id : NodeId) (before : Session κ S) (unmounted : List NodeId)
    (after : Session κ S) : Prop where
  /-- What is taken out is the widget itself and what comes up to it in one or more steps. -/
  mem_iff : ∀ other, other ∈ unmounted ↔ before.bridge.isMounted other = true ∧
    (other = id ∨ Bridge.Above before.bridge.mounted id other)
  /-- Each is listed once. -/
  nodup : unmounted.Nodup
  /-- None is unmounted before something deeper. -/
  deepest_first : unmounted.Pairwise fun first second => ∀ record record',
    before.bridge.mounted.get? first = some record →
      before.bridge.mounted.get? second = some record' → record'.depth ≤ record.depth
  /-- They are forgotten, and the others keep their place, their handlers and their handle. -/
  forgets : before.bridge.Forgets unmounted after.bridge
  /-- Each is sent one unmount, and nothing else is sent. -/
  sent_eq : ∃ messages, after.sent = before.sent ++ messages ∧
    Session.Unmounts before.bridge unmounted messages

/-- In every session and for every id the subtree is unmounted, whatever the recorded parents are
and whatever the host answers; and the way up is followed far enough on every table of parents. -/
theorem subtrees_unmounted :
    (∀ (caller : Caller κ S), caller.HostApart → ∀ (id : NodeId) (session : Session κ S),
      session.WithoutSubtree id ((Session.unmountSubtree id).run caller session).1
        ((Session.unmountSubtree id).run caller session).2) ∧
      ∀ (mounted : Table MountRecord) (id ancestor : NodeId),
        Bridge.descendsFrom mounted id ancestor = true ↔ Bridge.Above mounted ancestor id := by
  refine ⟨fun caller apart id session => ?_, fun mounted id ancestor => Bridge.descendsFrom_iff⟩
  have hmem : ∀ other, other ∈ session.bridge.subtree id ↔
      session.bridge.isMounted other = true ∧
        (other = id ∨ Bridge.Above session.bridge.mounted id other) := by
    intro other
    unfold Bridge.subtree
    rw [Bridge.mem_unmountOrder, Bool.or_eq_true, beq_iff_eq, Bridge.descendsFrom_iff]
  have hnodup : (session.bridge.subtree id).Nodup := session.bridge.nodup_unmountOrder _
  have hdeepest := session.bridge.pairwise_unmountOrder fun other =>
    other == id || Bridge.descendsFrom session.bridge.mounted other id
  obtain ⟨hforgets, hsent⟩ := Session.unmounts_unmountAll apart hnodup fun other hother =>
    ((hmem other).1 hother).1
  exact ⟨hmem, hnodup, hdeepest, hforgets, hsent⟩

/-- Two widgets each of which is recorded below the other, a third one below them, and a fourth one
that is not. -/
def Session.loopSession : Session Empty Unit :=
  (((do
    let _ ← mount "a" (Node.ofKind .view) (.childOf "b" 0)
    let _ ← mount "b" (Node.ofKind .view) (.childOf "a" 0)
    let _ ← mount "c" (Node.ofKind .view) (.childOf "b" 1)
    mount "d" (Node.ofKind .view) (.childOf "gone" 0)) : Act Empty Unit Bool).run
      (Code.plain.caller 1) recordingSession).2

/-- The three are unmounted, the deepest first, although the way up from each of them is a ring. -/
theorem subtrees_unmounted_loop :
    ((Session.unmountSubtree "a").run (Code.plain.caller 1) Session.loopSession).1 =
        ["c", "b", "a"] ∧
      ((Session.unmountSubtree "a").run (Code.plain.caller 1) Session.loopSession).2.sent =
        Session.loopSession.sent ++
          [⟨.unmount ⟨"c", .view, some "b", some 1, .empty, .empty⟩, true⟩,
            ⟨.unmount ⟨"b", .view, some "a", some 0, .empty, .empty⟩, true⟩,
            ⟨.unmount ⟨"a", .view, some "b", some 0, .empty, .empty⟩, true⟩] ∧
      Session.loopSession.WithoutSubtree "a"
        ((Session.unmountSubtree "a").run (Code.plain.caller 1) Session.loopSession).1
        ((Session.unmountSubtree "a").run (Code.plain.caller 1) Session.loopSession).2 :=
  ⟨by decide +kernel, by decide +kernel, subtrees_unmounted.1 (Code.plain.caller 1)
    (Code.hostApart_plain 1) "a" Session.loopSession⟩

end EditorShell
