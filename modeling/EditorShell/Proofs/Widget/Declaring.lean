import EditorShell.Proofs.Run.Operations
import EditorShell.Proofs.Widget.Unmounting

/-!
# What a render tells the host

A render sends an update for every node of its tree.  So when the ids of a tree are distinct and the
host refuses no mount, every node is mounted and updated (`reaches_render`); and if the host refuses
no update either, the last that it was told of each widget afterwards is what its node says, and the
handlers that the bridge keeps are those of the node (`tells_render`).

## Strategy

What the host was told of a widget and what the bridge keeps for it (`Session.told`) is changed only
by messages about this widget.  The walk visits each id once, so what a visit tells stays told until
the render ends.  The recursion follows the walk and adds up the visits (`Tells`).
-/

namespace EditorShell

variable {κ S ι : Type}

/-! ## The members of a tree -/

namespace Node

mutual

/-- The nodes of a tree under their ids, each node before its children. -/
def members (parent : Option NodeId) (index : Nat) : Node ι → List (NodeId × Node ι)
  | ⟨id, kind, style, props, handlers, children, data⟩ =>
    let node : Node ι := ⟨id, kind, style, props, handlers, children, data⟩
    (node.effectiveId parent index, node) ::
      membersBelow (node.effectiveId parent index) 0 children

/-- The nodes below a parent, from child number `index` on. -/
def membersBelow (parent : NodeId) (index : Nat) : List (Node ι) → List (NodeId × Node ι)
  | [] => []
  | child :: children =>
    members (some parent) index child ++ membersBelow parent (index + 1) children

end

theorem mem_membersBelow {entry : NodeId × Node ι} {child : Node ι}
    (hentry : ∀ parent index, entry ∈ child.members parent index) {children : List (Node ι)}
    (hchild : child ∈ children) (parent : NodeId) (index : Nat) :
    entry ∈ membersBelow parent index children := by
  induction children generalizing index with
  | nil => cases hchild
  | cons other rest ih =>
      unfold membersBelow
      rcases List.mem_cons.1 hchild with rfl | hrest
      · exact List.mem_append_left _ (hentry _ _)
      · exact List.mem_append_right _ (ih hrest _)

/-- A node with an id of its own is a member under this id. -/
theorem mem_members_self {node : Node ι} {id : NodeId} (hid : node.id = some id)
    (parent : Option NodeId) (index : Nat) : (id, node) ∈ node.members parent index := by
  obtain ⟨own, kind, style, props, handlers, children, data⟩ := node
  obtain rfl : own = some id := hid
  unfold members
  exact List.mem_cons_self

/-- The members of a child are members. -/
theorem mem_members_of_child {entry : NodeId × Node ι} {child node : Node ι}
    (hentry : ∀ parent index, entry ∈ child.members parent index) (hchild : child ∈ node.children)
    (parent : Option NodeId) (index : Nat) : entry ∈ node.members parent index := by
  obtain ⟨own, kind, style, props, handlers, children, data⟩ := node
  unfold members
  exact List.mem_cons_of_mem _ (mem_membersBelow hentry hchild _ _)

end Node

/-! ## What the host was told -/

namespace Entry

/-- What an update carried, whether the host accepted it or not. -/
def update? : Entry κ → Option HostNode
  | .sent (.update node) _ => some node
  | _ => none

/-- An update with what a node says was sent, whether the host accepted it or not. -/
def Updates (id : NodeId) (node : Node (Handler κ)) (noted : List (Entry κ)) : Prop :=
  ∃ place? accepted, .sent (.update (.ofNode node id place?)) accepted ∈ noted

theorem Updates.mono {id : NodeId} {node : Node (Handler κ)} {noted more : List (Entry κ)}
    (updates : Updates id node noted) (hsub : noted ⊆ more) : Updates id node more := by
  obtain ⟨place?, accepted, hmem⟩ := updates
  exact ⟨place?, accepted, hsub hmem⟩

/-- Whether the host refused a message. -/
def isRefusal : Entry κ → Bool
  | .sent _ accepted => !accepted
  | _ => false

/-- What the last update of a widget carried. -/
def lastUpdate? (id : NodeId) (journal : List (Entry κ)) : Option HostNode :=
  (journal.filterMap update?).find? fun node => node.id == id

theorem lastUpdate?_append (id : NodeId) (noted rest : List (Entry κ)) :
    lastUpdate? id (noted ++ rest) = (lastUpdate? id noted).or (lastUpdate? id rest) := by
  unfold lastUpdate?
  rw [List.filterMap_append, List.find?_append]

theorem lastUpdate?_update (id : NodeId) (node : HostNode) (accepted : Bool)
    (rest : List (Entry κ)) : lastUpdate? id (.sent (.update node) accepted :: rest) =
      if node.id = id then some node else lastUpdate? id rest := by
  unfold lastUpdate?
  rw [List.filterMap_cons_some (show update? (.sent (.update node) accepted) = some node from rfl),
    List.find?_cons]
  by_cases hid : node.id = id
  · rw [beq_iff_eq.2 hid, if_pos hid]
  · rw [beq_eq_false_iff_ne.2 hid, if_neg hid]

theorem lastUpdate?_eq_none {noted : List (Entry κ)}
    (hnoted : ∀ entry ∈ noted, update? entry = none) (id : NodeId) :
    lastUpdate? id noted = none := by
  unfold lastUpdate?
  rw [List.filterMap_eq_nil_iff.2 hnoted]
  rfl

/-- What tells of no update changes nothing. -/
theorem lastUpdate?_append_of_none {noted : List (Entry κ)}
    (hnoted : ∀ entry ∈ noted, update? entry = none) (id : NodeId) (rest : List (Entry κ)) :
    lastUpdate? id (noted ++ rest) = lastUpdate? id rest := by
  rw [lastUpdate?_append, lastUpdate?_eq_none hnoted, Option.none_or]

theorem update?_eq_none {entry : Entry κ}
    (hentry : ∀ message accepted, entry ≠ .sent message accepted) : entry.update? = none := by
  cases entry <;> first | rfl | exact absurd rfl (hentry _ _)

theorem update?_eq_none_of_notMem {noted : List (Entry κ)}
    (hnoted : ∀ message accepted, Entry.sent message accepted ∉ noted) :
    ∀ entry ∈ noted, update? entry = none := by
  intro entry hentry
  refine update?_eq_none ?_
  rintro message accepted rfl
  exact hnoted message accepted hentry

end Entry

namespace Session

/-- What the host was last told of a widget, whether it is mounted, and the handlers that are kept
for it. -/
def told (session : Session κ S) (id : NodeId) :
    Option HostNode × Bool × Option (Interaction → Option (Handler κ)) :=
  (Entry.lastUpdate? id session.journal, session.bridge.isMounted id,
    session.bridge.handlers.get? id)

/-- The host was told of these widgets only. -/
structure TellsOf (ids : List NodeId) (before after : Session κ S) : Prop where
  grows : ∃ noted, after.journal = noted ++ before.journal
  others : ∀ id, id ∉ ids → after.told id = before.told id

namespace TellsOf

theorem refl (session : Session κ S) : TellsOf [] session session := ⟨⟨[], rfl⟩, fun _ _ => rfl⟩

theorem trans {ids more : List NodeId} {first second third : Session κ S}
    (hfirst : TellsOf ids first second) (hsecond : TellsOf more second third) :
    TellsOf (ids ++ more) first third := by
  obtain ⟨noted, hjournal⟩ := hfirst.grows
  obtain ⟨later, hlater⟩ := hsecond.grows
  refine ⟨⟨later ++ noted, by rw [hlater, hjournal, List.append_assoc]⟩, fun id hid => ?_⟩
  rw [List.mem_append, not_or] at hid
  rw [hsecond.others id hid.2, hfirst.others id hid.1]

theorem mono {ids more : List NodeId} {before after : Session κ S}
    (tells : TellsOf ids before after)
    (hids : ids ⊆ more) : TellsOf more before after :=
  ⟨tells.grows, fun id hid => tells.others id fun hmem => hid (hids hmem)⟩

/-- No update is sent, and the tables change for these widgets only. -/
theorem of_tables {ids : List NodeId} {before after : Session κ S} (noted : List (Entry κ))
    (hjournal : after.journal = noted ++ before.journal)
    (hnoted : ∀ entry ∈ noted, Entry.update? entry = none)
    (hmounted : ∀ id, id ∉ ids → after.bridge.isMounted id = before.bridge.isMounted id)
    (hhandlers : ∀ id, id ∉ ids →
      after.bridge.handlers.get? id = before.bridge.handlers.get? id) :
    TellsOf ids before after := by
  refine ⟨⟨noted, hjournal⟩, fun id hid => ?_⟩
  unfold told
  rw [hjournal, Entry.lastUpdate?_append_of_none hnoted, hmounted id hid, hhandlers id hid]

/-- No update is sent, and the tables stay as they are. -/
theorem of_quiet {before after : Session κ S} (noted : List (Entry κ))
    (hjournal : after.journal = noted ++ before.journal)
    (hnoted : ∀ entry ∈ noted, Entry.update? entry = none)
    (hmounted : after.bridge.isMounted = before.bridge.isMounted)
    (hhandlers : after.bridge.handlers = before.bridge.handlers) : TellsOf [] before after :=
  of_tables noted hjournal hnoted (fun _ _ => by rw [hmounted]) fun _ _ => by rw [hhandlers]

end TellsOf

/-- Nothing is told, whatever the act is run in. -/
def Untelling (caller : Caller κ S) : Act.Class κ S := fun _ act =>
  ∀ session : Session κ S, TellsOf [] session (act.run caller session).2

variable {caller : Caller κ S}

namespace Untelling

theorem of_madeOf {α : Type} {act : Act κ S α} (hact : act.MadeOf (Untelling caller)) :
    Untelling caller α act := by
  refine hact.covered (fun _ session => .refl session) (fun _ session => .refl session)
    (fun hnext session => hnext session session) fun {_ _ first next} hfirst hnext session => ?_
  exact (hfirst session).trans (hnext _ _)

/-- A change that tells of nothing and leaves the tables as they are. -/
theorem change {f : Session κ S → Session κ S} (noted : Session κ S → List (Entry κ))
    (hjournal : ∀ session, (f session).journal = noted session ++ session.journal)
    (hnoted : ∀ session, ∀ entry ∈ noted session, Entry.update? entry = none)
    (hmounted : ∀ session, (f session).bridge.mounted = session.bridge.mounted)
    (hhandlers : ∀ session, (f session).bridge.handlers = session.bridge.handlers) :
    (Act.change f).MadeOf (Untelling caller) := by
  refine .part fun session => .of_quiet (noted session) (hjournal session) (hnoted session)
    (funext fun id => ?_) (hhandlers session)
  show Table.contains (f session).bridge.mounted id = _
  rw [hmounted session]
  rfl

theorem aside {f : Session κ S → Session κ S}
    (hjournal : ∀ session, (f session).journal = session.journal)
    (hmounted : ∀ session, (f session).bridge.mounted = session.bridge.mounted)
    (hhandlers : ∀ session, (f session).bridge.handlers = session.bridge.handlers) :
    (Act.change f).MadeOf (Untelling caller) :=
  change (fun _ => []) hjournal (fun _ => by simp) hmounted hhandlers

end Untelling

theorem handlers_callHost (apart : caller.HostApart) (message : HostMessage)
    (session : Session κ S) :
    ((callHost message).run caller session).2.bridge.handlers = session.bridge.handlers := by
  rw [bridge_callHost apart, Bridge.countAnswer_eq]
  rfl

theorem isMounted_callHost (apart : caller.HostApart) (message : HostMessage)
    (session : Session κ S) :
    ((callHost message).run caller session).2.bridge.isMounted = session.bridge.isMounted := by
  funext id
  unfold Bridge.isMounted
  rw [mounted_callHost apart]

/-- A message other than an update tells nothing. -/
theorem tellsOf_callHost (apart : caller.HostApart) (message : HostMessage)
    (hmessage : ∀ node, message ≠ .update node) (session : Session κ S) :
    TellsOf [] session ((callHost message).run caller session).2 := by
  obtain ⟨noted, hjournal, hnoted⟩ := journal_callHost apart message session
  refine .of_quiet _ hjournal (fun entry hentry => ?_) (isMounted_callHost apart message session)
    (handlers_callHost apart message session)
  rcases List.mem_cons.1 hentry with rfl | hentry
  · cases message <;> first | rfl | exact absurd rfl (hmessage _)
  · exact Entry.update?_eq_none_of_notMem hnoted entry hentry

/-- An update tells the host what it carries. -/
theorem tells_update (apart : caller.HostApart) (node : HostNode) (session : Session κ S) :
    let sent := (callHost (.update node)).run caller session
    TellsOf [node.id] session sent.2 ∧
      Entry.lastUpdate? node.id sent.2.journal = some node ∧
      ∃ noted, sent.2.journal = .sent (.update node) sent.1 :: noted ++ session.journal := by
  obtain ⟨noted, hjournal, hnoted⟩ := journal_callHost apart (.update node) session
  have hunsent := Entry.update?_eq_none_of_notMem hnoted
  have hmounted := isMounted_callHost apart (.update node) session
  have hhandlers := handlers_callHost apart (.update node) session
  dsimp only
  generalize (callHost (.update node)).run caller session = sent at hjournal hmounted hhandlers ⊢
  refine ⟨⟨⟨_, hjournal⟩, fun id hid => ?_⟩, ?_, ?_⟩
  · have hne : ¬ node.id = id := fun heq => hid (by simp [heq])
    unfold told
    rw [hjournal, hmounted, hhandlers, List.cons_append, Entry.lastUpdate?_update, if_neg hne,
      Entry.lastUpdate?_append_of_none hunsent]
  · rw [hjournal, List.cons_append, Entry.lastUpdate?_update, if_pos rfl]
  · exact ⟨noted, hjournal⟩

/-- What the bridge does about handles tells nothing. -/
theorem Untelling.asking (apart : caller.HostApart) : Act.Class.Asking (Untelling caller) where
  scheduleAt deadline job _ := by
    refine .bind (.read _) fun id => .bind (change
      (fun session => [.scheduled ⟨session.scheduler.nextId, deadline, job⟩]) (fun _ => rfl) ?_
        (fun _ => rfl) fun _ => rfl) fun _ => .pure id
    simp [Entry.update?]
  cancelTask _ _ := aside (fun _ => rfl) (fun _ => rfl) fun _ => rfl
  changeSlots _ := aside (fun _ => rfl) (fun _ => rfl) fun _ => rfl
  changeHandles f hf :=
    aside (fun _ => rfl) (fun session => (hf session.bridge).2.1) fun session =>
      (hf session.bridge).2.2
  ask message hasking := .part (tellsOf_callHost apart message (by rintro node rfl; cases hasking))

/-! ## Mounting, updating and unmounting -/

/-- A widget is about to be mounted or updated. -/
theorem tellsOf_declared (session : Session κ S) (id : NodeId) (node : Node (Handler κ))
    (slots : HandleSlots) :
    TellsOf [] session (Session.noting { session with slots := slots } (.declared id node)) :=
  .of_quiet [.declared id node] rfl (by simp [Entry.update?]) rfl rfl

/-- A mount sends no update, and the handlers of the node are kept if the host accepts it. -/
theorem tellsOf_mount (apart : caller.HostApart) (id : NodeId) (node : Node (Handler κ))
    (placement : Placement) (session : Session κ S) :
    TellsOf [id] session ((mount id node placement).run caller session).2 := by
  unfold mount changeSlots
  rw [Act.run_bind, Act.run_read, Act.run_ite]
  split
  · exact (TellsOf.refl session).mono (by simp)
  · simp only [Act.run_bind, Act.run_change, Act.run_note]
    have hsent := (tellsOf_declared session id node (session.slots.discard id)).trans
      (tellsOf_callHost apart (.mount (.ofNode node id (some placement))) (by simp) _)
    generalize (callHost _).run caller _ = sent at hsent ⊢
    obtain ⟨accepted, sent⟩ := sent
    -- Only an accepted mount is recorded, and it is recorded for this widget alone.
    cases accepted with
    | false => exact hsent.mono (by simp)
    | true =>
        refine hsent.trans (.of_tables [] rfl (by simp) (fun other hother => ?_)
          fun other hother => ?_)
        · refine (Bridge.isMounted_recordMount _ _ _ _ _ _).trans ?_
          rw [beq_eq_false_iff_ne.2 (by simpa using hother), Bool.false_or]
        · exact (Table.get?_insert _ _ _ _).trans (if_neg (by simpa using hother))

/-- An unmounted widget is forgotten. -/
theorem tellsOf_unmount (apart : caller.HostApart) (id : NodeId) (session : Session κ S) :
    TellsOf [id] session ((unmount id).run caller session).2 := by
  have hwithdrawn : TellsOf [id] session (session.withdrawing id) := by
    refine .of_tables (if session.bridge.isMounted id then [.withdrawn id] else []) ?_
      (fun entry hentry => ?_) (fun other hother => ?_) fun other hother => ?_
    · show (if session.bridge.isMounted id then .withdrawn id :: session.journal
        else session.journal) = _
      split <;> rfl
    · split at hentry
      · rw [List.mem_singleton.1 hentry]
        rfl
      · cases hentry
    · refine (Bridge.isMounted_evict _ _ _).trans ?_
      rw [bne_iff_ne.2 (by simpa using hother), Bool.true_and]
    · exact (Table.get?_erase _ _ _).trans (if_neg (by simpa using hother))
  rw [run_unmount]
  split
  · exact hwithdrawn
  · exact (hwithdrawn.trans (tellsOf_callHost apart _ (by simp [unmountMessage]) _)).mono (by simp)

theorem tellsOf_unmountAll (apart : caller.HostApart) (ids : List NodeId) (session : Session κ S) :
    TellsOf ids session ((unmountAll ids).run caller session).2 := by
  induction ids generalizing session with
  | nil => exact .refl session
  | cons id rest ih => exact (tellsOf_unmount apart id session).trans (ih _)

/-- What is mounted in the end was mounted before and has been spared. -/
theorem mem_of_isMounted_unmountAll (apart : caller.HostApart) (ids : List NodeId)
    (session : Session κ S) {id : NodeId}
    (hmounted : ((unmountAll ids).run caller session).2.bridge.isMounted id = true) :
    session.bridge.isMounted id = true ∧ id ∉ ids := by
  obtain ⟨record, hrecord⟩ := Table.contains_iff.1 hmounted
  rw [(get?_unmountAll apart ids session).1] at hrecord
  by_cases hid : id ∈ ids
  · rw [if_pos hid] at hrecord
    cases hrecord
  · rw [if_neg hid] at hrecord
    exact ⟨Table.contains_iff.2 ⟨record, hrecord⟩, hid⟩

/-- The session after the answer to an update: the handlers of the node are kept if it was
accepted. -/
def keepingHandlers (id : NodeId) (node : Node (Handler κ)) (sent : Bool × Session κ S) :
    Session κ S :=
  if sent.1 then
    { sent.2 with
      bridge := { sent.2.bridge with handlers := sent.2.bridge.handlers.insert id node.handlers } }
  else sent.2

theorem run_updateAt (caller : Caller κ S) {id : NodeId} (node : Node (Handler κ))
    (placement : Placement) {session : Session κ S}
    (hmounted : session.bridge.isMounted id = true) :
    ∃ place?, ((updateAt id node placement).run caller session).2 =
      ((askOnce id).run caller (keepingHandlers id node
        ((callHost (.update (.ofNode node id place?))).run caller
          (Session.noting { session with bridge := session.bridge.place id placement }
            (.declared id node))))).2 := by
  obtain ⟨record, hrecord⟩ := Table.contains_iff.1
    ((Bridge.isMounted_place session.bridge id placement id).trans hmounted)
  refine ⟨some record.placement, ?_⟩
  unfold updateAt updateInPlace changeBridge keepingHandlers
  simp only [Act.run_bind, Act.run_change, Act.run_read, Act.run_note, Act.run_when, Act.run_pure,
    hrecord, Option.map_some, Option.isSome_some, if_true]
  split <;> rfl

/-- The host has accepted every message so far. -/
def Unrefused (session : Session κ S) : Prop :=
  ∀ message, .sent message false ∉ session.journal

/-- It can be seen from the journal whether the host has refused anything. -/
theorem unrefused_of_all {session : Session κ S}
    (hall : session.journal.all (fun entry => !entry.isRefusal) = true) : session.Unrefused := by
  intro message hmem
  have hrefusal := List.all_eq_true.1 hall _ hmem
  cases hrefusal

theorem Unrefused.before {session later : Session κ S} (unrefused : later.Unrefused)
    (hgrows : ∃ noted, later.journal = noted ++ session.journal) : session.Unrefused := by
  obtain ⟨noted, hjournal⟩ := hgrows
  intro message hmem
  refine unrefused message ?_
  rw [hjournal]
  exact List.mem_append_right noted hmem

/-- The host has refused no mount between two sessions. -/
def AcceptsMounts (before after : Session κ S) : Prop :=
  ∀ noted, after.journal = noted ++ before.journal → noted.any Entry.refusesMount = false

theorem Unrefused.acceptsMounts {session later : Session κ S} (unrefused : later.Unrefused) :
    session.AcceptsMounts later := by
  intro noted hjournal
  rw [List.any_eq_false]
  intro entry hentry hrefuses
  unfold Entry.refusesMount at hrefuses
  split at hrefuses
  · rename_i node
    refine unrefused (.mount node) ?_
    rw [hjournal]
    exact List.mem_append_left _ hentry
  · cases hrefuses

namespace AcceptsMounts

variable {first second third : Session κ S}

theorem before (accepts : first.AcceptsMounts third)
    (hthird : ∃ noted, third.journal = noted ++ second.journal) : first.AcceptsMounts second := by
  obtain ⟨later, hlater⟩ := hthird
  intro noted hnoted
  have hall := accepts (later ++ noted) (by rw [hlater, hnoted, List.append_assoc])
  rw [List.any_append, Bool.or_eq_false_iff] at hall
  exact hall.2

theorem after (accepts : first.AcceptsMounts third)
    (hsecond : ∃ noted, second.journal = noted ++ first.journal) : second.AcceptsMounts third := by
  obtain ⟨noted, hnoted⟩ := hsecond
  intro later hlater
  have hall := accepts (later ++ noted) (by rw [hlater, hnoted, List.append_assoc])
  rw [List.any_append, Bool.or_eq_false_iff] at hall
  exact hall.1

end AcceptsMounts

/-- The host was told last what a node says, and the node is mounted with its handlers. -/
def Displays (session : Session κ S) (id : NodeId) (node : Node (Handler κ)) : Prop :=
  ∃ place?, session.told id = (some (.ofNode node id place?), true, some node.handlers)

/-- What is told of others changes nothing. -/
theorem Displays.mono {ids : List NodeId} {before after : Session κ S} {id : NodeId}
    {node : Node (Handler κ)} (displays : before.Displays id node)
    (tells : TellsOf ids before after)
    (hid : id ∉ ids) : after.Displays id node := by
  obtain ⟨place?, htold⟩ := displays
  exact ⟨place?, (tells.others id hid).trans htold⟩

/-- The text that the host was told last to show for a widget. -/
def shownText? (session : Session κ S) (id : NodeId) : Option String :=
  (Entry.lastUpdate? id session.journal).bind fun node =>
    (node.props.get? "text").bind Json.Value.asText?

theorem Displays.shownText?_eq {session : Session κ S} {id : NodeId} {node : Node (Handler κ)}
    (displays : session.Displays id node) {text : String}
    (htext : node.props = Table.empty.insert "text" (.string text)) :
    session.shownText? id = some text := by
  obtain ⟨place?, htold⟩ := displays
  have hlast : Entry.lastUpdate? id session.journal = some (.ofNode node id place?) :=
    congrArg Prod.fst htold
  unfold shownText?
  rw [hlast, Option.bind_some, HostNode.ofNode, htext]
  rfl

/-- An update of a mounted widget tells the host of its node. -/
theorem displays_updateAt (apart : caller.HostApart) {id : NodeId} (node : Node (Handler κ))
    (placement : Placement) {session : Session κ S}
    (hmounted : session.bridge.isMounted id = true) :
    let updated := ((updateAt id node placement).run caller session).2
    TellsOf [id] session updated ∧ updated.bridge.isMounted id = true ∧
      (∃ noted, updated.journal = noted ++ session.journal ∧ Entry.Updates id node noted) ∧
      (updated.Unrefused → updated.Displays id node) := by
  obtain ⟨place?, hrun⟩ := run_updateAt caller node placement hmounted
  dsimp only
  rw [hrun]
  obtain ⟨placed, hplaced⟩ : ∃ placed, placed = Session.noting
      { session with bridge := session.bridge.place id placement } (.declared id node) := ⟨_, rfl⟩
  rw [← hplaced]
  have hstays : placed.bridge.isMounted = session.bridge.isMounted := by
    rw [hplaced]
    exact funext fun other => Bridge.isMounted_place _ _ _ _
  have hstart : placed.journal = [.declared id node] ++ session.journal := by
    rw [hplaced]
    rfl
  have hbegun : TellsOf [] session placed := by
    refine .of_quiet [.declared id node] hstart (by simp [Entry.update?]) hstays ?_
    rw [hplaced]
    rfl
  obtain ⟨hsent, hlast, noted, hanswer⟩ := tells_update apart (.ofNode node id place?) placed
  have hkeeps := isMounted_callHost apart (.update (.ofNode node id place?)) placed
  generalize (callHost (.update (.ofNode node id place?))).run caller placed = sent
    at hsent hlast hanswer hkeeps ⊢
  obtain ⟨accepted, sent⟩ := sent
  have hasked := Untelling.of_madeOf ((Untelling.asking apart).askOnce id)
    (keepingHandlers id node (accepted, sent))
  obtain ⟨later, hlater⟩ := hasked.grows
  -- A refused update leaves the handlers as they are, an accepted one replaces those of this
  -- widget.
  have hkept : TellsOf [id] sent (keepingHandlers id node (accepted, sent)) := by
    cases accepted with
    | false => exact (TellsOf.refl sent).mono (by simp)
    | true =>
        refine .of_tables [] rfl (by simp) (fun _ _ => rfl) fun other hother => ?_
        exact (Table.get?_insert _ _ _ _).trans (if_neg (by simpa using hother))
  have htold : (keepingHandlers id node (accepted, sent)).journal = sent.journal ∧
      (keepingHandlers id node (accepted, sent)).bridge.isMounted id = true := by
    have hstill : sent.bridge.isMounted id = true :=
      (congrFun (hkeeps.trans hstays) id).trans hmounted
    cases accepted <;> exact ⟨rfl, hstill⟩
  have hasks := hasked.others id (by simp)
  refine ⟨((hbegun.trans hsent).trans (hkept.trans hasked)).mono (by simp [HostNode.ofNode]),
    (congrArg (fun told => told.2.1) hasks).trans htold.2,
    ⟨later ++ (.sent (.update (.ofNode node id place?)) accepted :: noted ++ [.declared id node]),
      ?_, place?, accepted, by simp⟩, fun unrefused => ⟨place?, ?_⟩⟩
  · rw [hlater, htold.1, hanswer, hstart]
    simp
  · rw [hasks]
    cases accepted with
    | false =>
        -- The refusal stands in the journal, and there is none when nothing was refused.
        refine absurd ?_ (unrefused (.update (.ofNode node id place?)))
        rw [hlater, htold.1, hanswer]
        simp
    | true =>
        refine Prod.ext hlast (Prod.ext htold.2 ?_)
        exact (Table.get?_insert _ _ _ _).trans (if_pos rfl)

/-! ## The walk -/

/-- A part of a walk that tells the host of these nodes. -/
structure Tells (nodes : List (NodeId × Node (Handler κ))) (walk : Walk) (session : Session κ S)
    (walk' : Walk) (session' : Session κ S) : Prop where
  seen_iff : ∀ id, walk'.seen.contains id = true ↔
    walk.seen.contains id = true ∨ id ∈ nodes.map Prod.fst
  /-- The host is told of no other widget. -/
  tellsOf : TellsOf (nodes.map Prod.fst) session session'
  mounted : ∀ entry ∈ nodes, session'.bridge.isMounted entry.1 = true
  /-- Every node is updated, and mounted before if it was not mounted. -/
  sends : ∃ noted, session'.journal = noted ++ session.journal ∧ ∀ entry ∈ nodes,
    Entry.Updates entry.1 entry.2 noted ∧
      (session.bridge.isMounted entry.1 = false → noted.any (Entry.acceptsMount entry.1) = true)
  /-- Unless the host refuses a message, it displays the nodes. -/
  displays : session'.Unrefused → ∀ entry ∈ nodes, session'.Displays entry.1 entry.2
  mounted_eq : walk'.mounted.reverse = walk.mounted.reverse ++ (nodes.map Prod.fst).filter
    fun id => !session.bridge.isMounted id
  updated_eq : walk'.updated = walk.updated + nodes.length
  duplicates_eq : walk'.duplicates = walk.duplicates

/-- What the host is not told of is mounted if it was before. -/
theorem TellsOf.isMounted_eq {ids : List NodeId} {before after : Session κ S}
    (tells : TellsOf ids before after) {id : NodeId} (hid : id ∉ ids) :
    after.bridge.isMounted id = before.bridge.isMounted id :=
  congrArg (fun told => told.2.1) (tells.others id hid)

namespace Tells

variable {first second : List (NodeId × Node (Handler κ))} {walk walk₁ walk₂ : Walk}
  {session session₁ session₂ : Session κ S}

theorem nil (walk : Walk) (session : Session κ S) : Tells [] walk session walk session :=
  ⟨by simp, .refl session, by simp, ⟨[], rfl, by simp⟩, by simp, by simp, rfl, rfl⟩

theorem append (hfirst : Tells first walk session walk₁ session₁)
    (hsecond : Tells second walk₁ session₁ walk₂ session₂)
    (hapart : ∀ id ∈ first.map Prod.fst, id ∉ second.map Prod.fst) :
    Tells (first ++ second) walk session walk₂ session₂ where
  seen_iff id := by
    rw [hsecond.seen_iff, hfirst.seen_iff, List.map_append, List.mem_append, or_assoc]
  tellsOf := by
    rw [List.map_append]
    exact hfirst.tellsOf.trans hsecond.tellsOf
  mounted entry hentry := by
    rcases List.mem_append.1 hentry with hentry | hentry
    · -- The second walk has nothing to do with the widgets of the first one, so they stay mounted.
      rw [hsecond.tellsOf.isMounted_eq (hapart entry.1 (List.mem_map_of_mem hentry))]
      exact hfirst.mounted entry hentry
    · exact hsecond.mounted entry hentry
  sends := by
    obtain ⟨noted, hnoted, hsends⟩ := hfirst.sends
    obtain ⟨later, hlater, hsends'⟩ := hsecond.sends
    refine ⟨later ++ noted, by rw [hlater, hnoted, List.append_assoc], fun entry hentry => ?_⟩
    rw [List.any_append, Bool.or_eq_true]
    rcases List.mem_append.1 hentry with hentry | hentry
    · obtain ⟨hupdates, hmounts⟩ := hsends entry hentry
      exact ⟨hupdates.mono (List.subset_append_right _ _), fun habsent => .inr (hmounts habsent)⟩
    · obtain ⟨hupdates, hmounts⟩ := hsends' entry hentry
      refine ⟨hupdates.mono (List.subset_append_left _ _), fun habsent => .inl (hmounts ?_)⟩
      rw [hfirst.tellsOf.isMounted_eq fun hmem => hapart _ hmem (List.mem_map_of_mem hentry)]
      exact habsent
  displays unrefused entry hentry := by
    rcases List.mem_append.1 hentry with hentry | hentry
    · exact (hfirst.displays (unrefused.before hsecond.tellsOf.grows) entry hentry).mono
        hsecond.tellsOf (hapart entry.1 (List.mem_map_of_mem hentry))
    · exact hsecond.displays unrefused entry hentry
  mounted_eq := by
    rw [hsecond.mounted_eq, hfirst.mounted_eq, List.map_append, List.filter_append,
      List.append_assoc]
    congr 2
    refine List.filter_congr fun id hid => ?_
    rw [hfirst.tellsOf.isMounted_eq fun hmem => hapart id hmem hid]
  updated_eq := by
    rw [hsecond.updated_eq, hfirst.updated_eq, List.length_append, Nat.add_assoc]
  duplicates_eq := hsecond.duplicates_eq.trans hfirst.duplicates_eq

/-- What has not been met before is met by telling of it only. -/
theorem unseen (hfirst : Tells first walk session walk₁ session₁) {id : NodeId}
    (hfresh : walk.seen.contains id = false) (hid : id ∉ first.map Prod.fst) :
    walk₁.seen.contains id = false := by
  rw [Bool.eq_false_iff] at hfresh ⊢
  exact fun hseen => ((hfirst.seen_iff id).1 hseen).elim hfresh hid

end Tells

theorem tells_ensureMounted (apart : caller.HostApart) (id : NodeId) (node : Node (Handler κ))
    (placement : Placement) (walk : Walk) (session : Session κ S) :
    let ensured := (ensureMounted id node placement walk).run caller session
    TellsOf [id] session ensured.2 ∧ (session.AcceptsMounts ensured.2 → ensured.1.1 = true) ∧
      (ensured.1.1 = true → ensured.2.bridge.isMounted id = true ∧
        (∃ noted, ensured.2.journal = noted ++ session.journal ∧
          (session.bridge.isMounted id = false → noted.any (Entry.acceptsMount id) = true)) ∧
        ensured.1.2 = { walk with mounted :=
          if session.bridge.isMounted id then walk.mounted else id :: walk.mounted }) := by
  unfold ensureMounted
  cases hbefore : session.bridge.isMounted id with
  | true =>
      rw [Act.run_bind, Act.run_read, hbefore, if_pos rfl, Act.run_pure]
      exact ⟨(TellsOf.refl session).mono (by simp), fun _ => rfl,
        fun _ => ⟨hbefore, ⟨[], rfl, by simp⟩, rfl⟩⟩
  | false =>
      have htells := tellsOf_mount apart id node placement session
      obtain ⟨hmounted, noted, hjournal, haccepted, hrefused⟩ :=
        mounted_mount apart node placement hbefore
      simp only [Act.run_bind, Act.run_read, hbefore, Bool.false_eq_true, if_false, Act.run_ite,
        Act.run_pure]
      generalize (mount id node placement).run caller session = out
        at htells hmounted hjournal haccepted hrefused ⊢
      obtain ⟨accepted, out⟩ := out
      cases accepted with
      | true =>
          refine ⟨htells, fun _ => rfl, fun _ => ⟨?_, ⟨noted, hjournal, fun _ => ?_⟩, rfl⟩⟩
          · have hinsert : out.bridge.mounted = session.bridge.mounted.insert id _ := hmounted
            show Table.contains out.bridge.mounted id = true
            rw [hinsert, Table.contains_insert, beq_self_eq_true, Bool.true_or]
          · simpa using haccepted id
      | false =>
          refine ⟨htells, fun accepts => ?_, nofun⟩
          -- A refused mount stands in the journal, but the host accepts all of them.
          rw [accepts noted hjournal] at hrefused
          cases hrefused rfl

/-- A visit tells of the visited node at most. -/
theorem tellsOf_visit (apart : caller.HostApart) (parent : Option NodeId) (index : Nat)
    (node : Node (Handler κ)) (walk : Walk) (session : Session κ S) :
    let visited := (visit parent index node walk).run caller session
    TellsOf [node.effectiveId parent index] session visited.2 ∧
      ∀ entered, visited.1.1 = some entered → entered = node.effectiveId parent index := by
  unfold visit
  generalize node.effectiveId parent index = id
  rw [Act.run_ite]
  split
  · exact ⟨(TellsOf.refl session).mono (by simp), by simp⟩
  · rw [Act.run_bind]
    obtain ⟨htells, -, hmounted⟩ := tells_ensureMounted apart id node
      (placeUnder parent index) { walk with seen := walk.seen.insert id () } session
    generalize (ensureMounted id node (placeUnder parent index)
      { walk with seen := walk.seen.insert id () }).run caller session = ensured
    at htells hmounted ⊢
    obtain ⟨⟨entered, ensuredWalk⟩, ensured⟩ := ensured
    cases entered with
    | false => exact ⟨htells, by simp⟩
    | true =>
        obtain ⟨hupdate, -⟩ :=
          displays_updateAt apart node (placeUnder parent index) (hmounted rfl).1
        exact ⟨(htells.trans hupdate).mono (by simp), by simp⟩

/-- The first visit of an id tells of its node, unless the host refuses the mount. -/
theorem tells_visit (apart : caller.HostApart) {parent : Option NodeId} {index : Nat}
    {node : Node (Handler κ)} {walk : Walk} (session : Session κ S)
    (hnew : walk.seen.contains (node.effectiveId parent index) = false)
    (accepts : session.AcceptsMounts ((visit parent index node walk).run caller session).2) :
    let visited := (visit parent index node walk).run caller session
    visited.1.1 = some (node.effectiveId parent index) ∧
      Tells [(node.effectiveId parent index, node)] walk session visited.1.2 visited.2 := by
  revert accepts
  unfold visit
  generalize node.effectiveId parent index = id at hnew ⊢
  rw [if_neg (by simp [hnew]), Act.run_bind]
  dsimp only
  obtain ⟨htells, haccepted, hmounted⟩ := tells_ensureMounted apart id
    node (placeUnder parent index) { walk with seen := walk.seen.insert id () } session
  generalize (ensureMounted id node (placeUnder parent index)
    { walk with seen := walk.seen.insert id () }).run caller session = ensured
      at htells haccepted hmounted ⊢
  obtain ⟨⟨entered, ensuredWalk⟩, ensured⟩ := ensured
  -- The widget is entered because its mount, if there was one, was accepted.
  cases entered with
  | false => exact fun accepts => absurd (haccepted accepts) Bool.false_ne_true
  | true =>
      obtain ⟨hensured, ⟨noted, hnoted, haccepts⟩, rfl⟩ := hmounted rfl
      obtain ⟨hupdate, hstays, ⟨later, hlater, hupdates⟩, hdisplays⟩ :=
        displays_updateAt apart node (placeUnder parent index) hensured
      have htold : TellsOf [id] session _ := (htells.trans hupdate).mono (by simp)
      refine fun _ => ⟨rfl, fun other => ?_, htold, ?_, ⟨later ++ noted, ?_, ?_⟩, ?_, ?_, rfl, rfl⟩
      · show Table.contains (walk.seen.insert id ()) other = true ↔ _
        rw [Table.contains_insert]
        simp [or_comm]
      · intro entry hentry
        obtain rfl := List.mem_singleton.1 hentry
        exact hstays
      · rw [hnoted] at hlater
        exact hlater.trans (List.append_assoc _ _ _).symm
      · intro entry hentry
        obtain rfl := List.mem_singleton.1 hentry
        refine ⟨hupdates.mono (List.subset_append_left _ _), fun habsent => ?_⟩
        rw [List.any_append, haccepts habsent, Bool.or_true]
      · intro unrefused entry hentry
        obtain rfl := List.mem_singleton.1 hentry
        exact hdisplays unrefused
      · show List.reverse (if session.bridge.isMounted id then walk.mounted
          else id :: walk.mounted) = _
        cases hbefore : session.bridge.isMounted id <;> simp [hbefore]

mutual

/-- The walk over a tree tells of its nodes only. -/
theorem tellsOf_walkTree (apart : caller.HostApart) (parent : Option NodeId) (index : Nat)
    (walk : Walk) (node : Node (Handler κ)) (session : Session κ S) :
    TellsOf ((node.members parent index).map Prod.fst) session
      ((walkTree parent index walk node).run caller session).2 := by
  match node with
  | ⟨id, kind, style, props, handlers, children, data⟩ =>
      unfold walkTree
      obtain ⟨hvisit, hentered⟩ := tellsOf_visit apart parent index
        ⟨id, kind, style, props, handlers, children, data⟩ walk session
      rw [Act.run_bind]
      generalize (visit parent index _ walk).run caller session = visited at hvisit hentered ⊢
      obtain ⟨⟨entered?, walk₁⟩, session₁⟩ := visited
      cases entered? with
      | none => exact hvisit.mono (by simp [Node.members])
      | some entered =>
          obtain rfl := hentered entered rfl
          refine (hvisit.trans (tellsOf_walkChildren apart _ 0 walk₁ children session₁)).mono ?_
          simp [Node.members]

/-- The walk over the children of a node. -/
theorem tellsOf_walkChildren (apart : caller.HostApart) (parent : NodeId) (index : Nat)
    (walk : Walk) (children : List (Node (Handler κ))) (session : Session κ S) :
    TellsOf ((Node.membersBelow parent index children).map Prod.fst) session
      ((walkChildren parent index walk children).run caller session).2 := by
  match children with
  | [] => exact .refl session
  | child :: children =>
      unfold walkChildren Node.membersBelow
      rw [Act.run_bind, List.map_append]
      exact (tellsOf_walkTree apart (some parent) index walk child session).trans
        (tellsOf_walkChildren apart parent (index + 1) _ children _)

end

mutual

/-- The walk over a tree with distinct ids tells the host of all its nodes, unless the host refuses
a mount. -/
theorem tells_walkTree (apart : caller.HostApart) (parent : Option NodeId) (index : Nat)
    (walk : Walk) (node : Node (Handler κ)) (session : Session κ S)
    (hnodup : ((node.members parent index).map Prod.fst).Nodup)
    (hfresh : ∀ id ∈ (node.members parent index).map Prod.fst, walk.seen.contains id = false)
    (accepts : session.AcceptsMounts ((walkTree parent index walk node).run caller session).2) :
    let walked := (walkTree parent index walk node).run caller session
    Tells (node.members parent index) walk session walked.1 walked.2 := by
  match node with
  | ⟨id, kind, style, props, handlers, children, data⟩ =>
      unfold walkTree at accepts ⊢
      unfold Node.members at hnodup hfresh ⊢
      rw [Act.run_bind] at accepts ⊢
      rw [List.map_cons, List.nodup_cons] at hnodup
      have hnew := hfresh _ List.mem_cons_self
      have hvisit := tells_visit apart session hnew
      obtain ⟨hvisited, hentered⟩ := tellsOf_visit apart parent index
        ⟨id, kind, style, props, handlers, children, data⟩ walk session
      generalize (visit parent index _ walk).run caller session = visited
        at hvisit hvisited hentered accepts ⊢
      obtain ⟨⟨entered?, walk₁⟩, session₁⟩ := visited
      cases entered? with
      -- A node that nobody has met is entered, since its mount is accepted.
      | none => cases (hvisit accepts).1
      | some entered =>
          have hgrows := (tellsOf_walkChildren apart entered 0 walk₁ children session₁).grows
          obtain ⟨-, hfirst⟩ := hvisit (accepts.before hgrows)
          obtain rfl := hentered entered rfl
          refine hfirst.append (tells_walkChildren apart _ 0 walk₁ children session₁ hnodup.2
            (fun other hother => ?_) (accepts.after hvisited.grows)) fun other hother => ?_
          · exact hfirst.unseen (hfresh other (List.mem_cons_of_mem _ hother)) fun hmem => by
              obtain rfl := List.mem_singleton.1 hmem
              exact hnodup.1 hother
          · obtain rfl := List.mem_singleton.1 hother
            exact hnodup.1

/-- The walk over the children of a node. -/
theorem tells_walkChildren (apart : caller.HostApart) (parent : NodeId) (index : Nat) (walk : Walk)
    (children : List (Node (Handler κ))) (session : Session κ S)
    (hnodup : ((Node.membersBelow parent index children).map Prod.fst).Nodup)
    (hfresh : ∀ id ∈ (Node.membersBelow parent index children).map Prod.fst,
      walk.seen.contains id = false)
    (accepts :
      session.AcceptsMounts ((walkChildren parent index walk children).run caller session).2) :
    let walked := (walkChildren parent index walk children).run caller session
    Tells (Node.membersBelow parent index children) walk session walked.1 walked.2 := by
  match children with
  | [] => exact .nil walk session
  | child :: children =>
      unfold walkChildren at accepts ⊢
      unfold Node.membersBelow at hnodup hfresh ⊢
      rw [Act.run_bind] at accepts ⊢
      rw [List.map_append] at hnodup hfresh
      obtain ⟨hchild, hrest, hapart⟩ := List.nodup_append.1 hnodup
      have hgrows := (tellsOf_walkChildren apart parent (index + 1)
        ((walkTree (some parent) index walk child).run caller session).1 children
        ((walkTree (some parent) index walk child).run caller session).2).grows
      -- All mounts are accepted, also those of the first child, and it meets no id of the others.
      have hfirst := tells_walkTree apart (some parent) index walk child session hchild
        (fun id hid => hfresh id (List.mem_append_left _ hid))
        (accepts.before hgrows)
      refine hfirst.append (tells_walkChildren apart parent (index + 1) _ children _ hrest
        (fun id hid => ?_) (accepts.after hfirst.tellsOf.grows))
        fun id hid hmem => hapart id hid id hmem rfl
      exact hfirst.unseen (hfresh id (List.mem_append_right _ hid)) fun hmem =>
        hapart id hmem id hid rfl

end

/-! ## The render -/

/-- A render of a tree with distinct ids mounts and updates all its nodes and leaves nothing else
mounted, unless the host refuses a mount. -/
theorem reaches_render (apart : caller.HostApart) (root : Node (Handler κ)) (session : Session κ S)
    (hnodup : ((root.members none 0).map Prod.fst).Nodup)
    (accepts : session.AcceptsMounts ((render root).run caller session).2) :
    let rendered := (render root).run caller session
    (rendered.2.Unrefused →
      ∀ entry ∈ root.members none 0, rendered.2.Displays entry.1 entry.2) ∧
      (∀ id, rendered.2.bridge.isMounted id = true ↔ id ∈ (root.members none 0).map Prod.fst) ∧
      (∃ noted, rendered.2.journal = noted ++ session.journal ∧ ∀ entry ∈ root.members none 0,
        Entry.Updates entry.1 entry.2 noted ∧ (session.bridge.isMounted entry.1 = false →
          noted.any (Entry.acceptsMount entry.1) = true)) ∧
      rendered.1.mounted = ((root.members none 0).map Prod.fst).filter
        (fun id => !session.bridge.isMounted id) ∧
      rendered.1.updated = (root.members none 0).length ∧ rendered.1.duplicates = 0 := by
  unfold render at accepts ⊢
  simp only [Act.run_bind, Act.run_read, Act.run_pure] at accepts ⊢
  have hwalk := tells_walkTree apart none 0 .start root session hnodup (fun _ _ => rfl)
  generalize (walkTree none 0 .start root).run caller session = walked at hwalk accepts ⊢
  obtain ⟨walk, walked⟩ := walked
  have htells := tellsOf_unmountAll apart
    (walked.bridge.unmountOrder fun id => !walk.seen.contains id) walked
  obtain ⟨hseen, -, hmounted, ⟨noted, hnoted, hsends⟩, hdisplays, hreport, hupdated, hduplicates⟩ :=
    hwalk (accepts.before htells.grows)
  -- What is unmounted in the end has not been met.
  have hspared : ∀ entry ∈ root.members none 0,
      entry.1 ∉ walked.bridge.unmountOrder fun id => !walk.seen.contains id := by
    intro entry hentry hgone
    have hmet := (hseen entry.1).2 (.inr (List.mem_map_of_mem hentry))
    have hunmet := (Bridge.mem_unmountOrder.1 hgone).2
    rw [hmet] at hunmet
    cases hunmet
  obtain ⟨later, hlater⟩ := htells.grows
  refine ⟨fun unrefused entry hentry => ?_, fun id => ⟨fun hleft => ?_, fun hid => ?_⟩,
    ⟨later ++ noted, by rw [hlater, hnoted, List.append_assoc], fun entry hentry => ?_⟩, ?_,
    hupdated.trans (Nat.zero_add _), hduplicates⟩
  · exact (hdisplays (unrefused.before htells.grows) entry hentry).mono htells
      (hspared entry hentry)
  · -- What has not been met is unmounted in the end.
    obtain ⟨hbefore, hleft⟩ := mem_of_isMounted_unmountAll apart _ walked hleft
    have hmet : walk.seen.contains id = true := by
      simpa [Bridge.mem_unmountOrder, hbefore] using hleft
    exact ((hseen id).1 hmet).resolve_left Bool.false_ne_true
  · obtain ⟨entry, hentry, rfl⟩ := List.mem_map.1 hid
    rw [htells.isMounted_eq (hspared entry hentry)]
    exact hmounted entry hentry
  · obtain ⟨hupdates, hmounts⟩ := hsends entry hentry
    refine ⟨hupdates.mono (List.subset_append_right _ _), fun habsent => ?_⟩
    rw [List.any_append, hmounts habsent, Bool.or_true]
  · simpa [Walk.start] using hreport

/-- A render of a tree with distinct ids tells the host of all its nodes and leaves nothing else
mounted, unless the host refuses a message. -/
theorem tells_render (apart : caller.HostApart) (root : Node (Handler κ)) (session : Session κ S)
    (hnodup : ((root.members none 0).map Prod.fst).Nodup)
    (unrefused : ((render root).run caller session).2.Unrefused) :
    let rendered := (render root).run caller session
    (∀ entry ∈ root.members none 0, rendered.2.Displays entry.1 entry.2) ∧
      (∀ id, rendered.2.bridge.isMounted id = true → id ∈ (root.members none 0).map Prod.fst) ∧
      rendered.1.updated = (root.members none 0).length ∧ rendered.1.duplicates = 0 := by
  obtain ⟨hdisplays, hmounted, -, -, hupdated, hduplicates⟩ :=
    reaches_render apart root session hnodup unrefused.acceptsMounts
  exact ⟨hdisplays unrefused, fun id => (hmounted id).1, hupdated, hduplicates⟩

end Session

end EditorShell
