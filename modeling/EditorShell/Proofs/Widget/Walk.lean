import EditorShell.Proofs.Widget.Mounting

/-!
# The walk of a render

A render visits the nodes of a tree in pre-order.  Which nodes it visits is told by the tree alone,
once it is known below which ids the walk goes on: `Node.stops` lists them.  The walk goes on below
the ids that are mounted after their visit.

`Trip` says what the walk over a part of a tree does to the mounted widgets.  Trips can be joined
(`Trip.append`), one visit is a trip (`trip_visit`), and so by recursion on the tree is the walk
over a tree (`trip_walkTree`).

## Strategy

What a visit records about a node is never touched again in the same walk, since a later node with
the same id is skipped.  So the place and the depth of a visited node, which are right when it is
visited, are right when the walk ends.  This is why a trip only visits ids that the walk has not met
before, and why the parent of every stop has been met.
-/

namespace EditorShell

/-- A visit of a node: the id of the node and its place in the tree. -/
structure Stop where
  id : NodeId
  parent : Option NodeId
  index : Nat
  deriving DecidableEq

namespace Node

variable {ι : Type}

mutual

/-- The visits of a walk over a tree that goes on below the ids that `enters` selects.  A node with
an id that was met before is skipped with everything below it. -/
def stops (enters : NodeId → Bool) (parent : Option NodeId) (index : Nat) (met : NodeId → Bool) :
    Node ι → List Stop
  | ⟨id, kind, style, props, handlers, children, data⟩ =>
    let id := effectiveId ⟨id, kind, style, props, handlers, children, data⟩ parent index
    if met id then []
    else
      ⟨id, parent, index⟩ ::
        if enters id then stopsBelow enters id 0 (fun other => met other || other == id) children
        else []

/-- The visits of a walk over the children of a node, from number `index` on. -/
def stopsBelow (enters : NodeId → Bool) (parent : NodeId) (index : Nat) (met : NodeId → Bool) :
    List (Node ι) → List Stop
  | [] => []
  | child :: children =>
    let first := stops enters (some parent) index met child
    first ++ stopsBelow enters parent (index + 1)
      (fun other => met other || (first.map Stop.id).contains other) children

end

end Node

namespace Session

variable {κ S : Type} {caller : Caller κ S}

/-- A part of a walk that makes the visits `trail`. -/
structure Trip (trail : List Stop) (walk : Walk) (session : Session κ S) (walk' : Walk)
    (session' : Session κ S) : Prop where
  fresh : ∀ stop ∈ trail, walk.seen.contains stop.id = false
  nodup : (trail.map Stop.id).Nodup
  seen_iff : ∀ id, walk'.seen.contains id = true ↔
    walk.seen.contains id = true ∨ id ∈ trail.map Stop.id
  /-- Nodes that are not visited stay as they are. -/
  kept : ∀ id, id ∉ trail.map Stop.id →
    session'.bridge.mounted.get? id = session.bridge.mounted.get? id
  /-- Mounted is what was mounted before and what the host has accepted on the way. -/
  journal_eq : ∃ noted, session'.journal = noted ++ session.journal ∧
    ∀ id, session'.bridge.isMounted id =
      (session.bridge.isMounted id || noted.any (Entry.acceptsMount id))
  /-- Unless the host has refused a mount on the way, every visited node is mounted. -/
  accepted : ∀ noted, session'.journal = noted ++ session.journal →
    noted.any Entry.refusesMount = false → ∀ stop ∈ trail,
      session'.bridge.isMounted stop.id = true
  /-- A visited node that is mounted has the place and the depth of its visit. -/
  placed : ∀ stop ∈ trail, ∀ record, session'.bridge.mounted.get? stop.id = some record →
    record.placement = placeUnder stop.parent stop.index ∧
      record.depth = session'.bridge.depthAt (placeUnder stop.parent stop.index)
  /-- The walk has met the parent of each stop, and the parent is mounted. -/
  rooted : ∀ stop ∈ trail, ∀ parent, stop.parent = some parent →
    walk'.seen.contains parent = true ∧ session'.bridge.isMounted parent = true
  mounted_eq : walk'.mounted.reverse = walk.mounted.reverse ++ (trail.map Stop.id).filter fun id =>
    !session.bridge.isMounted id && session'.bridge.isMounted id

@[simp]
theorem parent_placeUnder (parent : Option NodeId) (index : Nat) :
    (placeUnder parent index).parent = parent := by
  cases parent <;> rfl

/-- The depth at a place depends on the record of the parent only. -/
theorem depthAt_eq_of_parent {first second : Bridge (Handler κ)} {parent : Option NodeId}
    (index : Nat)
    (hparent : ∀ id, parent = some id → first.mounted.get? id = second.mounted.get? id) :
    first.depthAt (placeUnder parent index) = second.depthAt (placeUnder parent index) := by
  unfold Bridge.depthAt
  rw [parent_placeUnder]
  cases parent with
  | none => rfl
  | some id => rw [Option.bind_some, Option.bind_some, hparent id rfl]

namespace Trip

/-- A walk that visits nothing. -/
theorem nil {walk walk' : Walk} (hseen : walk'.seen = walk.seen)
    (hmounted : walk'.mounted = walk.mounted) (session : Session κ S) :
    Trip [] walk session walk' session where
  fresh := by simp
  nodup := List.nodup_nil
  seen_iff id := by simp [hseen]
  kept _ _ := rfl
  journal_eq := ⟨[], rfl, fun id => by simp⟩
  accepted := by simp
  placed := by simp
  rooted := by simp
  mounted_eq := by simp [hmounted]

variable {first second : List Stop} {walk walk₁ walk₂ : Walk}
  {session session₁ session₂ : Session κ S}

/-- What has been met is not visited again. -/
theorem notMem_of_seen (htrip : Trip second walk₁ session₁ walk₂ session₂) {id : NodeId}
    (hseen : walk₁.seen.contains id = true) : id ∉ second.map Stop.id := by
  rw [List.mem_map]
  rintro ⟨stop, hstop, rfl⟩
  rw [htrip.fresh stop hstop] at hseen
  cases hseen

theorem seen_of_mem (htrip : Trip first walk session walk₁ session₁) {id : NodeId}
    (hid : id ∈ first.map Stop.id) : walk₁.seen.contains id = true :=
  (htrip.seen_iff id).2 (.inr hid)

/-- The next part of a walk leaves alone what has been met. -/
theorem kept_of_seen (htrip : Trip second walk₁ session₁ walk₂ session₂) {id : NodeId}
    (hseen : walk₁.seen.contains id = true) :
    session₂.bridge.mounted.get? id = session₁.bridge.mounted.get? id :=
  htrip.kept id (htrip.notMem_of_seen hseen)

/-- Two parts of a walk, one after the other. -/
theorem append (hfirst : Trip first walk session walk₁ session₁)
    (hsecond : Trip second walk₁ session₁ walk₂ session₂) :
    Trip (first ++ second) walk session walk₂ session₂ where
  fresh stop hstop := by
    rcases List.mem_append.1 hstop with hstop | hstop
    · exact hfirst.fresh stop hstop
    · have hunseen := hsecond.fresh stop hstop
      rw [Bool.eq_false_iff] at hunseen ⊢
      exact fun hseen => hunseen ((hfirst.seen_iff _).2 (.inl hseen))
  nodup := by
    rw [List.map_append, List.nodup_append]
    refine ⟨hfirst.nodup, hsecond.nodup, ?_⟩
    rintro id hid other hother rfl
    exact hsecond.notMem_of_seen (hfirst.seen_of_mem hid) hother
  seen_iff id := by
    rw [hsecond.seen_iff, hfirst.seen_iff, List.map_append, List.mem_append, or_assoc]
  kept id hid := by
    rw [List.map_append, List.mem_append, not_or] at hid
    rw [hsecond.kept id hid.2, hfirst.kept id hid.1]
  journal_eq := by
    obtain ⟨noted, hjournal, hmounted⟩ := hfirst.journal_eq
    obtain ⟨noted', hjournal', hmounted'⟩ := hsecond.journal_eq
    refine ⟨noted' ++ noted, by rw [hjournal', hjournal, List.append_assoc], fun id => ?_⟩
    rw [hmounted', hmounted, List.any_append, Bool.or_assoc, Bool.or_comm (noted.any _)]
  accepted noted hnoted hrefuses stop hstop := by
    obtain ⟨before, hbefore, -⟩ := hfirst.journal_eq
    obtain ⟨after, hafter, -⟩ := hsecond.journal_eq
    -- What the two walks noted is all that was noted, so no refusal in it is one in neither part.
    obtain rfl : noted = after ++ before := by
      refine List.append_cancel_right (hnoted.symm.trans ?_)
      rw [hafter, hbefore, List.append_assoc]
    rw [List.any_append, Bool.or_eq_false_iff] at hrefuses
    rcases List.mem_append.1 hstop with hstop | hstop
    · have hmet := hfirst.seen_of_mem (List.mem_map_of_mem hstop)
      rw [Bridge.isMounted_congr (hsecond.kept_of_seen hmet)]
      exact hfirst.accepted before hbefore hrefuses.2 stop hstop
    · exact hsecond.accepted after hafter hrefuses.1 stop hstop
  placed stop hstop record hrecord := by
    rcases List.mem_append.1 hstop with hstop | hstop
    · rw [hsecond.kept_of_seen (hfirst.seen_of_mem (List.mem_map_of_mem hstop))] at hrecord
      obtain ⟨hplacement, hdepth⟩ := hfirst.placed stop hstop record hrecord
      refine ⟨hplacement, hdepth.trans (depthAt_eq_of_parent stop.index fun parent hparent => ?_)⟩
      exact (hsecond.kept_of_seen (hfirst.rooted stop hstop parent hparent).1).symm
    · exact hsecond.placed stop hstop record hrecord
  rooted stop hstop parent hparent := by
    rcases List.mem_append.1 hstop with hstop | hstop
    · obtain ⟨hseen, hmounted⟩ := hfirst.rooted stop hstop parent hparent
      refine ⟨(hsecond.seen_iff parent).2 (.inl hseen), ?_⟩
      rw [Bridge.isMounted_congr (hsecond.kept_of_seen hseen), hmounted]
    · exact hsecond.rooted stop hstop parent hparent
  mounted_eq := by
    rw [hsecond.mounted_eq, hfirst.mounted_eq, List.map_append, List.filter_append,
      List.append_assoc]
    congr 2
    · refine List.filter_congr fun id hid => ?_
      rw [Bridge.isMounted_congr (hsecond.kept_of_seen (hfirst.seen_of_mem hid))]
    · -- Widgets of the other walk were not touched by this one, so they are as new as at the start.
      refine List.filter_congr fun id hid => ?_
      have hnot : id ∉ first.map Stop.id := fun hmem =>
        hsecond.notMem_of_seen (hfirst.seen_of_mem hmem) hid
      rw [Bridge.isMounted_congr (hfirst.kept id hnot)]

/-- A walk that visits one node. -/
theorem single {stop : Stop} (hnew : walk.seen.contains stop.id = false)
    (hparent : ∀ parent, stop.parent = some parent →
      walk.seen.contains parent = true ∧ session.bridge.isMounted parent = true)
    (hseen : walk₁.seen = walk.seen.insert stop.id ())
    (hkept : ∀ id, id ≠ stop.id → session₁.bridge.mounted.get? id = session.bridge.mounted.get? id)
    (hplaced : ∀ record, session₁.bridge.mounted.get? stop.id = some record →
      record.placement = placeUnder stop.parent stop.index ∧
        record.depth = session.bridge.depthAt (placeUnder stop.parent stop.index))
    (hjournal : ∃ noted, session₁.journal = noted ++ session.journal ∧
      (∀ id, noted.any (Entry.acceptsMount id) = (!session.bridge.isMounted stop.id &&
        session₁.bridge.isMounted stop.id && stop.id == id)) ∧
      (noted.any Entry.refusesMount = false → session₁.bridge.isMounted stop.id = true))
    (hmonotone : session.bridge.isMounted stop.id = true → session₁.bridge.isMounted stop.id = true)
    (hmounted : walk₁.mounted.reverse = walk.mounted.reverse ++ [stop.id].filter fun id =>
      !session.bridge.isMounted id && session₁.bridge.isMounted id) :
    Trip [stop] walk session walk₁ session₁ := by
  -- The parent has been met, so a node that names itself as its parent is not visited.
  have hne : ∀ parent, stop.parent = some parent → parent ≠ stop.id := by
    intro parent heq hid
    rw [← hid, (hparent parent heq).1] at hnew
    cases hnew
  obtain ⟨noted, hnoted, haccepts, haccepted⟩ := hjournal
  refine ⟨by simpa using hnew, by simp, fun id => ?_, ?_, ?_, fun noted' hnoted' hrefuses => ?_, ?_,
    ?_, hmounted⟩
  · rw [hseen, Table.contains_insert]
    simp [or_comm]
  · simpa using hkept
  · refine ⟨noted, hnoted, fun id => ?_⟩
    rw [haccepts]
    by_cases hid : id = stop.id
    · subst hid
      cases hbefore : session.bridge.isMounted stop.id with
      | true => simp [hmonotone hbefore]
      | false => simp
    · rw [Bridge.isMounted_congr (hkept id hid)]
      simp [Ne.symm hid]
  · obtain rfl := List.append_cancel_right (hnoted'.symm.trans hnoted)
    simpa using haccepted hrefuses
  · intro other hother record hrecord
    obtain rfl := List.mem_singleton.1 hother
    obtain ⟨hplacement, hdepth⟩ := hplaced record hrecord
    refine ⟨hplacement, hdepth.trans (depthAt_eq_of_parent _ fun parent heq => ?_)⟩
    exact (hkept parent (hne parent heq)).symm
  · intro other hother parent heq
    obtain rfl := List.mem_singleton.1 hother
    obtain ⟨hmet, hmounted⟩ := hparent parent heq
    refine ⟨?_, ?_⟩
    · rw [hseen, Table.contains_insert, hmet, Bool.or_true]
    · rw [Bridge.isMounted_congr (hkept parent (hne parent heq)), hmounted]

end Trip

/-! ## One visit -/

/-- A node that is not mounted is mounted if the host accepts it; all others stay as they are. -/
theorem run_ensureMounted (apart : caller.HostApart) (id : NodeId) (node : Node (Handler κ))
    (placement : Placement) (walk : Walk) (session : Session κ S) :
    ∃ entered walk' session',
      (ensureMounted id node placement walk).run caller session = ((entered, walk'), session') ∧
      session'.bridge.isMounted id = entered ∧
      (session.bridge.isMounted id = true → entered = true) ∧
      (∀ other, other ≠ id →
        session'.bridge.mounted.get? other = session.bridge.mounted.get? other) ∧
      walk'.seen = walk.seen ∧
      walk'.mounted.reverse =
        walk.mounted.reverse ++ [id].filter (fun id => !session.bridge.isMounted id && entered) ∧
      ∃ noted, session'.journal = noted ++ session.journal ∧
        (∀ other, noted.any (Entry.acceptsMount other) =
          (!session.bridge.isMounted id && entered && id == other)) ∧
        (noted.any Entry.refusesMount = false → entered = true) := by
  unfold ensureMounted
  by_cases hbefore : session.bridge.isMounted id = true
  · refine ⟨true, walk, session, by simp [hbefore], hbefore, fun _ => rfl, fun _ _ => rfl, rfl, ?_,
      [], rfl, ?_, fun _ => rfl⟩
    · simp [hbefore]
    · simp [hbefore]
  · rw [Bool.not_eq_true] at hbefore
    obtain ⟨hmounted, noted, hjournal, hnoted, hrefused⟩ :=
      mounted_mount apart node placement hbefore
    generalize hrun : (mount id node placement).run caller session = out
      at hmounted hjournal hnoted hrefused
    obtain ⟨accepted, session'⟩ := out
    -- What is mounted grows by this widget, or stays as it was with a refusal in the journal.
    cases accepted with
    | true =>
        have hinsert : session'.bridge.mounted = session.bridge.mounted.insert id
            ⟨node.kind, placement, session.bridge.depthAt placement⟩ := hmounted
        refine ⟨true, { walk with mounted := id :: walk.mounted }, session', ?_, ?_, fun _ => rfl,
          ?_, rfl, ?_, noted, hjournal, ?_, fun _ => rfl⟩
        · simp [hbefore, hrun]
        · unfold Bridge.isMounted
          rw [hinsert, Table.contains_insert, beq_self_eq_true, Bool.true_or]
        · intro other hother
          rw [hinsert, Table.get?_insert, if_neg hother]
        · simp [hbefore]
        · simpa [hbefore] using hnoted
    | false =>
        have hsame : session'.bridge.mounted = session.bridge.mounted := hmounted
        refine ⟨false, walk, session', ?_, ?_, ?_, ?_, rfl, ?_, noted, hjournal, ?_, fun haccepts =>
          ?_⟩
        · simp [hbefore, hrun]
        · unfold Bridge.isMounted at hbefore ⊢
          rw [hsame, hbefore]
        · rw [hbefore]
          exact Bool.false_ne_true.elim
        · intro other _
          rw [hsame]
        · simp
        · simpa using hnoted
        · rw [hrefused rfl] at haccepts
          cases haccepts

/-- The first visit of an id.  The walk goes on if the node is mounted after it. -/
theorem trip_visit (apart : caller.HostApart) {parent : Option NodeId} {index : Nat}
    {node : Node (Handler κ)} {walk : Walk} {session : Session κ S}
    (hparent : ∀ id, parent = some id →
      walk.seen.contains id = true ∧ session.bridge.isMounted id = true)
    (hnew : walk.seen.contains (node.effectiveId parent index) = false) :
    ∃ walk' session',
      (visit parent index node walk).run caller session =
        ((if session'.bridge.isMounted (node.effectiveId parent index) then
          some (node.effectiveId parent index) else none, walk'), session') ∧
      Trip [⟨node.effectiveId parent index, parent, index⟩] walk session walk' session' := by
  generalize hid : node.effectiveId parent index = id at hnew ⊢
  obtain ⟨entered, walk', session', hrun, hmounted, hstays, hkept, hseen, hreport, noted, hjournal,
    hnoted, haccepted⟩ := run_ensureMounted apart id node (placeUnder parent index)
      { walk with seen := walk.seen.insert id () } session
  -- The depth is looked up when the node is mounted and again when it is moved; in between the
  -- parent has not changed.
  have hdepth : session'.bridge.depthAt (placeUnder parent index) =
      session.bridge.depthAt (placeUnder parent index) := by
    refine depthAt_eq_of_parent index fun other hother => hkept other ?_
    rintro rfl
    rw [(hparent _ hother).1] at hnew
    cases hnew
  cases entered with
  | false =>
      refine ⟨walk', session', ?_, ?_⟩
      · unfold visit
        simp [hid, hnew, hrun, hmounted]
      · refine Trip.single hnew hparent hseen hkept ?_ ⟨noted, hjournal, ?_, ?_⟩ ?_ ?_
        · intro record hrecord
          rw [Table.contains_eq_false_iff.1 hmounted] at hrecord
          cases hrecord
        · simpa [hmounted] using hnoted
        · rw [hmounted]
          exact haccepted
        · rw [hmounted]
          exact hstays
        · refine hreport.trans (congrArg _ (List.filter_congr fun other hother => ?_))
          rw [List.mem_singleton.1 hother, hmounted]
  | true =>
      obtain ⟨hmoved, noted', hjournal', hnoted'⟩ :=
        mounted_updateAt apart id node (placeUnder parent index) session'
      generalize hupdate : ((updateAt id node (placeUnder parent index)).run caller session').2 =
        session'' at hmoved hjournal'
      have hget : ∀ other, session''.bridge.mounted.get? other = _ :=
        fun other => (congrArg (Table.get? · other) hmoved).trans (Bridge.get?_place _ _ _ other)
      have hmounted' : session''.bridge.isMounted id = true := by
        unfold Bridge.isMounted
        rw [hmoved]
        exact (Bridge.isMounted_place _ _ _ _).trans hmounted
      refine ⟨{ walk' with updated := walk'.updated + 1 }, session'', ?_, ?_⟩
      · unfold visit
        simp [hid, hnew, hrun, hupdate, hmounted']
      · refine Trip.single hnew hparent hseen ?_ ?_ ⟨noted' ++ noted, ?_, ?_, fun _ => hmounted'⟩ ?_
          ?_
        · intro other hother
          rw [hget, if_neg hother, hkept other hother]
        · intro record hrecord
          rw [hget, if_pos rfl, Option.map_eq_some_iff] at hrecord
          obtain ⟨old, -, rfl⟩ := hrecord
          exact ⟨rfl, hdepth⟩
        · rw [hjournal', hjournal, List.append_assoc]
        · intro other
          rw [List.any_append, hnoted', hnoted, hmounted', Bool.false_or]
        · exact fun _ => hmounted'
        · refine hreport.trans (congrArg _ (List.filter_congr fun other hother => ?_))
          rw [List.mem_singleton.1 hother, hmounted']

/-! ## Trees -/

theorem seen_trip_single {parent : Option NodeId} {index : Nat} {id : NodeId} {walk walk' : Walk}
    {session session' : Session κ S}
    (htrip : Trip [⟨id, parent, index⟩] walk session walk' session') :
    walk'.seen.contains = fun other => walk.seen.contains other || other == id := by
  funext other
  rw [Bool.eq_iff_iff, htrip.seen_iff]
  simp

mutual

/-- The walk over a tree is a trip along its stops, going on below what is mounted afterwards. -/
theorem trip_walkTree (apart : caller.HostApart) (parent : Option NodeId) (index : Nat)
    (walk : Walk)
    (node : Node (Handler κ)) (session : Session κ S)
    (hparent : ∀ id, parent = some id →
      walk.seen.contains id = true ∧ session.bridge.isMounted id = true) :
    ∃ trail,
      Trip trail walk session ((walkTree parent index walk node).run caller session).1
        ((walkTree parent index walk node).run caller session).2 ∧
      ∀ enters : NodeId → Bool, (∀ stop ∈ trail, enters stop.id =
          ((walkTree parent index walk node).run caller session).2.bridge.isMounted stop.id) →
        node.stops enters parent index walk.seen.contains = trail := by
  match node with
  | ⟨id, kind, style, props, handlers, children, data⟩ =>
      unfold walkTree Node.stops
      simp only [Act.run_bind]
      generalize hnode :
        (⟨id, kind, style, props, handlers, children, data⟩ : Node (Handler κ)) = node
      by_cases hmet : walk.seen.contains (node.effectiveId parent index) = true
      · -- The id has been met: nothing below the node is visited.
        have hskip : (visit parent index node walk).run caller session =
            ((none, { walk with duplicates := walk.duplicates + 1 }), session) := by
          unfold visit
          simp [hmet]
        have hnil : Trip [] walk session
            { walk with duplicates := walk.duplicates + 1 } session := by
          refine .nil ?_ ?_ session <;> rfl
        rw [hskip]
        exact ⟨[], hnil, fun _ _ => if_pos hmet⟩
      · rw [Bool.not_eq_true] at hmet
        obtain ⟨walk₁, session₁, hrun, htrip⟩ := trip_visit apart hparent hmet
        rw [hrun]
        generalize node.effectiveId parent index = id at hmet htrip
        simp only [hmet, Bool.false_eq_true, if_false]
        -- The walk goes on below the node just if it is mounted by now, and the rest of the walk
        -- does not touch this node again.
        by_cases hentered : session₁.bridge.isMounted id = true
        · have hseen : walk₁.seen.contains id = true := htrip.seen_of_mem (by simp)
          obtain ⟨below, hbelow, hstops⟩ :=
            trip_walkChildren apart id 0 walk₁ children session₁ hseen hentered
          simp only [hentered, if_true]
          refine ⟨_, htrip.append hbelow, fun enters henters => ?_⟩
          have hid : enters id = true := by
            rw [henters ⟨id, parent, index⟩ (by simp),
              Bridge.isMounted_congr (hbelow.kept_of_seen hseen)]
            exact hentered
          rw [if_pos hid, ← seen_trip_single htrip, hstops enters]
          · rfl
          · exact fun stop hstop => henters stop (List.mem_append_right _ hstop)
        · simp only [hentered]
          refine ⟨_, htrip, fun enters henters => ?_⟩
          have hid : enters id = false := by
            rw [henters ⟨id, parent, index⟩ (by simp)]
            exact Bool.eq_false_iff.2 hentered
          rw [hid]
          rfl

/-- The walk over the children of a node that the walk has entered. -/
theorem trip_walkChildren (apart : caller.HostApart) (parent : NodeId) (index : Nat) (walk : Walk)
    (children : List (Node (Handler κ))) (session : Session κ S)
    (hseen : walk.seen.contains parent = true) (hmounted : session.bridge.isMounted parent = true) :
    ∃ trail,
      Trip trail walk session ((walkChildren parent index walk children).run caller session).1
        ((walkChildren parent index walk children).run caller session).2 ∧
      ∀ enters : NodeId → Bool, (∀ stop ∈ trail, enters stop.id =
          ((walkChildren parent index walk children).run caller session).2.bridge.isMounted
            stop.id) →
        Node.stopsBelow enters parent index walk.seen.contains children = trail := by
  match children with
  | [] => exact ⟨[], .nil rfl rfl session, fun _ _ => rfl⟩
  | child :: children =>
      obtain ⟨first, hfirst, hstops⟩ := trip_walkTree apart (some parent) index walk child session
        (by rintro id ⟨⟩; exact ⟨hseen, hmounted⟩)
      unfold walkChildren Node.stopsBelow
      simp only [Act.run_bind]
      generalize (walkTree (some parent) index walk child).run caller session = walked
        at hfirst hstops ⊢
      obtain ⟨walk₁, session₁⟩ := walked
      have hseen₁ : walk₁.seen.contains parent = true := (hfirst.seen_iff parent).2 (.inl hseen)
      have hmounted₁ : session₁.bridge.isMounted parent = true := by
        rw [Bridge.isMounted_congr (hfirst.kept_of_seen hseen), hmounted]
      obtain ⟨second, hsecond, hstops'⟩ :=
        trip_walkChildren apart parent (index + 1) walk₁ children session₁ hseen₁ hmounted₁
      refine ⟨first ++ second, hfirst.append hsecond, fun enters henters => ?_⟩
      have hfirst' : child.stops enters (some parent) index walk.seen.contains = first := by
        refine hstops enters fun stop hstop => ?_
        rw [henters stop (List.mem_append_left _ hstop)]
        exact Bridge.isMounted_congr
          (hsecond.kept_of_seen (hfirst.seen_of_mem (List.mem_map_of_mem hstop)))
      -- What the first child has met counts as seen for the rest, as in the walk itself.
      have hmet : (fun other => walk.seen.contains other || (first.map Stop.id).contains other) =
          walk₁.seen.contains := by
        funext other
        rw [Bool.eq_iff_iff, hfirst.seen_iff, Bool.or_eq_true, List.contains_iff_mem]
      have hsecond' := hstops' enters fun stop hstop => henters stop (List.mem_append_right _ hstop)
      rw [hfirst', hmet, hsecond']

end

end Session

end EditorShell
