import EditorShell.Proofs.Run.StepwiseBridge
import EditorShell.Proofs.Widget.Ancestry
import EditorShell.Proofs.Widget.Rendering

/-!
# Parents outlive their children

As long as only renders mount widgets, a widget is mounted when its parent is, and the unmounts of a
render and of `unmountSubtree` leave no widget behind whose recorded parent has just been unmounted
(`parents_outlive_children`).

## Strategy

Unmounts go by recorded depths, so what counts is that a mounted widget is one deeper than its
recorded parent if that is mounted (`Bridge.Nested`).  This is not so in the middle of a render,
which moves a node before it comes to the children.  But then nothing goes by depths: the walk is
over before the first unmount, and what the walk has not met is recorded as before the render.
-/

namespace EditorShell

variable {κ S : Type}

/-! ## Depths -/

namespace Bridge

variable {ι : Type} {bridge : Bridge ι}

/-- Every mounted widget is one deeper than its recorded parent if that is mounted. -/
def Nested (bridge : Bridge ι) : Prop :=
  ∀ id record parent above, bridge.mounted.get? id = some record →
    record.placement.parent = some parent → bridge.mounted.get? parent = some above →
      record.depth = above.depth + 1

theorem Nested.congr (nested : bridge.Nested) {bridge' : Bridge ι}
    (hmounted : bridge'.mounted = bridge.mounted) : bridge'.Nested := by
  intro id record parent above hrecord hparent habove
  rw [hmounted] at hrecord habove
  exact nested id record parent above hrecord hparent habove

/-- What stays after an unmount is nested as before. -/
theorem Nested.evict (nested : bridge.Nested) (id : NodeId) : (bridge.evict id).Nested := by
  intro other record parent above hrecord hparent habove
  have hkept : ∀ name record, (bridge.evict id).mounted.get? name = some record →
      bridge.mounted.get? name = some record := by
    intro name record hname
    have herase : (bridge.evict id).mounted = bridge.mounted.erase id := rfl
    rw [herase, Table.get?_erase] at hname
    split at hname
    · cases hname
    · exact hname
  exact nested other record parent above (hkept _ _ hrecord) hparent (hkept _ _ habove)

/-- With a widget `doomed` selects those recorded under it, and these are deeper. -/
def ClosedBelow (bridge : Bridge ι) (doomed : NodeId → Bool) : Prop :=
  ∀ id record parent above, bridge.mounted.get? id = some record →
    record.placement.parent = some parent → bridge.mounted.get? parent = some above →
      doomed parent = true → doomed id = true ∧ above.depth < record.depth

theorem Nested.closedBelow_subtree (nested : bridge.Nested) (top : NodeId) :
    bridge.ClosedBelow fun id => id == top || descendsFrom bridge.mounted id top := by
  intro id record parent above hrecord hparent habove hdoomed
  have hdepth := nested id record parent above hrecord hparent habove
  have hparentOf : parentOf? bridge.mounted id = some parent := by
    rw [parentOf?, hrecord, Option.bind_some, hparent]
  rw [Bool.or_eq_true, beq_iff_eq, descendsFrom_iff] at hdoomed ⊢
  refine ⟨.inr ?_, by omega⟩
  rcases hdoomed with rfl | hdoomed
  · exact .parent hparentOf
  · exact .step hparentOf hdoomed

end Bridge

theorem Step.nested {allowed : Request κ → Prop} {waiting waiting' : List (Task (Job κ))}
    {core core' : Core κ} (step : Step allowed False waiting core waiting' core')
    (nested : core.bridge.Nested) : core'.bridge.Nested := by
  cases step with
  | mount walks => exact walks.elim
  | place walks => exact walks.elim
  | withdraw id => exact nested.evict id
  | resolve live job => exact nested.congr (Bridge.mounted_settle _ _ _)
  | answer answered plain => exact nested.congr (congrArg Bridge.mounted answered.bridge_eq)
  | request mounted unresolved idle answered =>
      have hmounted := congrArg Bridge.mounted answered.bridge_eq
      exact nested.congr hmounted
  | _ => exact nested.congr rfl

/-! ## Moments -/

/-- At a moment at most the host is called.  A mount goes to the host while the parent is mounted,
an unmount while nothing is mounted that is recorded under the widget. -/
structure Moment.IsOrderly (moment : Moment κ S) : Prop where
  isHost : ∀ call, moment.entry = .called call → call.isHost = true
  mounts : ∀ node parent, moment.entry = .called (.host (.mount node)) → node.parent = some parent →
    moment.session.bridge.isMounted parent = true
  unmounts : ∀ node, moment.entry = .called (.host (.unmount node)) →
    ∀ id, Bridge.parentOf? moment.session.bridge.mounted id ≠ some node.id

theorem Moment.IsBeside.isOrderly {session : Session κ S} {moment : Moment κ S}
    (hbeside : moment.IsBeside session) : moment.IsOrderly := by
  refine ⟨fun call hcalled => ?_, fun node parent hcalled => ?_, fun node hcalled => ?_⟩
  · obtain ⟨message, rfl, -⟩ := hbeside.called_host call hcalled
    rfl
  · obtain ⟨message, hmessage, hplaces⟩ := hbeside.called_host _ hcalled
    cases hmessage
    cases hplaces
  · obtain ⟨message, hmessage, hplaces⟩ := hbeside.called_host _ hcalled
    cases hmessage
    cases hplaces

namespace Session

variable {caller : Caller κ S}

/-! ## The walk -/

theorem orderly_mount (apart : caller.HostApart) (id : NodeId) (node : Node (Handler κ))
    (parent : Option NodeId) (index : Nat) (session : Session κ S)
    (hparent : ∀ id, parent = some id → session.bridge.isMounted id = true) :
    ∀ moment ∈ (mount id node (placeUnder parent index)).moments caller session,
      moment.IsOrderly := by
  intro moment hmoment
  obtain ⟨hmounted, hcalled⟩ := moments_mount apart id node _ session moment hmoment
  refine ⟨fun call hentry => ?_, fun other above hentry habove => ?_, fun other hentry => ?_⟩
  · rw [hcalled call hentry]
    rfl
  · have hmessage := hcalled _ hentry
    rw [Call.host.injEq, HostMessage.mount.injEq] at hmessage
    rw [hmessage] at habove
    have hplace : (placeUnder parent index).parent = some above := habove
    rw [parent_placeUnder] at hplace
    unfold Bridge.isMounted
    rw [hmounted]
    exact hparent above hplace
  · cases hcalled _ hentry

theorem orderly_ensureMounted (apart : caller.HostApart) (id : NodeId) (node : Node (Handler κ))
    (parent : Option NodeId) (index : Nat) (walk : Walk) (session : Session κ S)
    (hparent : ∀ id, parent = some id → session.bridge.isMounted id = true) :
    ∀ moment ∈ (ensureMounted id node (placeUnder parent index) walk).moments caller session,
      moment.IsOrderly := by
  intro moment hmoment
  unfold ensureMounted at hmoment
  simp only [Act.moments_bind, Act.moments_read, Act.run_read, Act.moments_ite, Act.moments_pure,
    List.nil_append, List.append_nil, ite_self] at hmoment
  split at hmoment
  · cases hmoment
  · exact orderly_mount apart id node parent index session hparent moment hmoment

theorem orderly_visit (apart : caller.HostApart) (parent : Option NodeId) (index : Nat)
    (node : Node (Handler κ)) (walk : Walk) (session : Session κ S)
    (hparent : ∀ id, parent = some id → session.bridge.isMounted id = true) :
    ∀ moment ∈ (visit parent index node walk).moments caller session, moment.IsOrderly := by
  intro moment hmoment
  unfold visit at hmoment
  simp only [Act.moments_bind, Act.moments_ite, Act.moments_pure, List.append_nil] at hmoment
  split at hmoment
  · cases hmoment
  · rcases List.mem_append.1 hmoment with hmoment | hmoment
    · exact orderly_ensureMounted apart _ node parent index _ session hparent moment hmoment
    · split at hmoment
      · exact (moments_updateAt apart _ node _ _ moment hmoment).isOrderly
      · cases hmoment

mutual

/-- Every mount of a walk goes to the host while the parent is mounted. -/
theorem orderly_walkTree (apart : caller.HostApart) (parent : Option NodeId) (index : Nat)
    (walk : Walk) (node : Node (Handler κ)) (session : Session κ S)
    (hparent : ∀ id, parent = some id →
      walk.seen.contains id = true ∧ session.bridge.isMounted id = true) :
    ∀ moment ∈ (walkTree parent index walk node).moments caller session, moment.IsOrderly := by
  match node with
  | ⟨id, kind, style, props, handlers, children, data⟩ =>
      intro moment hmoment
      unfold walkTree at hmoment
      rw [Act.moments_bind, List.mem_append] at hmoment
      generalize (⟨id, kind, style, props, handlers, children, data⟩ : Node (Handler κ)) = node
        at hmoment
      rcases hmoment with hmoment | hmoment
      · exact orderly_visit apart parent index node walk session (fun id hid => (hparent id hid).2)
          moment hmoment
      · -- The children are walked only below a node that is met for the first time and is mounted.
        by_cases hmet : walk.seen.contains (node.effectiveId parent index) = true
        · have hskip : (visit parent index node walk).run caller session =
              ((none, { walk with duplicates := walk.duplicates + 1 }), session) := by
            unfold visit
            simp [hmet]
          rw [hskip] at hmoment
          cases hmoment
        · rw [Bool.not_eq_true] at hmet
          obtain ⟨walk₁, session₁, hrun, htrip⟩ := trip_visit apart hparent hmet
          rw [hrun] at hmoment
          by_cases hentered : session₁.bridge.isMounted (node.effectiveId parent index) = true
          · simp only [hentered, if_true] at hmoment
            exact orderly_walkChildren apart _ 0 walk₁ children session₁
              (htrip.seen_of_mem (by simp)) hentered moment hmoment
          · simp only [hentered] at hmoment
            cases hmoment

theorem orderly_walkChildren (apart : caller.HostApart) (parent : NodeId) (index : Nat)
    (walk : Walk) (children : List (Node (Handler κ))) (session : Session κ S)
    (hseen : walk.seen.contains parent = true) (hmounted : session.bridge.isMounted parent = true) :
    ∀ moment ∈ (walkChildren parent index walk children).moments caller session,
      moment.IsOrderly := by
  match children with
  | [] =>
      intro moment hmoment
      cases hmoment
  | child :: children =>
      intro moment hmoment
      have hparent : ∀ id, some parent = some id →
          walk.seen.contains id = true ∧ session.bridge.isMounted id = true := by
        rintro id ⟨⟩
        exact ⟨hseen, hmounted⟩
      unfold walkChildren at hmoment
      rw [Act.moments_bind, List.mem_append] at hmoment
      rcases hmoment with hmoment | hmoment
      · exact orderly_walkTree apart (some parent) index walk child session hparent moment hmoment
      · -- The first child and what is below it leave the parent mounted for the next one.
        obtain ⟨trail, htrip, -⟩ :=
          trip_walkTree apart (some parent) index walk child session hparent
        have hseen' := (htrip.seen_iff parent).2 (.inl hseen)
        have hmounted' := (Bridge.isMounted_congr (htrip.kept_of_seen hseen)).trans hmounted
        exact orderly_walkChildren apart parent (index + 1) _ children _ hseen' hmounted' moment
          hmoment

end

/-! ## The unmounts -/

/-- When the unmount of one of several widgets goes to the host, this widget and those before it are
forgotten, and no others. -/
theorem called_unmountAll (apart : caller.HostApart) (ids : List NodeId) (session : Session κ S)
    {moment : Moment κ S} (hmoment : moment ∈ (unmountAll ids).moments caller session)
    {call : Call κ} (hcalled : moment.entry = .called call) :
    ∃ gone id rest record, ids = gone ++ id :: rest ∧
      session.bridge.mounted.get? id = some record ∧ call = .host (unmountMessage id record) ∧
      ∀ other, moment.session.bridge.mounted.get? other =
        if other ∈ gone ∨ other = id then none else session.bridge.mounted.get? other := by
  induction ids generalizing session with
  | nil => cases hmoment
  | cons first ids ih =>
      unfold unmountAll at hmoment
      rw [Act.moments_bind, List.mem_append] at hmoment
      rcases hmoment with hmoment | hmoment
      · obtain ⟨hmounted, record, hrecord, hcall⟩ :=
          called_unmount apart first session hmoment hcalled
        refine ⟨[], first, ids, record, rfl, hrecord, hcall, fun other => ?_⟩
        rw [hmounted, Table.get?_erase]
        simp
      · obtain ⟨gone, id, rest, record, rfl, hrecord, hcall, hget⟩ := ih _ hmoment
        obtain ⟨hmounted, -⟩ := mounted_unmount apart first session
        rw [hmounted, Table.get?_erase] at hrecord
        split at hrecord
        · cases hrecord
        · refine ⟨first :: gone, id, rest, record, rfl, hrecord, hcall, fun other => ?_⟩
          rw [hget, hmounted, Table.get?_erase]
          by_cases hother : other = first <;> simp [hother]

/-- Going by depth leaves nothing behind under a widget, if what lies below a doomed widget is
doomed and deeper. -/
theorem orderly_unmountAll (apart : caller.HostApart) {session : Session κ S}
    {doomed : NodeId → Bool} (closed : session.bridge.ClosedBelow doomed) :
    ∀ moment ∈ (unmountAll (session.bridge.unmountOrder doomed)).moments caller session,
      moment.IsOrderly := by
  intro moment hmoment
  refine ⟨fun call hcalled => ?_, fun node parent hcalled => ?_, fun node hcalled id hparent => ?_⟩
  · obtain ⟨_, _, _, _, -, -, rfl, -⟩ := called_unmountAll apart _ session hmoment hcalled
    rfl
  · obtain ⟨_, _, _, _, -, -, hcall, -⟩ := called_unmountAll apart _ session hmoment hcalled
    cases hcall
  · obtain ⟨gone, top, rest, above, hids, habove, hcall, hget⟩ :=
      called_unmountAll apart _ session hmoment hcalled
    obtain rfl : node.id = top := by
      rw [Call.host.injEq, unmountMessage, HostMessage.unmount.injEq] at hcall
      rw [hcall]
    rw [Bridge.parentOf?, hget] at hparent
    split at hparent
    · cases hparent
    · rename_i hstays
      obtain ⟨record, hrecord, hplace⟩ := Option.bind_eq_some_iff.1 hparent
      have hdoomed : doomed node.id = true := by
        refine (Bridge.mem_unmountOrder.1 (?_ : node.id ∈ session.bridge.unmountOrder doomed)).2
        rw [hids]
        simp
      obtain ⟨hdoomed', hdeeper⟩ := closed id record node.id above hrecord hplace habove hdoomed
      have hmem : id ∈ session.bridge.unmountOrder doomed :=
        Bridge.mem_unmountOrder.2 ⟨Table.contains_iff.2 ⟨record, hrecord⟩, hdoomed'⟩
      rw [hids, List.mem_append, List.mem_cons] at hmem
      -- The widget is deeper than the one that goes now, so its turn has been before.
      rcases hmem with hgone | hnow | hlater
      · exact hstays (.inl hgone)
      · exact hstays (.inr hnow)
      · have hpairwise := session.bridge.pairwise_unmountOrder doomed
        rw [hids, List.pairwise_append, List.pairwise_cons] at hpairwise
        have hle := hpairwise.2.1.1 id hlater above record habove hrecord
        omega

/-! ## Whole operations -/

/-- After the walk everything recorded under a widget that the walk has not met is not met either,
and is as deep as it was before the walk. -/
theorem closedBelow_unseen {tour : List Stop} {walk : Walk} {session walked : Session κ S}
    (nested : session.bridge.Nested) (htrip : Trip tour .start session walk walked) :
    walked.bridge.ClosedBelow fun id => !walk.seen.contains id := by
  have hseen : ∀ id, walk.seen.contains id = true ↔ id ∈ tour.map Stop.id := fun id => by
    rw [htrip.seen_iff]
    simp [Walk.start]
  intro id record parent above hrecord hparent habove hunseen
  rw [Bool.not_eq_true', ← Bool.not_eq_true, hseen] at hunseen
  -- A visited node has a parent that the walk has met.
  have hid : id ∉ tour.map Stop.id := by
    intro hmem
    obtain ⟨stop, hstop, rfl⟩ := List.mem_map.1 hmem
    obtain ⟨hplace, -⟩ := htrip.placed stop hstop record hrecord
    rw [hplace, parent_placeUnder] at hparent
    exact hunseen ((hseen parent).1 (htrip.rooted stop hstop parent hparent).1)
  rw [htrip.kept id hid] at hrecord
  rw [htrip.kept parent hunseen] at habove
  have hdepth := nested id record parent above hrecord hparent habove
  refine ⟨?_, by omega⟩
  rw [Bool.not_eq_true', ← Bool.not_eq_true, hseen]
  exact hid

theorem orderly_render (apart : caller.HostApart) (root : Node (Handler κ)) {session : Session κ S}
    (nested : session.bridge.Nested) :
    ∀ moment ∈ (render root).moments caller session, moment.IsOrderly := by
  intro moment hmoment
  obtain ⟨tour, htrip, -⟩ := trip_walkTree apart none 0 .start root session (by simp)
  unfold render at hmoment
  simp only [Act.moments_bind, Act.moments_read, Act.run_read, Act.moments_pure, List.nil_append,
    List.append_nil, List.mem_append] at hmoment
  rcases hmoment with hmoment | hmoment
  · exact orderly_walkTree apart none 0 .start root session (by simp) moment hmoment
  · exact orderly_unmountAll apart (closedBelow_unseen nested htrip) moment hmoment

theorem orderly_unmountSubtree (apart : caller.HostApart) (id : NodeId) {session : Session κ S}
    (nested : session.bridge.Nested) :
    ∀ moment ∈ (unmountSubtree id).moments caller session, moment.IsOrderly := by
  intro moment hmoment
  unfold unmountSubtree at hmoment
  simp only [Act.moments_bind, Act.moments_read, Act.run_read, Act.moments_pure, List.nil_append,
    List.append_nil] at hmoment
  exact orderly_unmountAll apart (nested.closedBelow_subtree id) moment hmoment

/-- A render leaves the widgets as they are nested in its tree, however they were before. -/
theorem nested_render (apart : caller.HostApart) (root : Node (Handler κ)) (session : Session κ S) :
    ((render root).run caller session).2.bridge.Nested := by
  obtain ⟨noted, tour, -, hrendered⟩ := rendered_render apart root session
  intro id record parent above hrecord hparent habove
  have hmounted := Table.contains_iff.2 ⟨record, hrecord⟩
  obtain ⟨stop, hstop, rfl⟩ := List.mem_map.1 ((hrendered.isMounted_iff id).1 hmounted).1
  rw [hrendered.placement_eq stop hstop record hrecord, parent_placeUnder] at hparent
  obtain ⟨above', habove', hdepth⟩ := hrendered.depth_child stop hstop record hrecord parent hparent
  rw [habove, Option.some.injEq] at habove'
  rw [hdepth, habove']

end Session

/-! ## Runs -/

theorem stepwise_nested : Stepwise (S := S)
    (fun request : Request κ => request.mountsAnywhere = false)
    False (fun _ core => core.bridge.Nested)
    (fun moment => moment.IsOrderly ∨
      moment.session.bridge.Nested ∧ moment.entry.callsMount = false) where
  step step nested := step.nested nested
  moment nested _ hmount := .inr ⟨nested, Bool.eq_false_iff.2 hmount⟩
  callback := by
    rintro call session hcall (orderly | ⟨nested, -⟩)
    · rw [orderly.isHost call rfl] at hcall
      cases hcall
    · exact ⟨[], nested⟩
  walks request permitted hmounts := by
    rw [permitted] at hmounts
    cases hmounts

theorem governs_nested : Governs (fun request : Request κ => request.mountsAnywhere = false)
    (fun _ => True)
    (fun (_ : List (Task (Job κ))) (session : Session κ S) => session.core.bridge.Nested)
    (fun _ moment => moment.IsOrderly ∨
      moment.session.bridge.Nested ∧ moment.entry.callsMount = false) := by
  refine stepwise_nested.governs (fun root => ?_) fun id node placement permitted => ?_
  · intro caller apart _ waiting session nested
    refine ⟨Session.nested_render apart root session, fun moment hmoment => ?_⟩
    exact .inl (Session.orderly_render apart root nested moment hmoment)
  · cases permitted

/-- If renders alone mount widgets, then in every session that a fresh one reaches a mount goes to
the host only while the parent is mounted, and an unmount that is part of a render or of the unmount
of a subtree goes to the host only when nothing is mounted any more that is recorded under the
widget. -/
theorem parents_outlive_children {sink : ChordSink} {host : Host} {app : S} {session : Session κ S}
    (reached : (Session.fresh sink host app).Reaches
      (fun request => request.mountsAnywhere = false) session) :
    (∀ moment : Moment κ S,
      moment.OccursFrom (fun request => request.mountsAnywhere = false) session →
        ∀ node parent, moment.entry = .called (.host (.mount node)) → node.parent = some parent →
          moment.session.bridge.isMounted parent = true) ∧
      (∀ (caller : Caller κ S) (root : Node (Handler κ)), caller.HostApart →
        ∀ moment ∈ (Request.render root).perform.moments caller session,
          ∀ node, moment.entry = .called (.host (.unmount node)) →
            ∀ id, Bridge.parentOf? moment.session.bridge.mounted id ≠ some node.id) ∧
      ∀ (caller : Caller κ S) (top : NodeId), caller.HostApart →
        ∀ moment ∈ (Request.unmountSubtree top).perform.moments caller session,
          ∀ node, moment.entry = .called (.host (.unmount node)) →
            ∀ id, Bridge.parentOf? moment.session.bridge.mounted id ≠ some node.id := by
  have hfresh : (Session.fresh (κ := κ) sink host app).core.bridge.Nested := by
    intro id record parent above hrecord
    cases hrecord
  obtain ⟨-, -, nested⟩ := governs_nested.reaches ⟨[], trivial, hfresh⟩ reached
  refine ⟨fun moment hoccurs node parent hcalled hparent => ?_,
    fun caller root apart moment hmoment => ?_,
    fun caller top apart moment hmoment => ?_⟩
  · obtain ⟨-, -, orderly | ⟨-, hmount⟩⟩ :=
      governs_nested.occurs_of_reaches ⟨[], trivial, hfresh⟩ reached hoccurs
    · exact orderly.mounts node parent hcalled hparent
    · rw [hcalled] at hmount
      cases hmount
  · exact (Session.orderly_render apart root nested moment hmoment).unmounts
  · exact (Session.orderly_unmountSubtree apart top nested moment hmoment).unmounts

/-- A root is unmounted when its child is gone. -/
theorem parents_outlive_children_twins :
    let session := ((Request.render Session.twins).perform.run (Code.plain.caller 1)
      Session.recordingSession).2
    session.bridge.mounted.names = ["View:0", "twin"] ∧
      Bridge.parentOf? session.bridge.mounted "twin" = some "View:0" ∧
      ∀ moment ∈ (Request.unmountSubtree "View:0").perform.moments (Code.plain.caller 1) session,
        ∀ node, moment.entry = .called (.host (.unmount node)) →
          ∀ id, Bridge.parentOf? moment.session.bridge.mounted id ≠ some node.id := by
  intro session
  have reached : Session.recordingSession.Reaches (fun request => request.mountsAnywhere = false)
      session := .act (.request (.render Session.twins) rfl) (Code.within_plain _) .refl
  have horderly := (parents_outlive_children reached).2.2 (Code.plain.caller 1) "View:0"
    (Code.hostApart_plain 1)
  exact ⟨by decide +kernel, by decide +kernel, horderly⟩

end EditorShell
