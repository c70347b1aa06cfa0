import EditorShell.Proofs.Run.Reaching
import EditorShell.Proofs.Widget.Unmounting
import EditorShell.Proofs.Widget.Walk

/-!
# What a render leaves mounted

After a render the mounted widgets are those of the tree, as far as the host has accepted them, each
at its place in the tree, and the report tells the difference to the widgets before
(`rendered_render`).

The tree alone does not say which nodes the walk visits, since it skips what is below a node that
the host refuses.  So the statement has the answers of the host as an argument, and the journal of
the render gives them.
-/

namespace EditorShell

variable {κ S : Type}

/-- A render of `root` has brought the bridge from `before` to `after`; `accepted` are the ids whose
mount the host has accepted on the way, and `tour` are the visits of the walk. -/
structure Rendered (root : Node (Handler κ)) (accepted : NodeId → Bool) (tour : List Stop)
    (before after : Bridge (Handler κ)) (report : RenderReport) : Prop where
  /-- The walk goes on below a node that was mounted or that the host accepts. -/
  tour_eq : tour = root.stops (fun id => before.isMounted id || accepted id) none 0 fun _ => false
  /-- No id is visited twice. -/
  nodup_tour : (tour.map Stop.id).Nodup
  /-- Mounted is what was visited and was mounted before or accepted by the host. -/
  isMounted_iff : ∀ id, after.isMounted id = true ↔
    id ∈ tour.map Stop.id ∧ (before.isMounted id = true ∨ accepted id = true)
  /-- Each mounted widget is recorded at the place of its visit. -/
  placement_eq : ∀ stop ∈ tour, ∀ record, after.mounted.get? stop.id = some record →
    record.placement = Session.placeUnder stop.parent stop.index
  /-- The root has depth zero. -/
  depth_root : ∀ stop ∈ tour, ∀ record, after.mounted.get? stop.id = some record →
    stop.parent = none → record.depth = 0
  /-- Every other node has a mounted parent and is one deeper. -/
  depth_child : ∀ stop ∈ tour, ∀ record, after.mounted.get? stop.id = some record →
    ∀ parent, stop.parent = some parent →
      ∃ above, after.mounted.get? parent = some above ∧ record.depth = above.depth + 1
  /-- The report lists what is newly mounted in the order of the visits. -/
  report_mounted : report.mounted =
    (tour.map Stop.id).filter fun id => after.isMounted id && !before.isMounted id
  nodup_mounted : report.mounted.Nodup
  /-- The report lists what is no longer mounted. -/
  report_unmounted : ∀ id, id ∈ report.unmounted ↔
    before.isMounted id = true ∧ after.isMounted id = false
  nodup_unmounted : report.unmounted.Nodup

namespace Session

variable {caller : Caller κ S}

/-- The place and the depth at which a visited widget is recorded survive the unmounts, which take
out only what the walk has not met. -/
theorem rendered_of_trip {root : Node (Handler κ)} {tour : List Stop} {walk : Walk}
    {session walked after : Session κ S} {noted : List (Entry κ)} {duplicates updated : Nat}
    (htrip : Trip tour .start session walk walked)
    (htour : root.stops walked.bridge.isMounted none 0 Walk.start.seen.contains = tour)
    (hget : ∀ id, after.bridge.mounted.get? id =
      if walk.seen.contains id then walked.bridge.mounted.get? id else none)
    (haccepted : ∀ id, walked.bridge.isMounted id =
      (session.bridge.isMounted id || noted.any (Entry.acceptsMount id))) :
    Rendered root (fun id => noted.any (Entry.acceptsMount id)) tour session.bridge after.bridge
      ⟨walk.mounted.reverse, updated, walked.bridge.unmountOrder fun id => !walk.seen.contains id,
        duplicates⟩ := by
  have hseen : ∀ id, walk.seen.contains id = true ↔ id ∈ tour.map Stop.id := fun id => by
    rw [htrip.seen_iff]
    simp [Walk.start]
  have hvisited : ∀ id ∈ tour.map Stop.id,
      after.bridge.mounted.get? id = walked.bridge.mounted.get? id := fun id hid => by
    rw [hget, if_pos ((hseen id).2 hid)]
  have hgone : ∀ id, id ∉ tour.map Stop.id → after.bridge.isMounted id = false := by
    intro id hid
    refine Table.contains_eq_false_iff.2 ?_
    rw [hget, if_neg fun hmet => hid ((hseen id).1 hmet)]
  have hmounted : ∀ id ∈ tour.map Stop.id,
      after.bridge.isMounted id = walked.bridge.isMounted id := fun id hid =>
    Bridge.isMounted_congr (hvisited id hid)
  have hreport : walk.mounted.reverse = (tour.map Stop.id).filter fun id =>
      after.bridge.isMounted id && !session.bridge.isMounted id := by
    rw [htrip.mounted_eq]
    refine List.filter_congr fun id hid => ?_
    rw [hmounted id hid, Bool.and_comm]
  refine ⟨?_, htrip.nodup, fun id => ?_, ?_, ?_, ?_, hreport, ?_, fun id => ?_, ?_⟩
  · rw [← htour]
    congr 1
    funext id
    exact haccepted id
  · by_cases hid : id ∈ tour.map Stop.id
    · rw [hmounted id hid, haccepted, Bool.or_eq_true]
      exact ⟨fun h => ⟨hid, h⟩, fun h => h.2⟩
    · rw [hgone id hid]
      exact ⟨fun h => absurd h Bool.false_ne_true, fun h => absurd h.1 hid⟩
  · intro stop hstop record hrecord
    rw [hvisited _ (List.mem_map_of_mem hstop)] at hrecord
    exact (htrip.placed stop hstop record hrecord).1
  · intro stop hstop record hrecord hroot
    rw [hvisited _ (List.mem_map_of_mem hstop)] at hrecord
    rw [(htrip.placed stop hstop record hrecord).2, hroot]
    rfl
  · intro stop hstop record hrecord parent hparent
    rw [hvisited _ (List.mem_map_of_mem hstop)] at hrecord
    obtain ⟨hmet, habove⟩ := htrip.rooted stop hstop parent hparent
    obtain ⟨above, habove⟩ := Table.contains_iff.1 habove
    refine ⟨above, by rw [hget, if_pos hmet, habove], ?_⟩
    rw [(htrip.placed stop hstop record hrecord).2, hparent]
    unfold Bridge.depthAt placeUnder Placement.childOf
    rw [Option.bind_some, habove]
  · rw [hreport]
    exact htrip.nodup.filter _
  · -- What the walk has not met is as before the walk, so it was mounted before the render.
    rw [Bridge.mem_unmountOrder, Bool.not_eq_true', ← Bool.not_eq_true, hseen]
    constructor
    · rintro ⟨hbefore, hid⟩
      exact ⟨(Bridge.isMounted_congr (htrip.kept id hid)).symm.trans hbefore, hgone id hid⟩
    · rintro ⟨hbefore, hafter⟩
      have hwalked : walked.bridge.isMounted id = true := by rw [haccepted, hbefore, Bool.true_or]
      refine ⟨hwalked, fun hid => ?_⟩
      rw [hmounted id hid, hwalked] at hafter
      cases hafter
  · exact walked.bridge.nodup_unmountOrder fun id => !walk.seen.contains id

/-- A render under a host that may refuse anything but leaves the bridge alone. -/
theorem rendered_render (apart : caller.HostApart) (root : Node (Handler κ))
    (session : Session κ S) :
    ∃ noted tour, ((render root).run caller session).2.journal = noted ++ session.journal ∧
      Rendered root (fun id => noted.any (Entry.acceptsMount id)) tour session.bridge
        ((render root).run caller session).2.bridge ((render root).run caller session).1 := by
  obtain ⟨tour, htrip, hstops⟩ := trip_walkTree apart none 0 .start root session (by simp)
  unfold render
  simp only [Act.run_bind, Act.run_read, Act.run_pure]
  generalize (walkTree none 0 .start root).run caller session = walked at htrip hstops ⊢
  obtain ⟨walk, walked⟩ := walked
  obtain ⟨hget, unmounts, hunmounts, hnone⟩ := get?_unmountAll apart
    (walked.bridge.unmountOrder fun id => !walk.seen.contains id) walked
  obtain ⟨mounts, hmounts, haccepted⟩ := htrip.journal_eq
  refine ⟨unmounts ++ mounts, tour, by rw [hunmounts, hmounts, List.append_assoc], ?_⟩
  refine rendered_of_trip htrip (hstops _ fun _ _ => rfl) (fun id => ?_) fun id => ?_
  · simp only [hget, Bridge.mem_unmountOrder]
    -- The sweep takes away what is mounted and was not met, and nothing else.
    cases hmet : walk.seen.contains id with
    | true => simp
    | false =>
        by_cases hmounted : walked.bridge.isMounted id = true
        · simp [hmounted]
        · have hnone := Table.contains_eq_false_iff.1 (Bool.eq_false_iff.2 hmounted)
          simp [hnone]
  · rw [haccepted, List.any_append, hnone, Bool.false_or]

/-- A tree in which two nodes have the same id. -/
def twins : Node (Handler Empty) :=
  (Node.ofKind .view).withChildren
    [(Node.ofText "a").withId "twin", (Node.ofText "b").withId "twin"]

/-- A session in which a widget is mounted that is in no tree. -/
def strayedSession : Session Empty Unit :=
  ((mount "stray" (Node.ofKind .view) (.childOf "gone" 3)).run (Code.plain.caller 1)
    recordingSession).2

/-- The second twin is passed over, and the stray widget is unmounted. -/
theorem rendered_render_twins :
    ((render twins).run (Code.plain.caller 1) strayedSession).1 =
        ⟨["View:0", "twin"], 2, ["stray"], 1⟩ ∧
      (((render twins).run (Code.plain.caller 1) strayedSession).2.bridge.mounted.get? "twin").map
          (fun record => (record.placement, record.depth)) = some (.childOf "View:0" 0, 1) ∧
      ∃ noted tour, ((render twins).run (Code.plain.caller 1) strayedSession).2.journal =
          noted ++ strayedSession.journal ∧
        Rendered twins (fun id => noted.any (Entry.acceptsMount id)) tour strayedSession.bridge
          ((render twins).run (Code.plain.caller 1) strayedSession).2.bridge
          ((render twins).run (Code.plain.caller 1) strayedSession).1 :=
  ⟨by decide +kernel, by decide +kernel,
    rendered_render (Code.hostApart_plain 1) twins strayedSession⟩

end Session

end EditorShell
