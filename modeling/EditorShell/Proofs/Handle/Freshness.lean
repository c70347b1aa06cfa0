import EditorShell.Proofs.Handle.Consistency
import EditorShell.Proofs.Handle.History
import EditorShell.Proofs.Handle.Lasting

/-!
# Cached handles are fresh

A handle goes from the answer of the host through a slot to a job and from there to the bridge, and
each of these can outlast the widget.  Still no handle of an earlier life is ever cached, no two
widgets cache the same handle, and a cached handle stays until the widget is unmounted
(`handles_fresh`), provided that the host alone fills slots and that no two mounted ids share one.

## Strategy

`Fresh` follows a handle on its way: the handle in a slot belongs to a mounted widget that waits for
it, and both it and the cached handles have their history in the present life of the widget
(`Requested`, `Obtained`).  Slots are shared by name only, so two ids with the same slot matter in
one place: where a job picks up a handle.
-/

namespace EditorShell

variable {κ S : Type}

/-! ## What a message does to handles -/

/-- A host leaves a handle only if it accepts a request for one.  The handle is a new one. -/
theorem Host.take_cases (host : Host) (slots : HandleSlots) (message : HostMessage) :
    (host.publication? message = none ∧ (host.take slots message).2.2 = slots ∧
        host.recording.lastHandle ≤ (host.take slots message).2.1.recording.lastHandle) ∨
      ∃ id, message = .requestHandle id ∧ (host.take slots message).1 = .ok () ∧
        host.publication? message = some (id, ⟨host.recording.lastHandle + 1⟩) ∧
        (host.take slots message).2.2 = slots.publish id ⟨host.recording.lastHandle + 1⟩ ∧
        (host.take slots message).2.1.recording.lastHandle = host.recording.lastHandle + 1 := by
  unfold Host.publication? Host.take
  cases host.kind with
  | lines => exact .inl ⟨rfl, rfl, Nat.le_refl _⟩
  | recording =>
      dsimp only
      unfold Recording.take Recording.publication?
      by_cases hfails : host.recording.failing.contains message.op = true
      · refine .inl ?_
        cases message <;> simp_all [HostMessage.op]
      · cases message with
        | requestHandle id =>
            by_cases hlive : host.recording.live.contains id = true
            · by_cases hpublishes : host.recording.publishes = true
              · exact .inr ⟨id, by simp_all [HostMessage.op, Recording.perform]⟩
              · exact .inl (by simp_all [HostMessage.op, Recording.perform])
            · exact .inl (by simp_all [HostMessage.op, Recording.perform])
        | _ => exact .inl (by simp_all [HostMessage.op, Recording.perform])

/-- Only an accepted request leaves a handle. -/
theorem Answered.handover_cases {message : HostMessage} {core core' : Core κ} {accepted : Bool}
    (answered : Answered message core accepted core') :
    (core'.journal = .sent message accepted :: core.journal ∧ core'.slots = core.slots ∧
        core.host.recording.lastHandle ≤ core'.host.recording.lastHandle) ∨
      ∃ id, message = .requestHandle id ∧ accepted = true ∧
        core'.journal = .sent message true ::
          .published id ⟨core.host.recording.lastHandle + 1⟩ :: core.journal ∧
        core'.slots = core.slots.publish id ⟨core.host.recording.lastHandle + 1⟩ ∧
        core'.host.recording.lastHandle = core.host.recording.lastHandle + 1 := by
  cases answered with
  | refused => exact .inl ⟨rfl, rfl, Nat.le_refl _⟩
  | acted =>
      have hentry : ∀ published, Session.publicationEntry core.host message = published →
          ((core.hostActing message).noting (.sent message (core.takes message))).journal =
            .sent message (core.takes message) :: (published ++ core.journal) := by
        rintro _ rfl
        rfl
      rcases core.host.take_cases core.slots message with
        ⟨hnone, hslots, hlast⟩ | ⟨id, rfl, haccepted, hpublished, hslots, hlast⟩
      · refine .inl ⟨hentry [] ?_, hslots, hlast⟩
        simp [Session.publicationEntry, hnone]
      · have htakes : core.takes (.requestHandle id) = true := by
          unfold Core.takes
          rw [haccepted]
        rw [htakes] at hentry ⊢
        refine .inr ⟨id, rfl, rfl, hentry [.published id _] ?_, hslots, hlast⟩
        simp [Session.publicationEntry, hpublished]

/-! ## The invariant -/

/-- Whether an entry neither bounds the life of a widget nor tells of a handle. -/
def Entry.isQuiet : Entry κ → Bool
  | .sent (.mount _) true | .withdrawn _ | .published _ _ => false
  | _ => true

theorem Entry.bounds_of_isQuiet {entry : Entry κ} (quiet : entry.isQuiet = true) (id : NodeId) :
    entry.bounds id = false := by
  unfold Entry.bounds
  split <;> first | rfl | cases quiet

theorem Entry.isQuiet_of_isIdle {entry : Entry κ} (idle : entry.isIdle = true) :
    entry.isQuiet = true := by
  unfold Entry.isQuiet
  split <;> first | rfl | cases idle

/-- Handles and the history of widgets fit together. -/
structure Fresh (core : Core κ) : Prop where
  /-- Mounted are the widgets whose latest life has not ended. -/
  isMounted_iff : ∀ id, core.bridge.isMounted id = true ↔ ∃ since, SinceMount id core.journal since
  number_le : ∀ id handle, .published id handle ∈ core.journal →
    handle.number ≤ core.host.recording.lastHandle
  /-- No handle is left for two widgets. -/
  unique : ∀ id id' handle, .published id handle ∈ core.journal →
    .published id' handle ∈ core.journal → id = id'
  obtained : ∀ id handle, core.bridge.handles.get? id = some handle →
    Obtained id handle core.journal
  /-- A handle in a slot is waited for. -/
  requested : ∀ name handle, core.slots.slots.get? name = some handle →
    ∃ id task, slotName id = name ∧ core.bridge.pending.get? id = some task ∧
      Requested id task handle core.journal

namespace Fresh

variable {core core' : Core κ} {noted : List (Entry κ)}

/-- No handle is left and none is picked up.  What is cached and what waits in slots survives only
in lives that go on. -/
theorem carry (fresh : Fresh core) (hjournal : core'.journal = noted ++ core.journal)
    (hmounted : ∀ id, core'.bridge.isMounted id = true ↔ ∃ since, SinceMount id core'.journal since)
    (hpublished : ∀ id handle, .published id handle ∉ noted)
    (hhandles : ∀ id handle, core'.bridge.handles.get? id = some handle →
      core.bridge.handles.get? id = some handle ∧ ∀ entry ∈ noted, entry.bounds id = false)
    (hslots : ∀ id task handle, core'.slots.peek? id = some handle →
      core.bridge.pending.get? id = some task →
        core'.bridge.pending.get? id = some task ∧ ∀ entry ∈ noted, entry.bounds id = false)
    (hkept : ∀ name handle, core'.slots.slots.get? name = some handle →
      core.slots.slots.get? name = some handle)
    (hlast : core.host.recording.lastHandle ≤ core'.host.recording.lastHandle) : Fresh core' := by
  have hold : ∀ id handle, .published id handle ∈ core'.journal →
      .published id handle ∈ core.journal := by
    intro id handle hmem
    rw [hjournal, List.mem_append] at hmem
    exact hmem.resolve_left (hpublished id handle)
  refine ⟨hmounted, fun id handle hmem => ?_, fun id id' handle hmem hmem' => ?_,
    fun id handle hcached => ?_, fun name handle hslot => ?_⟩
  · exact Nat.le_trans (fresh.number_le id handle (hold id handle hmem)) hlast
  · exact fresh.unique id id' handle (hold id handle hmem) (hold id' handle hmem')
  · obtain ⟨hcached, hbounds⟩ := hhandles id handle hcached
    rw [hjournal]
    exact (fresh.obtained id handle hcached).append hbounds
  · obtain ⟨id, task, rfl, hwaits, hrequested⟩ :=
      fresh.requested name handle (hkept name handle hslot)
    obtain ⟨hwaits, hbounds⟩ := hslots id task handle hslot hwaits
    rw [hjournal]
    exact ⟨id, task, rfl, hwaits, hrequested.append hbounds⟩

/-- Nothing has happened to lives and handles, but slots may have been emptied and new requests may
wait. -/
theorem quiet (fresh : Fresh core) (hjournal : core'.journal = noted ++ core.journal)
    (hquiet : ∀ entry ∈ noted, entry.isQuiet = true)
    (hmounted : ∀ id, core'.bridge.isMounted id = core.bridge.isMounted id)
    (hhandles : core'.bridge.handles = core.bridge.handles)
    (hpending : ∀ id task, core.bridge.pending.get? id = some task →
      core'.bridge.pending.get? id = some task)
    (hkept : ∀ name handle, core'.slots.slots.get? name = some handle →
      core.slots.slots.get? name = some handle)
    (hlast : core.host.recording.lastHandle ≤ core'.host.recording.lastHandle) : Fresh core' := by
  have hbounds : ∀ id, ∀ entry ∈ noted, entry.bounds id = false := fun id entry hentry =>
    Entry.bounds_of_isQuiet (hquiet entry hentry) id
  refine fresh.carry hjournal (fun id => ?_) (fun id handle hmem => ?_)
    (fun id handle hcached => ?_)
    (fun id task handle _ hwaits => ⟨hpending id task hwaits, hbounds id⟩) hkept hlast
  · rw [hmounted, fresh.isMounted_iff, hjournal]
    exact (SinceMount.exists_append_iff (hbounds id)).symm
  · cases hquiet _ hmem
  · rw [hhandles] at hcached
    exact ⟨hcached, hbounds id⟩

/-- An entry that tells of no life and no handle, and no change of the bridge and the slots. -/
theorem beside (fresh : Fresh core) {entry : Entry κ} (hquiet : entry.isQuiet = true)
    (hjournal : core'.journal = entry :: core.journal) (hbridge : core'.bridge = core.bridge)
    (hslots : core'.slots = core.slots)
    (hlast : core.host.recording.lastHandle ≤ core'.host.recording.lastHandle) : Fresh core' := by
  have hjournal : core'.journal = [entry] ++ core.journal := hjournal
  refine fresh.quiet hjournal (by simpa using hquiet) (fun _ => by rw [hbridge]) (by rw [hbridge])
    (fun _ _ hwaits => by rwa [hbridge]) (fun _ _ hslot => ?_) hlast
  rwa [hslots] at hslot

/-- A change that the journal does not tell of. -/
theorem same (fresh : Fresh core) (hjournal : core'.journal = core.journal)
    (hmounted : ∀ id, core'.bridge.isMounted id = core.bridge.isMounted id)
    (hhandles : core'.bridge.handles = core.bridge.handles)
    (hpending : core'.bridge.pending = core.bridge.pending)
    (hkept : ∀ name handle, core'.slots.slots.get? name = some handle →
      core.slots.slots.get? name = some handle)
    (hlast : core'.host.recording.lastHandle = core.host.recording.lastHandle) : Fresh core' := by
  have hjournal : core'.journal = [] ++ core.journal := hjournal
  exact fresh.quiet hjournal (by simp) hmounted hhandles (fun _ _ hwaits => by rwa [hpending]) hkept
    (Nat.le_of_eq hlast.symm)

/-! ## The steps that begin and end lives, and those that pass a handle on -/

/-- A new life has no handle and waits for none. -/
theorem mounting (fresh : Fresh core) (consistent : Consistent core) {id : NodeId}
    {node : Node (Handler κ)} {placement : Placement} (absent : core.bridge.isMounted id = false)
    (answered : Answered (.mount (.ofNode node id (some placement))) core true core') :
    Fresh { core' with
      bridge := core'.bridge.recordMount id node.kind placement node.handlers } := by
  have hbridge := answered.bridge_eq
  obtain ⟨hjournal, hslots, hlast⟩ | ⟨other, hrequest, -⟩ := answered.handover_cases
  case inr => cases hrequest
  obtain ⟨noted, hnoted⟩ : ∃ noted, noted =
      [Entry.sent (κ := κ) (.mount (.ofNode node id (some placement))) true] := ⟨_, rfl⟩
  have hjournal : core'.journal = noted ++ core.journal := by rw [hnoted, hjournal]; rfl
  have hbounds : ∀ other, other ≠ id → ∀ entry ∈ noted, entry.bounds other = false := by
    intro other hother entry hentry
    rw [hnoted] at hentry
    obtain rfl := List.mem_singleton.1 hentry
    exact beq_eq_false_iff_ne.2 (Ne.symm hother)
  -- The widget is new, so what is cached or awaited belongs to others, and their entries stay.
  have hne : ∀ other, core.bridge.isMounted other = true → other ≠ id := by
    rintro other hother rfl
    exact Bool.false_ne_true (absent.symm.trans hother)
  refine fresh.carry hjournal (fun other => ?_) (by simp [hnoted]) (fun other handle hcached => ?_)
    (fun other task handle _ hwaits => ?_) (fun name handle hslot => ?_) hlast
  · have hmounted :=
      Bridge.isMounted_recordMount core'.bridge id node.kind placement node.handlers other
    dsimp only
    rw [hmounted, hbridge, hjournal]
    by_cases hid : other = id
    · subst hid
      rw [beq_self_eq_true, Bool.true_or, hnoted]
      have hnode : (HostNode.ofNode node other (some placement)).id = other := rfl
      exact iff_of_true rfl ⟨[], .mount hnode core.journal⟩
    · rw [beq_eq_false_iff_ne.2 hid, Bool.false_or, fresh.isMounted_iff]
      exact (SinceMount.exists_append_iff (hbounds other hid)).symm
  · have hcached : core'.bridge.handles.get? other = some handle := hcached
    rw [hbridge] at hcached
    have hmounted := consistent.handles_mounted other (Table.contains_iff.2 ⟨handle, hcached⟩)
    exact ⟨hcached, hbounds other (hne other hmounted)⟩
  · have hmounted := consistent.pending_mounted other (Table.contains_iff.2 ⟨task, hwaits⟩)
    refine ⟨?_, hbounds other (hne other hmounted)⟩
    rw [← hbridge] at hwaits
    exact hwaits
  · have hslot : core'.slots.slots.get? name = some handle := hslot
    rwa [hslots] at hslot

/-- An unmount takes the handle, the request and what is left in the slot along. -/
theorem withdrawing (fresh : Fresh core) (id : NodeId) : Fresh (core.withdrawing id) := by
  obtain ⟨noted, hjournal, hnoted⟩ : ∃ noted,
      (core.withdrawing id).journal = noted ++ core.journal ∧
      noted = if core.bridge.isMounted id then [.withdrawn id] else [] := by
    unfold Core.withdrawing
    dsimp only
    split
    · exact ⟨[_], rfl, rfl⟩
    · exact ⟨[], rfl, rfl⟩
  have hbounds : ∀ other, other ≠ id → ∀ entry ∈ noted, entry.bounds other = false := by
    intro other hother entry hentry
    rw [hnoted] at hentry
    split at hentry
    · obtain rfl := List.mem_singleton.1 hentry
      exact beq_eq_false_iff_ne.2 (Ne.symm hother)
    · cases hentry
  have hslots := core.slots.get?_discard id
  refine fresh.carry hjournal (fun other => ?_) (fun other handle hmem => ?_)
    (fun other handle hcached => ?_) (fun other task handle hslot hwaits => ?_)
    (fun name handle hslot => ?_) (Nat.le_refl _)
  · rw [Core.isMounted_withdrawing, hjournal]
    by_cases hid : other = id
    · subst hid
      rw [bne_self_eq_false, Bool.false_and]
      refine iff_of_false Bool.false_ne_true ?_
      -- An unmount of what is not mounted leaves no entry, but then there is no life to end.
      by_cases hother : core.bridge.isMounted other = true
      · rw [hnoted, if_pos hother]
        exact fun ⟨_, life⟩ => SinceMount.not_withdrawn life
      · rw [hnoted, if_neg hother]
        exact fun life => hother ((fresh.isMounted_iff other).2 life)
    · rw [bne_iff_ne.2 hid, Bool.true_and, fresh.isMounted_iff]
      exact (SinceMount.exists_append_iff (hbounds other hid)).symm
  · rw [hnoted] at hmem
    split at hmem <;> simp at hmem
  · rw [Core.get?_handles_withdrawing] at hcached
    split at hcached
    · cases hcached
    · rename_i hid
      exact ⟨hcached, hbounds other hid⟩
  · have hid : other ≠ id := by
      rintro rfl
      have hempty := (hslots (slotName other)).symm.trans hslot
      rw [if_pos rfl] at hempty
      cases hempty
    rw [Core.get?_pending_withdrawing, if_neg hid]
    exact ⟨hwaits, hbounds other hid⟩
  · have hkept := (hslots name).symm.trans hslot
    split at hkept
    · cases hkept
    · exact hkept

/-- The host has left a new handle for a mounted widget, and `task` will pick it up. -/
theorem publishing (fresh : Fresh core) {id : NodeId} {task : TaskId} {handle : WidgetHandle}
    (hnumber : handle.number = core.host.recording.lastHandle + 1)
    (hlast : core'.host.recording.lastHandle = handle.number)
    (hjournal : core'.journal = handover id task handle ++ core.journal)
    (hmounted : ∀ other, core'.bridge.isMounted other = core.bridge.isMounted other)
    (hhandles : core'.bridge.handles = core.bridge.handles)
    (hpending : ∀ other number, core.bridge.pending.get? other = some number →
      core'.bridge.pending.get? other = some number)
    (hslots : core'.slots = core.slots.publish id handle)
    (mounted : core.bridge.isMounted id = true) (waits : core'.bridge.pending.get? id = some task) :
    Fresh core' := by
  have hbounds : ∀ other, ∀ entry ∈ (handover id task handle : List (Entry κ)),
      entry.bounds other = false := by simp [handover, Entry.bounds]
  have hpublished : ∀ other given, .published other given ∈ core'.journal →
      other = id ∧ given = handle ∨ .published other given ∈ core.journal := by
    intro other given hmem
    rw [hjournal, List.mem_append] at hmem
    refine hmem.imp_left fun hmem => ?_
    simpa [handover] using hmem
  have hold : ∀ other, .published other handle ∉ core.journal := fun other hmem => by
    have hle := fresh.number_le other handle hmem
    omega
  refine ⟨fun other => ?_, fun other given hmem => ?_, fun other other' given hmem hmem' => ?_,
    fun other given hcached => ?_, fun name given hslot => ?_⟩
  · rw [hmounted, hjournal, fresh.isMounted_iff]
    exact (SinceMount.exists_append_iff (hbounds other)).symm
  · rcases hpublished other given hmem with ⟨-, rfl⟩ | hmem
    · omega
    · have hle := fresh.number_le other given hmem
      omega
  · -- A handle for two widgets would have to be an old one and a new one.
    rcases hpublished other given hmem with ⟨rfl, rfl⟩ | hmem
    · rcases hpublished other' given hmem' with ⟨rfl, -⟩ | hmem'
      · rfl
      · exact absurd hmem' (hold other')
    · rcases hpublished other' given hmem' with ⟨rfl, rfl⟩ | hmem'
      · exact absurd hmem (hold other)
      · exact fresh.unique other other' given hmem hmem'
  · rw [hhandles] at hcached
    rw [hjournal]
    exact (fresh.obtained other given hcached).append (hbounds other)
  · rw [hslots, HandleSlots.get?_publish] at hslot
    rw [hjournal]
    split at hslot
    · rename_i hname
      obtain rfl := Option.some.inj hslot
      obtain ⟨since, life⟩ := (fresh.isMounted_iff id).1 mounted
      exact ⟨id, task, hname.symm, waits, _, life.append (hbounds id),
        (List.prefix_append _ _).isInfix⟩
    · obtain ⟨other, number, hname, hwaits, hrequested⟩ := fresh.requested name given hslot
      exact ⟨other, number, hname, hpending other number hwaits, hrequested.append (hbounds other)⟩

/-- After an accepted request either a new handle waits in the slot, or the host has left none. -/
theorem requesting (fresh : Fresh core) {id : NodeId} (mounted : core.bridge.isMounted id = true)
    (idle : core.bridge.pending.get? id = none)
    (answered : Answered (.requestHandle id) core true core') : Fresh (core'.requesting id) := by
  have hbridge := answered.bridge_eq
  have hpending : ∀ other, (core'.requesting id).bridge.pending.get? other =
      if other = id then some core'.scheduler.nextId else core.bridge.pending.get? other := by
    intro other
    rw [← hbridge]
    exact Table.get?_insert _ _ _ _
  have hkept : ∀ other task, core.bridge.pending.get? other = some task →
      (core'.requesting id).bridge.pending.get? other = some task := by
    intro other task hwaits
    rw [hpending, if_neg]
    · exact hwaits
    · rintro rfl
      rw [idle] at hwaits
      cases hwaits
  have hmounted : ∀ other, (core'.requesting id).bridge.isMounted other =
      core.bridge.isMounted other := fun other => by rw [← hbridge]; rfl
  have hhandles : (core'.requesting id).bridge.handles = core.bridge.handles := by
    rw [← hbridge]
    rfl
  obtain ⟨scheduled, hscheduled⟩ : ∃ entry : Entry κ, entry =
    .scheduled ⟨core'.scheduler.nextId, .start, .resolveHandle id⟩ := ⟨_, rfl⟩
  have hrequesting : (core'.requesting id).journal = scheduled :: core'.journal := by
    rw [hscheduled]
    rfl
  -- The host may have published a handle along with its answer, which is then a new one.
  rcases answered.handover_cases with
    ⟨hjournal, hslots, hlast⟩ | ⟨other, hother, -, hjournal, hslots, hlast⟩
  · have hjournal : (core'.requesting id).journal =
        [scheduled, .sent (.requestHandle id) true] ++ core.journal := by
      rw [hrequesting, hjournal]
      rfl
    refine fresh.quiet hjournal (by simp [hscheduled, Entry.isQuiet]) hmounted hhandles hkept
      (fun name handle hslot => ?_) hlast
    rw [← hslots]
    exact hslot
  · obtain rfl := HostMessage.requestHandle.inj hother
    have hjournal : (core'.requesting id).journal =
        handover id core'.scheduler.nextId ⟨core.host.recording.lastHandle + 1⟩ ++
          core.journal := by
      rw [hrequesting, hjournal, hscheduled]
      rfl
    have hwaits : (core'.requesting id).bridge.pending.get? id = some core'.scheduler.nextId := by
      rw [hpending, if_pos rfl]
    exact fresh.publishing rfl hlast hjournal hmounted hhandles hkept hslots mounted hwaits

/-- The handle that a job picks up is the one that its own request was answered by: only here it
matters that no two mounted ids share a slot. -/
theorem resolving (fresh : Fresh core) (distinct : SlotsDistinct core.journal) {id : NodeId}
    {task : TaskId} (mounted : core.bridge.isMounted id = true)
    (waits : core.bridge.pending.get? id = some task) :
    Fresh ((core.noting (.ran task)).resolving id) := by
  have hran : ∀ other, ∀ entry ∈ [Entry.ran (κ := κ) task], entry.bounds other = false := by
    simp [Entry.bounds]
  have hbridge : ((core.noting (.ran task)).resolving id).bridge =
      core.bridge.settle id (core.slots.peek? id) := rfl
  have hslots : ((core.noting (.ran task)).resolving id).slots = core.slots.discard id := rfl
  have hpublished : ∀ other handle,
      .published other handle ∈ ((core.noting (.ran task)).resolving id).journal →
        .published other handle ∈ core.journal := by
    intro other handle hmem
    rcases List.mem_cons.1 hmem with hran | hmem
    · cases hran
    · exact hmem
  refine ⟨fun other => ?_, fun other handle hmem => ?_, fun other other' handle hmem hmem' => ?_,
    fun other handle hcached => ?_, fun name handle hslot => ?_⟩
  · have hsettle := congrArg (fun mounted => Table.get? mounted other)
      (core.bridge.mounted_settle id (core.slots.peek? id))
    rw [hbridge, Bridge.isMounted_congr hsettle, fresh.isMounted_iff]
    exact (SinceMount.exists_append_iff (hran other)).symm
  · exact fresh.number_le other handle (hpublished other handle hmem)
  · exact fresh.unique other other' handle (hpublished other handle hmem)
      (hpublished other' handle hmem')
  · rw [hbridge, Bridge.get?_handles_settle] at hcached
    split at hcached
    · rename_i hid
      obtain ⟨rfl, -⟩ := hid
      -- The handle was left for a mounted widget with this slot, and there is only one.
      obtain ⟨owner, task', hname, howner, hrequested⟩ :=
        fresh.requested (slotName other) handle hcached
      obtain ⟨since, life⟩ := (fresh.isMounted_iff other).1 mounted
      obtain rfl := distinct owner hrequested.mem_mountedIds other life.mem_mountedIds hname
      rw [waits, Option.some.injEq] at howner
      subst howner
      exact hrequested.ran
    · exact (fresh.obtained other handle hcached).append (hran other)
  · rw [hslots, HandleSlots.get?_discard] at hslot
    split at hslot
    · cases hslot
    · rename_i hname
      obtain ⟨other, task', rfl, hwaits, hrequested⟩ := fresh.requested name handle hslot
      refine ⟨other, task', rfl, ?_, hrequested.append (hran other)⟩
      rw [hbridge, Bridge.pending_settle, Table.get?_erase, if_neg]
      · exact hwaits
      · rintro rfl
        exact hname rfl

end Fresh

/-- Whether a request can leave a handle in a slot past the bridge. -/
def Request.fillsSlots : Request κ → Bool
  | .publish _ _ | .sendDirectly _ => true
  | _ => false

/-- The requests of a program that leaves jobs and slots to the bridge and the host. -/
def Request.leavesHandles (request : Request κ) : Prop :=
  request.leavesJobs = true ∧ request.fillsSlots = false

theorem Fresh.step {walking : Prop} {held held' : List (Task (Job κ))} {core core' : Core κ}
    (step : Step Request.leavesHandles walking held core held' core') (ledger : Ledger held core)
    (consistent : Consistent core) (distinct : SlotsDistinct core.journal) (fresh : Fresh core) :
    Fresh core' := by
  cases step with
  | note idle => exact fresh.beside (Entry.isQuiet_of_isIdle idle) rfl rfl rfl (Nat.le_refl _)
  | schedule deadline free => exact fresh.beside rfl rfl rfl rfl (Nat.le_refl _)
  | debounce now body there => exact fresh.beside rfl rfl rfl rfl (Nat.le_refl _)
  | run live free => exact fresh.beside rfl rfl rfl rfl (Nat.le_refl _)
  | start live job => exact fresh.beside rfl rfl rfl rfl (Nat.le_refl _)
  | resolve live job =>
      have hlive := ledger.rosters.isLive_of_mem
        (List.mem_append_right core.scheduler.queue List.mem_cons_self) live
      have hwaits := consistent.get?_pending hlive job
      have hmounted := consistent.pending_mounted _ (Table.contains_iff.2 ⟨_, hwaits⟩)
      exact fresh.resolving distinct hmounted hwaits
  -- Handles that somebody else publishes could repeat one; the host is the only one to do it here.
  | publish permitted => cases permitted.2
  | act permitted => cases permitted.2
  | discard id =>
      refine fresh.same rfl (fun _ => rfl) rfl rfl (fun name handle hslot => ?_) rfl
      dsimp only at hslot
      rw [HandleSlots.get?_discard] at hslot
      split at hslot
      · cases hslot
      · exact hslot
  | adjust alike =>
      exact fresh.same rfl (fun _ => rfl) rfl rfl (fun _ _ => id) alike.lastHandle_eq
  | @answer _ _ _ message accepted answered plain =>
      -- Only an accepted request for a handle publishes one, and such an answer is no plain one.
      rcases answered.handover_cases with
        ⟨hjournal, hslots, hlast⟩ | ⟨id, rfl, haccepted, -⟩
      · refine fresh.beside ?_ hjournal answered.bridge_eq hslots hlast
        cases accepted with
        | false => cases message <;> rfl
        | true => cases message <;> first | rfl | cases plain rfl
      · cases plain haccepted
  | mount walks absent answered => exact fresh.mounting consistent absent answered
  | place walks id placement =>
      exact fresh.same rfl (fun other => core.bridge.isMounted_place id placement other) rfl rfl
        (fun _ _ hslot => hslot) rfl
  | request mounted unresolved idle answered => exact fresh.requesting mounted idle answered
  | withdraw id => exact fresh.withdrawing id
  | _ => exact fresh.same rfl (fun _ => rfl) rfl rfl (fun _ _ => id) rfl

/-! ## Runs -/

theorem stepwise_fresh : Stepwise (S := S) (Request.leavesHandles (κ := κ)) True
    (fun held core => Ledger held core ∧ Consistent core ∧
      (SlotsDistinct core.journal → Fresh core))
    (fun moment => ∃ held, Ledger held moment.session.core ∧ Consistent moment.session.core ∧
      (SlotsDistinct moment.session.core.journal → Fresh moment.session.core)) where
  step step h := by
    obtain ⟨ledger, consistent, fresh⟩ := h
    refine ⟨ledger.step (fun _ => And.left) step, consistent.step (fun _ => And.left) step ledger,
      fun distinct => ?_⟩
    obtain ⟨noted, hjournal⟩ := step.journal_suffix
    rw [← hjournal] at distinct
    exact (fresh distinct.of_append).step step ledger consistent distinct.of_append
  moment h _ _ := ⟨_, h⟩
  callback _ h := h
  walks _ _ _ := trivial

theorem fresh_fresh (sink : ChordSink) (host : Host) (app : S) :
    Fresh (Session.fresh (κ := κ) sink host app).core where
  isMounted_iff id := by
    refine iff_of_false (by simp [Session.fresh, Session.core, Bridge.isMounted, Bridge.empty]) ?_
    rintro ⟨since, ⟨node, earlier, -, heq⟩, -⟩
    simp [Session.fresh, Session.core] at heq
  number_le id handle hmem := by cases hmem
  unique id id' handle hmem := by cases hmem
  obtained id handle hcached := by cases hcached
  requested name handle hslot := by cases hslot

/-- A session `session` comes of a fresh one, and `later` occurs in its course.  A handle that is
cached in the end is that of a mounted widget, and was left in answer to a request in the present
life of this widget.  No two widgets ever cache the same handle.  A cached handle stays until its
widget is unmounted, and a widget that was not mounted has a handle only if it has since been
mounted, asked for and resolved. -/
theorem handles_fresh {sink : ChordSink} {host : Host} {app : S} {session later : Session κ S}
    (reached : (Session.fresh sink host app).Reaches Request.leavesHandles session)
    (passed : session.Passes Request.leavesHandles later) (distinct : SlotsDistinct later.journal) :
    (∀ id handle, later.bridge.handles.get? id = some handle →
        later.bridge.isMounted id = true ∧ Obtained id handle later.journal) ∧
      (∀ id id' handle, session.bridge.handles.get? id = some handle →
        later.bridge.handles.get? id' = some handle → id = id') ∧
      ∃ noted, later.journal = noted ++ session.journal ∧
        (∀ id handle, session.bridge.handles.get? id = some handle →
          .withdrawn id ∈ noted ∨ later.bridge.handles.get? id = some handle) ∧
        ∀ id handle, session.bridge.isMounted id = false →
          later.bridge.handles.get? id = some handle → Obtained id handle noted := by
  have steps := stepwise_fresh (κ := κ) (S := S)
  obtain ⟨held, -, ledger, consistent, fresh⟩ := (steps.governs_of_walking trivial).reaches
    ⟨[], trivial, .fresh sink host app, consistent_fresh sink host app,
      fun _ => fresh_fresh sink host app⟩ reached
  obtain ⟨held', ledger', consistent', fresh'⟩ := steps.of_passes trivial
    (fun moment hQ => hQ) ⟨ledger, consistent, fresh⟩ passed
  obtain ⟨noted, hjournal, hlasts⟩ := follows_of_passes reached passed
  have hjournal : later.journal = noted ++ session.journal := hjournal
  have hfresh' : Fresh later.core := fresh' distinct
  -- Both ends of the run are fresh: slot names that are distinct in the end were so before.
  rw [hjournal] at distinct
  have hfresh : Fresh session.core := fresh distinct.of_append
  refine ⟨fun id handle hcached => ?_, fun id id' handle hcached hcached' => ?_, noted, hjournal,
    fun id handle hcached => (hlasts id).imp_right fun h => h.2 handle hcached,
    fun id handle hunmounted hcached => ?_⟩
  · exact ⟨consistent'.handles_mounted id (Table.contains_iff.2 ⟨handle, hcached⟩),
      hfresh'.obtained id handle hcached⟩
  · have hpublished : .published id handle ∈ later.journal := by
      rw [hjournal]
      exact List.mem_append_right _ (hfresh.obtained id handle hcached).mem_published
    have hpublished' : .published id' handle ∈ later.journal :=
      (hfresh'.obtained id' handle hcached').mem_published
    exact hfresh'.unique id id' handle hpublished hpublished'
  · have hobtained : Obtained id handle (noted ++ session.journal) := by
      rw [← hjournal]
      exact hfresh'.obtained id handle hcached
    -- A handle obtained before that would need a mount that lasts until here.
    refine hobtained.of_append fun since life => ?_
    have hmounted : session.bridge.isMounted id = true := (hfresh.isMounted_iff id).2 ⟨since, life⟩
    rw [hunmounted] at hmounted
    cases hmounted

/-- A pass picks up the handle of a widget that waits for it. -/
theorem handles_fresh_asked :
    let later := ((Request.runDue).perform.run (Code.plain.caller 1) Session.askedSession).2
    later.bridge.handles.get? "a" = some ⟨1⟩ ∧ later.bridge.isMounted "a" = true ∧
      Obtained "a" ⟨1⟩ later.journal := by
  intro later
  have reached : Session.recordingSession.Reaches Request.leavesHandles Session.askedSession :=
    Session.reaches_askedSession ⟨rfl, rfl⟩ ⟨rfl, rfl⟩
  have passed : Session.askedSession.Passes Request.leavesHandles later :=
    .reached (.act (.request .runDue ⟨rfl, rfl⟩) (Code.within_plain _) .refl)
  have distinct : SlotsDistinct later.journal := by
    unfold SlotsDistinct
    decide
  have hcached : later.bridge.handles.get? "a" = some ⟨1⟩ := by decide
  exact ⟨hcached, (handles_fresh reached passed distinct).1 "a" ⟨1⟩ hcached⟩

end EditorShell
