import EditorShell.Proofs.Run.Turns
import EditorShell.Proofs.Run.Views
import EditorShell.Proofs.Widget.Mounting

/-!
# The supply of handles

A host that publishes handles leaves one for every request that it accepts.  If nothing is rejected
and no two widgets share a slot, the handle is still there when a job picks it up, so a widget whose
handle has been asked for has one after the next pass.  `Supplied` says so in the middle of runs as
well: whoever waits for the handle of a mounted widget waits behind the job that picks it up, unless
the handle is there (`Supplied.awaited`).

## Strategy

What is done to one widget is followed as a whole, from one session.  The index of the law are the
jobs that passes hold.  A rejected message and a widget of an unknown name leave their traces in the
journal, so the law asks for nothing in sessions that have seen one (`Undisturbed`).
-/

namespace EditorShell

variable {κ S : Type}

/-! ## What the journal tells -/

namespace Entry

/-- Whether a widget is mounted, by what the journal tells. -/
def mountedAfter (id : NodeId) : List (Entry κ) → Bool
  | [] => false
  | .sent (.mount node) true :: rest => node.id == id || mountedAfter id rest
  | .withdrawn other :: rest => other != id && mountedAfter id rest
  | _ :: rest => mountedAfter id rest

/-- The jobs that are to deliver the handle of a widget and were scheduled while it was mounted,
since its latest unmount. -/
def awaiting (id : NodeId) : List (Entry κ) → List TaskId
  | [] => []
  | .withdrawn other :: rest => if other = id then [] else awaiting id rest
  | .scheduled ⟨number, _, .deliverHandle other _⟩ :: rest =>
    if other = id ∧ mountedAfter id rest = true then number :: awaiting id rest
    else awaiting id rest
  | _ :: rest => awaiting id rest

/-- Whether an entry can change what is mounted or awaited. -/
def isSupply : Entry κ → Bool
  | .sent (.mount _) true | .withdrawn _ | .scheduled ⟨_, _, .deliverHandle _ _⟩ => true
  | _ => false

theorem mountedAfter_cons {entry : Entry κ} (hentry : entry.isSupply = false) (id : NodeId)
    (rest : List (Entry κ)) : mountedAfter id (entry :: rest) = mountedAfter id rest := by
  cases entry with
  | withdrawn other => cases hentry
  | sent message accepted =>
      cases message with
      | mount node => cases accepted <;> first | rfl | cases hentry
      | _ => rfl
  | _ => rfl

theorem awaiting_cons {entry : Entry κ} (hentry : entry.isSupply = false) (id : NodeId)
    (rest : List (Entry κ)) : awaiting id (entry :: rest) = awaiting id rest := by
  cases entry with
  | withdrawn other => cases hentry
  | scheduled task =>
      obtain ⟨number, deadline, job⟩ := task
      cases job <;> first | rfl | cases hentry
  | _ => rfl

/-- A widget stays mounted as long as it is not unmounted. -/
theorem mountedAfter_append {id : NodeId} {later earlier : List (Entry κ)}
    (hmounted : mountedAfter id earlier = true) (hlater : .withdrawn id ∉ later) :
    mountedAfter id (later ++ earlier) = true := by
  induction later with
  | nil => exact hmounted
  | cons entry rest ih =>
      have hrest := ih fun hmem => hlater (List.mem_cons_of_mem entry hmem)
      cases hentry : entry.isSupply with
      | false => exact (mountedAfter_cons hentry id _).trans hrest
      | true =>
          cases entry with
          | withdrawn other =>
              have hne : other ≠ id := fun heq => hlater (heq ▸ List.mem_cons_self)
              simp [mountedAfter, hne, hrest]
          | sent message accepted =>
              cases message with
              | mount node => cases accepted <;> simp [mountedAfter, hrest]
              | _ => exact hrest
          | _ => exact hrest

/-- Nobody awaits the handle of a widget that is not mounted. -/
theorem awaiting_eq_nil {id : NodeId} {journal : List (Entry κ)}
    (hmounted : mountedAfter id journal = false) : awaiting id journal = [] := by
  induction journal with
  | nil => rfl
  | cons entry rest ih =>
      cases hentry : entry.isSupply with
      | false =>
          rw [mountedAfter_cons hentry] at hmounted
          exact (awaiting_cons hentry id rest).trans (ih hmounted)
      | true =>
          cases entry with
          -- A withdrawal of the widget itself forgets the waiting jobs, one of another widget
          -- changes nothing.
          | withdrawn other =>
              rw [awaiting]
              split
              · rfl
              · rename_i hne
                refine ih ?_
                simpa [mountedAfter, hne] using hmounted
          | scheduled task =>
              obtain ⟨number, deadline, job⟩ := task
              have hrest : mountedAfter id rest = false := hmounted
              cases job with
              | deliverHandle other receiver =>
                  rw [awaiting, if_neg (by simp [hrest])]
                  exact ih hrest
              | _ => exact ih hrest
          | sent message accepted =>
              cases message with
              | mount node =>
                  cases accepted with
                  | true =>
                      rw [mountedAfter, Bool.or_eq_false_iff] at hmounted
                      exact ih hmounted.2
                  | false => exact ih hmounted
              | _ => exact ih hmounted
          | _ => exact ih hmounted

/-- A delivery stays awaited as long as the widget is not unmounted. -/
theorem mem_awaiting {id : NodeId} {number : TaskId} {deadline : Instant} {receiver : Receiver κ}
    {later earlier : List (Entry κ)} (hmounted : mountedAfter id earlier = true)
    (hlater : .withdrawn id ∉ later) :
    number ∈ awaiting id
      (later ++ .scheduled ⟨number, deadline, .deliverHandle id receiver⟩ :: earlier) := by
  induction later with
  | nil => simp [awaiting, hmounted]
  | cons entry rest ih =>
      have hrest := ih fun hmem => hlater (List.mem_cons_of_mem entry hmem)
      cases hentry : entry.isSupply with
      | false =>
          rw [List.cons_append, awaiting_cons hentry]
          exact hrest
      | true =>
          cases entry with
          -- Only a withdrawal of the widget could strike the job off, and there is none.
          | withdrawn other =>
              have hne : other ≠ id := fun heq => hlater (heq ▸ List.mem_cons_self)
              simpa [awaiting, hne] using hrest
          | scheduled task =>
              obtain ⟨number, deadline, job⟩ := task
              cases job with
              | deliverHandle other receiver =>
                  rw [List.cons_append, awaiting]
                  split
                  · exact List.mem_cons_of_mem _ hrest
                  · exact hrest
              | _ => exact hrest
          | _ => exact hrest

end Entry

/-- No message has been rejected, and only widgets of certain names have been declared. -/
structure Undisturbed (names : NodeId → Prop) (journal : List (Entry κ)) : Prop where
  accepted : ∀ message, .sent message false ∉ journal
  named : ∀ id node, .declared id node ∈ journal → names id

theorem Undisturbed.of_suffix {names : NodeId → Prop} {earlier later : List (Entry κ)}
    (undisturbed : Undisturbed names later) (hsuffix : earlier <:+ later) :
    Undisturbed names earlier where
  accepted message hmem := undisturbed.accepted message (hsuffix.subset hmem)
  named id node hmem := undisturbed.named id node (hsuffix.subset hmem)

theorem Undisturbed.cons {names : NodeId → Prop} {journal : List (Entry κ)} {entry : Entry κ}
    (undisturbed : Undisturbed names journal) (hsent : ∀ message, entry ≠ .sent message false)
    (hdeclared : ∀ id node, entry ≠ .declared id node) : Undisturbed names (entry :: journal) where
  accepted message hmem := by
    rcases List.mem_cons.1 hmem with heq | hmem
    · exact hsent message heq.symm
    · exact undisturbed.accepted message hmem
  named id node hmem := by
    rcases List.mem_cons.1 hmem with heq | hmem
    · exact absurd heq.symm (hdeclared id node)
    · exact undisturbed.named id node hmem

theorem Scheduler.mem_schedule_append {J : Type} {scheduler : Scheduler J} {deadline : Instant}
    {job : J} {held : List (Task J)} {task : Task J} :
    task ∈ (scheduler.schedule deadline job).2.queue ++ held ↔
      task = ⟨scheduler.nextId, deadline, job⟩ ∨ task ∈ scheduler.queue ++ held := by
  simp only [schedule, List.mem_append, List.mem_singleton]
  exact or_right_comm.trans or_comm

/-! ## What a recording host does -/

/-- A handle that is left in a slot replaces an older one at most. -/
theorem HandleSlots.isSome_publish (slots : HandleSlots) {id other : NodeId} {handle : WidgetHandle}
    (hfilled : (slots.peek? other).isSome = true) :
    ((slots.publish id handle).peek? other).isSome = true := by
  unfold peek? at hfilled ⊢
  rw [get?_publish]
  split
  · rfl
  · exact hfilled

/-- Once a recording host knows a widget it forgets it only by an unmount, and it empties no
slot. -/
structure Recording.Takes (recording : Recording) (slots : HandleSlots) (message : HostMessage)
    (taken : Except HostError Unit × Recording × HandleSlots) : Prop where
  publishes_eq : taken.2.1.publishes = recording.publishes
  live : ∀ id, recording.live.contains id = true →
    (∀ node, message = .unmount node → node.id ≠ id) → taken.2.1.live.contains id = true
  filled : ∀ id, (slots.peek? id).isSome = true → (taken.2.2.peek? id).isSome = true
  mounted : taken.1 = .ok () → ∀ node, message = .mount node →
    taken.2.1.live.contains node.id = true
  published : taken.1 = .ok () → recording.publishes = true → ∀ id, message = .requestHandle id →
    recording.live.contains id = true → (taken.2.2.peek? id).isSome = true

theorem Recording.takes_take (recording : Recording) (slots : HandleSlots) (message : HostMessage) :
    recording.Takes slots message (recording.take slots message) := by
  unfold take
  dsimp only
  split
  · exact ⟨rfl, fun _ hlive _ => hlive, fun _ hfilled => hfilled, fun hok => (by cases hok),
      fun hok => (by cases hok)⟩
  · cases message with
    | mount node =>
        refine ⟨rfl, fun id hlive _ => ?_, fun _ hfilled => hfilled, fun _ other hmount => ?_,
          fun _ _ id hrequest => by cases hrequest⟩
        · simp only [perform, Table.contains_insert, hlive, Bool.or_true]
        · obtain rfl := HostMessage.mount.inj hmount
          simp only [perform, Table.contains_insert, BEq.rfl, Bool.true_or]
    -- What is live stays so unless it is the unmounted widget itself.
    | unmount node =>
        refine ⟨rfl, fun id hlive hother => ?_, fun _ hfilled => hfilled,
          fun _ other hmount => (by cases hmount), fun _ _ id hrequest => by cases hrequest⟩
        have hne : id ≠ node.id := Ne.symm (hother node rfl)
        simp only [perform, Table.contains_erase, hlive, Bool.and_true, bne_iff_ne, ne_eq, hne,
          not_false_eq_true]
    | requestHandle id =>
        have hmount : ∀ other, HostMessage.requestHandle id ≠ .mount other := by simp
        simp only [perform]
        split
        · refine ⟨rfl, fun _ hlive _ => hlive, fun other hfilled => ?_,
            fun _ other hother => absurd hother (hmount other),
            fun _ hpublishes other hother _ => ?_⟩
          · split
            · exact slots.isSome_publish hfilled
            · exact hfilled
          · obtain rfl := HostMessage.requestHandle.inj hother
            rw [if_pos hpublishes, HandleSlots.peek?, HandleSlots.get?_publish, if_pos rfl]
            rfl
        · rename_i hdead
          refine ⟨rfl, fun _ hlive _ => hlive, fun _ hfilled => hfilled,
            fun _ other hother => absurd hother (hmount other), fun _ _ other hother hlive => ?_⟩
          obtain rfl := HostMessage.requestHandle.inj hother
          exact absurd hlive hdead
    | _ =>
        exact ⟨rfl, fun _ hlive _ => hlive, fun _ hfilled => hfilled,
          fun _ other hmount => (by cases hmount), fun _ _ id hrequest => by cases hrequest⟩

theorem Host.take_eq_of_recording {host : Host} (hkind : host.kind = .recording)
    (slots : HandleSlots) (message : HostMessage) : host.take slots message =
      ((host.recording.take slots message).1,
        { host with recording := (host.recording.take slots message).2.1 },
        (host.recording.take slots message).2.2) := by
  obtain ⟨kind, recording, wire⟩ := host
  obtain rfl : kind = .recording := hkind
  rfl

/-! ## The supply -/

/-- The host has a handle for every mounted widget that asks for one, and whoever waits for the
handle of a mounted widget waits behind the job that picks it up, if it has not been picked up. -/
structure Supplied (names : NodeId → Prop) (held : List (Task (Job κ))) (session : Session κ S) :
    Prop where
  kind_eq : session.host.kind = .recording
  publishes : session.host.recording.publishes = true
  live : ∀ id, session.bridge.isMounted id = true →
    session.host.recording.live.contains id = true
  named : ∀ id, session.bridge.isMounted id = true → names id
  told : ∀ id, session.bridge.isMounted id = Entry.mountedAfter id session.journal
  jobs_named : ∀ task ∈ session.scheduler.queue ++ held, ∀ id, task.job = .resolveHandle id →
    names id
  pending_mounted : ∀ id number, session.bridge.pending.get? id = some number →
    session.bridge.isMounted id = true
  pending_lt : ∀ id number, session.bridge.pending.get? id = some number →
    number < session.scheduler.nextId
  filled : ∀ id number, session.bridge.pending.get? id = some number →
    (session.slots.peek? id).isSome = true
  awaited : ∀ id, ∀ number ∈ Entry.awaiting id session.journal,
    session.bridge.handles.contains id = true ∨
      ∃ earlier, session.bridge.pending.get? id = some earlier ∧ earlier < number

namespace Supplied

variable {names : NodeId → Prop} {held : List (Task (Job κ))} {session later : Session κ S}

theorem fresh (sink : ChordSink) {host : Host} (hkind : host.kind = .recording)
    (hpublishes : host.recording.publishes = true) (app : S) :
    Supplied names [] (Session.fresh (κ := κ) sink host app) where
  kind_eq := hkind
  publishes := hpublishes
  live id hmounted := by cases hmounted
  named id hmounted := by cases hmounted
  told id := rfl
  jobs_named task hmem := by cases hmem
  pending_mounted id number hpending := by cases hpending
  pending_lt id number hpending := by cases hpending
  filled id number hpending := by cases hpending
  awaited id number hmem := by cases hmem

/-- The supply depends on the slots, the scheduler, the tables of mounted widgets, of handles and of
requests, on what the host knows, and on what the journal tells of mounts and deliveries. -/
theorem congr (supplied : Supplied names held session)
    (hmounted : ∀ id, later.bridge.isMounted id = session.bridge.isMounted id)
    (hhandles : later.bridge.handles = session.bridge.handles)
    (hpending : later.bridge.pending = session.bridge.pending)
    (hslots : later.slots = session.slots) (hhost : later.host = session.host)
    (hscheduler : later.scheduler = session.scheduler)
    (htold : ∀ id, Entry.mountedAfter id later.journal = Entry.mountedAfter id session.journal)
    (hawaiting : ∀ id, Entry.awaiting id later.journal = Entry.awaiting id session.journal) :
    Supplied names held later where
  kind_eq := by
    rw [hhost]
    exact supplied.kind_eq
  publishes := by
    rw [hhost]
    exact supplied.publishes
  live id := by
    rw [hhost, hmounted]
    exact supplied.live id
  named id := by
    rw [hmounted]
    exact supplied.named id
  told id := by
    rw [hmounted, htold]
    exact supplied.told id
  jobs_named := by
    rw [hscheduler]
    exact supplied.jobs_named
  pending_mounted id number := by
    rw [hpending, hmounted]
    exact supplied.pending_mounted id number
  pending_lt := by
    rw [hpending, hscheduler]
    exact supplied.pending_lt
  filled := by
    rw [hpending, hslots]
    exact supplied.filled
  awaited id := by
    rw [hawaiting, hhandles, hpending]
    exact supplied.awaited id

theorem noting (supplied : Supplied names held session) {entry : Entry κ}
    (hentry : entry.isSupply = false) : Supplied names held (session.noting entry) :=
  supplied.congr (fun _ => rfl) rfl rfl rfl rfl rfl (fun id => Entry.mountedAfter_cons hentry id _)
    fun id => Entry.awaiting_cons hentry id _

theorem append (supplied : Supplied names held session) {noted : List (Entry κ)}
    (hnoted : ∀ entry ∈ noted, Entry.isSupply entry = false) :
    Supplied names held { session with journal := noted ++ session.journal } := by
  induction noted with
  | nil => exact supplied
  | cons entry rest ih =>
      have hrest := ih fun other hmem => hnoted other (List.mem_cons_of_mem entry hmem)
      exact hrest.noting (hnoted entry List.mem_cons_self)

/-! ### Jobs -/

/-- Jobs are dropped or cancelled. -/
theorem withScheduler (supplied : Supplied names held session) {scheduler : Scheduler (Job κ)}
    {rest : List (Task (Job κ))}
    (hwaiting : ∀ task ∈ scheduler.queue ++ rest, task ∈ session.scheduler.queue ++ held)
    (hnext : scheduler.nextId = session.scheduler.nextId) :
    Supplied names rest { session with scheduler := scheduler } :=
  { supplied with
    jobs_named := fun task hmem => supplied.jobs_named task (hwaiting task hmem)
    pending_lt := fun id number hpending => by
      have hlt := supplied.pending_lt id number hpending
      rwa [← hnext] at hlt }

/-- A held job is no longer held. -/
theorem leaving {task : Task (Job κ)} (supplied : Supplied names (task :: held) session) :
    Supplied names held session := by
  refine supplied.withScheduler (fun other hmem => ?_) rfl
  exact ((List.sublist_cons_self task held).append_left session.scheduler.queue).subset hmem

theorem cancelling (supplied : Supplied names held session) (id : TaskId)
    (reason : CancellationReason) :
    Supplied names held { session with scheduler := session.scheduler.cancel id reason } := by
  refine supplied.withScheduler ?_ (Scheduler.nextId_cancel _ _ _)
  rw [Scheduler.queue_cancel]
  exact fun task hmem => hmem

/-- A job is scheduled that picks up no handle and delivers none. -/
theorem scheduling (supplied : Supplied names held session) (deadline : Instant) {job : Job κ}
    (hjob : job.isOfProgram = true) : Supplied names held { session with
      scheduler := (session.scheduler.schedule deadline job).2
      journal := .scheduled ⟨session.scheduler.nextId, deadline, job⟩ :: session.journal } := by
  have hentry : (Entry.scheduled ⟨session.scheduler.nextId, deadline, job⟩).isSupply = false := by
    cases job <;> first | rfl | cases hjob
  have hnoted := supplied.noting hentry
  refine { hnoted with jobs_named := ?_, pending_lt := ?_ }
  · intro task hmem id htask
    rw [Scheduler.mem_schedule_append] at hmem
    rcases hmem with rfl | hmem
    · obtain rfl : job = .resolveHandle id := htask
      cases hjob
    · exact supplied.jobs_named task hmem id htask
  · exact fun id number hpending => Nat.lt_succ_of_lt (supplied.pending_lt id number hpending)

/-- A delivery is scheduled for a widget that has a handle or waits for one, or is not mounted. -/
theorem delivering (supplied : Supplied names held session) (id : NodeId) (receiver : Receiver κ)
    (hready : session.bridge.isMounted id = true → session.bridge.handles.contains id = true ∨
      ∃ number, session.bridge.pending.get? id = some number) :
    Supplied names held { session with
      scheduler := (session.scheduler.schedule .start (.deliverHandle id receiver)).2
      journal := .scheduled ⟨session.scheduler.nextId, .start, .deliverHandle id receiver⟩ ::
        session.journal } := by
  refine { supplied with jobs_named := ?_, pending_lt := ?_, awaited := ?_ }
  · intro task hmem other htask
    rw [Scheduler.mem_schedule_append] at hmem
    rcases hmem with rfl | hmem
    · cases htask
    · exact supplied.jobs_named task hmem other htask
  · exact fun id number hpending => Nat.lt_succ_of_lt (supplied.pending_lt id number hpending)
  · intro other number hmem
    rw [Entry.awaiting] at hmem
    split at hmem
    · rename_i hmounted
      obtain ⟨rfl, hmounted⟩ := hmounted
      rcases List.mem_cons.1 hmem with rfl | hmem
      · rw [← supplied.told] at hmounted
        refine (hready hmounted).imp_right ?_
        rintro ⟨earlier, hpending⟩
        exact ⟨earlier, hpending, supplied.pending_lt id earlier hpending⟩
      · exact supplied.awaited id number hmem
    · exact supplied.awaited other number hmem

/-! ### Messages -/

/-- The host acts on a message, which must not be the unmount of a mounted widget. -/
theorem taking (supplied : Supplied names held session) {message : HostMessage}
    (hunmount : ∀ node, message = .unmount node → session.bridge.isMounted node.id = false) :
    Supplied names held { session with
      host := (session.host.take session.slots message).2.1
      slots := (session.host.take session.slots message).2.2
      journal := Session.publicationEntry session.host message ++ session.journal } := by
  have takes := session.host.recording.takes_take session.slots message
  have hquiet : ∀ entry ∈ (Session.publicationEntry session.host message : List (Entry κ)),
      Entry.isSupply entry = false := by
    intro entry hentry
    unfold Session.publicationEntry at hentry
    split at hentry
    · obtain rfl := List.mem_singleton.1 hentry
      rfl
    · cases hentry
  -- The host records by itself, so what it does is told by its recording alone.
  rw [Host.take_eq_of_recording supplied.kind_eq]
  have hnoted := supplied.append hquiet
  refine { hnoted with kind_eq := supplied.kind_eq, publishes := ?_, live := ?_, filled := ?_ }
  · exact takes.publishes_eq.trans supplied.publishes
  · intro id hmounted
    refine takes.live id (supplied.live id hmounted) ?_
    rintro node hnode rfl
    have hunmounted : session.bridge.isMounted node.id = true := hmounted
    rw [hunmount node hnode] at hunmounted
    cases hunmounted
  · exact fun id number hpending => takes.filled id (supplied.filled id number hpending)

/-- A message was answered, and it was not an accepted mount. -/
theorem concluding (supplied : Supplied names held session) {message : HostMessage}
    {accepted : Bool} (hsent : (Entry.sent (κ := κ) message accepted).isSupply = false) :
    Supplied names held { session with
      bridge := session.bridge.countAnswer accepted
      journal := .sent message accepted :: session.journal } := by
  refine supplied.congr (fun id => ?_) ?_ ?_ rfl rfl rfl
    (fun id => Entry.mountedAfter_cons hsent id _) fun id => Entry.awaiting_cons hsent id _
  · rw [Bridge.countAnswer_eq]
    rfl
  · rw [Bridge.countAnswer_eq]
  · rw [Bridge.countAnswer_eq]

/-! ### Widgets -/

/-- A mount was accepted. -/
theorem mounting (supplied : Supplied names held session) {node : HostNode} {id : NodeId}
    (hnode : node.id = id) (hid : names id)
    (hlive : session.host.recording.live.contains id = true) (kind : WidgetKind)
    (placement : Placement) (handlers : Interaction → Option (Handler κ)) :
    Supplied names held { session with
      bridge := (session.bridge.countAnswer true).recordMount id kind placement handlers
      journal := .sent (.mount node) true :: session.journal } := by
  have hmounted : ∀ other,
      ((session.bridge.countAnswer true).recordMount id kind placement handlers).isMounted other =
        (other == id || session.bridge.isMounted other) := fun other =>
    Bridge.isMounted_recordMount _ _ _ _ _ _
  refine { supplied with live := ?_, named := ?_, told := ?_, pending_mounted := ?_ }
  · intro other hother
    rw [hmounted, Bool.or_eq_true, beq_iff_eq] at hother
    rcases hother with rfl | hother
    · exact hlive
    · exact supplied.live other hother
  · intro other hother
    rw [hmounted, Bool.or_eq_true, beq_iff_eq] at hother
    rcases hother with rfl | hother
    · exact hid
    · exact supplied.named other hother
  · intro other
    rw [hmounted, supplied.told, Entry.mountedAfter, hnode, Bool.beq_comm]
  · intro other number hpending
    rw [hmounted, supplied.pending_mounted other number hpending, Bool.or_true]

/-- A request for the handle of a widget was accepted, and a job is to pick the handle up. -/
theorem requesting (supplied : Supplied names held session) {id : NodeId}
    (hmounted : session.bridge.isMounted id = true)
    (hhandles : session.bridge.handles.contains id = false)
    (hpending : session.bridge.pending.get? id = none)
    (hfilled : (session.slots.peek? id).isSome = true) :
    Supplied names held { session with
      scheduler := (session.scheduler.schedule .start (.resolveHandle id)).2
      bridge :=
        { session.bridge with
          pending := session.bridge.pending.insert id session.scheduler.nextId }
      journal := .scheduled ⟨session.scheduler.nextId, .start, .resolveHandle id⟩ ::
        session.journal } := by
  have hget : ∀ other, (session.bridge.pending.insert id session.scheduler.nextId).get? other =
      if other = id then some session.scheduler.nextId else session.bridge.pending.get? other :=
    fun other => Table.get?_insert _ _ _ _
  refine { supplied with
    jobs_named := ?_, pending_mounted := ?_, pending_lt := ?_, filled := ?_, awaited := ?_ }
  · intro task hmem other htask
    rw [Scheduler.mem_schedule_append] at hmem
    rcases hmem with rfl | hmem
    · obtain rfl := Job.resolveHandle.inj htask
      exact supplied.named id hmounted
    · exact supplied.jobs_named task hmem other htask
  · intro other number hother
    rw [hget] at hother
    split at hother
    · rename_i heq
      rw [heq]
      exact hmounted
    · exact supplied.pending_mounted other number hother
  · intro other number hother
    rw [hget] at hother
    split at hother
    · obtain rfl := Option.some.inj hother
      exact Nat.lt_succ_self _
    · exact Nat.lt_succ_of_lt (supplied.pending_lt other number hother)
  · intro other number hother
    rw [hget] at hother
    split at hother
    · rename_i heq
      rw [heq]
      exact hfilled
    · exact supplied.filled other number hother
  · intro other number hmem
    have hbefore := supplied.awaited other number hmem
    rw [hget]
    split
    · -- Nobody has waited for this handle yet.
      rename_i heq
      rw [heq, hhandles, hpending] at hbefore
      rcases hbefore with hcontains | ⟨earlier, hearlier, -⟩
      · cases hcontains
      · cases hearlier
    · exact hbefore

section

variable (apart : ∀ id id', names id → names id' → slotName id = slotName id' → id = id')

include apart

/-- Emptying the slot of one widget empties no other one's. -/
theorem peek?_discard {id other : NodeId} (hid : names id) (hother : names other)
    (hne : other ≠ id) (slots : HandleSlots) :
    (slots.discard id).peek? other = slots.peek? other := by
  unfold HandleSlots.peek?
  rw [HandleSlots.get?_discard, if_neg]
  exact fun hname => hne (apart other id hother hid hname)

/-- A slot is emptied for whose widget no handle is under way. -/
theorem discarding (supplied : Supplied names held session) {id : NodeId} (hid : names id)
    (hpending : session.bridge.pending.get? id = none) :
    Supplied names held { session with slots := session.slots.discard id } := by
  refine { supplied with filled := fun other number hother => ?_ }
  have hne : other ≠ id := by
    rintro rfl
    rw [hpending] at hother
    cases hother
  have hnamed := supplied.named other (supplied.pending_mounted other number hother)
  rw [peek?_discard apart hid hnamed hne]
  exact supplied.filled other number hother

/-- A job picks up a handle. -/
theorem resolving (supplied : Supplied names held session) {id : NodeId} (hid : names id) :
    Supplied names held { session with
      slots := session.slots.discard id
      bridge := session.bridge.settle id (session.slots.peek? id) } := by
  have hmounted : ∀ other, (session.bridge.settle id (session.slots.peek? id)).isMounted other =
      session.bridge.isMounted other := fun other => Bridge.isMounted_congr (by simp)
  have hpending : ∀ {other number},
      (session.bridge.settle id (session.slots.peek? id)).pending.get? other = some number ↔
        other ≠ id ∧ session.bridge.pending.get? other = some number := by
    intro other number
    rw [Bridge.pending_settle, Table.get?_erase]
    split <;> simp_all
  refine { supplied with
    live := ?_, named := ?_, told := ?_, pending_mounted := ?_, pending_lt := ?_, filled := ?_
    awaited := ?_ }
  · intro other hother
    rw [hmounted] at hother
    exact supplied.live other hother
  · intro other hother
    rw [hmounted] at hother
    exact supplied.named other hother
  · intro other
    rw [hmounted]
    exact supplied.told other
  · intro other number hother
    rw [hmounted]
    exact supplied.pending_mounted other number (hpending.1 hother).2
  · exact fun other number hother => supplied.pending_lt other number (hpending.1 hother).2
  · intro other number hother
    obtain ⟨hne, hother⟩ := hpending.1 hother
    have hnamed := supplied.named other (supplied.pending_mounted other number hother)
    rw [peek?_discard apart hid hnamed hne]
    exact supplied.filled other number hother
  · intro other number hmem
    have hbefore := supplied.awaited other number hmem
    by_cases hother : other = id
    · -- The handle is there now, or it was.
      subst hother
      left
      unfold Table.contains
      rw [Bridge.get?_handles_settle]
      split
      · rename_i hpublished
        exact hpublished.2.1
      · rename_i hunpublished
        rcases hbefore with hcontains | ⟨earlier, hearlier, -⟩
        · exact hcontains
        · exact absurd ⟨rfl, supplied.filled other earlier hearlier,
            supplied.pending_mounted other earlier hearlier⟩ hunpublished
    · refine hbefore.imp (fun hcontains => ?_) fun ⟨earlier, hearlier, hlt⟩ => ?_
      · unfold Table.contains
        rw [Bridge.get?_handles_settle, if_neg fun h => hother h.1]
        exact hcontains
      · exact ⟨earlier, hpending.2 ⟨hother, hearlier⟩, hlt⟩

omit apart in
/-- What the journal tells when a widget is forgotten. -/
theorem journal_withdrawing (supplied : Supplied names held session) (id : NodeId) :
    (∀ other, Entry.mountedAfter other (session.withdrawing id).journal =
        (other != id && Entry.mountedAfter other session.journal)) ∧
      ∀ other, Entry.awaiting other (session.withdrawing id).journal =
        if other = id then [] else Entry.awaiting other session.journal := by
  cases hmounted : session.bridge.isMounted id with
  | true =>
      have hjournal : (session.withdrawing id).journal = .withdrawn id :: session.journal :=
        if_pos hmounted
      rw [hjournal]
      refine ⟨fun other => ?_, fun other => ?_⟩
      · rw [Entry.mountedAfter, bne_comm]
      · rw [Entry.awaiting]
        simp only [eq_comm]
  | false =>
      have hjournal : (session.withdrawing id).journal = session.journal :=
        if_neg (by simp [hmounted])
      -- Nothing is noted of a widget that is not mounted, and nobody waits for its handle either.
      have htold : Entry.mountedAfter id session.journal = false := by
        rw [← supplied.told, hmounted]
      rw [hjournal]
      refine ⟨fun other => ?_, fun other => ?_⟩
      · by_cases hother : other = id
        · simp [hother, htold]
        · simp [hother]
      · split
        · rename_i hother
          rw [hother]
          exact Entry.awaiting_eq_nil htold
        · rfl

/-- A widget is forgotten. -/
theorem withdrawing (supplied : Supplied names held session) {id : NodeId} (hid : names id) :
    Supplied names held (session.withdrawing id) := by
  have hmounted : ∀ other, (session.withdrawing id).bridge.isMounted other =
      (other != id && session.bridge.isMounted other) :=
    fun other => Bridge.isMounted_evict _ _ _
  have hpending : ∀ {other number},
      (session.withdrawing id).bridge.pending.get? other = some number →
        other ≠ id ∧ session.bridge.pending.get? other = some number := by
    intro other number hother
    have hget : (session.withdrawing id).bridge.pending.get? other =
        if other = id then none else session.bridge.pending.get? other := Table.get?_erase _ _ _
    rw [hget] at hother
    split at hother
    · cases hother
    · rename_i hne
      exact ⟨hne, hother⟩
  have hscheduler : (session.withdrawing id).scheduler.queue = session.scheduler.queue ∧
      (session.withdrawing id).scheduler.nextId = session.scheduler.nextId := by
    unfold Session.withdrawing
    dsimp only
    split
    · exact ⟨Scheduler.queue_cancel _ _ _, Scheduler.nextId_cancel _ _ _⟩
    · exact ⟨rfl, rfl⟩
  obtain ⟨htold, hawaiting⟩ := supplied.journal_withdrawing id
  refine ⟨supplied.kind_eq, supplied.publishes, ?_, ?_, ?_, ?_, ?_, ?_, ?_, ?_⟩
  · intro other hother
    rw [hmounted, Bool.and_eq_true] at hother
    exact supplied.live other hother.2
  · intro other hother
    rw [hmounted, Bool.and_eq_true] at hother
    exact supplied.named other hother.2
  · intro other
    rw [hmounted, htold, supplied.told]
  · rw [hscheduler.1]
    exact supplied.jobs_named
  · intro other number hother
    obtain ⟨hne, hother⟩ := hpending hother
    rw [hmounted, supplied.pending_mounted other number hother, Bool.and_true, bne_iff_ne]
    exact hne
  · intro other number hother
    rw [hscheduler.2]
    exact supplied.pending_lt other number (hpending hother).2
  · intro other number hother
    obtain ⟨hne, hother⟩ := hpending hother
    have hnamed := supplied.named other (supplied.pending_mounted other number hother)
    have hslots : (session.withdrawing id).slots = session.slots.discard id := rfl
    -- Another widget has another slot, so the slot that is emptied is not the one awaited.
    rw [hslots, peek?_discard apart hid hnamed hne]
    exact supplied.filled other number hother
  · intro other number hmem
    rw [hawaiting] at hmem
    split at hmem
    · cases hmem
    · rename_i hne
      have hhandles : (session.withdrawing id).bridge.handles.get? other =
          session.bridge.handles.get? other := (Table.get?_erase _ _ _).trans (if_neg hne)
      have hrequests : (session.withdrawing id).bridge.pending.get? other =
          session.bridge.pending.get? other := (Table.get?_erase _ _ _).trans (if_neg hne)
      unfold Table.contains
      rw [hhandles, hrequests]
      exact supplied.awaited other number hmem

end

end Supplied

end EditorShell
