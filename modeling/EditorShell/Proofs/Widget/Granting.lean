import EditorShell.Proofs.Widget.Asking

/-!
# A handle is granted once

From the mount of a widget to its unmount the host accepts at most one request for its handle from
updates and renders, whether or not it ever publishes the handle (`handles_asked_once`).  A request
that was rejected is made again by the next update, and a widget that is mounted anew is asked for
again.

## Strategy

Three tables decide whether an update asks: the handles, the requests under way, and the ids that
have been asked for.  Only the third one is counted on.  `Settled` says that it tells how many
updates have been granted the handle since the last unmount, which is one or none.  The journal may
grow, as an answer that has been found stays the first one.  Mounts, updates and unmounts are gone
through one by one; nothing else concerns the widget (`covers`).
-/

namespace EditorShell

variable {κ S α β : Type}

namespace Granting

variable {id : NodeId} {told moments : List (Moment κ S)} {session later : Session κ S}

/-- What an update of a widget has asked for has been answered, and the bridge remembers whether one
of the updates since the last unmount was granted the handle. -/
structure Settled (id : NodeId) (told : List (Moment κ S)) (session : Session κ S) : Prop where
  attended : ∀ moment ∈ told, moment.asks id = true →
    moment.session.journal <:+ session.journal ∧
      ∃ accepted, moment.answer? id session = some accepted
  grants_eq : grants id told session = if session.bridge.requested.contains id then 1 else 0
  isMounted : session.bridge.requested.contains id = true → session.bridge.isMounted id = true

/-- A mounted widget is about to be updated or unmounted. -/
def concerns (id : NodeId) (moment : Moment κ S) : Bool :=
  moment.updates id || moment.withdraws id

/-- Everything is settled, now and wherever the widget was updated or unmounted before. -/
structure Balanced (id : NodeId) (told : List (Moment κ S)) (session : Session κ S) : Prop where
  now : Settled id told session
  before : ∀ earlier moment after, told = earlier ++ moment :: after →
    concerns id moment = true → Settled id earlier moment.session

/-! ## Counting -/

theorem rtakeWhile_append_of_forall {ι : Type} {p : ι → Bool} (first : List ι) {second : List ι}
    (hsecond : ∀ x ∈ second, p x = true) :
    (first ++ second).rtakeWhile p = first.rtakeWhile p ++ second := by
  induction second using List.reverseRecOn with
  | nil => simp
  | append_singleton rest last ih =>
      rw [← List.append_assoc, List.rtakeWhile_concat_pos _ _ _ (hsecond last (by simp)),
        ih fun x hmem => hsecond x (by simp [hmem]), List.append_assoc]

theorem grants_append (hkept : ∀ moment ∈ moments, moment.withdraws id = false) :
    grants id (told ++ moments) later =
      grants id told later + moments.countP (Moment.granted id later) := by
  unfold grants
  rw [rtakeWhile_append_of_forall told fun moment hmem => by simp [hkept moment hmem],
    List.countP_append]

/-- Nothing is granted any more once the widget has been unmounted. -/
theorem grants_withdrawn {moment : Moment κ S} (hwithdraws : moment.withdraws id = true) :
    grants id (told ++ [moment]) later = 0 := by
  unfold grants
  rw [List.rtakeWhile_concat_neg _ _ _ (by simp [hwithdraws])]
  rfl

theorem Settled.grants_later (settled : Settled id told session)
    (hgrown : session.journal <:+ later.journal) :
    grants id told later = grants id told session := by
  refine List.countP_congr fun moment hmem => ?_
  have hmem : moment ∈ told := List.rtakeWhile_suffix _ _ |>.subset hmem
  cases hasks : moment.asks id with
  | false => simp [Moment.granted, hasks]
  | true =>
      obtain ⟨hsuffix, accepted, hanswer⟩ := settled.attended moment hmem hasks
      rw [Session.granted_eq_of_suffix hsuffix hgrown hanswer]

/-! ## Going on -/

/-- Some more happens, and the widget is not unmounted. -/
theorem Settled.append (settled : Settled id told session)
    (attends : session.Attends id moments later)
    (hkept : ∀ moment ∈ moments, moment.withdraws id = false)
    (hcount : (if session.bridge.requested.contains id then 1 else 0) +
      moments.countP (Moment.granted id later) =
        if later.bridge.requested.contains id then 1 else 0)
    (hmounted : later.bridge.requested.contains id = true → later.bridge.isMounted id = true) :
    Settled id (told ++ moments) later where
  attended moment hmem hasks := by
    rcases List.mem_append.1 hmem with hmem | hmem
    · obtain ⟨hsuffix, accepted, hanswer⟩ := settled.attended moment hmem hasks
      exact ⟨hsuffix.trans attends.grown, accepted,
        Moment.answer?_eq_of_suffix hsuffix attends.grown hanswer⟩
    · exact (attends.during moment hmem hasks).2
  grants_eq := by
    rw [grants_append hkept, settled.grants_later attends.grown, settled.grants_eq, hcount]
  isMounted := hmounted

/-- Nothing happens that concerns the widget. -/
theorem Settled.aside (settled : Settled id told session)
    (hgrown : session.journal <:+ later.journal)
    (hrequested : later.bridge.requested.contains id = session.bridge.requested.contains id)
    (hmounted : session.bridge.isMounted id = true → later.bridge.isMounted id = true)
    (hquiet : ∀ moment ∈ moments, concerns id moment = false) :
    Settled id (told ++ moments) later := by
  have hasks : ∀ moment ∈ moments, moment.asks id = false := by
    intro moment hmem
    unfold Moment.asks
    rw [(Bool.or_eq_false_iff.1 (hquiet moment hmem)).1, Bool.false_and]
  refine settled.append ⟨hgrown, fun moment hmem htrue => ?_⟩ (fun moment hmem => ?_) ?_ ?_
  · rw [hasks moment hmem] at htrue
    cases htrue
  · exact (Bool.or_eq_false_iff.1 (hquiet moment hmem)).2
  · have hnone : moments.countP (Moment.granted id later) = 0 :=
      List.countP_eq_zero.2 fun moment hmem => by simp [Moment.granted, hasks moment hmem]
    rw [hnone, hrequested, Nat.add_zero]
  · rw [hrequested]
    exact fun hasked => hmounted (settled.isMounted hasked)

theorem Balanced.append (balanced : Balanced id told session)
    (settled : Settled id (told ++ moments) later)
    (hbefore : ∀ earlier moment after, moments = earlier ++ moment :: after →
      concerns id moment = true → Settled id (told ++ earlier) moment.session) :
    Balanced id (told ++ moments) later where
  now := settled
  before earlier moment after hsplit hconcerns := by
    rcases List.append_eq_append_iff.1 hsplit with ⟨middle, rfl, hmoments⟩ | ⟨middle, htold, hsplit⟩
    · exact hbefore middle moment after hmoments hconcerns
    · cases middle with
      | nil =>
          have hfirst := hbefore [] moment after hsplit.symm hconcerns
          rw [List.append_nil] at htold hfirst
          rwa [← htold]
      | cons other rest =>
          obtain ⟨rfl, rfl⟩ := List.cons.inj hsplit
          exact balanced.before earlier moment rest htold hconcerns

theorem concerns_eq_false {moment : Moment κ S} (hentry : moment.entry.isPlacing = false) :
    concerns id moment = false := by
  obtain ⟨hupdates, hwithdraws⟩ := Session.places_eq_false hentry id
  rw [concerns, hupdates, hwithdraws]
  rfl

/-- Nothing happens that concerns the widget. -/
theorem Balanced.aside (balanced : Balanced id told session)
    (hgrown : session.journal <:+ later.journal)
    (hrequested : later.bridge.requested.contains id = session.bridge.requested.contains id)
    (hmounted : session.bridge.isMounted id = true → later.bridge.isMounted id = true)
    (hquiet : ∀ moment ∈ moments, concerns id moment = false) :
    Balanced id (told ++ moments) later := by
  refine balanced.append (balanced.now.aside hgrown hrequested hmounted hquiet) ?_
  rintro earlier moment after rfl hconcerns
  rw [hquiet moment (by simp)] at hconcerns
  cases hconcerns

theorem law (id : NodeId) : HistoryLaw (κ := κ) (S := S)
    (fun session => (session.bridge.requested.contains id, session.bridge.isMounted id))
    Entry.isPlacing (Balanced id) where
  congr {told session later} hview hgrown balanced := by
    obtain ⟨hrequested, hmounted⟩ := Prod.mk.inj hview
    rw [← List.append_nil told]
    exact balanced.aside hgrown hrequested (fun h => hmounted.trans h) (by simp)
  moment hentry balanced := by
    refine balanced.aside List.suffix_rfl rfl (fun h => h) fun moment hmem => ?_
    obtain rfl := List.mem_singleton.1 hmem
    exact concerns_eq_false hentry

theorem sees (id : NodeId) : (Telling (κ := κ) (S := S) (Balanced id)).Sees
    (fun session => (session.bridge.requested.contains id, session.bridge.isMounted id))
    Entry.isPlacing := (law id).sees fun _ _ => rfl

/-! ## Single widgets -/

theorem tells_mount (id other : NodeId) (node : Node (Handler κ)) (placement : Placement) :
    (Session.mount other node placement : Act κ S Bool).Tells (Balanced id) := by
  intro caller apart tells told session balanced
  obtain ⟨hmoments, sent, rests, hafter⟩ :=
    Session.exists_rests_mount apart other node placement session
  have hgrown := (rests.hears id).grown
  have hquiet : ∀ moment ∈ (Session.mount other node placement).moments caller session,
      concerns id moment = false := by
    intro moment hmem
    obtain ⟨hupdates, hwithdraws⟩ := hmoments moment hmem id
    rw [concerns, hupdates, hwithdraws]
    rfl
  have hmounted : sent.bridge.isMounted id = session.bridge.isMounted id := by
    unfold Bridge.isMounted
    rw [rests.mounted_eq]
  -- Mounting asks for nothing, so whether the mount was recorded makes no difference to the
  -- requests.
  rcases hafter with hafter | hafter
  · rw [hafter]
    exact balanced.aside hgrown (by rw [rests.requested_eq]) (fun h => hmounted.trans h) hquiet
  · rw [hafter]
    refine balanced.aside hgrown ?_ (fun h => ?_) hquiet
    · exact congrArg (fun table : Table Unit => table.contains id) rests.requested_eq
    · rw [Bridge.isMounted_recordMount, hmounted, h, Bool.or_true]

/-- Only the first of these moments concerns the widget. -/
theorem settled_of_first (settled : Settled id told session) {entry : Entry κ}
    {rest earlier after : List (Moment κ S)} {moment : Moment κ S}
    (hquiet : ∀ moment ∈ rest, concerns id moment = false)
    (hsplit : ⟨entry, session⟩ :: rest = earlier ++ moment :: after)
    (hconcerns : concerns id moment = true) : Settled id (told ++ earlier) moment.session := by
  cases earlier with
  | nil =>
      obtain ⟨rfl, -⟩ := List.cons.inj hsplit
      rw [List.append_nil]
      exact settled
  | cons first between =>
      obtain ⟨-, rfl⟩ := List.cons.inj hsplit
      rw [hquiet moment (by simp)] at hconcerns
      cases hconcerns

theorem isMounted_of_asks {moment : Moment κ S} (hasks : moment.asks id = true) :
    moment.session.bridge.isMounted id = true := by
  unfold Moment.asks Moment.updates at hasks
  split at hasks
  · simp only [Bool.and_eq_true] at hasks
    exact hasks.1.2
  · cases hasks

theorem asks_not_requested {moment : Moment κ S} (hasks : moment.asks id = true) :
    moment.session.bridge.requested.contains id = false := by
  simp only [Moment.asks, Bridge.wantsHandle, Bool.and_eq_true, Bool.not_eq_true'] at hasks
  exact hasks.2.2

theorem tells_updateInPlace (id other : NodeId) (node : Node (Handler κ)) :
    (Session.updateInPlace other node : Act κ S Bool).Tells (Balanced id) := by
  intro caller apart tells told session balanced
  have haccounts := Session.accounts_updateInPlace apart id other node session
  obtain ⟨accepted, rest, hmoments, hrest, hinquires⟩ :=
    Session.exists_updateInPlace apart other node session
  obtain ⟨hmounted, hrequested, hears⟩ := hinquires id
  rw [hmoments] at haccounts ⊢
  have hquiet : ∀ moment ∈ rest, concerns id moment = false := fun moment hmem =>
    concerns_eq_false (hrest moment hmem)
  have hgranted : Moment.granted id ((Session.updateInPlace other node).run caller session).2
      (⟨.declared other node, session⟩ : Moment κ S) =
        (Moment.asks id (⟨.declared other node, session⟩ : Moment κ S) && accepted) := by
    cases hasks : Moment.asks id (⟨.declared other node, session⟩ : Moment κ S) with
    | false => simp [Moment.granted, hasks]
    | true =>
        rw [hasks] at hears
        simp [Moment.granted, Moment.answer?, hasks, hears.answers_eq]
  have hcount : rest.countP (Moment.granted id
      ((Session.updateInPlace other node).run caller session).2) = 0 :=
    List.countP_eq_zero.2 fun moment hmem => by
      simp [Moment.granted, Session.asks_eq_false_of_isPlacing (hrest moment hmem)]
  refine balanced.append (balanced.now.append haccounts.toAttends ?_ ?_ ?_) ?_
  · intro moment hmem
    rcases List.mem_cons.1 hmem with rfl | hmem
    · rfl
    · exact (Session.places_eq_false (hrest moment hmem) id).2
  · -- A handle that is asked for has not been asked for before.
    rw [List.countP_cons, hcount, hgranted, hrequested]
    cases hasks : Moment.asks id (⟨.declared other node, session⟩ : Moment κ S) with
    | false => rfl
    | true =>
        have hnew := asks_not_requested hasks
        rw [hnew]
        cases accepted <;> rfl
  · rw [hmounted, hrequested, Bool.or_eq_true]
    rintro (hasked | hasked)
    · exact isMounted_of_asks (Bool.and_eq_true_iff.1 hasked).1
    · exact balanced.now.isMounted hasked
  · exact fun earlier moment after hsplit hconcerns =>
      settled_of_first balanced.now hquiet hsplit hconcerns

/-- An unmount settles whatever was granted. -/
theorem Settled.withdrawn (settled : Settled id told session) {moment : Moment κ S}
    (hwithdraws : moment.withdraws id = true) (hgrown : session.journal <:+ later.journal)
    (hforgotten : later.bridge.requested.contains id = false) :
    Settled id (told ++ [moment]) later where
  attended asked hmem hasks := by
    rcases List.mem_append.1 hmem with hmem | hmem
    · obtain ⟨hsuffix, accepted, hanswer⟩ := settled.attended asked hmem hasks
      exact ⟨hsuffix.trans hgrown, accepted,
        Moment.answer?_eq_of_suffix hsuffix hgrown hanswer⟩
    · -- A withdrawal is no question, so nothing has to be said of its answer.
      obtain rfl := List.mem_singleton.1 hmem
      unfold Moment.withdraws at hwithdraws
      unfold Moment.asks Moment.updates at hasks
      cases hentry : asked.entry <;> simp_all
  grants_eq := by
    rw [grants_withdrawn hwithdraws, hforgotten]
    rfl
  isMounted hasked := by
    rw [hforgotten] at hasked
    cases hasked

theorem tells_unmount (id other : NodeId) :
    (Session.unmount other : Act κ S Bool).Tells (Balanced id) := by
  intro caller apart tells told session balanced
  obtain ⟨hmounted, hrequested, hears⟩ := Session.forgets_unmount apart other session
  have hgrown := (hears id).grown
  have hmoments := Session.exists_moments_unmount apart other session
  by_cases hid : id = other
  · subst hid
    have hforgotten := (hrequested id).trans (by simp : (id != id && _) = false)
    cases hpresent : session.bridge.isMounted id with
    | false =>
        rw [hpresent, if_neg Bool.false_ne_true] at hmoments
        -- What is not mounted has not been asked for, so there is nothing to forget.
        have hnever : session.bridge.requested.contains id = false := by
          rw [← Bool.not_eq_true]
          intro hasked
          rw [balanced.now.isMounted hasked] at hpresent
          cases hpresent
        rw [hmoments]
        exact balanced.aside hgrown (hforgotten.trans hnever.symm)
          (fun h => by rw [hpresent] at h; cases h) (by simp)
    | true =>
        rw [hpresent, if_pos rfl] at hmoments
        obtain ⟨rest, hmoments, hrest⟩ := hmoments
        have hwithdrawn := balanced.now.withdrawn
          (show Moment.withdraws id (⟨.withdrawn id, session⟩ : Moment κ S) = true by
            simp [Moment.withdraws]) hgrown hforgotten
        have hquiet : ∀ moment ∈ rest, concerns id moment = false := fun moment hmem =>
          concerns_eq_false (hrest moment hmem)
        rw [hmoments]
        refine balanced.append ?_ fun earlier moment after hsplit hconcerns => ?_
        · have hend := hwithdrawn.aside List.suffix_rfl rfl (fun h => h) hquiet
          rwa [List.append_assoc] at hend
        · exact settled_of_first balanced.now hquiet hsplit hconcerns
  · have hne : (id != other) = true := by simpa using hid
    refine balanced.aside hgrown (by rw [hrequested, hne, Bool.true_and])
      (fun h => by rw [hmounted, hne, h]; rfl) fun moment hmem => ?_
    split at hmoments
    · obtain ⟨rest, hmoments, hrest⟩ := hmoments
      rw [hmoments] at hmem
      rcases List.mem_cons.1 hmem with rfl | hmem
      · simp [concerns, Moment.updates, Moment.withdraws, Ne.symm hid]
      · exact concerns_eq_false (hrest moment hmem)
    · rw [hmoments] at hmem
      cases hmem

/-! ## Everything else -/

/-- An act leaves alone what decides whether a handle is asked for. -/
theorem tells_aside {id : NodeId} {act : Act κ S α}
    (hrun : ∀ caller : Caller κ S, caller.HostApart → ∀ session,
      session.journal <:+ (act.run caller session).2.journal ∧
        (act.run caller session).2.bridge.requested = session.bridge.requested ∧
        (act.run caller session).2.bridge.mounted = session.bridge.mounted)
    (hmoments : ∀ caller : Caller κ S, caller.HostApart → ∀ session,
      ∀ moment ∈ act.moments caller session, moment.entry.isPlacing = false) :
    act.Tells (Balanced id) := by
  intro caller apart tells told session balanced
  obtain ⟨hgrown, hrequested, hmounted⟩ := hrun caller apart session
  refine balanced.aside hgrown (by rw [hrequested]) (fun h => ?_) fun moment hmem =>
    concerns_eq_false (hmoments caller apart session moment hmem)
  unfold Bridge.isMounted
  rw [hmounted]
  exact h

theorem tells_callHost (id : NodeId) (message : HostMessage) :
    (Session.callHost message : Act κ S Bool).Tells (Balanced id) := by
  refine tells_aside (fun caller apart session => ?_) fun caller apart session moment hmem =>
    Session.isPlacing_of_callHost apart hmem
  have hbridge := Session.bridge_callHost apart message session
  rw [Bridge.countAnswer_eq] at hbridge
  rw [hbridge]
  exact ⟨(Session.answers_callHost apart id message session).grown, rfl, rfl⟩

theorem tells_requestHandle (id other : NodeId) :
    (Session.requestHandle other : Act κ S Bool).Tells (Balanced id) := by
  refine tells_aside (fun caller apart session => ?_) fun caller apart session moment hmem => ?_
  · obtain ⟨pending, stats, hbridge⟩ := Session.bridge_requestHandle apart other session
    rw [hbridge]
    exact ⟨(Session.answers_requestHandle apart other id session).grown, rfl, rfl⟩
  · rw [Session.moments_requestHandle] at hmem
    exact Session.isPlacing_of_callHost apart hmem

theorem tells_sendDirectly (id : NodeId) (message : HostMessage) :
    (Session.sendDirectly message : Act κ S _).Tells (Balanced id) := by
  refine tells_aside (fun caller apart session => ?_) fun caller apart session moment hmem => ?_
  · obtain ⟨hbridge, noted, hjournal, -⟩ := Session.idle_sendDirectly apart message session
    rw [hbridge]
    exact ⟨⟨noted, hjournal.symm⟩, rfl, rfl⟩
  · obtain ⟨-, hentry | ⟨outcome, hentry⟩⟩ :=
      Session.moments_sendDirectly apart message session moment hmem
    · rw [hentry]
      rfl
    · rw [hentry]
      rfl

variable {allowed : Request κ → Prop}

/-- What is done to one job, one debouncer or one widget, but for turns and unmounts. -/
theorem singles (id : NodeId) : (Telling (κ := κ) (S := S) (Balanced id)).Singles allowed := by
  have sees := sees (κ := κ) (S := S) id
  have changeSlots : ∀ f, (Session.changeSlots (κ := κ) (S := S) f).MadeOf
      (Telling (Balanced id)) := fun f => sees.aside (fun _ => rfl) fun _ => rfl
  have updateInPlace : ∀ other node, (Session.updateInPlace (S := S) other node).MadeOf
      (Telling (κ := κ) (Balanced id)) :=
    fun other node => .part (tells_updateInPlace id other node)
  constructor
  case toJobs => exact sees.jobs (fun _ _ => rfl) fun _ _ _ _ => rfl
  case publish => exact fun _ _ _ => changeSlots _
  case takeHandle =>
    exact fun other _ => .bind (.read _) fun handle? => .bind (changeSlots _) fun _ => .pure handle?
  case resolveHandle =>
    intro other receiver
    refine .bind (.read _) fun bridge => .bind (.when (.bind ?_ fun _ => .pure ())) fun _ => ?_
    · exact .part (tells_requestHandle id other)
    · refine .bind (.bind (.read _) fun task => .bind (sees.change _ fun session => ?_) fun _ =>
        .pure task) fun _ => .pure ()
      exact ⟨rfl, [_], rfl, by simp [Entry.isRecord, Entry.isPlacing]⟩
  case invoke =>
    refine fun other command => .bind (.read _) fun handle? => ?_
    cases handle? with
    | none => exact .pure false
    | some handle => exact .part (tells_callHost id _)
  case mount => exact fun other node placement => .part (tells_mount id other node placement)
  case updateInPlace => exact updateInPlace
  case updateAt =>
    -- Moving a widget changes where it is, and not whether it is mounted.
    refine fun other node placement => .bind (sees.aside (fun _ => ?_) fun _ => rfl) fun _ =>
      updateInPlace other node
    exact Prod.ext rfl (Bridge.isMounted_place _ _ _ _)
  case countHandlerFailure => exact sees.aside (fun _ => rfl) fun _ => rfl
  case direct =>
    intro request hdirect _
    cases request with
    | sendDirectly message => exact .part (tells_sendDirectly id message)
    | failOp | recoverOp | clearRecording | setWireFault =>
        exact sees.aside (fun _ => rfl) fun _ => rfl
    | _ => cases hdirect

theorem runDue (id : NodeId) :
    (Session.runDue : Act κ S Nat).MadeOf (Telling (Balanced id)) := by
  have sees := sees (κ := κ) (S := S) id
  have singles : (Telling (κ := κ) (S := S) (Balanced id)).Singles fun _ => True := singles id
  have turns : (Telling (κ := κ) (S := S) (Balanced id)).Turns := by
    refine ⟨singles.markStarted, fun call _ => sees.call call ⟨rfl, fun _ => rfl⟩, fun other => ?_⟩
    refine .bind (.bind (.read _) fun handle? => .bind (sees.aside (fun _ => rfl) fun _ => rfl)
      fun _ => .pure handle?) fun published? => sees.aside (fun session => ?_) fun _ => rfl
    refine Prod.ext ?_ ?_
    · exact congrArg (fun table : Table Unit => table.contains id)
        (Bridge.requested_settle session.bridge other published?)
    · exact Bridge.isMounted_congr (by rw [Bridge.mounted_settle])
  refine turns.runDue (fun entry hpass => ?_)
    (Act.Class.takeBatch_of_change fun f => sees.aside (fun _ => rfl) fun _ => rfl)
  cases entry <;> first | exact sees.note _ rfl rfl | cases hpass

/-- Everything keeps the requests of updates settled. -/
theorem covers (id : NodeId) : (Telling (κ := κ) (S := S) (Balanced id)).Covers allowed := by
  have hidden : ∀ call : Call κ, call.Hidden Entry.isPlacing := fun _ => ⟨rfl, fun _ => rfl⟩
  have sees := sees (κ := κ) (S := S) id
  have ordinary : (Telling (κ := κ) (S := S) (Balanced id)).Ordinary :=
    sees.ordinary fun _ _ _ _ _ => hidden _
  have core : (Telling (κ := κ) (S := S) (Balanced id)).Core allowed :=
    .of_unmount ordinary (singles id) (runDue id) fun other => .part (tells_unmount id other)
  have panels := sees.panels ordinary rfl fun _ _ => rfl
  exact sees.covers ordinary (fun entry hpress => by cases entry <;> first | rfl | cases hpress)
    (fun _ _ => hidden _) (fun _ _ _ _ _ _ _ => rfl)
    (sees.events (fun _ _ _ => ⟨rfl, fun _ => rfl⟩)
      (fun entry hevent => by cases entry <;> first | rfl | cases hevent) fun _ _ => rfl) panels
      core
    (sees.shell panels core (fun entry hdisplay => by cases entry <;> first | rfl | cases hdisplay)
      fun _ _ _ => rfl)

/-- Nothing has been asked for in a fresh session. -/
theorem balanced_fresh (id : NodeId) (sink : ChordSink) (host : Host) (app : S) :
    Balanced (κ := κ) id [] (Session.fresh sink host app) where
  now := ⟨by simp, rfl, fun hasked => by cases hasked⟩
  before earlier moment after hsplit := by simp at hsplit

theorem balanced_of_story {sink : ChordSink} {host : Host} {app : S}
    (story : (Session.fresh sink host app).Story allowed told session) (id : NodeId) :
    Balanced id told session :=
  story.upholds (covers id)
    (fun _ balanced => (law id).congr (by rfl) (by exact List.suffix_rfl) balanced)
    (balanced_fresh id sink host app)

/-! ## What follows -/

/-- How a run asks for the handle of a widget when it updates it. -/
structure AsksOnce (id : NodeId) (told : List (Moment κ S)) (last : Session κ S) : Prop where
  /-- Whatever an update has asked for has been answered. -/
  answered : ∀ moment ∈ told, moment.asks id = true →
    ∃ accepted, moment.answer? id last = some accepted
  /-- Since the widget was unmounted last, at most one request has been accepted. -/
  once : grants id told last ≤ 1
  /-- So it was whenever the widget was updated, and when it was unmounted. -/
  once_before : ∀ earlier moment after, told = earlier ++ moment :: after →
    concerns id moment = true → grants id earlier moment.session ≤ 1
  /-- An update asks until a request has been accepted, unless there is no need to. -/
  asks_iff : ∀ earlier moment after, told = earlier ++ moment :: after → moment.updates id = true →
    (moment.asks id = true ↔ moment.session.bridge.handles.get? id = none ∧
      moment.session.bridge.pending.get? id = none ∧ grants id earlier moment.session = 0)
  /-- After a rejection the next update asks again. -/
  again : ∀ earlier older between newer after,
    told = earlier ++ older :: between ++ newer :: after → older.asks id = true →
      older.answer? id newer.session = some false →
      (∀ moment ∈ between, concerns id moment = false) → newer.updates id = true →
        (newer.asks id = true ↔ newer.session.bridge.handles.get? id = none ∧
          newer.session.bridge.pending.get? id = none)
  /-- After an unmount the count starts over. -/
  afresh : ∀ earlier moment after, told = earlier ++ moment :: after →
    moment.withdraws id = true → (∀ moment ∈ after, moment.withdraws id = false) →
      grants id told last = after.countP (Moment.granted id last)

theorem Settled.grants_le_one (settled : Settled id told session) : grants id told session ≤ 1 := by
  rw [settled.grants_eq]
  split <;> omega

theorem Settled.asks_iff {moment : Moment κ S} (settled : Settled id told moment.session)
    (hupdates : moment.updates id = true) :
    moment.asks id = true ↔ moment.session.bridge.handles.get? id = none ∧
      moment.session.bridge.pending.get? id = none ∧ grants id told moment.session = 0 := by
  rw [settled.grants_eq, Moment.asks, hupdates, Bool.true_and, Bridge.wantsHandle,
    ← Table.contains_eq_false_iff, ← Table.contains_eq_false_iff]
  cases moment.session.bridge.requested.contains id <;> simp

/-- A request that was rejected leaves the count at nothing. -/
theorem Balanced.grants_eq_zero (balanced : Balanced id told session)
    {earlier between after : List (Moment κ S)} {older newer : Moment κ S}
    (hsplit : told = earlier ++ older :: between ++ newer :: after)
    (hasks : older.asks id = true) (hrejected : older.answer? id newer.session = some false)
    (hquiet : ∀ moment ∈ between, concerns id moment = false) (hnewer : newer.updates id = true) :
    grants id (earlier ++ older :: between) newer.session = 0 := by
  have hupdates : older.updates id = true := (Bool.and_eq_true_iff.1 hasks).1
  have hwithdraws : older.withdraws id = false := by
    unfold Moment.updates at hupdates
    unfold Moment.withdraws
    split at hupdates
    · simp_all
    · cases hupdates
  have hthen : Settled id earlier older.session :=
    balanced.before earlier older (between ++ newer :: after) (by simp [hsplit])
      (by simp [concerns, hupdates])
  have hnow : Settled id (earlier ++ older :: between) newer.session :=
    balanced.before _ newer after hsplit (by simp [concerns, hnewer])
  have hgrown : older.session.journal <:+ newer.session.journal :=
    (hnow.attended older (by simp) hasks).1
  -- The older question was refused and nobody has asked since, so nothing was granted after it.
  have hnone : (older :: between).countP (Moment.granted id newer.session) = 0 := by
    refine List.countP_eq_zero.2 fun moment hmem => ?_
    rcases List.mem_cons.1 hmem with rfl | hmem
    · simp [Moment.granted, hrejected]
    · have hquiet := (Bool.or_eq_false_iff.1 (hquiet moment hmem)).1
      simp [Moment.granted, Moment.asks, hquiet]
  rw [grants_append, hthen.grants_later hgrown, hthen.grants_eq, asks_not_requested hasks, hnone]
  · rfl
  · intro moment hmem
    rcases List.mem_cons.1 hmem with rfl | hmem
    · exact hwithdraws
    · exact (Bool.or_eq_false_iff.1 (hquiet moment hmem)).2

theorem Balanced.asksOnce (balanced : Balanced id told session) : AsksOnce id told session where
  answered moment hmem hasks := (balanced.now.attended moment hmem hasks).2
  once := balanced.now.grants_le_one
  once_before earlier moment after hsplit hconcerns :=
    (balanced.before earlier moment after hsplit hconcerns).grants_le_one
  asks_iff earlier moment after hsplit hupdates :=
    (balanced.before earlier moment after hsplit (by simp [concerns, hupdates])).asks_iff hupdates
  again earlier older between newer after hsplit hasks hrejected hquiet hnewer := by
    have hsettled : Settled id (earlier ++ older :: between) newer.session :=
      balanced.before _ newer after hsplit (by simp [concerns, hnewer])
    rw [hsettled.asks_iff hnewer, balanced.grants_eq_zero hsplit hasks hrejected hquiet hnewer]
    simp
  afresh earlier moment after hsplit hwithdraws hkept := by
    rw [hsplit, List.append_cons, grants_append hkept, grants_withdrawn hwithdraws, Nat.zero_add]

end Granting

open Granting

/-- In every run, whatever the host answers and whether or not it ever publishes a handle: updates
and renders ask for the handle of a widget until one request has been accepted, and then not again
until the widget has been unmounted and mounted anew. -/
theorem handles_asked_once {sink : ChordSink} {host : Host} {app : S} {told : List (Moment κ S)}
    {last : Session κ S}
    (story : (Session.fresh sink host app).Story (fun _ => True) told last) (id : NodeId) :
    AsksOnce id told last ∧
      ∀ caller : Caller κ S, caller.HostApart → ∀ session : Session κ S,
        (∀ other node, session.Accounts id
          ((Session.updateInPlace other node : Act κ S Bool).moments caller session)
          ((Session.updateInPlace other node).run caller session).2) ∧
        ∀ root, session.Accounts id
          ((Session.render root : Act κ S RenderReport).moments caller session)
          ((Session.render root).run caller session).2 :=
  ⟨(balanced_of_story story id).asksOnce, fun _ apart session =>
    ⟨fun other node => Session.accounts_updateInPlace apart id other node session,
      fun root => Session.accounts_render apart id root session⟩⟩

/-- A widget that is mounted and updated three times; the host refuses its first request. -/
def Granting.retried : List (Moment Empty Unit) × Session Empty Unit :=
  Code.plain.tell 1
    [.mount "a" (Node.ofKind .view) .root, .failOp .requestHandle,
      .update "a" (Node.ofKind .view), .recoverOp .requestHandle,
      .update "a" (Node.ofKind .view), .update "a" (Node.ofKind .view)]
    ([], Session.recordingSession)

theorem handles_asked_once_retried :
    Session.recordingSession.Story (fun _ => True) retried.1 retried.2 ∧
      retried.1.countP (Moment.updates "a") = 3 ∧ retried.1.countP (Moment.asks "a") = 2 ∧
      grants "a" retried.1 retried.2 = 1 ∧ AsksOnce "a" retried.1 retried.2 := by
  have story : Session.recordingSession.Story (fun _ => True) retried.1 retried.2 :=
    Code.story_tell (Code.within_plain _) 1 (fun _ _ => trivial) .nil
  exact ⟨story, by decide +kernel, by decide +kernel, by decide +kernel,
    (handles_asked_once story "a").1⟩

end EditorShell
