import EditorShell.Proofs.Run.Operations
import EditorShell.Proofs.Run.Stepwise
import EditorShell.Proofs.Widget.Mounting

/-!
# The operations of the bridge in steps

The second half of `Stepwise.governs`: the operations that send messages to the host.  What they do
after an answer rests on what they saw before the message, and that is still so, since the bridge
stays as it was while the host runs.
-/

namespace EditorShell

variable {κ S α : Type}

namespace Stepwise

variable {allowed : Request κ → Prop} {walking : Prop} {P : Assertion κ} {Q : Moment κ S → Prop}
  (steps : Stepwise allowed walking P Q)

include steps

/-! ## Slots and the host -/

theorem discard (id : NodeId) :
    (Session.changeSlots fun slots => slots.discard id : Act κ S Unit).Keeps P Q := by
  refine .change fun hP => ?_
  exact steps.step (.discard id) hP

theorem takeHandle (id : NodeId) :
    (Session.takeHandle id : Act κ S (Option WidgetHandle)).Keeps P Q := by
  refine .bind (.read _) fun handle? => ?_
  exact .bind (steps.discard id) fun _ => .pure handle?

theorem changeRecording {f : Recording → Recording}
    (hlive : ∀ recording, (f recording).live = recording.live)
    (hpublishes : ∀ recording, (f recording).publishes = recording.publishes)
    (hlast : ∀ recording, (f recording).lastHandle = recording.lastHandle) :
    (Session.changeRecording f : Act κ S Unit).Keeps P Q := by
  refine .change fun {_ session} hP => steps.step (.adjust ?_) hP
  exact ⟨rfl, hlive session.host.recording, hpublishes session.host.recording,
    hlast session.host.recording⟩

theorem setWireFault (fault? : Option WireFault) :
    (Session.setWireFault fault? : Act κ S Unit).Keeps P Q := by
  refine .change fun hP => steps.step (.adjust ?_) hP
  exact ⟨rfl, rfl, rfl, rfl⟩

theorem sendDirectly {message : HostMessage} (permitted : allowed (.sendDirectly message)) :
    (Session.sendDirectly (κ := κ) (S := S) message).Keeps P Q := by
  refine .bind (steps.call fun _ => steps.walks _ permitted rfl) fun outcome => ?_
  split
  · refine .bind (.bind (.read _) fun answer => ?_) fun answer => .pure _
    refine .bind (.change fun hP => ?_) fun _ => .pure answer
    exact steps.step (.act permitted) hP
  · exact .pure _
  · exact .pure _

/-- A message that the bridge sends without recording anything when it is accepted. -/
theorem callHost {message : HostMessage} (plain : message.isRecorded = false) :
    (Session.callHost message : Act κ S Bool).Keeps P Q := by
  intro caller apart keeps waiting session hP
  have hmount : (Entry.called (κ := κ) (.host message)).callsMount = true → walking := by
    cases message <;> simp_all [Entry.callsMount, HostMessage.isRecorded]
  obtain ⟨⟨core, stats, hcore, -, hanswered⟩, hmoments⟩ :=
    steps.exists_answered hmount apart keeps hP
  exact ⟨steps.step (.answer hanswered fun _ => plain) hcore, hmoments⟩

/-! ## Handles -/

theorem leads_requestHandle {caller : Caller κ S} (apart : caller.HostApart)
    (keeps : caller.Keeps P Q) {waiting : List (Task (Job κ))} {session : Session κ S}
    (hP : P waiting session.core) {id : NodeId} (mounted : session.bridge.isMounted id = true)
    (unresolved : session.bridge.handles.get? id = none)
    (idle : session.bridge.pending.get? id = none) :
    (Session.requestHandle id : Act κ S Bool).Leads P Q caller waiting session := by
  refine steps.leads_callHost_bind (by simp [Entry.callsMount]) apart keeps hP ?_
  intro core stats accepted session' hcore hbridge hanswered
  cases accepted with
  | false => exact .pure (steps.step (.answer hanswered (by simp)) hcore)
  | true =>
      -- The request that would be superseded is looked up after the answer, and there is none.
      have hpending : session'.bridge.pending.get? id = none := by
        have hsame : session'.bridge = { session.bridge with stats := stats } :=
          hanswered.bridge_eq.trans hbridge
        rw [hsame]
        exact idle
      rw [if_pos rfl]
      refine .bind_run (fun moment hmoment => by cases hmoment) (.read_bind (.change_bind ?_))
      have hrequested := steps.step (.request (by rw [hbridge]; exact mounted)
        (by rw [hbridge]; exact unresolved) (by rw [hbridge]; exact idle) hanswered) hcore
      change (Session.cancelTask? (session'.bridge.pending.get? id) .superseded >>= fun _ =>
        pure true).Leads P Q caller waiting _
      rw [hpending]
      exact .pure hrequested

theorem leads_askOnce {caller : Caller κ S} (apart : caller.HostApart)
    (keeps : caller.Keeps P Q) {waiting : List (Task (Job κ))} {session : Session κ S}
    (hP : P waiting session.core) {id : NodeId} (mounted : session.bridge.isMounted id = true) :
    (Session.askOnce id : Act κ S Unit).Leads P Q caller waiting session := by
  refine .read_bind ?_
  cases hwanted : session.bridge.wantsHandle id with
  | false => exact .pure hP
  | true =>
      simp only [Bridge.wantsHandle, Bool.and_eq_true, Bool.not_eq_true',
        Table.contains_eq_false_iff] at hwanted
      obtain ⟨⟨unresolved, idle⟩, -⟩ := hwanted
      obtain ⟨hasked, hmoments⟩ :=
        steps.leads_requestHandle apart keeps hP mounted unresolved idle
      refine .bind_run hmoments ?_
      have hmounted := (Session.leavesMounted_requestHandle apart id).run session
      generalize (Session.requestHandle id).run caller session = requested at hasked hmounted ⊢
      obtain ⟨asked, session'⟩ := requested
      cases asked with
      | false => exact .pure hasked
      | true =>
          have mounted' : session'.core.bridge.isMounted id = true :=
            (hmounted.isMounted_eq id).trans mounted
          exact .change (steps.step (.asked mounted') hasked)

theorem resolveHandle (id : NodeId) (receiver : Receiver κ) :
    (Session.resolveHandle (S := S) id receiver).Keeps P Q := by
  intro caller apart keeps waiting session hP
  refine .read_bind ?_
  have hask : (Act.when (session.bridge.isMounted id && !session.bridge.handles.contains id &&
      !session.bridge.pending.contains id) (do
        let _ ← Session.requestHandle id)).Leads P Q caller waiting session := by
    cases hcondition : session.bridge.isMounted id && !session.bridge.handles.contains id &&
        !session.bridge.pending.contains id with
    | false => exact .pure hP
    | true =>
        simp only [Bool.and_eq_true, Bool.not_eq_true', Table.contains_eq_false_iff] at hcondition
        obtain ⟨⟨mounted, unresolved⟩, idle⟩ := hcondition
        obtain ⟨hrequested, hmoments⟩ :=
          steps.leads_requestHandle apart keeps hP mounted unresolved idle
        exact .bind_run hmoments (.pure hrequested)
  have hdeliver : (Session.scheduleNext (.deliverHandle id receiver) : Act κ S TaskId).Keeps P Q :=
    steps.scheduleNext rfl
  refine .bind_run hask.2 ?_
  exact hdeliver.bind (fun _ => .pure ()) caller apart keeps waiting _ hask.1

theorem invoke (id : NodeId) (command : WidgetCommand) :
    (Session.invoke id command : Act κ S Bool).Keeps P Q := by
  refine .bind (.read _) fun handle? => ?_
  cases handle? with
  | none => exact .pure false
  | some handle => exact steps.callHost rfl

/-! ## Widgets -/

theorem updateInPlace (id : NodeId) (node : Node (Handler κ)) :
    (Session.updateInPlace id node : Act κ S Bool).Keeps P Q := by
  intro caller apart keeps waiting session hP
  have hnoted : P waiting (session.noting (.declared id node)).core := steps.step (.note rfl) hP
  have hmoment : Q ⟨.declared id node, session⟩ :=
    steps.moment hP (by rintro other ⟨⟩) (by simp [Entry.callsMount])
  refine .read_bind (.note_bind hmoment ?_)
  refine steps.leads_callHost_bind (by simp [Entry.callsMount]) apart keeps hnoted ?_
  intro core stats accepted session' hcore hbridge hanswered
  have hsent : P waiting session'.core := steps.step (.answer hanswered fun _ => rfl) hcore
  cases hmounted : ((session.bridge.mounted.get? id).map MountRecord.placement).isSome with
  | false => exact .pure hsent
  | true =>
      -- Whether the widget is mounted was read before the call, and the host has no hand in it.
      have mounted : session'.bridge.isMounted id = true := by
        rw [show session'.bridge = core.bridge from hanswered.bridge_eq, hbridge]
        rwa [Option.isSome_map] at hmounted
      have hrest : (do
          Act.when accepted (Session.changeBridge fun bridge =>
            { bridge with handlers := bridge.handlers.insert id node.handlers })
          Session.askOnce id : Act κ S Unit).Leads P Q caller waiting session' := by
        cases accepted with
        | false => exact steps.leads_askOnce apart keeps hsent mounted
        | true =>
            refine .change_bind ?_
            have hbound := steps.step (.handlers mounted node.handlers) hsent
            exact steps.leads_askOnce apart keeps hbound mounted
      exact .bind_run hrest.2 (.pure hrest.1)

theorem unmount (id : NodeId) : (Session.unmount id : Act κ S Bool).Keeps P Q := by
  intro caller apart keeps waiting session hP
  have hwithdrawn : P waiting (session.withdrawing id).core := steps.step (.withdraw id) hP
  unfold Act.Meets
  rw [Session.run_unmount, Session.moments_unmount]
  cases session.bridge.mounted.get? id with
  | none => exact ⟨hwithdrawn, fun moment hmoment => by cases hmoment⟩
  | some record =>
      have hcall : (Session.callHost (Session.unmountMessage id record) : Act κ S Bool).Keeps P Q :=
        steps.callHost rfl
      obtain ⟨hsent, hmoments⟩ := hcall caller apart keeps waiting _ hwithdrawn
      refine ⟨hsent, fun moment hmoment => ?_⟩
      rcases List.mem_cons.1 hmoment with rfl | hmoment
      · exact steps.moment hP (by rintro other ⟨⟩) (by simp [Entry.callsMount])
      · exact hmoments moment hmoment

theorem unmountAll (ids : List NodeId) : (Session.unmountAll ids : Act κ S Unit).Keeps P Q := by
  induction ids with
  | nil => exact .pure ()
  | cons id rest ih => exact .bind (steps.unmount id) fun _ => ih

theorem unmountSubtree (id : NodeId) :
    (Session.unmountSubtree id : Act κ S (List NodeId)).Keeps P Q := by
  refine .bind (.read _) fun doomed => ?_
  exact .bind (steps.unmountAll doomed) fun _ => .pure doomed

theorem dispatchEvent (event : UiEvent) :
    (Session.dispatchEvent event : Act κ S Bool).Keeps P Q := by
  refine .bind (.read _) fun bridge => .ite (.pure false) ?_
  split
  · exact .pure true
  · refine .bind (steps.call (by simp [Entry.callsMount])) fun outcome => ?_
    split
    · exact .pure true
    · refine .bind (.change fun {_ session} hP => steps.step ?_ hP) fun _ => .pure true
      exact .count session.bridge.countHandlerFailure.stats session.hostBusy

/-! ## All of it -/

/-- A request that reaches the core keeps what all steps keep, if renders and direct mounts do. -/
theorem request (hrender : ∀ root, (Session.render (S := S) root).Keeps P Q)
    (hmount : ∀ id node placement, allowed (.mount id node placement) →
      (Session.mount (S := S) id node placement).Keeps P Q) (request : Request κ)
    (hcore : request.isCore = true) (permitted : allowed request) :
    (request.perform (S := S)).Keeps P Q := by
  cases request <;> try cases hcore
  case scheduleAt deadline task => exact steps.scheduleAt deadline rfl
  case scheduleAfter delay task => exact steps.scheduleAfter delay rfl
  case scheduleNext task => exact steps.scheduleNext rfl
  case cancelTask id reason => exact .change fun hP => steps.step (.cancel permitted) hP
  case clearTasks => exact .change fun hP => steps.step (.clear permitted) hP
  case runDue => exact steps.runDue
  case newDebouncer delay => exact steps.newDebouncer delay
  case debounce id task => exact steps.debounce id _
  case cancelDebounced id => exact steps.cancelDebounced id
  case dropDebouncer id => exact steps.dropDebouncer id
  case publish id handle => exact .change fun hP => steps.step (.publish permitted) hP
  case takeHandle id => exact steps.takeHandle id
  case mount id node placement => exact hmount id node placement permitted
  case update id node => exact steps.updateInPlace id node
  case unmount id => exact steps.unmount id
  case unmountSubtree id => exact steps.unmountSubtree id
  case render root => exact hrender root
  case resolveHandle id receiver => exact steps.resolveHandle id _
  case invoke id command => exact steps.invoke id command
  case dispatchEvent event => exact steps.dispatchEvent event
  case sendDirectly message => exact steps.sendDirectly permitted
  case failOp op =>
    exact steps.changeRecording (f := (Recording.fail · op)) (fun _ => rfl) (fun _ => rfl)
      fun _ => rfl
  case recoverOp op =>
    exact steps.changeRecording (f := (Recording.recover · op)) (fun _ => rfl) (fun _ => rfl)
      fun _ => rfl
  case clearRecording =>
    exact steps.changeRecording (fun _ => rfl) (fun _ => rfl) fun _ => rfl
  case setWireFault fault? => exact steps.setWireFault fault?

/-- If renders and direct mounts keep what all steps keep, it is a law.  The rest of a session, its
events, commands, keys, panels and extensions, reaches the core only through callbacks. -/
theorem governs (hrender : ∀ root, (Session.render (S := S) root).Keeps P Q)
    (hmount : ∀ id node placement, allowed (.mount id node placement) →
      (Session.mount (S := S) id node placement).Keeps P Q) :
    Governs allowed (fun _ => True)
      (fun waiting (session : Session κ S) => P waiting session.core) fun _ => Q := by
  have calling : ∀ call : Call κ, call.isHost = false → (Act.call (S := S) call).MadeOf
      (Upholding (fun waiting session => P waiting session.core) fun _ => Q) :=
    fun call own => .part (steps.callOwn own)
  have note : ∀ {entry : Entry κ}, entry.isPlain = true → (Act.note (S := S) entry).MadeOf
      (Upholding (fun waiting session => P waiting session.core) fun _ => Q) :=
    fun plain => .part (steps.notePlain plain)
  have aside : ∀ {f : Session κ S → Session κ S}, (∀ session, (f session).core = session.core) →
      (Act.change f).MadeOf
        (Upholding (fun waiting session => P waiting session.core) fun _ => Q) :=
    fun hf => .part (Act.Keeps.aside hf)
  -- Calls and changes beside the core are steps that do nothing, so only the core is left.
  have ordinary : (Upholding (fun waiting (session : Session κ S) => P waiting session.core)
      fun _ => Q).Ordinary :=
    ⟨⟨fun call hcall _ _ _ _ => calling call hcall⟩, fun _ _ => calling _ rfl⟩
  have commands := Act.Class.Commands.of_change ordinary.toActing
    (fun _ hpress => note (Entry.isPlain_of_isPress hpress)) (fun _ => aside fun _ => rfl)
    fun _ => aside fun _ => rfl
  have panels := Act.Class.Panels.of_change ordinary.toActing (note rfl)
    fun _ => aside fun _ => rfl
  have core : (Upholding (fun waiting (session : Session κ S) => P waiting session.core)
      fun _ => Q).Core allowed := by
    refine ⟨⟨?_, ?_, ?_, ?_, ?_, ?_, ?_⟩, ?_⟩
    · exact fun request hcore permitted =>
        .part (steps.request hrender hmount request hcore permitted)
    · exact .part steps.runDue
    · exact fun id receiver => .part (steps.resolveHandle id receiver)
    · exact fun id command => .part (steps.invoke id command)
    · exact fun delay => .part (steps.newDebouncer delay)
    · exact fun id body => .part (steps.debounce id body)
    · exact fun id => .part (steps.dropDebouncer id)
    · exact fun root => .part (hrender root)
  refine ⟨?_, fun _ hP => hP, fun {_ call session} _ own hQ => ?_⟩
  · apply Act.Class.Covers.of_core panels core
    · exact ⟨fun _ => aside fun _ => rfl, fun _ => aside fun _ => rfl, fun _ => aside fun _ => rfl⟩
    · exact .of_change (fun _ _ _ => calling _ rfl)
        (fun _ hevent => note (Entry.isPlain_of_isEvent hevent)) fun _ => aside fun _ => rfl
    · exact commands
    · refine .of_change commands.toRegistering (fun _ => aside fun _ => rfl) fun call hcall => ?_
      refine calling call ?_
      cases call <;> first | rfl | cases hcall
    · exact .of_change panels core
        (fun _ hdisplay => note (Entry.isPlain_of_isDisplay hdisplay)) fun _ _ => aside fun _ => rfl
  · obtain ⟨waiting, hP⟩ := steps.callback own hQ
    exact ⟨waiting, trivial, steps.step (.note rfl) hP⟩

/-! ## Walks -/

theorem mount (walks : walking) (id : NodeId) (node : Node (Handler κ)) (placement : Placement) :
    (Session.mount id node placement : Act κ S Bool).Keeps P Q := by
  intro caller apart keeps waiting session hP
  refine .read_bind ?_
  by_cases hmounted : session.bridge.isMounted id = true
  · rw [if_pos hmounted]
    exact .pure hP
  · rw [if_neg hmounted]
    have hdiscarded := steps.step (.discard id) hP
    have hnoted := steps.step (.note (rfl : (Entry.declared id node).isIdle = true)) hdiscarded
    refine .change_bind (.note_bind
      (steps.moment hdiscarded (by rintro other ⟨⟩) (by simp [Entry.callsMount])) ?_)
    refine steps.leads_callHost_bind (fun _ => walks) apart keeps hnoted ?_
    intro core stats accepted session' hcore hbridge hanswered
    cases accepted with
    | false => exact .pure (steps.step (.answer hanswered (by simp)) hcore)
    | true =>
        have absent : core.bridge.isMounted id = false := by
          rw [hbridge]
          exact Bool.eq_false_iff.2 hmounted
        exact .change_bind (.pure (steps.step (.mount walks absent hanswered) hcore))

theorem updateAt (walks : walking) (id : NodeId) (node : Node (Handler κ)) (placement : Placement) :
    (Session.updateAt id node placement : Act κ S Bool).Keeps P Q := by
  refine .bind (.change fun hP => ?_) fun _ => steps.updateInPlace id node
  exact steps.step (.place walks id placement) hP

/-- Renders make steps of the core. -/
theorem render (walks : walking) (root : Node (Handler κ)) :
    (Session.render (S := S) root).Keeps P Q := by
  have placing : (Upholding (fun waiting (session : Session κ S) => P waiting session.core)
      fun _ => Q).Placing :=
    ⟨fun id node placement => .part (steps.mount walks id node placement),
      fun id node placement => .part (steps.updateAt walks id node placement)⟩
  exact .of_madeOf (placing.render (fun ids => .part (steps.unmountAll ids)) root)

/-- What all steps keep, those of walks included, is a law. -/
theorem governs_of_walking (walks : walking) : Governs allowed (fun _ => True)
    (fun waiting (session : Session κ S) => P waiting session.core) fun _ => Q :=
  steps.governs (steps.render walks) fun id node placement _ => steps.mount walks id node placement

/-- It holds of every session on the way too, if `Q` says so. -/
theorem of_passes (walks : walking)
    (hQ : ∀ moment : Moment κ S, Q moment → ∃ waiting, P waiting moment.session.core)
    {first session : Session κ S} {held : List (Task (Job κ))} (hfirst : P held first.core)
    (hpasses : first.Passes allowed session) : ∃ waiting, P waiting session.core := by
  have law := steps.governs_of_walking walks
  refine law.passes (R := fun session => ∃ waiting, P waiting session.core) ?_ ?_
    ⟨held, trivial, hfirst⟩ hpasses
  · exact fun _ hP => ⟨_, hP⟩
  · exact fun _ hmoment => hQ _ hmoment

end Stepwise

end EditorShell
