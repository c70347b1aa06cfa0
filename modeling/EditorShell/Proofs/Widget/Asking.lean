import EditorShell.Proofs.Run.Histories
import EditorShell.Proofs.Widget.Mounting
import Mathlib.Data.List.DropRight

/-!
# What an update asks for

An update of a mounted widget may ask the host for the handle of the widget; so may every update in
a render.  The journal tells of the requests and their answers, but not who has asked, and the
embedding program may ask for the same handle itself.  An update that is going to ask can be told at
the moment it begins (`Moment.asks`), and the first answer noted after that is its own
(`Moment.answer?`).

For a stretch of a run that updates, mounts and unmounts widgets, renders included, `Accounts` says
that there are no other requests: one for each update that asks, each with its answer.

## Strategy

While the host acts on a message nothing happens that decides whether a handle is asked for
(`Rests`), so what an update will do is settled when it begins (`exists_updateInPlace`).  Accounts
are put together from single widgets to renders (`accounts_render`).
-/

namespace EditorShell

variable {κ S α β : Type}

/-! ## Requests and their answers -/

/-- The answer that an entry tells a request for the handle of a widget got. -/
def Entry.answer? (id : NodeId) : Entry κ → Option Bool
  | .sent (.requestHandle other) accepted => if other = id then some accepted else none
  | _ => none

/-- The answers to the requests for the handle of a widget that a stretch of the journal tells of,
newest first. -/
def Entry.answers (id : NodeId) (noted : List (Entry κ)) : List Bool := noted.filterMap (answer? id)

/-- What has been noted since an earlier session. -/
def Session.since (session earlier : Session κ S) : List (Entry κ) :=
  session.journal.take (session.journal.length - earlier.journal.length)

namespace Moment

/-- A mounted widget is about to be updated. -/
def updates (id : NodeId) (moment : Moment κ S) : Bool :=
  match moment.entry with
  | .declared other _ => other == id && moment.session.bridge.isMounted id
  | _ => false

/-- A widget is about to be updated, and the update is going to ask for its handle. -/
def asks (id : NodeId) (moment : Moment κ S) : Bool :=
  moment.updates id && moment.session.bridge.wantsHandle id

/-- A mounted widget is about to be unmounted. -/
def withdraws (id : NodeId) (moment : Moment κ S) : Bool :=
  match moment.entry with
  | .withdrawn other => other == id
  | _ => false

/-- The answer to the first request for the handle of a widget after a moment. -/
def answer? (id : NodeId) (last : Session κ S) (moment : Moment κ S) : Option Bool :=
  (Entry.answers id (last.since moment.session)).getLast?

/-- An update asks for a handle, and the host accepts the request. -/
def granted (id : NodeId) (last : Session κ S) (moment : Moment κ S) : Bool :=
  moment.asks id && moment.answer? id last == some true

end Moment

/-- How many updates of a widget have asked for its handle and were granted it, since the widget was
unmounted last. -/
def grants (id : NodeId) (told : List (Moment κ S)) (last : Session κ S) : Nat :=
  (told.rtakeWhile fun moment => !moment.withdraws id).countP (Moment.granted id last)

namespace Session

theorem since_eq {session earlier : Session κ S} {noted : List (Entry κ)}
    (hjournal : session.journal = noted ++ earlier.journal) : session.since earlier = noted := by
  unfold since
  rw [hjournal, List.length_append, Nat.add_sub_cancel, List.take_left]

theorem since_trans {first second third : Session κ S} (hfirst : first.journal <:+ second.journal)
    (hsecond : second.journal <:+ third.journal) :
    third.since first = third.since second ++ second.since first := by
  obtain ⟨noted, hnoted⟩ := hfirst
  obtain ⟨more, hmore⟩ := hsecond
  rw [since_eq hnoted.symm, since_eq hmore.symm]
  refine since_eq ?_
  rw [← hmore, ← hnoted, List.append_assoc]

/-- The journal has grown, and these are the answers in it to requests for the handle of a
widget. -/
structure Hears (id : NodeId) (before after : Session κ S) (answers : List Bool) : Prop where
  grown : before.journal <:+ after.journal
  answers_eq : Entry.answers id (after.since before) = answers

namespace Hears

variable {id : NodeId} {first second third : Session κ S} {answers more : List Bool}

theorem of_journal_eq (noted : List (Entry κ)) (hjournal : second.journal = noted ++ first.journal)
    (hnoted : Entry.answers id noted = answers) : Hears id first second answers :=
  ⟨⟨noted, hjournal.symm⟩, by rw [since_eq hjournal, hnoted]⟩

theorem nothing (hjournal : second.journal = first.journal) : Hears id first second [] :=
  .of_journal_eq [] hjournal rfl

theorem trans (hfirst : Hears id first second answers) (hsecond : Hears id second third more) :
    Hears id first third (more ++ answers) := by
  refine ⟨hfirst.grown.trans hsecond.grown, ?_⟩
  rw [since_trans hfirst.grown hsecond.grown, Entry.answers, List.filterMap_append]
  exact congrArg₂ (· ++ ·) hsecond.answers_eq hfirst.answers_eq

/-- Nothing more has been heard. -/
theorem later (hears : Hears id first second answers) (hthird : Hears id second third []) :
    Hears id first third answers := hears.trans hthird

end Hears

end Session

theorem Moment.answer?_eq_of_suffix {id : NodeId} {moment : Moment κ S} {last later : Session κ S}
    {accepted : Bool} (hlast : moment.session.journal <:+ last.journal)
    (hlater : last.journal <:+ later.journal) (hanswer : moment.answer? id last = some accepted) :
    moment.answer? id later = some accepted := by
  unfold answer? at hanswer ⊢
  rw [Session.since_trans hlast hlater, Entry.answers, List.filterMap_append, List.getLast?_append]
  exact (congrArg (Option.or · _) hanswer).trans rfl

/-! ## Accounts -/

namespace Session

/-- What is known of the updates that ask for a handle in a stretch of a run: each was noted in
between, and it has got an answer. -/
structure Attends (id : NodeId) (before : Session κ S) (moments : List (Moment κ S))
    (after : Session κ S) : Prop where
  grown : before.journal <:+ after.journal
  during : ∀ moment ∈ moments, moment.asks id = true →
    before.journal <:+ moment.session.journal ∧ moment.session.journal <:+ after.journal ∧
      ∃ accepted, moment.answer? id after = some accepted

/-- A stretch of a run in which a handle is asked for by updates only: there is one request for each
update that asks, with the answer that it got. -/
structure Accounts (id : NodeId) (before : Session κ S) (moments : List (Moment κ S))
    (after : Session κ S) : Prop extends Attends id before moments after where
  answers_eq : Entry.answers id (after.since before) =
    ((moments.filter (Moment.asks id)).map (Moment.granted id after)).reverse

variable {id : NodeId} {first second third : Session κ S} {moments more : List (Moment κ S)}

theorem granted_eq_of_suffix {moment : Moment κ S} {accepted : Bool}
    (hsecond : moment.session.journal <:+ second.journal)
    (hthird : second.journal <:+ third.journal)
    (hanswer : moment.answer? id second = some accepted) :
    moment.granted id third = moment.granted id second := by
  unfold Moment.granted
  rw [hanswer, Moment.answer?_eq_of_suffix hsecond hthird hanswer]

theorem Attends.granted_eq (attends : Attends id first moments second)
    (hgrown : second.journal <:+ third.journal) {moment : Moment κ S} (hmem : moment ∈ moments) :
    moment.granted id third = moment.granted id second := by
  cases hasks : moment.asks id with
  | false => simp [Moment.granted, hasks]
  | true =>
      obtain ⟨-, hsuffix, accepted, hanswer⟩ := attends.during moment hmem hasks
      exact granted_eq_of_suffix hsuffix hgrown hanswer

theorem Attends.trans (hfirst : Attends id first moments second)
    (hsecond : Attends id second more third) : Attends id first (moments ++ more) third where
  grown := hfirst.grown.trans hsecond.grown
  during moment hmem hasks := by
    rcases List.mem_append.1 hmem with hmem | hmem
    · obtain ⟨hsince, huntil, accepted, hanswer⟩ := hfirst.during moment hmem hasks
      exact ⟨hsince, huntil.trans hsecond.grown, accepted,
        Moment.answer?_eq_of_suffix huntil hsecond.grown hanswer⟩
    · obtain ⟨hsince, huntil, hanswer⟩ := hsecond.during moment hmem hasks
      exact ⟨hfirst.grown.trans hsince, huntil, hanswer⟩

theorem Accounts.trans (hfirst : Accounts id first moments second)
    (hsecond : Accounts id second more third) : Accounts id first (moments ++ more) third where
  toAttends := hfirst.toAttends.trans hsecond.toAttends
  answers_eq := by
    have hsame : (moments.filter (Moment.asks id)).map (Moment.granted id third) =
        (moments.filter (Moment.asks id)).map (Moment.granted id second) :=
      List.map_congr_left fun moment hmem =>
        hfirst.granted_eq hsecond.grown (List.mem_of_mem_filter hmem)
    rw [since_trans hfirst.grown hsecond.grown, Entry.answers, List.filterMap_append,
      List.filter_append, List.map_append, List.reverse_append, hsame]
    exact congrArg₂ (· ++ ·) hsecond.answers_eq hfirst.answers_eq

/-- Nothing is asked for. -/
theorem Accounts.of_hears (hears : Hears id first second [])
    (hquiet : ∀ moment ∈ moments, moment.asks id = false) : Accounts id first moments second where
  grown := hears.grown
  during moment hmem hasks := by
    rw [hquiet moment hmem] at hasks
    cases hasks
  answers_eq := by
    rw [hears.answers_eq, List.filter_eq_nil_iff.2 fun moment hmem => by simp [hquiet moment hmem]]
    rfl

/-- The first moment asks. -/
theorem Accounts.of_asks {entry : Entry κ} {accepted : Bool}
    (hasks : Moment.asks id ⟨entry, first⟩ = true) (hears : Hears id first second [accepted])
    (hquiet : ∀ moment ∈ moments, moment.asks id = false) :
    Accounts id first (⟨entry, first⟩ :: moments) second := by
  have hanswer : Moment.answer? id second ⟨entry, first⟩ = some accepted := by
    unfold Moment.answer?
    rw [hears.answers_eq]
    rfl
  refine ⟨⟨hears.grown, fun moment hmem hasks' => ?_⟩, ?_⟩
  · rcases List.mem_cons.1 hmem with rfl | hmem
    · exact ⟨List.suffix_rfl, hears.grown, accepted, hanswer⟩
    · rw [hquiet moment hmem] at hasks'
      cases hasks'
  · rw [hears.answers_eq, List.filter_cons_of_pos hasks,
      List.filter_eq_nil_iff.2 fun moment hmem => by simp [hquiet moment hmem]]
    simp [Moment.granted, hasks, hanswer]

/-! ## Single messages -/

variable {caller : Caller κ S}

theorem answers_callHost (apart : caller.HostApart) (id : NodeId) (message : HostMessage)
    (session : Session κ S) :
    Hears id session ((callHost message).run caller session).2
      ((Entry.sent (κ := κ) message ((callHost message).run caller session).1).answer?
        id).toList := by
  obtain ⟨noted, hjournal, hnoted⟩ := journal_callHost apart message session
  refine .of_journal_eq (_ :: noted) hjournal ?_
  have hnothing : noted.filterMap (Entry.answer? id) = [] := by
    refine List.filterMap_eq_nil_iff.2 fun entry hmem => ?_
    unfold Entry.answer?
    split
    · exact absurd hmem (hnoted _ _)
    · rfl
  rw [Entry.answers, List.filterMap_cons, hnothing]
  cases Entry.answer? id (Entry.sent message ((callHost message).run caller session).1) <;> rfl

/-- While a message is on its way no widget is updated or unmounted. -/
theorem isPlacing_of_callHost (apart : caller.HostApart) {message : HostMessage}
    {session : Session κ S} {moment : Moment κ S}
    (hmem : moment ∈ (callHost message).moments caller session) :
    moment.entry.isPlacing = false := by
  obtain ⟨-, hentry | ⟨outcome, hentry⟩⟩ := moments_callHost apart message session moment hmem
  · rw [hentry]
    rfl
  · rw [hentry]
    rfl

/-! ## Requests -/

/-- A session in which an accepted request waits for the next pass. -/
def awaiting (session : Session κ S) (id : NodeId) : Session κ S :=
  let scheduler := (session.scheduler.schedule .start (.resolveHandle id)).2
  { session with
    scheduler :=
      match session.bridge.pending.get? id with
      | some previous => scheduler.cancel previous .superseded
      | none => scheduler
    bridge := { session.bridge with
      pending := session.bridge.pending.insert id session.scheduler.nextId }
    journal := .scheduled ⟨session.scheduler.nextId, .start, .resolveHandle id⟩ :: session.journal }

theorem run_requestHandle (id : NodeId) (session : Session κ S) :
    (requestHandle id).run caller session =
      let sent := (callHost (.requestHandle id)).run caller session
      (sent.1, if sent.1 then sent.2.awaiting id else sent.2) := by
  unfold requestHandle
  rw [Act.run_bind]
  generalize (callHost (.requestHandle id)).run caller session = sent
  obtain ⟨accepted, sent⟩ := sent
  cases accepted with
  | false => rfl
  | true =>
      cases hpending : sent.bridge.pending.get? id <;>
        simp [awaiting, scheduleNext, scheduleAt, cancelTask?, cancelTask, changeBridge, hpending]

theorem moments_requestHandle (id : NodeId) (session : Session κ S) :
    (requestHandle id : Act κ S Bool).moments caller session =
      (callHost (.requestHandle id)).moments caller session := by
  unfold requestHandle
  rw [Act.moments_bind]
  generalize (callHost (.requestHandle id)).run caller session = sent
  obtain ⟨accepted, sent⟩ := sent
  cases accepted with
  | false => exact List.append_nil _
  | true =>
      cases hpending : sent.bridge.pending.get? id <;>
        simp [scheduleNext, scheduleAt, cancelTask?, cancelTask, changeBridge, hpending]

/-- The bridge remembers a request that is under way, and counts it. -/
theorem bridge_requestHandle (apart : caller.HostApart) (id : NodeId) (session : Session κ S) :
    ∃ pending stats, ((requestHandle id).run caller session).2.bridge =
      { session.bridge with pending := pending, stats := stats } := by
  have hbridge := bridge_callHost apart (.requestHandle id) session
  rw [Bridge.countAnswer_eq] at hbridge
  rw [run_requestHandle]
  dsimp only
  split
  · unfold awaiting
    rw [hbridge]
    exact ⟨_, _, rfl⟩
  · exact ⟨_, _, hbridge⟩

theorem answers_requestHandle (apart : caller.HostApart) (id wanted : NodeId)
    (session : Session κ S) :
    Hears wanted session ((requestHandle id).run caller session).2
      (if id = wanted then [((requestHandle id).run caller session).1] else []) := by
  have hears := answers_callHost apart wanted (.requestHandle id) session
  have hanswer : ∀ accepted,
      ((Entry.sent (κ := κ) (.requestHandle id) accepted).answer? wanted).toList =
        if id = wanted then [accepted] else [] := by
    intro accepted
    by_cases hid : id = wanted <;> simp [Entry.answer?, hid]
  rw [hanswer] at hears
  rw [run_requestHandle]
  dsimp only
  split
  · exact hears.later (.of_journal_eq [_] rfl rfl)
  · exact hears

theorem run_askOnce (id : NodeId) (session : Session κ S) :
    ((askOnce id).run caller session).2 =
      let asked := (requestHandle id).run caller session
      if session.bridge.wantsHandle id then
        { asked.2 with bridge := { asked.2.bridge with
            requested :=
              if asked.1 then asked.2.bridge.requested.insert id ()
              else asked.2.bridge.requested } }
      else session := by
  unfold askOnce
  rw [Act.run_bind, Act.run_read, Act.run_when]
  dsimp only
  split
  · rw [Act.run_bind, Act.run_when]
    split <;> rfl
  · rfl

theorem moments_askOnce (id : NodeId) (session : Session κ S) :
    (askOnce id : Act κ S Unit).moments caller session =
      if session.bridge.wantsHandle id then
        (callHost (.requestHandle id)).moments caller session
      else [] := by
  unfold askOnce
  rw [Act.moments_bind, Act.moments_read, Act.run_read, Act.moments_when, List.nil_append]
  dsimp only
  split
  · rw [Act.moments_bind, Act.moments_when, moments_requestHandle]
    split <;> exact List.append_nil _
  · rfl

/-- A session in which the handlers of an accepted node are recorded. -/
def handling (session : Session κ S) (id : NodeId) (node : Node (Handler κ)) : Session κ S :=
  { session with bridge := { session.bridge with
      handlers := session.bridge.handlers.insert id node.handlers } }

/-! ## Updates -/

/-- Nothing has changed that decides whether a handle is asked for, and none has been asked for. -/
structure Rests (before after : Session κ S) : Prop where
  mounted_eq : after.bridge.mounted = before.bridge.mounted
  handles_eq : after.bridge.handles = before.bridge.handles
  pending_eq : after.bridge.pending = before.bridge.pending
  requested_eq : after.bridge.requested = before.bridge.requested
  hears : ∀ id, Hears id before after []

theorem Rests.trans (hfirst : Rests first second) (hsecond : Rests second third) :
    Rests first third where
  mounted_eq := hsecond.mounted_eq.trans hfirst.mounted_eq
  handles_eq := hsecond.handles_eq.trans hfirst.handles_eq
  pending_eq := hsecond.pending_eq.trans hfirst.pending_eq
  requested_eq := hsecond.requested_eq.trans hfirst.requested_eq
  hears id := (hfirst.hears id).trans (hsecond.hears id)

theorem Rests.wantsHandle_eq (rests : Rests first second) (id : NodeId) :
    second.bridge.wantsHandle id = first.bridge.wantsHandle id := by
  unfold Bridge.wantsHandle
  rw [rests.handles_eq, rests.pending_eq, rests.requested_eq]

theorem rests_noting (session : Session κ S) {entry : Entry κ}
    (hentry : ∀ id, entry.answer? id = none) : session.Rests (session.noting entry) :=
  ⟨rfl, rfl, rfl, rfl, fun id => .of_journal_eq [entry] rfl (by
    simp [Entry.answers, hentry])⟩

theorem rests_callHost (apart : caller.HostApart) {message : HostMessage}
    (hmessage : ∀ id, message ≠ .requestHandle id) (session : Session κ S) :
    session.Rests ((callHost message).run caller session).2 := by
  have hbridge := bridge_callHost apart message session
  rw [Bridge.countAnswer_eq] at hbridge
  have hanswer : ∀ id accepted, (Entry.sent (κ := κ) message accepted).answer? id = none := by
    intro id accepted
    unfold Entry.answer?
    split
    · rename_i heq
      exact absurd (Entry.sent.inj heq).1 (hmessage _)
    · rfl
  refine ⟨by rw [hbridge]; rfl, by rw [hbridge]; rfl, by rw [hbridge]; rfl, by rw [hbridge]; rfl,
    fun id => ?_⟩
  have hears := answers_callHost apart id message session
  rwa [hanswer] at hears

/-- An update sends its message and records the handlers; for a mounted widget it may then ask for
the handle. -/
theorem exists_rests_updateInPlace (apart : caller.HostApart) (id : NodeId)
    (node : Node (Handler κ)) (session : Session κ S) :
    ∃ sent kept calls, session.Rests sent ∧ session.Rests kept ∧
      (∀ moment ∈ calls, moment.entry.isPlacing = false) ∧
      ((updateInPlace id node).run caller session).2 =
        (if session.bridge.isMounted id then ((askOnce id).run caller kept).2 else sent) ∧
      (updateInPlace id node : Act κ S Bool).moments caller session =
        ⟨.declared id node, session⟩ ::
          (calls ++
            if session.bridge.isMounted id then (askOnce id).moments caller kept else []) := by
  have hsent : ∀ place?, session.Rests ((callHost (.update (.ofNode node id place?))).run caller
      (session.noting (.declared id node))).2 := fun place? =>
    (session.rests_noting fun _ => rfl).trans (rests_callHost apart (by simp) _)
  have hcalls : ∀ place?, ∀ moment ∈ (callHost (.update (.ofNode node id place?))).moments caller
      (session.noting (.declared id node)), moment.entry.isPlacing = false :=
    fun place? moment hmem => isPlacing_of_callHost apart hmem
  specialize hsent ((session.bridge.mounted.get? id).map MountRecord.placement)
  specialize hcalls ((session.bridge.mounted.get? id).map MountRecord.placement)
  unfold updateInPlace Bridge.isMounted Table.contains
  simp only [Act.run_bind, Act.run_read, Act.run_note, Act.run_pure, Act.run_when,
    Act.moments_bind, Act.moments_read, Act.moments_note, Act.moments_pure, Act.moments_when,
    Option.isSome_map, List.nil_append, List.append_nil, List.singleton_append]
  -- Of the call only that it rests matters from here on, whatever the host answered.
  generalize (callHost _).moments caller _ = calls at hcalls ⊢
  generalize (callHost _).run caller _ = sent at hsent ⊢
  obtain ⟨accepted, sent⟩ := sent
  have hkept : session.Rests (if accepted then sent.handling id node else sent) := by
    split
    · exact hsent.trans ⟨rfl, rfl, rfl, rfl, fun _ => .nothing rfl⟩
    · exact hsent
  refine ⟨sent, _, calls, hsent, hkept, hcalls, ?_⟩
  cases (session.bridge.mounted.get? id).isSome with
  | false => exact ⟨rfl, rfl⟩
  | true => cases accepted <;> exact ⟨rfl, rfl⟩

/-- The end of an update of a widget, told of the session that it began in: what has changed for a
widget, and what it has been asked for. -/
structure Inquires (declared : Moment κ S) (accepted : Bool) (id : NodeId) (after : Session κ S) :
    Prop where
  isMounted_eq : after.bridge.isMounted id = declared.session.bridge.isMounted id
  requested_eq : after.bridge.requested.contains id =
    (declared.asks id && accepted || declared.session.bridge.requested.contains id)
  hears : Hears id declared.session after (if declared.asks id then [accepted] else [])

theorem Rests.inquires {declared : Moment κ S} (rests : declared.session.Rests second)
    (hasks : declared.asks id = false) (accepted : Bool) :
    Inquires declared accepted id second := by
  refine ⟨?_, ?_, ?_⟩
  · unfold Bridge.isMounted
    rw [rests.mounted_eq]
  · rw [rests.requested_eq, hasks]
    rfl
  · rw [hasks]
    exact rests.hears id

/-- The handle of a mounted widget is asked for at the end of its update. -/
theorem inquires_askOnce (apart : caller.HostApart) {id wanted : NodeId} {declared : Moment κ S}
    (hasks : declared.asks wanted = decide (id = wanted)) (rests : declared.session.Rests session)
    (hwants : session.bridge.wantsHandle id = true) :
    Inquires declared ((requestHandle id).run caller session).1 wanted
      ((askOnce id).run caller session).2 := by
  obtain ⟨pending, stats, hbridge⟩ := bridge_requestHandle apart id session
  have hears := (rests.hears wanted).trans (answers_requestHandle apart id wanted session)
  rw [run_askOnce, if_pos hwants]
  dsimp only
  generalize (requestHandle id).run caller session = asked at hbridge hears ⊢
  obtain ⟨accepted, asked⟩ := asked
  dsimp only at hbridge hears ⊢
  refine ⟨?_, ?_, ?_⟩
  · unfold Bridge.isMounted
    rw [hbridge, rests.mounted_eq]
  · rw [hbridge, hasks, ← rests.requested_eq]
    -- A request that the host refuses is not remembered, so it may be asked again.
    cases accepted with
    | false => simp
    | true => simp [Table.contains_insert, BEq.comm (a := wanted), beq_eq_decide]
  · simp only [hasks, decide_eq_true_eq]
    rw [List.append_nil] at hears
    exact hears.later (.nothing rfl)

/-- An update of a mounted widget asks for its handle if and only if the widget has none, none is
under way and none has been asked for; it asks once, and an accepted request is remembered. -/
theorem exists_updateInPlace (apart : caller.HostApart) (id : NodeId) (node : Node (Handler κ))
    (session : Session κ S) :
    ∃ accepted rest, (updateInPlace id node : Act κ S Bool).moments caller session =
        ⟨.declared id node, session⟩ :: rest ∧
      (∀ moment ∈ rest, moment.entry.isPlacing = false) ∧
      ∀ wanted, Inquires ⟨.declared id node, session⟩ accepted wanted
        ((updateInPlace id node).run caller session).2 := by
  obtain ⟨sent, kept, calls, hsent, hkept, hcalls, hrun, hmoments⟩ :=
    exists_rests_updateInPlace apart id node session
  rw [hrun, hmoments]
  have hother : ∀ {wanted}, id ≠ wanted →
      Moment.asks wanted (⟨.declared id node, session⟩ : Moment κ S) = false := by
    intro wanted hne
    simp [Moment.asks, Moment.updates, hne]
  have hthis : Moment.asks id (⟨.declared id node, session⟩ : Moment κ S) =
      (session.bridge.isMounted id && session.bridge.wantsHandle id) := by
    simp [Moment.asks, Moment.updates]
  -- Unless the handle is asked for, the update is over when its message has been answered.
  have hsilent : Moment.asks id (⟨.declared id node, session⟩ : Moment κ S) = false →
      ∀ {after : Session κ S}, session.Rests after →
        ∀ wanted, Inquires ⟨.declared id node, session⟩ true wanted after := by
    intro hasks after rests wanted
    refine rests.inquires ?_ true
    by_cases hid : id = wanted
    · exact hid ▸ hasks
    · exact hother hid
  cases hmounted : session.bridge.isMounted id with
  | false =>
      refine ⟨true, _, rfl, fun moment hmem => ?_, hsilent ?_ hsent⟩
      · rw [if_neg Bool.false_ne_true, List.append_nil] at hmem
        exact hcalls moment hmem
      · rw [hthis, hmounted]
        rfl
  | true =>
      rw [if_pos rfl, if_pos rfl, moments_askOnce, hkept.wantsHandle_eq id]
      cases hwants : session.bridge.wantsHandle id with
      | false =>
          refine ⟨true, _, rfl, fun moment hmem => ?_, ?_⟩
          · rw [if_neg Bool.false_ne_true, List.append_nil] at hmem
            exact hcalls moment hmem
          · have hrun : ((askOnce id).run caller kept).2 = kept := by
              rw [run_askOnce, hkept.wantsHandle_eq id, hwants]
              rfl
            rw [hrun]
            exact hsilent (by rw [hthis, hmounted, hwants]; rfl) hkept
      | true =>
          refine ⟨((requestHandle id).run caller kept).1, _, rfl, fun moment hmem => ?_,
            fun wanted => inquires_askOnce apart ?_ hkept ?_⟩
          · rcases List.mem_append.1 hmem with hmem | hmem
            · exact hcalls moment hmem
            · exact isPlacing_of_callHost apart hmem
          · by_cases hid : id = wanted
            · simp [← hid, hthis, hmounted, hwants]
            · simp [hid, hother hid]
          · exact (hkept.wantsHandle_eq id).trans hwants

theorem asks_eq_false_of_isPlacing {moment : Moment κ S} (hentry : moment.entry.isPlacing = false) :
    moment.asks id = false := by
  unfold Moment.asks Moment.updates
  cases hcase : moment.entry <;> first | rfl | (rw [hcase] at hentry; cases hentry)

/-- Every request for a handle that an update sends is told of. -/
theorem accounts_updateInPlace (apart : caller.HostApart) (wanted id : NodeId)
    (node : Node (Handler κ)) (session : Session κ S) :
    Accounts wanted session ((updateInPlace id node : Act κ S Bool).moments caller session)
      ((updateInPlace id node).run caller session).2 := by
  obtain ⟨accepted, rest, hmoments, hrest, hinquires⟩ := exists_updateInPlace apart id node session
  have hears := (hinquires wanted).hears
  have hquiet : ∀ moment ∈ rest, moment.asks wanted = false := fun moment hmem =>
    asks_eq_false_of_isPlacing (hrest moment hmem)
  rw [hmoments]
  cases hasks : Moment.asks wanted (⟨.declared id node, session⟩ : Moment κ S) with
  | false =>
      rw [hasks] at hears
      refine .of_hears hears fun moment hmem => ?_
      rcases List.mem_cons.1 hmem with rfl | hmem
      · exact hasks
      · exact hquiet moment hmem
  | true =>
      rw [hasks] at hears
      exact .of_asks hasks hears hquiet

theorem accounts_updateAt (apart : caller.HostApart) (wanted id : NodeId)
    (node : Node (Handler κ)) (placement : Placement) (session : Session κ S) :
    Accounts wanted session ((updateAt id node placement : Act κ S Bool).moments caller session)
      ((updateAt id node placement).run caller session).2 := by
  have hplaced : Accounts wanted session []
      { session with bridge := session.bridge.place id placement } :=
    .of_hears (.nothing rfl) (by simp)
  exact hplaced.trans (accounts_updateInPlace apart wanted id node _)

/-! ## Mounts and unmounts -/

theorem places_eq_false {moment : Moment κ S} (hentry : moment.entry.isPlacing = false)
    (id : NodeId) : moment.updates id = false ∧ moment.withdraws id = false := by
  unfold Moment.updates Moment.withdraws
  cases hcase : moment.entry <;> first | exact ⟨rfl, rfl⟩ | (rw [hcase] at hentry; cases hentry)

/-- A mount asks for nothing, and at its moments the widget is not mounted yet. -/
theorem exists_rests_mount (apart : caller.HostApart) (id : NodeId) (node : Node (Handler κ))
    (placement : Placement) (session : Session κ S) :
    (∀ moment ∈ (mount id node placement : Act κ S Bool).moments caller session,
      ∀ wanted, moment.updates wanted = false ∧ moment.withdraws wanted = false) ∧
    ∃ sent, session.Rests sent ∧
      (((mount id node placement).run caller session).2 = sent ∨
        ((mount id node placement).run caller session).2 = { sent with
          bridge := sent.bridge.recordMount id node.kind placement node.handlers }) := by
  cases hmounted : session.bridge.isMounted id with
  | true =>
      simp only [mount, Act.run_bind, Act.moments_bind, Act.run_read, Act.moments_read, hmounted,
        if_true, Act.run_pure, Act.moments_pure]
      exact ⟨by simp, session, ⟨rfl, rfl, rfl, rfl, fun _ => .nothing rfl⟩, .inl rfl⟩
  | false =>
      have hdeclared : session.Rests
          (({ session with slots := session.slots.discard id } : Session κ S).noting
            (.declared id node)) :=
        ⟨rfl, rfl, rfl, rfl, fun _ => .of_journal_eq [_] rfl rfl⟩
      -- A widget is declared and its slot emptied before the host is called; neither asks for a
      -- handle.
      let message := HostMessage.mount (.ofNode node id (some placement))
      have hsent := hdeclared.trans
        (rests_callHost apart (by simp : ∀ wanted, message ≠ .requestHandle wanted) _)
      have hcalls : ∀ moment ∈ (callHost message).moments caller
          (({ session with slots := session.slots.discard id } : Session κ S).noting
            (.declared id node)), moment.entry.isPlacing = false :=
        fun moment hmem => isPlacing_of_callHost apart hmem
      simp only [mount, changeSlots, Act.run_bind, Act.moments_bind, Act.run_read,
        Act.moments_read, hmounted, Bool.false_eq_true, if_false, Act.run_change,
        Act.moments_change, Act.run_note, Act.moments_note, List.nil_append,
        List.singleton_append]
      generalize (callHost _).moments caller _ = calls at hcalls ⊢
      generalize (callHost _).run caller _ = sent at hsent ⊢
      obtain ⟨accepted, sent⟩ := sent
      refine ⟨fun moment hmem wanted => ?_, sent, hsent, ?_⟩
      · have hmem : moment ∈ ⟨.declared id node, { session with
            slots := session.slots.discard id }⟩ :: calls := by
          cases accepted <;> simpa [changeBridge] using hmem
        rcases List.mem_cons.1 hmem with rfl | hmem
        · refine ⟨?_, rfl⟩
          unfold Moment.updates
          by_cases hid : id = wanted
          · subst hid
            simp [hmounted]
          · simp [hid]
        · exact places_eq_false (hcalls moment hmem) wanted
      · cases accepted with
        | false => exact .inl rfl
        | true => exact .inr rfl

/-- A widget is forgotten, and no handle has been asked for. -/
structure Forgets (id : NodeId) (before after : Session κ S) : Prop where
  isMounted_eq : ∀ wanted,
    after.bridge.isMounted wanted = (wanted != id && before.bridge.isMounted wanted)
  requested_eq : ∀ wanted, after.bridge.requested.contains wanted =
    (wanted != id && before.bridge.requested.contains wanted)
  hears : ∀ wanted, Hears wanted before after []

theorem forgets_withdrawing (session : Session κ S) (id : NodeId) :
    Forgets id session (session.withdrawing id) where
  isMounted_eq wanted := Bridge.isMounted_evict _ _ _
  requested_eq wanted := Table.contains_erase _ _ _
  hears wanted := by
    cases hmounted : session.bridge.isMounted id with
    | false => exact .nothing (by simp [withdrawing, hmounted])
    | true => exact .of_journal_eq [.withdrawn id] (by simp [withdrawing, hmounted]) rfl

theorem Forgets.rests {id : NodeId} (forgets : Forgets id first second)
    (rests : Rests second third) : Forgets id first third where
  isMounted_eq wanted := by
    rw [← forgets.isMounted_eq]
    unfold Bridge.isMounted
    rw [rests.mounted_eq]
  requested_eq wanted := by rw [rests.requested_eq, forgets.requested_eq]
  hears wanted := (forgets.hears wanted).later (rests.hears wanted)

/-- The unmount of a widget asks for nothing. -/
theorem forgets_unmount (apart : caller.HostApart) (id : NodeId) (session : Session κ S) :
    Forgets id session ((unmount id).run caller session).2 := by
  have hwithdrawn := session.forgets_withdrawing id
  rw [run_unmount]
  cases session.bridge.mounted.get? id with
  | none => exact hwithdrawn
  | some record => exact hwithdrawn.rests (rests_callHost apart (by simp [unmountMessage]) _)

/-- The unmount of a mounted widget begins with its withdrawal. -/
theorem exists_moments_unmount (apart : caller.HostApart) (id : NodeId) (session : Session κ S) :
    if session.bridge.isMounted id then
      ∃ rest, (unmount id : Act κ S Bool).moments caller session =
          ⟨.withdrawn id, session⟩ :: rest ∧
        ∀ moment ∈ rest, moment.entry.isPlacing = false
    else (unmount id : Act κ S Bool).moments caller session = [] := by
  rw [moments_unmount]
  unfold Bridge.isMounted Table.contains
  cases session.bridge.mounted.get? id with
  | none => rfl
  | some record => exact ⟨_, rfl, fun moment hmem => isPlacing_of_callHost apart hmem⟩

theorem accounts_unmount (apart : caller.HostApart) (wanted id : NodeId)
    (session : Session κ S) :
    Accounts wanted session ((unmount id : Act κ S Bool).moments caller session)
      ((unmount id).run caller session).2 := by
  refine .of_hears ((forgets_unmount apart id session).hears wanted) ?_
  have hmoments := exists_moments_unmount apart id session
  split at hmoments
  · obtain ⟨rest, hmoments, hrest⟩ := hmoments
    rw [hmoments]
    rintro moment hmem
    rcases List.mem_cons.1 hmem with rfl | hmem
    · rfl
    · exact asks_eq_false_of_isPlacing (hrest moment hmem)
  · rw [hmoments]
    simp

theorem accounts_mount (apart : caller.HostApart) (wanted id : NodeId) (node : Node (Handler κ))
    (placement : Placement) (session : Session κ S) :
    Accounts wanted session ((mount id node placement : Act κ S Bool).moments caller session)
      ((mount id node placement).run caller session).2 := by
  obtain ⟨hmoments, sent, rests, hafter⟩ := exists_rests_mount apart id node placement session
  refine .of_hears ?_ fun moment hmem => ?_
  · rcases hafter with hafter | hafter
    · rw [hafter]
      exact rests.hears wanted
    · rw [hafter]
      exact (rests.hears wanted).later (.nothing rfl)
  · unfold Moment.asks
    rw [(hmoments moment hmem wanted).1]
    rfl

/-! ## Renders -/

/-- The acts that ask for handles by updates only. -/
def Accounting (caller : Caller κ S) (id : NodeId) : Act.Class κ S := fun _ act =>
  ∀ session, Accounts id session (act.moments caller session) (act.run caller session).2

theorem Accounting.of_madeOf {act : Act κ S α} (hact : act.MadeOf (Accounting caller id)) :
    Accounting caller id α act :=
  hact.covered (fun _ _ => .of_hears (.nothing rfl) (by simp))
    (fun _ _ => .of_hears (.nothing rfl) (by simp)) (fun hnext session => hnext session session)
    fun hfirst hnext session => (hfirst session).trans (hnext _ _)

/-- Every request for a handle that a render sends is told of. -/
theorem accounts_render (apart : caller.HostApart) (id : NodeId) (root : Node (Handler κ))
    (session : Session κ S) :
    Accounts id session ((render root : Act κ S RenderReport).moments caller session)
      ((render root).run caller session).2 := by
  have placing : Act.Class.Placing (Accounting caller id) :=
    ⟨fun other node placement => .part fun session => accounts_mount apart id other node placement
        session,
      fun other node placement => .part fun session => accounts_updateAt apart id other node
        placement session⟩
  have unmount : ∀ other, (unmount other : Act κ S Bool).MadeOf (Accounting caller id) :=
    fun other => .part fun session => accounts_unmount apart id other session
  exact Accounting.of_madeOf
    (placing.render (Act.Class.unmountAll_of_unmount unmount) root) session

end Session

end EditorShell
