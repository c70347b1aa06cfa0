import EditorShell.Proofs.Host.Account
import EditorShell.Proofs.Run.Governing
import EditorShell.Proofs.Widget.Mounting

/-!
# Runs against a recording host

A recording host whose recording is never cleared and that gets messages from the bridge only knows
every message, and so it stays in step with the bridge (`recording_agrees`), whichever operations it
is told to fail in between.  The code that the embedding program runs at a host call must accept the
message; what it refuses never reaches the recording host.

## Strategy

While the host is called the program's code runs, and may change the host.  `Recorded` has an index
for this.  Without an index the host is free and the accounts are in step.  With one the host is
busy and has booked nothing since the call began.  All operations but messages, mounts and unmounts
keep the accounts as they are (`Recorded.congr`).
-/

namespace EditorShell

variable {κ S : Type}

/-! ## What was sent -/

/-- The message that an entry tells of. -/
def Entry.sent? : Entry κ → Option SentMessage
  | .sent message accepted => some ⟨message, accepted⟩
  | _ => none

/-- The messages that the bridge has sent, oldest first. -/
def Session.sent (session : Session κ S) : List SentMessage :=
  session.journal.reverse.filterMap Entry.sent?

/-- Whether an entry does not tell that the embedding program's part of the host has refused a
message or panicked. -/
def Entry.isWilling : Entry κ → Bool
  | .returned (.host _) (.ok (.ok ())) => true
  | .returned (.host _) _ => false
  | _ => true

/-- The embedding program's part of the host has accepted every message so far. -/
def Session.HostWilling (session : Session κ S) : Prop :=
  ∀ entry ∈ session.journal, entry.isWilling = true

/-- Whether a request leaves the recording to the bridge. -/
def Request.keepsRecording : Request κ → Bool
  | .clearRecording | .sendDirectly _ => false
  | _ => true

namespace Session

theorem sent_append {before after : Session κ S} {noted : List (Entry κ)}
    (hjournal : after.journal = noted ++ before.journal) :
    after.sent = before.sent ++ noted.reverse.filterMap Entry.sent? := by
  unfold sent
  rw [hjournal, List.reverse_append, List.filterMap_append]

theorem filterMap_sent?_eq_nil {noted : List (Entry κ)}
    (hnoted : ∀ message accepted, Entry.sent message accepted ∉ noted) :
    noted.reverse.filterMap Entry.sent? = [] := by
  refine List.filterMap_eq_nil_iff.2 fun entry hentry => ?_
  cases entry with
  | sent message accepted => exact absurd (List.mem_reverse.1 hentry) (hnoted message accepted)
  | _ => rfl

theorem HostWilling.of_append {before after : Session κ S} {noted : List (Entry κ)}
    (willing : after.HostWilling) (hjournal : after.journal = noted ++ before.journal) :
    before.HostWilling := by
  intro entry hmem
  refine willing entry ?_
  rw [hjournal]
  exact List.mem_append_right _ hmem

/-- The host is left alone, and nothing is sent. -/
structure Spares (before after : Session κ S) : Prop where
  host_eq : after.host = before.host
  busy_eq : after.hostBusy = before.hostBusy
  journal_eq : ∃ noted, after.journal = noted ++ before.journal ∧
    ∀ message accepted, Entry.sent message accepted ∉ noted

namespace Spares

variable {before after : Session κ S}

theorem of_journal_eq (hhost : after.host = before.host) (hbusy : after.hostBusy = before.hostBusy)
    (hjournal : after.journal = before.journal) : before.Spares after :=
  ⟨hhost, hbusy, [], hjournal, by simp⟩

theorem noting (session : Session κ S) {entry : Entry κ}
    (hentry : ∀ message accepted, entry ≠ .sent message accepted) :
    session.Spares (session.noting entry) :=
  ⟨rfl, rfl, [entry], rfl, fun message accepted hmem =>
    hentry message accepted (List.mem_singleton.1 hmem).symm⟩

theorem sent_eq (spares : before.Spares after) : after.sent = before.sent := by
  obtain ⟨noted, hjournal, hnoted⟩ := spares.journal_eq
  rw [sent_append hjournal, filterMap_sent?_eq_nil hnoted, List.append_nil]

theorem willing (spares : before.Spares after) (willing : after.HostWilling) :
    before.HostWilling := by
  obtain ⟨noted, hjournal, -⟩ := spares.journal_eq
  exact willing.of_append hjournal

end Spares

end Session

/-! ## The law -/

/-- The host is a recording host.  Without an index it is free.  With one it is acting on a message,
and has booked no other message since. -/
structure OnRecord (index : Option Recording) (session : Session κ S) : Prop where
  busy_eq : session.hostBusy = index.isSome
  kind_eq : session.host.kind = .recording
  calls_eq : ∀ recording ∈ index, session.host.recording.calls = recording.calls
  live_eq : ∀ recording ∈ index, session.host.recording.live = recording.live

/-- While the host is free the accounts of both sides are in step. -/
structure Recorded (index : Option Recording) (session : Session κ S) : Prop
    extends OnRecord index session where
  inStep : index = none → session.HostWilling →
    InStep session.bridge session.host.recording session.sent

/-- A callback other than the host starts while the accounts are in step. -/
def RecordedAt (index : Option Recording) (moment : Moment κ S) : Prop :=
  ∀ call, moment.entry = .called call → call.isHost = false → Recorded index moment.session

variable {index : Option Recording} {session after : Session κ S}

theorem OnRecord.of_free (hfree : session.hostBusy = false)
    (hkind : session.host.kind = .recording) : OnRecord none session :=
  ⟨hfree, hkind, by simp, by simp⟩

theorem OnRecord.congr (onRecord : OnRecord index session)
    (hbusy : after.hostBusy = session.hostBusy) (hkind : after.host.kind = session.host.kind)
    (hcalls : after.host.recording.calls = session.host.recording.calls)
    (hlive : after.host.recording.live = session.host.recording.live) : OnRecord index after where
  busy_eq := hbusy.trans onRecord.busy_eq
  kind_eq := hkind.trans onRecord.kind_eq
  calls_eq recording hindex := hcalls.trans (onRecord.calls_eq recording hindex)
  live_eq recording hindex := hlive.trans (onRecord.live_eq recording hindex)

/-- The accounts stay in step when neither side books anything. -/
theorem Recorded.congr (recorded : Recorded index session) (onRecord : OnRecord index after)
    (hcalls : after.host.recording.calls = session.host.recording.calls)
    (hlive : after.host.recording.live = session.host.recording.live)
    (alike : after.bridge.Alike session.bridge) (hsent : after.sent = session.sent)
    (hwilling : after.HostWilling → session.HostWilling) : Recorded index after where
  toOnRecord := onRecord
  inStep hindex willing := by
    rw [hsent]
    exact (recorded.inStep hindex (hwilling willing)).congr alike hcalls hlive

theorem OnRecord.spared (onRecord : OnRecord index session) (spares : session.Spares after) :
    OnRecord index after := by
  refine onRecord.congr spares.busy_eq ?_ ?_ ?_
  all_goals rw [spares.host_eq]

theorem Recorded.spared (recorded : Recorded index session) (spares : session.Spares after)
    (alike : after.bridge.Alike session.bridge) : Recorded index after := by
  refine recorded.congr (recorded.toOnRecord.spared spares) ?_ ?_ alike spares.sent_eq
    spares.willing
  all_goals rw [spares.host_eq]

theorem Recording.upholds_note {entry : Entry κ}
    (hentry : ∀ message accepted, entry ≠ .sent message accepted) :
    (Act.note (S := S) entry).Upholds Recorded RecordedAt :=
  .note (fun recorded _ _ _ => recorded) fun {_ session} recorded =>
    recorded.spared (.noting session hentry) (.refl _)

/-! ## Messages -/

/-- A message was sent.  If the host was free and willing, it has booked the message. -/
structure Delivered (index : Option Recording) (before : Session κ S) (sent : SentMessage)
    (after : Session κ S) : Prop where
  onRecord : OnRecord index after
  bridge_eq : after.bridge = before.bridge.answered sent
  sent_eq : after.sent = before.sent ++ [sent]
  books : index = none → after.HostWilling →
    before.HostWilling ∧ before.host.recording.Books sent after.host.recording

/-- When both sides have booked a message the accounts are in step again.  The bridge may have
something to do before that. -/
theorem Delivered.recorded_with {before : Session κ S} {sent : SentMessage}
    {bridge : Bridge (Handler κ)} (delivered : Delivered index before sent after)
    (recorded : Recorded index session) (spares : session.Spares before)
    (hbooks : session.bridge.Books sent bridge) :
    Recorded index { after with bridge := bridge } where
  toOnRecord := delivered.onRecord.congr rfl rfl rfl rfl
  inStep hindex willing := by
    obtain ⟨willing', hrecording⟩ := delivered.books hindex willing
    rw [spares.host_eq] at hrecording
    have hnext := (recorded.inStep hindex (spares.willing willing')).next hbooks hrecording
    rw [← spares.sent_eq, ← delivered.sent_eq] at hnext
    exact hnext

theorem Delivered.recorded {before : Session κ S} {sent : SentMessage}
    (delivered : Delivered index before sent after) (recorded : Recorded index session)
    (spares : session.Spares before) (hbooks : session.bridge.Books sent after.bridge) :
    Recorded index after :=
  delivered.recorded_with recorded spares hbooks

namespace Session

/-- What the program's part of the host accepts is handed to the host itself. -/
theorem run_attempt_of_willing {caller : Caller κ S} {message : HostMessage}
    {session called : Session κ S}
    (hcalled : (Act.call (.host message)).run caller session = (.ok (.ok ()), called)) :
    ((attempt message).run caller session).1 = (called.host.take called.slots message).1.isOk ∧
      ((attempt message).run caller session).2.host =
        (called.host.take called.slots message).2.1 := by
  unfold attempt sendDirectly
  simp only [Act.run_bind, hcalled]
  have hanswer : ((letHostAct message).run caller called).1 =
      (called.host.take called.slots message).1 := rfl
  simp only [Act.run_pure, hanswer]
  cases (called.host.take called.slots message).1 <;> exact ⟨rfl, rfl⟩

/-- What the program's part of the host refuses goes no further. -/
theorem run_attempt_of_unwilling {caller : Caller κ S} {message : HostMessage}
    {session called : Session κ S} {outcome : Guarded (Except HostError Unit)}
    (hcalled : (Act.call (.host message)).run caller session = (outcome, called))
    (hunwilling : outcome ≠ .ok (.ok ())) :
    (attempt message).run caller session = (false, called) := by
  unfold attempt sendDirectly
  simp only [Act.run_bind, hcalled]
  rcases outcome with panic | refusal | ⟨⟨⟩⟩
  · rfl
  · rfl
  · exact absurd rfl hunwilling

end Session

/-- The host has been called with a message, and has not acted on it yet. -/
theorem OnRecord.called {caller : Caller κ S} (onRecord : OnRecord none session)
    (upholds : caller.Upholds Recorded RecordedAt) (message : HostMessage)
    {outcome : Guarded (Except HostError Unit)} {called : Session κ S}
    (hcalled : (Act.call (.host message)).run caller { session with hostBusy := true } =
      (outcome, called)) :
    OnRecord (some session.host.recording) called ∧
      .returned (.host message) outcome ∈ called.journal := by
  have hbusied : OnRecord (some session.host.recording) { session with hostBusy := true } := by
    refine ⟨rfl, onRecord.kind_eq, ?_, ?_⟩
    · rintro recording ⟨⟩
      rfl
    · rintro recording ⟨⟩
      rfl
  rw [Act.run_call] at hcalled
  obtain ⟨rfl, rfl⟩ := Prod.mk.inj hcalled
  have hcalled : Recorded (some session.host.recording)
      (Session.noting { session with hostBusy := true } (.called (.host message))) :=
    ⟨hbusied.congr rfl rfl rfl rfl, nofun⟩
  have hanswer := upholds.answer (.host message) hcalled
  exact ⟨hanswer.toOnRecord.congr rfl rfl rfl rfl, List.mem_cons_self ..⟩

/-- A message is booked by a free host, unless the program's part of it is unwilling. -/
theorem OnRecord.offer {caller : Caller κ S} (onRecord : OnRecord none session)
    (upholds : caller.Upholds Recorded RecordedAt) (message : HostMessage) :
    OnRecord none ((Session.offer message).run caller session).2 ∧
      (((Session.offer message).run caller session).2.HostWilling →
        session.host.recording.Books ⟨message, ((Session.offer message).run caller session).1⟩
          ((Session.offer message).run caller session).2.host.recording) := by
  have hoffer : (Session.offer message).run caller session =
      (((Session.attempt message).run caller { session with hostBusy := true }).1,
        { ((Session.attempt message).run caller { session with hostBusy := true }).2 with
          hostBusy := false }) := by
    have hfree : session.hostBusy = false := onRecord.busy_eq
    simp [Session.offer, Session.setHostBusy, hfree]
  rw [hoffer]
  cases hcalled : (Act.call (.host message)).run caller { session with hostBusy := true } with
  | mk outcome called =>
      obtain ⟨hrecord, hreturned⟩ := onRecord.called upholds message hcalled
      by_cases houtcome : outcome = .ok (.ok ())
      -- The program lets the host act.  It has changed neither account in the meantime.
      · subst houtcome
        obtain ⟨haccepted, hhost⟩ := Session.run_attempt_of_willing hcalled
        rw [haccepted, Host.isOk_take hrecord.kind_eq called.slots message]
        have htaken := Host.recording_take hrecord.kind_eq called.slots message
        rw [← hhost] at htaken
        refine ⟨.of_free rfl htaken.1, fun _ => ?_⟩
        refine (called.host.recording.books_take called.slots message).congr ?_ ?_ htaken.2
        · exact hrecord.calls_eq _ rfl
        · exact hrecord.live_eq _ rfl
      · rw [Session.run_attempt_of_unwilling hcalled houtcome]
        refine ⟨.of_free rfl hrecord.kind_eq, fun willing => ?_⟩
        have hwilling := willing _ hreturned
        rcases outcome with panic | refusal | ⟨⟨⟩⟩
        · cases hwilling
        · cases hwilling
        · exact absurd rfl houtcome

/-- A host that is acting on a message gets no other one. -/
theorem OnRecord.offer_of_busy {caller : Caller κ S} {recording : Recording}
    (onRecord : OnRecord (some recording) session) (message : HostMessage) :
    (Session.offer message).run caller session = (false, session) := by
  have hbusy : session.hostBusy = true := onRecord.busy_eq
  simp [Session.offer, hbusy]

/-- Every message is counted, and a free host books it. -/
theorem OnRecord.meets_callHost {caller : Caller κ S} (onRecord : OnRecord index session)
    (apart : caller.HostApart) (upholds : caller.Upholds Recorded RecordedAt)
    (message : HostMessage) :
    (Session.callHost message).Meets (RecordedAt index) caller session fun accepted after =>
      Delivered index session ⟨message, accepted⟩ after := by
  have hcounted : OnRecord index { session with bridge := session.bridge.countCall message.op } :=
    onRecord.congr rfl rfl rfl rfl
  obtain ⟨noted, hjournal, hnoted⟩ := Session.journal_callHost apart message session
  have hoffered : OnRecord index ((Session.offer message).run caller
      { session with bridge := session.bridge.countCall message.op }).2 := by
    cases index with
    | none => exact (hcounted.offer upholds message).1
    | some recording =>
        rw [hcounted.offer_of_busy message]
        exact hcounted
  refine ⟨⟨hoffered.congr rfl rfl rfl rfl, Session.bridge_callHost apart message session, ?_, ?_⟩,
    fun moment hmoment call hcall hhost => ?_⟩
  -- The journal tells of this message only.
  · have hsent := Session.sent_append hjournal
    rw [hsent, List.reverse_cons, List.filterMap_append, Session.filterMap_sent?_eq_nil hnoted]
    rfl
  · rintro rfl willing
    refine ⟨willing.of_append hjournal, (hcounted.offer upholds message).2 ?_⟩
    exact fun entry hmem => willing entry (List.mem_cons_of_mem _ hmem)
  · rcases (Session.moments_callHost apart message session moment hmoment).2 with hentry | hentry
    · rw [hentry] at hcall
      obtain rfl := Entry.called.inj hcall
      cases hhost
    · obtain ⟨outcome, hentry⟩ := hentry
      rw [hentry] at hcall
      cases hcall

/-! ## Operations -/

namespace Recording

theorem upholds_callHost {message : HostMessage} (hplacing : message.isPlacing = false) :
    (Session.callHost (κ := κ) (S := S) message).Upholds Recorded RecordedAt := by
  intro caller apart upholds index session recorded
  refine (recorded.toOnRecord.meets_callHost apart upholds message).mono
    fun accepted after delivered => ?_
  refine delivered.recorded recorded (.of_journal_eq rfl rfl rfl) ?_
  rw [delivered.bridge_eq]
  exact Bridge.books_answered (SentMessage.life?_eq_none hplacing accepted)
    (SentMessage.begins_eq_false hplacing accepted) (SentMessage.ends_eq_false hplacing accepted)

theorem upholds_mount (id : NodeId) (node : Node (Handler κ)) (placement : Placement) :
    (Session.mount (S := S) id node placement).Upholds Recorded RecordedAt := by
  intro caller apart upholds index session recorded
  refine .read_bind ?_
  split
  · exact .pure recorded
  · rename_i hunmounted
    rw [Bool.not_eq_true] at hunmounted
    refine .change_bind (.note_bind (fun _ heq => by cases heq) ?_)
    have spares : session.Spares (Session.noting
        { session with slots := session.slots.discard id } (.declared id node)) :=
      ⟨rfl, rfl, [.declared id node], rfl, by simp⟩
    have hready := recorded.toOnRecord.spared spares
    refine (hready.meets_callHost apart upholds _).bind fun accepted after delivered => ?_
    cases accepted
    · refine .pure (delivered.recorded recorded spares ?_)
      rw [delivered.bridge_eq]
      exact Bridge.books_answered (fun _ => rfl) rfl rfl
    · refine .change_bind (.pure (delivered.recorded_with recorded spares ?_))
      rw [delivered.bridge_eq]
      exact Bridge.books_recordMount (.ofNode node id (some placement)) hunmounted

theorem upholds_unmount (id : NodeId) :
    (Session.unmount (κ := κ) (S := S) id).Upholds Recorded RecordedAt := by
  intro caller apart upholds index session recorded
  have spares : session.Spares (session.withdrawing id) := by
    refine ⟨rfl, rfl, ?_⟩
    unfold Session.withdrawing
    by_cases hmounted : session.bridge.isMounted id = true
    · exact ⟨[.withdrawn id], by simp [hmounted], by simp⟩
    · exact ⟨[], by simp [hmounted], by simp⟩
  unfold Act.Meets
  rw [Session.run_unmount, Session.moments_unmount]
  cases hrecord : session.bridge.mounted.get? id with
  | none =>
      -- Nothing was mounted, so nothing is sent and nothing was forgotten.
      have alike := Bridge.alike_evict (Table.contains_eq_false_iff.2 hrecord)
      exact ⟨recorded.spared spares alike, fun _ hmoment => by cases hmoment⟩
  | some record =>
      obtain ⟨delivered, hmoments⟩ := (recorded.toOnRecord.spared spares).meets_callHost apart
        upholds (Session.unmountMessage id record)
      refine ⟨delivered.recorded recorded spares ?_, fun moment hmoment => ?_⟩
      · rw [delivered.bridge_eq]
        exact Bridge.books_evict (Table.contains_iff.2 ⟨record, hrecord⟩)
      · rcases List.mem_cons.1 hmoment with rfl | hmoment
        · intro _ heq
          cases heq
        · exact hmoments moment hmoment

/-- What spares the host and the bridge keeps the accounts in step. -/
theorem change_spared {f : Session κ S → Session κ S}
    (hf : ∀ session : Session κ S, session.Spares (f session))
    (halike : ∀ session : Session κ S, (f session).bridge.Alike session.bridge) :
    (Act.change f).MadeOf (Upholding Recorded RecordedAt) :=
  .part (.change fun {_ session} recorded => recorded.spared (hf session) (halike session))

theorem upholds_call (call : Call κ) :
    (Act.call (S := S) call).Upholds Recorded RecordedAt :=
  .call (upholds_note (by simp)) fun _ => upholds_note (by simp)

theorem ordinary : (Upholding (Recorded (κ := κ) (S := S)) RecordedAt).Ordinary where
  call call _ _ _ _ _ := .part (upholds_call call)
  interact _ _ := .part (upholds_call _)

/-- What is noted of other things than messages keeps the accounts in step. -/
theorem note_plain {entry : Entry κ} (hsent : ∀ message accepted, entry ≠ .sent message accepted) :
    (Act.note (S := S) entry).MadeOf (Upholding Recorded RecordedAt) := .part (upholds_note hsent)

/-- The host is told to fail an operation, or no longer to fail it. -/
theorem upholds_changeRecording {f : Recording → Recording}
    (hcalls : ∀ recording, (f recording).calls = recording.calls)
    (hlive : ∀ recording, (f recording).live = recording.live) :
    (Session.changeRecording f : Act κ S Unit).Upholds Recorded RecordedAt := by
  refine .change fun {index session} recorded => ?_
  have hrecord : OnRecord index
      { session with host := { session.host with recording := f session.host.recording } } :=
    recorded.toOnRecord.congr rfl rfl (hcalls _) (hlive _)
  exact recorded.congr hrecord (hcalls _) (hlive _) (.refl _) rfl id

theorem scheduleAt (deadline : Instant) (job : Job κ) :
    (Session.scheduleAt (S := S) deadline job).MadeOf (Upholding Recorded RecordedAt) :=
  .bind (.read _) fun id => .bind (change_spared
    (fun session => ⟨rfl, rfl, [.scheduled ⟨session.scheduler.nextId, deadline, job⟩], rfl,
      by simp⟩) fun _ => .refl _) fun _ => .pure id

theorem pieces : (Upholding (Recorded (κ := κ) (S := S)) RecordedAt).Pieces
    fun request => request.keepsRecording = true where
  scheduleAt deadline job _ := scheduleAt deadline job
  scheduleJob deadline job _ := scheduleAt deadline job
  cancelTask id reason := change_spared (fun _ => .of_journal_eq rfl rfl rfl) fun _ => .refl _
  clearTasks _ := change_spared (fun _ => .of_journal_eq rfl rfl rfl) fun _ => .refl _
  debouncers f := change_spared (fun _ => .of_journal_eq rfl rfl rfl) fun _ => .refl _
  changeSlots f := change_spared (fun _ => .of_journal_eq rfl rfl rfl) fun _ => .refl _
  changeBridge f halike := change_spared (fun _ => .of_journal_eq rfl rfl rfl) fun session =>
    halike session.bridge
  declare id node := note_plain (by simp)
  callHost message hplacing := .part (upholds_callHost hplacing)
  mount id node placement := .part (upholds_mount id node placement)
  unmount id := .part (upholds_unmount id)
  direct request hdirect hkeeps := by
    cases request with
    | failOp op =>
        exact .part (upholds_changeRecording (f := fun recording => recording.fail op)
          (fun _ => rfl) fun _ => rfl)
    | recoverOp op =>
        exact .part (upholds_changeRecording (f := fun recording => recording.recover op)
          (fun _ => rfl) fun _ => rfl)
    -- A fault of the wire lets the host refuse, but what it has recorded stays.
    | setWireFault fault? =>
        refine .part (.change fun recorded => ?_)
        exact recorded.congr (recorded.toOnRecord.congr rfl rfl rfl rfl) rfl rfl (.refl _) rfl id
    | sendDirectly message => cases hkeeps
    | clearRecording => cases hkeeps
    | _ => cases hdirect

/-- The accounts stay in step, whatever is done and whatever callbacks do. -/
theorem governs : Governs (fun request => request.keepsRecording = true) (· = none)
    (Recorded (κ := κ) (S := S)) RecordedAt := by
  have aside : ∀ {f : Session κ S → Session κ S}, (∀ session, (f session).core = session.core) →
      (Act.change f).MadeOf (Upholding Recorded RecordedAt) := by
    intro f hf
    have hcore : ∀ {α : Type} (view : Core κ → α) (session : Session κ S),
        view (f session).core = view session.core := fun view session => congrArg view (hf session)
    refine change_spared (fun session => .of_journal_eq (hcore Core.host session)
      (hcore Core.hostBusy session) (hcore Core.journal session)) fun session => ?_
    -- What is beside the core touches neither the host nor the bridge.
    have hbridge : (f session).bridge = session.bridge := hcore Core.bridge session
    rw [hbridge]
    exact .refl _
  have commands := Act.Class.Commands.of_change (ordinary (κ := κ) (S := S)).toActing
    (fun entry hpress => note_plain (by
      rintro message accepted rfl
      cases hpress)) (fun _ => aside fun _ => rfl) fun _ => aside fun _ => rfl
  have panels := Act.Class.Panels.of_change (ordinary (κ := κ) (S := S)).toActing
    (note_plain (by simp))
    fun _ => aside fun _ => rfl
  have turns := (pieces (κ := κ) (S := S)).turns fun call _ => .part (upholds_call call)
  have core := Act.Class.Core.of_pieces ordinary pieces (turns.runDue
    (fun entry hpass => note_plain (by
      rintro message accepted rfl
      cases hpass))
    (Act.Class.takeBatch_of_change fun _ =>
      change_spared (fun _ => .of_journal_eq rfl rfl rfl) fun _ => .refl _))
  refine ⟨.of_core panels core
      ⟨fun _ => aside fun _ => rfl, fun _ => aside fun _ => rfl, fun _ => aside fun _ => rfl⟩
      (.of_change (fun _ _ _ => .part (upholds_call _)) (fun entry hevent => note_plain ?_)
        fun _ => aside fun _ => rfl) commands
      (.of_change commands.toRegistering (fun _ => aside fun _ => rfl) fun call hcall => ?_)
      (.of_change panels core (fun entry hdisplay => note_plain ?_) fun _ _ => aside fun _ => rfl),
    fun app recorded => ?_, fun htop own recordedAt => ?_⟩
  · rintro message accepted rfl
    cases hevent
  · exact .part (upholds_call call)
  · rintro message accepted rfl
    cases hdisplay
  · exact recorded.spared (.of_journal_eq rfl rfl rfl) (.refl _)
  · exact ⟨_, htop, (recordedAt _ rfl own).spared (.noting _ (by simp)) (.refl _)⟩

end Recording

/-- The bridge and a recording host stay in step.  Whatever is done, and whichever operations the
host is told to fail in between, the recording lists every message of the bridge once and in order.
For each widget accepted mounts and unmounts alternate, a mount first, and there is one accepted
mount more for each mounted widget than there are unmounts.  Mounted widgets are alive on the host,
and nothing else is unless an unmount was rejected.  The counts of the bridge are the counts of the
recording. -/
theorem recording_agrees {sink : ChordSink} {publishes : Bool} {app : S} {session : Session κ S}
    (reaches : (Session.fresh sink (.fresh .recording publishes) app).Reaches
      (fun request => request.keepsRecording = true) session) (willing : session.HostWilling) :
    InStep session.bridge session.host.recording session.sent := by
  have hfresh : Recorded none (Session.fresh (κ := κ) sink (.fresh .recording publishes) app) :=
    ⟨.of_free rfl rfl, fun _ _ => .fresh publishes⟩
  obtain ⟨_, rfl, recorded⟩ := Recording.governs.reaches ⟨none, rfl, hfresh⟩ reaches
  exact recorded.inStep rfl willing

/-- A session in which a widget is left on the host: its mount was rejected once and accepted then,
and its unmount was rejected. -/
def Session.strandedSession : Session Empty Unit :=
  ((Request.unmount "a").perform.run (Code.plain.caller 1)
    ((Request.failOp .unmount).perform.run (Code.plain.caller 1)
      ((Request.mount "a" (Node.ofKind .view) .root).perform.run (Code.plain.caller 1)
        ((Request.recoverOp .mount).perform.run (Code.plain.caller 1)
          ((Request.mount "a" (Node.ofKind .view) .root).perform.run (Code.plain.caller 1)
            ((Request.failOp .mount).perform.run (Code.plain.caller 1)
              recordingSession).2).2).2).2).2).2

/-- Both accounts tell of three messages, two of them rejected, and of one life that has ended. -/
theorem recording_agrees_stranded :
    InStep Session.strandedSession.bridge Session.strandedSession.host.recording
        Session.strandedSession.sent ∧
      Session.strandedSession.bridge.isMounted "a" = false ∧
      Session.strandedSession.host.recording.live.contains "a" = true ∧
      Session.strandedSession.sent.map SentMessage.accepted = [false, true, false] ∧
      Session.strandedSession.sent.filterMap (SentMessage.life? "a") = [true, false] := by
  have within := Code.within_plain (S := Unit) fun request => request.keepsRecording = true
  have reaches : Session.recordingSession.Reaches (fun request => request.keepsRecording = true)
      Session.strandedSession :=
    .act (.request (.unmount "a") rfl) within <| .act (.request (.failOp .unmount) rfl) within <|
      .act (.request (.mount "a" (Node.ofKind .view) .root) rfl) within <|
      .act (.request (.recoverOp .mount) rfl) within <|
      .act (.request (.mount "a" (Node.ofKind .view) .root) rfl) within <|
      .act (.request (.failOp .mount) rfl) within .refl
  have willing : Session.strandedSession.HostWilling := by
    unfold Session.HostWilling
    decide
  exact ⟨recording_agrees reaches willing, by decide, by decide, by decide, by decide⟩

end EditorShell
