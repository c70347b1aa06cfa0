import EditorShell.Proofs.Run.Operations
import Mathlib.Data.List.Chain

/-!
# The bridge's account of its messages

Two parties keep account of the messages that the bridge sends.  The bridge counts them and keeps a
table of mounted widgets; a recording host lists them and keeps a table of live widgets.  `InStep`
says how both accounts follow from the messages and their answers.

The tables can differ.  A rejected mount changes neither of them, but a rejected unmount leaves the
widget on the host although the bridge has forgotten it.

## Strategy

A message adds one entry to either account (`Bridge.Books`, `Recording.Books`), whatever the message
and its answer are, and an entry keeps the accounts in step (`InStep.next`).  What a message means
for a widget is said once, by `SentMessage.life?`.
-/

namespace EditorShell

/-- A message that the bridge has sent. -/
structure SentMessage where
  message : HostMessage
  /-- Whether the host accepted it. -/
  accepted : Bool
  deriving DecidableEq

namespace SentMessage

/-- Whether a message begins the life of a widget (`true`) or ends it (`false`).  A mount counts if
it was accepted, an unmount always. -/
def life? (id : NodeId) : SentMessage → Option Bool
  | ⟨.mount node, true⟩ => if node.id = id then some true else none
  | ⟨.unmount node, _⟩ => if node.id = id then some false else none
  | _ => none

/-- Whether a message is an accepted mount. -/
def begins : SentMessage → Bool
  | ⟨.mount _, true⟩ => true
  | _ => false

/-- Whether a message is an unmount. -/
def ends : SentMessage → Bool
  | ⟨.unmount _, _⟩ => true
  | _ => false

/-- Messages that only speak to a widget end no life and begin none. -/
theorem life?_eq_none {message : HostMessage} (hplacing : message.isPlacing = false)
    (accepted : Bool) (id : NodeId) : (mk message accepted).life? id = none := by
  cases message <;> first | rfl | cases hplacing

theorem begins_eq_false {message : HostMessage} (hplacing : message.isPlacing = false)
    (accepted : Bool) : (mk message accepted).begins = false := by
  cases message <;> first | rfl | cases hplacing

theorem ends_eq_false {message : HostMessage} (hplacing : message.isPlacing = false)
    (accepted : Bool) : (mk message accepted).ends = false := by
  cases message <;> first | rfl | cases hplacing

end SentMessage

/-- Beginnings (`true`) and ends (`false`) alternate, a beginning first. -/
def Alternate (events : List Bool) : Prop := (false :: events).IsChain (· ≠ ·)

/-- The event that comes next begins what has ended, or ends what has begun. -/
theorem Alternate.append {events : List Bool} {alive next : Bool} (alternate : Alternate events)
    (hlast : (false :: events).getLast? = some alive) (hnext : alive = !next) :
    Alternate (events ++ [next]) := by
  unfold Alternate
  rw [← List.cons_append, List.isChain_append]
  refine ⟨alternate, List.isChain_singleton next, fun last hmem first hfirst => ?_⟩
  rw [hlast] at hmem
  obtain rfl : alive = last := Option.some.inj hmem
  obtain rfl : next = first := Option.some.inj hfirst
  cases next <;> simp [hnext]

/-! ## One message -/

namespace BridgeStats

theorem ofOp_count (stats : BridgeStats) (counted op : HostOp) :
    (stats.count counted).ofOp op = stats.ofOp op + if counted = op then 1 else 0 := by
  cases counted <;> cases op <;> rfl

theorem hostFailures_count (stats : BridgeStats) (op : HostOp) :
    (stats.count op).hostFailures = stats.hostFailures := by
  cases op <;> rfl

end BridgeStats

/-- The bridge has booked a message. -/
structure Bridge.Books {ι : Type} (before : Bridge ι) (sent : SentMessage) (after : Bridge ι) :
    Prop where
  ofOp_eq : ∀ op, after.stats.ofOp op =
    before.stats.ofOp op + if sent.message.op = op then 1 else 0
  hostFailures_eq : after.stats.hostFailures =
    before.stats.hostFailures + if sent.accepted then 0 else 1
  /-- Only what is not mounted can begin, and only what is mounted can end. -/
  isMounted_before : ∀ id alive, sent.life? id = some alive → before.isMounted id = !alive
  isMounted_after : ∀ id, after.isMounted id = (sent.life? id).getD (before.isMounted id)
  size_eq : after.mounted.size + (if sent.ends then 1 else 0) =
    before.mounted.size + if sent.begins then 1 else 0

namespace Bridge

variable {ι : Type} (bridge : Bridge ι)

/-- The state of the bridge after a message, before anything is done about the answer. -/
def answered (sent : SentMessage) : Bridge ι :=
  (bridge.countCall sent.message.op).countAnswer sent.accepted

variable (sent : SentMessage)

theorem ofOp_answered (op : HostOp) : (bridge.answered sent).stats.ofOp op =
    bridge.stats.ofOp op + if sent.message.op = op then 1 else 0 := by
  obtain ⟨message, accepted⟩ := sent
  rw [← BridgeStats.ofOp_count]
  cases accepted
  · cases op <;> rfl
  · rfl

theorem hostFailures_answered : (bridge.answered sent).stats.hostFailures =
    bridge.stats.hostFailures + if sent.accepted then 0 else 1 := by
  obtain ⟨message, accepted⟩ := sent
  rw [← BridgeStats.hostFailures_count bridge.stats message.op]
  cases accepted <;> rfl

@[simp]
theorem mounted_answered : (bridge.answered sent).mounted = bridge.mounted :=
  mounted_countAnswer _ _

variable {bridge} {sent}

/-- A message without a life needs no more than to be counted. -/
theorem books_answered (hlife : ∀ id, sent.life? id = none) (hbegins : sent.begins = false)
    (hends : sent.ends = false) : bridge.Books sent (bridge.answered sent) where
  ofOp_eq := bridge.ofOp_answered sent
  hostFailures_eq := bridge.hostFailures_answered sent
  isMounted_before id alive halive := by
    rw [hlife] at halive
    cases halive
  isMounted_after id := by
    rw [hlife]
    exact isMounted_congr (by rw [mounted_answered])
  size_eq := by
    rw [hbegins, hends, mounted_answered]

/-- A mount that was accepted is recorded. -/
theorem books_recordMount (node : HostNode) {kind : WidgetKind} {placement : Placement}
    {handlers : Interaction → Option ι} (hnew : bridge.isMounted node.id = false) :
    bridge.Books ⟨.mount node, true⟩
      ((bridge.answered ⟨.mount node, true⟩).recordMount node.id kind placement handlers) where
  ofOp_eq := bridge.ofOp_answered _
  hostFailures_eq := bridge.hostFailures_answered _
  isMounted_before id alive halive := by
    simp only [SentMessage.life?, Option.ite_none_right_eq_some, Option.some.injEq] at halive
    obtain ⟨rfl, rfl⟩ := halive
    exact hnew
  isMounted_after id := by
    rw [isMounted_recordMount]
    by_cases hid : node.id = id
    · simp [SentMessage.life?, hid]
    · simp [SentMessage.life?, hid, Ne.symm hid, isMounted]
  size_eq := Table.size_insert hnew _

/-- A widget is forgotten before its unmount is sent, and whatever the answer is. -/
theorem books_evict {node : HostNode} {accepted : Bool}
    (hmounted : bridge.isMounted node.id = true) :
    bridge.Books ⟨.unmount node, accepted⟩
      ((bridge.evict node.id).answered ⟨.unmount node, accepted⟩) where
  ofOp_eq := ofOp_answered _ _
  hostFailures_eq := hostFailures_answered _ _
  isMounted_before id alive halive := by
    simp only [SentMessage.life?, Option.ite_none_right_eq_some, Option.some.injEq] at halive
    obtain ⟨rfl, rfl⟩ := halive
    exact hmounted
  isMounted_after id := by
    have hanswered : ((bridge.evict node.id).answered ⟨.unmount node, accepted⟩).isMounted id =
        (bridge.evict node.id).isMounted id := isMounted_congr (by rw [mounted_answered])
    rw [hanswered, isMounted_evict]
    by_cases hid : node.id = id
    · simp [SentMessage.life?, hid]
    · simp [SentMessage.life?, hid, Ne.symm hid]
  size_eq := by
    rw [mounted_answered]
    exact Table.size_erase hmounted

/-- Forgetting a widget that is not mounted forgets no mounted one. -/
theorem alike_evict {id : NodeId} (hunmounted : bridge.isMounted id = false) :
    (bridge.evict id).Alike bridge := by
  have hmounted : (bridge.evict id).mounted = bridge.mounted := by
    ext1 other
    refine (Table.get?_erase _ _ _).trans ?_
    split
    · rename_i heq
      rw [heq, Table.contains_eq_false_iff.1 hunmounted]
    · rfl
  exact ⟨by rw [hmounted], fun _ => rfl, rfl⟩

end Bridge

/-- A recording host has booked a message. -/
structure Recording.Books (before : Recording) (sent : SentMessage) (after : Recording) : Prop where
  calls_eq : after.calls = before.calls ++ [sent.message]
  contains_live : ∀ id, after.live.contains id =
    if sent.accepted then (sent.life? id).getD (before.live.contains id)
    else before.live.contains id

/-- What a host books depends on its own account. -/
theorem Recording.Books.congr {before before' after after' : Recording} {sent : SentMessage}
    (books : before.Books sent after) (hcalls : before.calls = before'.calls)
    (hlive : before.live = before'.live) (hafter : after' = after) : before'.Books sent after' where
  calls_eq := by
    rw [hafter, books.calls_eq, hcalls]
  contains_live id := by
    rw [hafter, books.contains_live, hlive]

/-- A recording host books every message that it gets, and says whether it accepts it. -/
theorem Recording.books_take (recording : Recording) (slots : HandleSlots) (message : HostMessage) :
    recording.Books ⟨message, (recording.take slots message).1.isOk⟩
      (recording.take slots message).2.1 := by
  unfold Recording.take
  dsimp only
  split
  · exact ⟨rfl, fun id => rfl⟩
  · refine ⟨?_, fun id => ?_⟩
    · cases message <;> simp only [Recording.perform]
      split <;> rfl
    · -- Only mounts and unmounts change what is live, and each of them for the widget that it
      -- names.
      cases message with
      | mount node =>
          rw [Recording.perform, Table.contains_insert]
          by_cases hid : node.id = id
          · simp [SentMessage.life?, Except.isOk, Except.toBool, hid]
          · simp [SentMessage.life?, Except.isOk, Except.toBool, hid, Ne.symm hid]
      | unmount node =>
          rw [Recording.perform, Table.contains_erase]
          by_cases hid : node.id = id
          · simp [SentMessage.life?, Except.isOk, Except.toBool, hid]
          · simp [SentMessage.life?, Except.isOk, Except.toBool, hid, Ne.symm hid]
      | requestHandle target =>
          simp only [Recording.perform]
          split <;> rfl
      | update node => rfl
      | invoke handle command => rfl

theorem Host.isOk_take {host : Host} (hkind : host.kind = .recording) (slots : HandleSlots)
    (message : HostMessage) :
    (host.take slots message).1.isOk = (host.recording.take slots message).1.isOk := by
  unfold Host.take
  rw [hkind]

theorem Host.recording_take {host : Host} (hkind : host.kind = .recording) (slots : HandleSlots)
    (message : HostMessage) : (host.take slots message).2.1.kind = .recording ∧
      (host.take slots message).2.1.recording = (host.recording.take slots message).2.1 := by
  unfold Host.take
  rw [hkind]
  exact ⟨rfl, rfl⟩

/-! ## All messages -/

/-- The accounts of the bridge and of a recording host tell of the messages that were sent. -/
structure InStep {ι : Type} (bridge : Bridge ι) (recording : Recording) (sent : List SentMessage) :
    Prop where
  calls_eq : recording.calls = sent.map SentMessage.message
  ofOp_eq : ∀ op, bridge.stats.ofOp op = recording.calls.countP fun message => message.op == op
  hostFailures_eq : bridge.stats.hostFailures = sent.countP fun entry => !entry.accepted
  alternate : ∀ id, Alternate (sent.filterMap (SentMessage.life? id))
  /-- The latest life of a widget that is mounted has not ended. -/
  isMounted_last : ∀ id,
    (false :: sent.filterMap (SentMessage.life? id)).getLast? = some (bridge.isMounted id)
  live_of_mounted : ∀ id, bridge.isMounted id = true → recording.live.contains id = true
  live_eq : (∀ entry ∈ sent, entry.ends = true → entry.accepted = true) →
    ∀ id, recording.live.contains id = bridge.isMounted id
  size_eq : bridge.mounted.size + sent.countP SentMessage.ends = sent.countP SentMessage.begins

namespace InStep

variable {ι : Type} {bridge bridge' : Bridge ι} {recording recording' : Recording}
  {sent : List SentMessage}

theorem fresh (publishes : Bool) : InStep (.empty : Bridge ι) (.fresh publishes) [] where
  calls_eq := rfl
  ofOp_eq op := by cases op <;> rfl
  hostFailures_eq := rfl
  alternate _ := List.isChain_singleton false
  isMounted_last _ := rfl
  live_of_mounted _ hmounted := by cases hmounted
  live_eq _ _ := rfl
  size_eq := rfl

/-- The accounts depend on which widgets are mounted, and not on what is recorded of them. -/
theorem congr (inStep : InStep bridge recording sent) (alike : bridge'.Alike bridge)
    (hcalls : recording'.calls = recording.calls) (hlive : recording'.live = recording.live) :
    InStep bridge' recording' sent := by
  have hmounted : ∀ id, bridge'.isMounted id = bridge.isMounted id := by
    intro id
    rw [Bool.eq_iff_iff]
    unfold Bridge.isMounted
    rw [← Table.mem_names_iff, ← Table.mem_names_iff, alike.names_eq]
  have hsize : bridge'.mounted.size = bridge.mounted.size := by
    rw [← Table.length_names, ← Table.length_names, alike.names_eq]
  refine ⟨?_, fun op => ?_, ?_, inStep.alternate, fun id => ?_, fun id => ?_,
    fun haccepted id => ?_, ?_⟩
  · rw [hcalls, inStep.calls_eq]
  · rw [alike.ofOp_eq, hcalls, inStep.ofOp_eq]
  · rw [alike.hostFailures_eq, inStep.hostFailures_eq]
  · rw [hmounted, inStep.isMounted_last]
  · rw [hmounted, hlive]
    exact inStep.live_of_mounted id
  · rw [hmounted, hlive]
    exact inStep.live_eq haccepted id
  · rw [hsize, inStep.size_eq]

/-- The accounts stay in step when both book the next message. -/
theorem next (inStep : InStep bridge recording sent) {entry : SentMessage}
    (hbridge : bridge.Books entry bridge') (hrecording : recording.Books entry recording') :
    InStep bridge' recording' (sent ++ [entry]) where
  calls_eq := by
    rw [hrecording.calls_eq, inStep.calls_eq, List.map_append]
    rfl
  ofOp_eq op := by
    rw [hbridge.ofOp_eq, inStep.ofOp_eq, hrecording.calls_eq, List.countP_append,
      List.countP_singleton]
    simp only [beq_iff_eq]
  hostFailures_eq := by
    rw [hbridge.hostFailures_eq, inStep.hostFailures_eq, List.countP_append, List.countP_singleton]
    cases entry.accepted <;> rfl
  alternate id := by
    rw [List.filterMap_append]
    cases hlife : entry.life? id with
    | none => simpa [hlife] using inStep.alternate id
    | some alive =>
        have hnext := hbridge.isMounted_before id alive hlife
        simpa [hlife] using (inStep.alternate id).append (inStep.isMounted_last id) hnext
  isMounted_last id := by
    rw [List.filterMap_append, hbridge.isMounted_after]
    cases hlife : entry.life? id with
    | none => simpa [hlife] using inStep.isMounted_last id
    | some alive =>
        simp only [List.filterMap_cons, List.filterMap_nil, hlife, Option.getD_some]
        rw [← List.cons_append, List.getLast?_concat]
  live_of_mounted id hmounted := by
    rw [hbridge.isMounted_after] at hmounted
    rw [hrecording.contains_live]
    cases hlife : entry.life? id with
    | none =>
        rw [hlife] at hmounted
        rw [Option.getD_none, ite_self]
        exact inStep.live_of_mounted id hmounted
    | some alive =>
        -- Only an accepted mount begins a life.
        obtain rfl : alive = true := by
          rw [hlife] at hmounted
          exact hmounted
        have haccepted : entry.accepted = true := by
          obtain ⟨message, accepted⟩ := entry
          cases message <;> cases accepted <;> simp [SentMessage.life?] at hlife ⊢
        rw [haccepted]
        rfl
  live_eq haccepted id := by
    have hsent := inStep.live_eq (fun entry hentry => haccepted entry (by simp [hentry])) id
    rw [hbridge.isMounted_after, hrecording.contains_live, ← hsent]
    cases hlife : entry.life? id with
    | none => rw [Option.getD_none, ite_self]
    | some alive =>
        -- A rejected message that counts is an unmount, and none was rejected.
        have hentry : entry.accepted = true := by
          have hends := haccepted entry (by simp)
          obtain ⟨message, accepted⟩ := entry
          cases message <;> cases accepted <;> simp_all [SentMessage.life?, SentMessage.ends]
        rw [hentry]
        rfl
  size_eq := by
    have hsize := hbridge.size_eq
    have hcount := inStep.size_eq
    rw [List.countP_append, List.countP_append, List.countP_singleton, List.countP_singleton]
    omega

end InStep

end EditorShell
