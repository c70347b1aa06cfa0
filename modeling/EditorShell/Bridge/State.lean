import EditorShell.Host.Message
import EditorShell.Sorting
import EditorShell.Task.Scheduler

/-!
# What the bridge knows about mounted widgets

The bridge keeps declared nodes and host widgets in step.  It never compares attributes.  For each
mounted id it knows the place and the depth, the handlers of the latest accepted node, the handle
once one has been resolved, and whether a request for a handle is under way.

The five tables are separate because a host that calls back while it is being called can change one
of them between two steps of an operation.

`ι` is the type of handlers.
-/

namespace EditorShell

/-- What is recorded of a mounted widget. -/
structure MountRecord where
  kind : WidgetKind
  /-- Its latest place. -/
  placement : Placement
  /-- Its distance from the root at its latest place. -/
  depth : Nat
  deriving DecidableEq

/-- Counts of host calls by operation, and of failures. -/
structure BridgeStats where
  mounts : Nat
  updates : Nat
  unmounts : Nat
  handleRequests : Nat
  invokes : Nat
  /-- Handles picked up for a mounted widget. -/
  handlesResolved : Nat
  /-- Host calls that were not accepted. -/
  hostFailures : Nat
  /-- Handlers that panicked. -/
  handlerFailures : Nat
  deriving DecidableEq

namespace BridgeStats

/-- The counts before anything has happened. -/
def zero : BridgeStats := ⟨0, 0, 0, 0, 0, 0, 0, 0⟩

/-- Counts a message by what it asks of the host. -/
def count (stats : BridgeStats) : HostOp → BridgeStats
  | .mount => { stats with mounts := stats.mounts + 1 }
  | .update => { stats with updates := stats.updates + 1 }
  | .unmount => { stats with unmounts := stats.unmounts + 1 }
  | .requestHandle => { stats with handleRequests := stats.handleRequests + 1 }
  | .invoke => { stats with invokes := stats.invokes + 1 }

end BridgeStats

/-- What one render did. -/
structure RenderReport where
  /-- The ids that were mounted, parents before children. -/
  mounted : List NodeId
  updated : Nat
  /-- The ids that were unmounted, children before parents. -/
  unmounted : List NodeId
  /-- The number of nodes skipped because their id had come earlier. -/
  duplicates : Nat
  deriving DecidableEq

/-- What the bridge knows of the widgets it has mounted. -/
structure Bridge (ι : Type) where
  mounted : Table MountRecord
  handles : Table WidgetHandle
  /-- The handlers of the latest accepted nodes. -/
  handlers : Table (Interaction → Option ι)
  /-- The jobs that will pick up requested handles. -/
  pending : Table TaskId
  /-- The ids for which an update has already asked for a handle. -/
  requested : Table Unit
  stats : BridgeStats

namespace Bridge

variable {ι : Type}

/-- A bridge that has mounted nothing. -/
def empty : Bridge ι := ⟨.empty, .empty, .empty, .empty, .empty, .zero⟩

/-- Whether a widget stands under this id. -/
def isMounted (bridge : Bridge ι) (id : NodeId) : Bool := bridge.mounted.contains id

/-- The depth of a widget at a place: one below its parent, or zero without a mounted parent. -/
def depthAt (bridge : Bridge ι) (placement : Placement) : Nat :=
  match placement.parent.bind bridge.mounted.get? with
  | some record => record.depth + 1
  | none => 0

/-- The parent under which a widget was placed last, if it has one. -/
def parentOf? (mounted : Table MountRecord) (id : NodeId) : Option NodeId :=
  (mounted.get? id).bind fun record => record.placement.parent

/-- Whether `ancestor` is met on the way up from `current`; the first argument bounds the number of
widgets looked at. -/
def meets (mounted : Table MountRecord) (ancestor : NodeId) : Nat → Option NodeId → Bool
  | 0, _ => false
  | _, none => false
  | more + 1, some current =>
    current == ancestor || meets mounted ancestor more (parentOf? mounted current)

/-- Whether a mounted widget has `ancestor` above it.  More steps than there are mounted widgets
lead nowhere new. -/
def descendsFrom (mounted : Table MountRecord) (id ancestor : NodeId) : Bool :=
  meets mounted ancestor (mounted.size + 1) (parentOf? mounted id)

/-- Whether a widget comes no later in an unmount: the deeper first, and by id at the same depth. -/
def unmountsBefore (first second : NodeId × MountRecord) : Bool :=
  second.2.depth < first.2.depth || (first.2.depth == second.2.depth && first.1 ≤ second.1)

/-- The mounted ids that `doomed` selects, in the order in which they are unmounted. -/
def unmountOrder (bridge : Bridge ι) (doomed : NodeId → Bool) : List NodeId :=
  (Sorting.sort unmountsBefore (bridge.mounted.entries.filter fun entry => doomed entry.1)).map
    Prod.fst

/-- The ids of a widget and of everything mounted below it, deeper ones first. -/
def subtree (bridge : Bridge ι) (id : NodeId) : List NodeId :=
  bridge.unmountOrder fun other => other == id || descendsFrom bridge.mounted other id

/-- Forgets all that is known of an id. -/
def evict (bridge : Bridge ι) (id : NodeId) : Bridge ι :=
  { bridge with
    mounted := bridge.mounted.erase id
    handles := bridge.handles.erase id
    handlers := bridge.handlers.erase id
    pending := bridge.pending.erase id
    requested := bridge.requested.erase id }

/-- Notes an accepted mount, with the handlers that the node brings. -/
def recordMount (bridge : Bridge ι) (id : NodeId) (kind : WidgetKind) (placement : Placement)
    (handlers : Interaction → Option ι) : Bridge ι :=
  { bridge with
    mounted := bridge.mounted.insert id ⟨kind, placement, bridge.depthAt placement⟩
    handlers := bridge.handlers.insert id handlers }

/-- Notes the placement of a widget that an accepted update gave. -/
def place (bridge : Bridge ι) (id : NodeId) (placement : Placement) : Bridge ι :=
  let depth := bridge.depthAt placement
  { bridge with
    mounted := bridge.mounted.modify id fun record =>
      { record with placement := placement, depth := depth } }

/-- Whether an update of a mounted widget should ask for a handle. -/
def wantsHandle (bridge : Bridge ι) (id : NodeId) : Bool :=
  !bridge.handles.contains id && !bridge.pending.contains id && !bridge.requested.contains id

/-- Counts a message that is about to be handed to the host. -/
def countCall (bridge : Bridge ι) (op : HostOp) : Bridge ι :=
  { bridge with stats := bridge.stats.count op }

/-- Counts a host call that was not accepted. -/
def countAnswer (bridge : Bridge ι) (accepted : Bool) : Bridge ι :=
  if accepted then bridge
  else { bridge with stats := { bridge.stats with hostFailures := bridge.stats.hostFailures + 1 } }

/-- Counts a handler that panicked. -/
def countHandlerFailure (bridge : Bridge ι) : Bridge ι :=
  { bridge with stats := { bridge.stats with handlerFailures := bridge.stats.handlerFailures + 1 } }

/-- Ends the request for a handle; a handle that was published is kept if the widget is mounted. -/
def settle (bridge : Bridge ι) (id : NodeId) (published? : Option WidgetHandle) : Bridge ι :=
  let bridge := { bridge with pending := bridge.pending.erase id }
  match published? with
  | some handle =>
    if bridge.isMounted id then
      { bridge with
        handles := bridge.handles.insert id handle
        stats := { bridge.stats with handlesResolved := bridge.stats.handlesResolved + 1 } }
    else bridge
  | none => bridge

/-! ## What the operations do to the tables -/

theorem isMounted_congr {first second : Bridge ι} {id : NodeId}
    (hget : first.mounted.get? id = second.mounted.get? id) :
    first.isMounted id = second.isMounted id := by
  unfold isMounted Table.contains
  rw [hget]

theorem depthAt_congr {first second : Bridge ι} (hmounted : first.mounted = second.mounted)
    (placement : Placement) : first.depthAt placement = second.depthAt placement := by
  unfold depthAt
  rw [hmounted]

@[simp]
theorem mounted_countCall (bridge : Bridge ι) (op : HostOp) :
    (bridge.countCall op).mounted = bridge.mounted := rfl

@[simp]
theorem mounted_countAnswer (bridge : Bridge ι) (accepted : Bool) :
    (bridge.countAnswer accepted).mounted = bridge.mounted := by
  cases accepted <;> rfl

theorem countAnswer_eq (bridge : Bridge ι) (accepted : Bool) :
    bridge.countAnswer accepted = { bridge with stats := (bridge.countAnswer accepted).stats } := by
  cases accepted <;> rfl

theorem get?_place (bridge : Bridge ι) (id : NodeId) (placement : Placement) (other : NodeId) :
    (bridge.place id placement).mounted.get? other =
      if other = id then
        (bridge.mounted.get? id).map fun record =>
          { record with placement := placement, depth := bridge.depthAt placement }
      else bridge.mounted.get? other :=
  Table.get?_modify _ _ _ _

@[simp]
theorem isMounted_place (bridge : Bridge ι) (id : NodeId) (placement : Placement) (other : NodeId) :
    (bridge.place id placement).isMounted other = bridge.isMounted other :=
  Table.contains_modify _ _ _ _

theorem isMounted_recordMount (bridge : Bridge ι) (id : NodeId) (kind : WidgetKind)
    (placement : Placement) (handlers : Interaction → Option ι) (other : NodeId) :
    (bridge.recordMount id kind placement handlers).isMounted other =
      (other == id || bridge.isMounted other) :=
  Table.contains_insert _ _ _ _

theorem isMounted_evict (bridge : Bridge ι) (id other : NodeId) :
    (bridge.evict id).isMounted other = (other != id && bridge.isMounted other) :=
  Table.contains_erase _ _ _

/-- The end of a request touches the pending requests, the handles and the counts only. -/
theorem exists_settle_eq (bridge : Bridge ι) (id : NodeId) (published? : Option WidgetHandle) :
    ∃ handles stats, bridge.settle id published? =
      { bridge with pending := bridge.pending.erase id, handles := handles, stats := stats } := by
  unfold settle
  cases published? with
  | none => exact ⟨_, _, rfl⟩
  | some handle =>
      dsimp only
      split <;> exact ⟨_, _, rfl⟩

@[simp]
theorem mounted_settle (bridge : Bridge ι) (id : NodeId) (published? : Option WidgetHandle) :
    (bridge.settle id published?).mounted = bridge.mounted := by
  obtain ⟨handles, stats, hsettle⟩ := bridge.exists_settle_eq id published?
  rw [hsettle]

theorem pending_settle (bridge : Bridge ι) (id : NodeId) (published? : Option WidgetHandle) :
    (bridge.settle id published?).pending = bridge.pending.erase id := by
  obtain ⟨handles, stats, hsettle⟩ := bridge.exists_settle_eq id published?
  rw [hsettle]

theorem handlers_settle (bridge : Bridge ι) (id : NodeId) (published? : Option WidgetHandle) :
    (bridge.settle id published?).handlers = bridge.handlers := by
  obtain ⟨handles, stats, hsettle⟩ := bridge.exists_settle_eq id published?
  rw [hsettle]

theorem requested_settle (bridge : Bridge ι) (id : NodeId) (published? : Option WidgetHandle) :
    (bridge.settle id published?).requested = bridge.requested := by
  obtain ⟨handles, stats, hsettle⟩ := bridge.exists_settle_eq id published?
  rw [hsettle]

/-- A handle is kept if one was published and the widget is mounted. -/
theorem get?_handles_settle (bridge : Bridge ι) (id : NodeId) (published? : Option WidgetHandle)
    (other : NodeId) : (bridge.settle id published?).handles.get? other =
      if other = id ∧ published?.isSome ∧ bridge.isMounted id = true then published?
      else bridge.handles.get? other := by
  unfold settle
  cases published? with
  | none => simp
  | some handle =>
      dsimp only
      by_cases hmounted : bridge.isMounted id = true
      · rw [if_pos (show isMounted { bridge with pending := bridge.pending.erase id } id = true from
          hmounted)]
        dsimp only
        rw [Table.get?_insert]
        simp [hmounted]
      · rw [if_neg (show ¬ isMounted { bridge with pending := bridge.pending.erase id } id = true
          from hmounted)]
        simp [hmounted]

end Bridge

end EditorShell
