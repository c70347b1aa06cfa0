/-!
# Cancellation

A cancellation is a flag that is raised once and never lowered.  Whoever raises it gives a reason,
and the first reason is the one that stays (`Cancellation.cancel_cancel`).
-/

namespace EditorShell

/-- Why a piece of work was cancelled. -/
inductive CancellationReason where
  | requested
  /-- A newer request replaced this one. -/
  | superseded
  /-- The node the work aimed at was unmounted. -/
  | targetUnmounted
  | shutdown
  | custom (text : String)
  deriving DecidableEq

/-- What a reason reads as in a message. -/
def CancellationReason.message : CancellationReason → String
  | requested => "cancellation requested"
  | superseded => "superseded by a newer request"
  | targetUnmounted => "target unmounted"
  | shutdown => "shutdown"
  | custom text => text

/-- A flag that work looks at to learn that it is no longer wanted. -/
structure Cancellation where
  /-- The reason given first, once the flag is raised. -/
  reason? : Option CancellationReason
  deriving DecidableEq

namespace Cancellation

/-- A flag that has not been raised. -/
def fresh : Cancellation := ⟨none⟩

/-- Raises the flag; a flag that is raised already keeps its reason. -/
def cancel (flag : Cancellation) (reason : CancellationReason) : Cancellation :=
  match flag.reason? with
  | none => ⟨some reason⟩
  | some _ => flag

/-- Whether the flag has been raised. -/
def isCancelled (flag : Cancellation) : Bool := flag.reason?.isSome

/-- The message of what gives up because the flag is raised. -/
def failure? (flag : Cancellation) : Option String :=
  flag.reason?.map fun reason => "operation was cancelled: " ++ reason.message

@[simp]
theorem isCancelled_cancel (flag : Cancellation) (reason : CancellationReason) :
    (flag.cancel reason).isCancelled = true := by
  unfold cancel isCancelled
  split
  · rfl
  · rename_i hreason
    rw [hreason]
    rfl

/-- The first reason wins. -/
theorem cancel_cancel (flag : Cancellation) (first second : CancellationReason) :
    (flag.cancel first).cancel second = flag.cancel first := by
  unfold cancel
  cases hreason : flag.reason? <;> simp [hreason]

end Cancellation

end EditorShell
