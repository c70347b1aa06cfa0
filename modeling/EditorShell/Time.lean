import EditorShell.Decimal.Digits

/-!
# Time

The shell's timeline counts whole milliseconds from the moment it starts, and its last instant is
`2 ^ 64 - 1`.  All arithmetic stops at the two ends of the timeline instead of leaving it.

A deadline is an instant; it is due from that instant on.
-/

namespace EditorShell

/-- The largest count of milliseconds, both for instants and for spans of time. -/
def latestMillis : Nat := Nat.pow 2 64 - 1

/-- A span of time. -/
structure Duration where
  millis : Nat
  deriving DecidableEq

/-- A point in time, counted from the start of the clock. -/
structure Instant where
  millis : Nat
  deriving DecidableEq

namespace Duration

/-- The sum of two spans, at most the longest one. -/
def plus (first second : Duration) : Duration := ⟨min (first.millis + second.millis) latestMillis⟩

/-- What is left of a span when another one is taken away, at least nothing. -/
def minus (first second : Duration) : Duration := ⟨first.millis - second.millis⟩

/-- A number of seconds, at most the longest span. -/
def ofSeconds (seconds : Nat) : Duration := ⟨min (seconds * 1000) latestMillis⟩

/-- A number of microseconds; a fraction of a millisecond is dropped. -/
def ofMicroseconds (micros : Nat) : Duration := ⟨micros / 1000⟩

/-- The number of whole seconds in a span. -/
def wholeSeconds (span : Duration) : Nat := span.millis / 1000

/-- The number of milliseconds with the unit, as in `150ms`. -/
def text (span : Duration) : String := Decimal.text span.millis ++ "ms"

end Duration

namespace Instant

/-- The first instant. -/
def start : Instant := ⟨0⟩

/-- The instant a span of time later, at most the last one. -/
def after (now : Instant) (span : Duration) : Instant :=
  ⟨min (now.millis + span.millis) latestMillis⟩

/-- The instant a span of time earlier, at least the start. -/
def before (now : Instant) (span : Duration) : Instant := ⟨now.millis - span.millis⟩

/-- The time from `earlier` to `now`; nothing if `earlier` is the later one. -/
def since (now earlier : Instant) : Duration := ⟨now.millis - earlier.millis⟩

/-- Whether a deadline has come. -/
def isDueAt (deadline now : Instant) : Bool := decide (deadline.millis ≤ now.millis)

/-- The time until the deadline; `none` once it is due. -/
def timeLeft? (deadline now : Instant) : Option Duration :=
  if deadline.isDueAt now then none else some (deadline.since now)

/-- The distance from the start with its unit, as in `t+150ms`. -/
def text (now : Instant) : String := "t+" ++ Decimal.text now.millis ++ "ms"

@[simp]
theorem start_isDueAt (now : Instant) : start.isDueAt now = true := by
  simp [isDueAt, start]

end Instant

end EditorShell
