import EditorShell.Keymap
import EditorShell.Table

/-!
# Key bindings

Each chord has at most one binding; the last one made counts.  Bindings are listed in the order of
the canonical texts of their chords.

Hosts may deliver one press twice.  The dispatcher remembers the chord it dispatched last and when;
the same chord within the window after that is a repeat.  Only dispatches count: a repeat does not
extend the window.
-/

namespace EditorShell

/-- Why a binding is refused. -/
inductive KeybindingError where
  | invalidChord (cause : ChordError)
  deriving DecidableEq

/-- What is wrong with a binding. -/
def KeybindingError.message : KeybindingError → String
  | invalidChord cause => "invalid chord: " ++ cause.message

/-- The bindings and the last dispatch. -/
structure KeyDispatcher where
  /-- How long a repeated chord counts as the same press. -/
  window : Duration
  /-- The bindings by the canonical texts of their chords. -/
  bindings : Table KeyBinding
  /-- The chord dispatched last, and when. -/
  lastDispatch? : Option (Chord × Instant)

namespace KeyDispatcher

/-- A dispatcher without bindings that has dispatched nothing. -/
def ofWindow (window : Duration) : KeyDispatcher := ⟨window, .empty, none⟩

/-- The binding of a chord. -/
def binding? (keys : KeyDispatcher) (chord : Chord) : Option KeyBinding :=
  keys.bindings.get? chord.text

/-- Makes a binding, replacing that of the same chord. -/
def bind (keys : KeyDispatcher) (binding : KeyBinding) : KeyDispatcher :=
  { keys with bindings := keys.bindings.insert binding.keys.text binding }

/-- Removes the binding of a chord. -/
def unbind (keys : KeyDispatcher) (chord : Chord) : KeyDispatcher :=
  { keys with bindings := keys.bindings.erase chord.text }

/-- Makes bindings in order, so the last one of a chord stays. -/
def load (keys : KeyDispatcher) (bindings : List KeyBinding) : KeyDispatcher :=
  bindings.foldl bind keys

/-- Whether a chord at this moment repeats the last dispatch. -/
def isRepeat (keys : KeyDispatcher) (chord : Chord) (now : Instant) : Bool :=
  match keys.lastDispatch? with
  | some (last, time) => last = chord && (now.since time).millis < keys.window.millis
  | none => false

/-- Remembers a dispatch. -/
def record (keys : KeyDispatcher) (chord : Chord) (now : Instant) : KeyDispatcher :=
  { keys with lastDispatch? := some (chord, now) }

@[simp]
theorem lastDispatch?_load (keys : KeyDispatcher) (bindings : List KeyBinding) :
    (keys.load bindings).lastDispatch? = keys.lastDispatch? := by
  unfold load
  induction bindings generalizing keys with
  | nil => rfl
  | cons binding rest ih => exact ih (keys.bind binding)

/-! ## What a chord is bound to after a change -/

theorem binding?_ofWindow (window : Duration) (chord : Chord) :
    (ofWindow window).binding? chord = none := rfl

theorem binding?_bind (keys : KeyDispatcher) (binding : KeyBinding) (chord : Chord) :
    (keys.bind binding).binding? chord =
      if chord.text = binding.keys.text then some binding else keys.binding? chord :=
  Table.get?_insert _ _ _ _

/-- The last of the loaded bindings of a chord counts. -/
theorem binding?_load (keys : KeyDispatcher) (bindings : List KeyBinding) (chord : Chord) :
    (keys.load bindings).binding? chord =
      (bindings.reverse.find? fun binding => binding.keys.text == chord.text).or
        (keys.binding? chord) := by
  unfold load
  induction bindings generalizing keys with
  | nil => rfl
  | cons binding rest ih =>
      rw [List.foldl_cons, ih, binding?_bind, List.reverse_cons, List.find?_append, Option.or_assoc]
      by_cases htext : chord.text = binding.keys.text
      · simp [htext]
      · simp [htext, Ne.symm htext]

end KeyDispatcher

end EditorShell
