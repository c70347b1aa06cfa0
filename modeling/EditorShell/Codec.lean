import EditorShell.Cancellation
import EditorShell.Chord
import EditorShell.Json.Decode
import EditorShell.Time

/-!
# Basic values in documents

How instants, spans of time, modifiers, chords and reasons of cancellation are written in documents.
Times are bare numbers of milliseconds, and a chord is its canonical text; reading a chord accepts
any spelling.
-/

namespace EditorShell

open Json

/-- Reads an instant from its milliseconds. -/
def Instant.decoder : Decoder Instant := Decoder.word.map Instant.mk

/-- An instant is written as its milliseconds. -/
def Instant.toJson (now : Instant) : Value := .ofNat now.millis

/-- Reads a duration from its milliseconds. -/
def Duration.decoder : Decoder Duration := Decoder.word.map Duration.mk

/-- A duration is written as its milliseconds. -/
def Duration.toJson (span : Duration) : Value := .ofNat span.millis

/-- Reads modifiers from the record of their bits. -/
def Modifiers.decoder : Decoder Modifiers :=
  .record ["bits"] fun fields room =>
    match fields with
    | [bits] => do
      let bits ← bits.required (Decoder.natBelow 256) room
      some ⟨bits.toUInt8⟩
    | _ => none

/-- Modifiers are written as the record of their bits. -/
def Modifiers.toJson (held : Modifiers) : Value := .object [("bits", .ofNat held.bits.toNat)]

/-- Reads a chord from a text in any spelling. -/
def Chord.decoder : Decoder Chord := Decoder.text.andThen Chord.parse?

/-- A chord is written in its canonical spelling. -/
def Chord.toJson (chord : Chord) : Value := .string chord.text

/-- The reason without a text of its own that has this name. -/
def CancellationReason.ofName? (name : String) : Option CancellationReason :=
  if name = "Requested" then some requested
  else if name = "Superseded" then some superseded
  else if name = "TargetUnmounted" then some targetUnmounted
  else if name = "Shutdown" then some shutdown
  else none

/-- Reads a reason of cancellation: a name, or an object with the text of a custom one. -/
def CancellationReason.decoder : Decoder CancellationReason := fun room document =>
  match document with
  | .object [(some "Custom", .string text?)] => if room = 0 then none else text?.map custom
  | document => Decoder.choice .direct ofName? room document

/-- A reason is written by its name, a custom one together with its text. -/
def CancellationReason.toJson : CancellationReason → Value
  | requested => .string "Requested"
  | superseded => .string "Superseded"
  | targetUnmounted => .string "TargetUnmounted"
  | shutdown => .string "Shutdown"
  | custom text => .object [("Custom", .string text)]

end EditorShell
