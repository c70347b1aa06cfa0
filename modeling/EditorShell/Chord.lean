import EditorShell.Text.Blank
import EditorShell.Text.Lowercase
import EditorShell.Text.Parts

/-!
# Key chords

A chord is a key together with the modifier keys held down with it.  It has one canonical text:
the names of the modifiers in the order `ctrl`, `alt`, `shift`, `meta`, then the key, joined by
plus signs and all in lower case.  The plus key itself is written `+`, as in `ctrl++`.

`Chord.parse` reads any spelling: capitals, blanks around the parts, aliases of modifiers and of
some keys, and modifiers in any order.
-/

namespace EditorShell

/-- A set of modifier keys, one bit for each.  Four bits have a name; others are kept but mean
nothing. -/
structure Modifiers where
  bits : UInt8
  deriving DecidableEq

namespace Modifiers

/-- No modifier. -/
def none : Modifiers := ⟨0⟩

/-- The control key. -/
def ctrl : Modifiers := ⟨1⟩

/-- The alt key. -/
def alt : Modifiers := ⟨2⟩

/-- The shift key. -/
def shift : Modifiers := ⟨4⟩

/-- The meta key, also known as command key. -/
def metaKey : Modifiers := ⟨8⟩

/-- The modifiers of both. -/
def union (first second : Modifiers) : Modifiers := ⟨first.bits ||| second.bits⟩

/-- Whether all of the other modifiers are held. -/
def containsAll (held others : Modifiers) : Bool := held.bits &&& others.bits == others.bits

/-- Whether no modifier is held. -/
def isEmpty (held : Modifiers) : Bool := held.bits == 0

/-- The named modifiers in their canonical order. -/
def named : List (Modifiers × String) :=
  [(ctrl, "ctrl"), (alt, "alt"), (shift, "shift"), (metaKey, "meta")]

/-- The modifier with this name or alias. -/
def ofName? (name : String) : Option Modifiers :=
  if name = "ctrl" ∨ name = "control" then some ctrl
  else if name = "alt" ∨ name = "option" ∨ name = "opt" then some alt
  else if name = "shift" then some shift
  else if name = "meta" ∨ name = "cmd" ∨ name = "command" ∨ name = "super" ∨ name = "win" then
    some metaKey
  else Option.none

/-- The names of the modifiers held, in their canonical order. -/
def names (held : Modifiers) : List String :=
  (named.filter fun entry => held.containsAll entry.1).map Prod.snd

/-- The names of the held modifiers in their fixed order, joined by plus signs. -/
def text (held : Modifiers) : String := String.intercalate "+" held.names

end Modifiers

/-- Why a text is not a chord.  All causes but the first carry the whole text. -/
inductive ChordError where
  | empty
  /-- A part before the key is not the name of a modifier. -/
  | unknownModifier (chord modifier : String)
  /-- There is no key, or a modifier stands in its place. -/
  | missingKey (chord : String)
  /-- A part before the key is blank. -/
  | emptySegment (chord : String)
  deriving DecidableEq

/-- What is wrong with a chord, quoting it as it was written. -/
def ChordError.message : ChordError → String
  | empty => "empty chord"
  | unknownModifier chord modifier =>
    "unknown modifier '" ++ modifier ++ "' in chord '" ++ chord ++ "'"
  | missingKey chord => "chord '" ++ chord ++ "' has no key"
  | emptySegment chord => "chord '" ++ chord ++ "' has an empty segment"

/-- A key with the modifiers held. -/
structure Chord where
  modifiers : Modifiers
  /-- The key, in lower case and under its canonical name. -/
  key : String
  deriving DecidableEq

namespace Chord

/-- The canonical spelling: the modifiers in their fixed order, then the key. -/
def text (chord : Chord) : String :=
  if chord.modifiers.isEmpty then chord.key else chord.modifiers.text ++ "+" ++ chord.key

/-- The key as it is cut out of a canonical text: all of it when no modifier is held, else what
stands behind the names of the modifiers and one byte more. -/
def cutKey? (modifiers : Modifiers) (text : String) : Option String :=
  if modifiers.isEmpty then some text
  else (Text.behindBytes? (modifiers.text.utf8ByteSize + 1) text.toList).map String.ofList

/-- Whether any modifier belongs to the chord. -/
def hasModifiers (chord : Chord) : Bool := !chord.modifiers.isEmpty

/-- The one name of a key that has several. -/
def canonicalKey (key : String) : String :=
  if key = "escape" then "esc"
  else if key = "return" then "enter"
  else if key = "del" then "delete"
  else if key = "spacebar" then "space"
  else key

/-- The part of a lower-case text that holds the modifiers, if there is one, and the key's part.
A plus sign at the end is the plus key when another one precedes it or nothing else is there. -/
def splitKey (text : List Char) : Option (List Char) × List Char :=
  if text = ['+'] then (none, ['+'])
  else
    -- The last plus sign is the key here and separates nothing, so this is asked first.
    match Text.beforeEnding? ['+', '+'] text with
    | some before => (some before, ['+'])
    | none =>
      match Text.splitLast? '+' text with
      | some (before, key) => (some before, key)
      | none => (none, text)

/-- Unites `held` with the modifiers that the parts name; `raw` is the text that errors show. -/
def unite (raw : String) (held : Modifiers) : List (List Char) → Except ChordError Modifiers
  | [] => .ok held
  | part :: parts =>
    let name := Text.trim part
    if name.isEmpty then .error (.emptySegment raw)
    else
      match Modifiers.ofName? (String.ofList name) with
      | none => .error (.unknownModifier raw (String.ofList name))
      | some modifier => unite raw (held.union modifier) parts

/-- Reads a chord in any spelling: blanks around it and the case of letters do not matter, and the
modifiers may stand in any order. -/
def parse (raw : String) : Except ChordError Chord :=
  let lowered := Text.lowercase (Text.trim raw.toList)
  if lowered.isEmpty then .error .empty
  else
    let (modifiersPart, keyPart) := splitKey lowered
    if keyPart.isEmpty then .error (.missingKey raw)
    else
      let parts := match modifiersPart with
        | none => []
        | some text => List.splitOn '+' text
      match unite raw Modifiers.none parts with
      | .error cause => .error cause
      | .ok modifiers =>
        let key := String.ofList (Text.trim keyPart)
        -- A modifier where the key should be stands for a chord that was not finished.
        if (Modifiers.ofName? key).isSome then .error (.missingKey raw)
        else .ok ⟨modifiers, canonicalKey key⟩

/-- The chord of a text, if it is one. -/
def parse? (raw : String) : Option Chord := (parse raw).toOption

end Chord

end EditorShell
