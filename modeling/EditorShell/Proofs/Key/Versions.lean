import EditorShell.Proofs.Run.Reaching

/-!
# Versions of keymap documents

A keymap document that is an object may state the version of its format.  A version is a 64-bit
word.  A document that states another word than the current version is refused as a whole, one that
states the current version or nothing is read, and whatever is refused changes nothing
(`keymaps_checked`).

What stands for the version but is not such a word counts as no version at all, so the document is
read as one of the current version.  A document that gives its version as a text is therefore
accepted whatever the text says (`version_as_text_loaded`).

## Strategy

The version that is compared is the one stated or else the current one.  A document states one
version at most, so it is refused for its version exactly if it states another one
(`statedVersion_eq_iff`); the rest of the reading does not look at the version again.
-/

namespace EditorShell

open Json

variable {κ S : Type}

namespace Keymap

variable {members : List (String × Value)}

/-- The members of a keymap state this version. -/
def States (members : List (String × Value)) (version : Nat) : Prop :=
  Table.find? "version" members = some (.ofNat version) ∧ version < Nat.pow 2 64

theorem statedVersion_of_states {version : Nat} (states : States members version) :
    statedVersion (.object members) = version := by
  have hword : (Value.ofNat version).asWord? = some version :=
    Value.asWord?_eq_some_iff.2 ⟨rfl, states.2⟩
  rw [statedVersion, Value.member?, states.1, Option.bind_some, hword, Option.getD_some]

theorem statedVersion_of_not_states (silent : ∀ version, ¬ States members version) :
    statedVersion (.object members) = KeymapDocument.currentVersion := by
  have hnone : ((Value.object members).member? "version").bind Value.asWord? = none := by
    rw [Option.eq_none_iff_forall_ne_some]
    intro version hversion
    obtain ⟨value, hvalue, hword⟩ := Option.bind_eq_some_iff.1 hversion
    obtain ⟨rfl, hlt⟩ := Value.asWord?_eq_some_iff.1 hword
    exact silent version ⟨hvalue, hlt⟩
  rw [statedVersion, hnone, Option.getD_none]

theorem statedVersion_eq_iff :
    statedVersion (.object members) = KeymapDocument.currentVersion ↔
      ∀ version, States members version → version = 1 := by
  constructor
  · intro hcurrent version states
    rw [← statedVersion_of_states states, hcurrent]
    rfl
  · intro hstated
    by_cases hsilent : ∃ version, States members version
    · obtain ⟨version, states⟩ := hsilent
      rw [statedVersion_of_states states, hstated version states]
      rfl
    · exact statedVersion_of_not_states (not_exists.1 hsilent)

/-- What becomes of a keymap document that is an object. -/
structure Checked (text : String) (members : List (String × Value)) : Prop where
  /-- It is accepted if it states no version but the current one and has a list of bindings.  Then
  the bindings of the list are kept. -/
  accepted_iff : ∀ keymap, parse text = .ok keymap ↔
    (∀ version, States members version → version = 1) ∧
      ∃ items, Table.find? "bindings" members = some (.array items) ∧ keymap = ofEntries items
  /-- It is refused for another version, also if there is something wrong besides. -/
  unsupported_iff : ∀ version, parse text = .error (.unsupportedVersion version) ↔
    States members version ∧ version ≠ 1
  /-- Nothing happens to a session that is asked to load a document that is refused. -/
  load_of_refused : ∀ cause, parse text = .error cause →
    ∀ (caller : Caller κ S) (session : Session κ S),
      (Session.loadKeymap text).run caller session = (.error cause, session) ∧
        (Session.loadKeymap text).moments caller session = []
  /-- The bindings of a document that is accepted are made, one after the other. -/
  load_of_accepted : ∀ keymap, parse text = .ok keymap →
    ∀ (caller : Caller κ S) (session : Session κ S),
      (Session.loadKeymap text).run caller session =
        (.ok keymap.bindings.length,
          { session with keys := session.keys.load keymap.bindings })

/-- Reading an object goes by the version first and by the list of bindings then. -/
theorem parse_of_object {text : String} (hparse : Value.parse? text = some (.object members)) :
    parse text =
      if statedVersion (.object members) = KeymapDocument.currentVersion then
        match Table.find? "bindings" members with
        | some (.array items) => .ok (ofEntries items)
        | _ => .error .unexpectedShape
      else .error (.unsupportedVersion (statedVersion (.object members))) := by
  simp only [parse, hparse, entries, ne_eq, ite_not]
  by_cases hcurrent : statedVersion (.object members) = KeymapDocument.currentVersion
  · rw [if_pos hcurrent, if_pos hcurrent]
    cases Table.find? "bindings" members with
    | none => rfl
    | some items => cases items <;> rfl
  · rw [if_neg hcurrent, if_neg hcurrent]
    rfl

theorem parse_eq_ok_iff {text : String} (hparse : Value.parse? text = some (.object members))
    {keymap : ParsedKeymap} :
    parse text = .ok keymap ↔ (∀ version, States members version → version = 1) ∧
      ∃ items, Table.find? "bindings" members = some (.array items) ∧ keymap = ofEntries items := by
  rw [parse_of_object hparse, ← statedVersion_eq_iff]
  split
  · rename_i hcurrent
    rw [and_iff_right hcurrent]
    split
    · rename_i items hitems
      simp [hitems, eq_comm]
    · rename_i hshape
      refine iff_of_false nofun ?_
      rintro ⟨items, hitems, -⟩
      exact hshape items hitems
  · rename_i hother
    exact iff_of_false nofun fun haccepted => hother haccepted.1

theorem parse_eq_unsupported_iff {text : String}
    (hparse : Value.parse? text = some (.object members)) {version : Nat} :
    parse text = .error (.unsupportedVersion version) ↔ States members version ∧ version ≠ 1 := by
  rw [parse_of_object hparse]
  constructor
  · intro hrefused
    split at hrefused
    · split at hrefused <;> cases hrefused
    · rename_i hother
      obtain rfl : statedVersion (.object members) = version := by
        injection hrefused with hcause
        injection hcause
      by_cases hsilent : ∃ version, States members version
      · obtain ⟨version, states⟩ := hsilent
        rw [statedVersion_of_states states] at hother ⊢
        exact ⟨states, hother⟩
      · exact absurd (statedVersion_of_not_states (not_exists.1 hsilent)) hother
  · rintro ⟨states, hother⟩
    have hold : version ≠ KeymapDocument.currentVersion := hother
    rw [statedVersion_of_states states, if_neg hold]

end Keymap

/-- A keymap document is loaded if it states no version but the current one; if it is refused, all
bindings stay as they were. -/
theorem keymaps_checked {text : String} {members : List (String × Value)}
    (hparse : Value.parse? text = some (.object members)) :
    Keymap.Checked (κ := κ) (S := S) text members where
  accepted_iff _ := Keymap.parse_eq_ok_iff hparse
  unsupported_iff _ := Keymap.parse_eq_unsupported_iff hparse
  load_of_refused cause hrefused caller session := by
    simp [Session.loadKeymap, hrefused]
  load_of_accepted keymap haccepted caller session := by
    simp [Session.loadKeymap, Session.loadMap, haccepted]

/-- A document of a newer version, with no list of bindings either. -/
def Keymap.newerText : String := "\x7b\"version\":2\x7d"

theorem keymaps_checked_newer :
    Value.parse? Keymap.newerText = some (.object [("version", .ofNat 2)]) ∧
      Keymap.Checked (κ := Empty) (S := Unit) Keymap.newerText [("version", .ofNat 2)] ∧
      Keymap.parse Keymap.newerText = .error (.unsupportedVersion 2) := by
  have hparse : Value.parse? Keymap.newerText = some (.object [("version", .ofNat 2)]) := by
    decide +kernel
  have checked := keymaps_checked (κ := Empty) (S := Unit) hparse
  exact ⟨hparse, checked, (checked.unsupported_iff 2).2 ⟨⟨rfl, by decide⟩, by decide⟩⟩

/-- A document that gives another version as a text. -/
def Keymap.versionAsText : String :=
  "\x7b\"version\":\"2\",\"bindings\":[\x7b\"keys\":\"ctrl+k\",\"command\":\"new\"\x7d]\x7d"

/-- A session in which the chord of that document is bound to another command. -/
def Session.boundSession : Session Empty Unit :=
  ((Session.bind "ctrl+k" "old" none).run (Code.plain.caller 0) .recordingSession).2

/-- The document gives its version as the text `2` and is loaded all the same: its binding replaces
the one that was there. -/
theorem version_as_text_loaded :
    let loaded :=
      (Session.loadKeymap Keymap.versionAsText).run (Code.plain.caller 0) Session.boundSession
    (∃ members, Value.parse? Keymap.versionAsText = some (.object members) ∧
      Table.find? "version" members = some (.string "2")) ∧
      (Session.boundSession.binding? "ctrl+k").map KeyBinding.command = some "old" ∧
      loaded.1.toOption = some 1 ∧
      (loaded.2.binding? "ctrl+k").map KeyBinding.command = some "new" := by
  refine ⟨⟨[("bindings", .array [.object [("command", .string "new"), ("keys", .string "ctrl+k")]]),
    ("version", .string "2")], ?_, rfl⟩, ?_, ?_, ?_⟩ <;> decide +kernel

end EditorShell
