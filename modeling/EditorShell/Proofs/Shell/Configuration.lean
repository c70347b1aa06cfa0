import EditorShell.Config
import EditorShell.Proofs.Key.Documents

/-!
# Configurations read back

The reader of configurations takes much more than the writer writes: settings may be missing or in
any order, unknown ones are passed over, records may be arrays, chords come in any spelling and
`null` stands for no arguments.  Whatever it takes, it makes a configuration of it that the writer
can write (`ShellConfig.Faithful`): its numbers fit, its chords have been read, and its arguments
are values that have been read themselves, with room for what stands around them.

So a configuration without doubles that has been read is written as a text that is read as the same
configuration, and so as the same text again (`configurations_read_back`).

A document in which any version is stated is read as a whole before the version is looked at.
-/

namespace EditorShell

open Json

namespace Json

variable {α : Type}

/-! ## Where the parts of a record come from -/

theorem inRange_of_fieldOfMembers? {members : List (Option String × Document)}
    (hmembers : ∀ member ∈ members, member.2.InRange) {name : String} {document : Document}
    (hfield : fieldOfMembers? members name = some (.given document)) : document.InRange := by
  rw [fieldOfMembers?] at hfield
  cases hnamed : membersNamed name members with
  | nil => simp [hnamed] at hfield
  | cons first others =>
      cases others with
      | cons second others => simp [hnamed] at hfield
      | nil =>
          obtain rfl : first = document := by simpa [hnamed] using hfield
          have hmem : first ∈ membersNamed name members := by simp [hnamed]
          obtain ⟨member, hmember, rfl⟩ := List.mem_map.1 hmem
          exact hmembers member (List.mem_of_mem_filter hmember)

theorem exists_of_mem_mapM {β : Type} {f : α → Option β} {xs : List α} {ys : List β}
    (hmap : xs.mapM f = some ys) {y : β} (hy : y ∈ ys) : ∃ x ∈ xs, f x = some y := by
  induction xs generalizing ys with
  | nil =>
      cases hmap
      cases hy
  | cons x xs ih =>
      simp only [List.mapM_cons, Option.bind_eq_bind, Option.bind_eq_some_iff] at hmap
      obtain ⟨first, hfirst, others, hothers, heq⟩ := hmap
      cases heq
      rcases List.mem_cons.1 hy with rfl | hy
      · exact ⟨x, by simp, hfirst⟩
      · obtain ⟨found, hfound, heq⟩ := ih hothers hy
        exact ⟨found, List.mem_cons_of_mem _ hfound, heq⟩

theorem inRange_of_fieldsOfItems? {items : List Document}
    (hitems : ∀ item ∈ items, item.InRange) {names : List String} {fields : List Field}
    (hfields : fieldsOfItems? names items = some fields) {document : Document}
    (hmem : .given document ∈ fields) : document.InRange := by
  induction names generalizing items fields with
  | nil =>
      cases items with
      | nil =>
          cases hfields
          cases hmem
      | cons => cases hfields
  -- Names and items are gone through side by side; a name without an item has no field.
  | cons name names ih =>
      cases items with
      | nil =>
          obtain ⟨others, hothers, rfl⟩ := Option.map_eq_some_iff.1 hfields
          rcases List.mem_cons.1 hmem with heq | hmem
          · cases heq
          · exact ih hitems hothers hmem
      | cons item items =>
          obtain ⟨others, hothers, rfl⟩ := Option.map_eq_some_iff.1 hfields
          rw [List.forall_mem_cons] at hitems
          rcases List.mem_cons.1 hmem with heq | hmem
          · cases heq
            exact hitems.1
          · exact ih hitems.2 hothers hmem

/-- The fields of a document with its integers in range have theirs in range. -/
theorem inRange_of_recordFields? {document : Document} (hrange : document.InRange)
    {names : List String} {fields : List Field}
    (hfields : recordFields? names document = some fields) {part : Document}
    (hmem : .given part ∈ fields) : part.InRange := by
  cases hrange with
  | array hitems => exact inRange_of_fieldsOfItems? hitems hfields hmem
  | object hmembers =>
      simp only [recordFields?, fieldsOfMembers?, Option.ite_none_right_eq_some] at hfields
      obtain ⟨name, -, hfield⟩ := exists_of_mem_mapM hfields.2 hmem
      exact inRange_of_fieldOfMembers? hmembers hfield
  | _ => cases hfields

theorem exists_of_mem_items {decoder : Decoder α} {room : Nat} {items : List Document}
    {read : List α} (hread : Decoder.items decoder room items = some read) {value : α}
    (hvalue : value ∈ read) : ∃ item ∈ items, decoder room item = some value := by
  induction items generalizing read with
  | nil =>
      cases hread
      cases hvalue
  | cons item items ih =>
      simp only [Decoder.items, Option.bind_eq_bind, Option.bind_eq_some_iff,
        Option.some.injEq] at hread
      obtain ⟨first, hfirst, others, hothers, rfl⟩ := hread
      rcases List.mem_cons.1 hvalue with rfl | hvalue
      · exact ⟨item, by simp, hfirst⟩
      · obtain ⟨found, hfound, hdecode⟩ := ih hothers hvalue
        exact ⟨found, List.mem_cons_of_mem _ hfound, hdecode⟩

/-- Each item of a list that is read has been read from a document of its own. -/
theorem exists_of_mem_list {decoder : Decoder α} {room : Nat} {document : Document}
    (hrange : document.InRange) {read : List α}
    (hread : Decoder.list decoder (room + 1) document = some read) {value : α}
    (hvalue : value ∈ read) :
    ∃ item : Document, item.InRange ∧ decoder room item = some value := by
  cases hrange with
  | array hitems =>
      obtain ⟨item, hitem, hdecode⟩ := exists_of_mem_items hread hvalue
      exact ⟨item, hitems item hitem, hdecode⟩
  | _ => cases hread

/-- A list is read from the array of what its items are read from. -/
theorem list_ofValue {decoder : Decoder α} {write : α → Value} {room : Nat} {values : List α}
    (hvalues : ∀ value ∈ values, decoder room (.ofValue (write value)) = some value) :
    Decoder.list decoder (room + 1) (.ofValue (.array (values.map write))) = some values := by
  show Decoder.items decoder room (Document.ofItems (values.map write)) = some values
  induction values with
  | nil => rfl
  | cons value values ih =>
      rw [List.forall_mem_cons] at hvalues
      simp [Document.ofItems, Decoder.items, hvalues.1, ih hvalues.2]

end Json

/-! ## Bindings -/

theorem Json.Decoder.nullable_eq_some_iff {α : Type} {decoder : Decoder α} {room : Nat}
    {document : Document} {read : α} : nullable decoder room document = some (some read) ↔
      document ≠ .null ∧ decoder room document = some read := by
  cases document <;> simp [nullable]

/-- Only `null` is read as `null`. -/
theorem Json.Document.eq_null_of_value? {room : Nat} {document : Document}
    (hvalue : document.value? room = some .null) : document = .null := by
  cases document with
  | null => rfl
  | bool => cases hvalue
  | number number? => simp [value?] at hvalue
  | string text? => simp [value?] at hvalue
  | array items => simp [value?] at hvalue
  | object members => simp [value?, Value.ofMembers] at hvalue

namespace KeyBinding

/-- What has been read as a binding: a chord in some spelling, and arguments that are not `null`. -/
structure Parsed (room : Nat) (binding : KeyBinding) : Prop where
  keys : ∃ raw, Chord.parse raw = .ok binding.keys
  args : ∀ value ∈ binding.args, value ≠ .null ∧ Value.Read room value

theorem parsed_of_decoder {room : Nat} {document : Document} (hrange : document.InRange)
    {binding : KeyBinding} (hread : decoder (room + 1) document = some binding) :
    binding.Parsed room := by
  obtain ⟨keys, command, args, hfields, hkeys, -, hargs⟩ := decoder_eq_some_iff.1 hread
  constructor
  · cases keys with
    | given part =>
        obtain ⟨raw, -, hparse⟩ := Option.bind_eq_some_iff.1 hkeys
        exact ⟨raw, Chord.parse?_eq_some_iff.1 hparse⟩
    | absent => cases hkeys
    | cutOff => cases hkeys
  · intro value hvalue
    rw [Option.mem_def.1 hvalue] at hargs
    cases args with
    | given part =>
        obtain ⟨hpart, hread⟩ := Decoder.nullable_eq_some_iff.1 hargs
        refine ⟨?_, part.read_of_value? (inRange_of_recordFields? hrange hfields (by simp)) hread⟩
        rintro rfl
        exact hpart (Document.eq_null_of_value? hread)
    | absent => cases hargs
    | cutOff => cases hargs

/-- Without doubles in its arguments, a binding that has been read can be written. -/
theorem Parsed.writable {room : Nat} {binding : KeyBinding} (parsed : binding.Parsed room)
    (hfloat : ∀ value ∈ binding.args, ¬value.Floating) : binding.Writable where
  keys := parsed.keys
  args value hvalue :=
    have hread := (parsed.args value hvalue).2
    ⟨(parsed.args value hvalue).1, hread.integral (hfloat value hvalue), hread.ordered⟩

/-- It nests one level deeper than its arguments may. -/
theorem Parsed.depth_le {room : Nat} {binding : KeyBinding} (parsed : binding.Parsed room) :
    binding.toJson.depth ≤ room + 1 := by
  rw [toJson_eq, Value.depth]
  refine Nat.succ_le_succ (Value.membersDepth_le_iff.2 fun member hmember => ?_)
  have hfield := mem_present.1 hmember
  simp only [fields, List.mem_cons, List.not_mem_nil, or_false, Prod.mk.injEq,
    Option.some.injEq] at hfield
  rcases hfield with ⟨-, hvalue⟩ | ⟨-, hvalue⟩ | ⟨-, hvalue⟩
  · rw [hvalue]
    exact Nat.zero_le _
  · rw [hvalue]
    exact Nat.zero_le _
  · exact (parsed.args _ hvalue.symm).2.depth_le

end KeyBinding

/-! ## Configurations -/

namespace ShellConfig

/-- A configuration as reading yields it. -/
structure Faithful (config : ShellConfig) : Prop where
  version_lt : config.version < Nat.pow 2 32
  window_lt : config.dedupeWindowMillis < Nat.pow 2 64
  keymap : ∀ binding ∈ config.keymap, binding.Parsed 124

theorem orDefault_cases {α : Type} {field : Field} {decoder : Decoder α} {value default : α}
    {room : Nat} (hread : field.orDefault decoder default room = some value) :
    (∃ part, field = .given part ∧ decoder room part = some value) ∨ value = default := by
  cases field with
  | given part => exact .inl ⟨part, rfl, hread⟩
  | absent => exact .inr (Option.some.inj hread).symm
  | cutOff => exact .inr (Option.some.inj hread).symm

theorem orDefault_ofValue {α : Type} (value : Value) (decoder : Decoder α) (default : α)
    (room : Nat) : (Field.ofValue? (some value)).orDefault decoder default room =
      decoder room (.ofValue value) := rfl

/-- A number that is read is below the limit of its field, if its default is. -/
theorem orDefault_lt {field : Field} {limit default room n : Nat} (hdefault : default < limit)
    (hread : field.orDefault (.natBelow limit) default room = some n) : n < limit := by
  rcases orDefault_cases hread with ⟨part, -, hpart⟩ | rfl
  · cases part with
    | number number? =>
        cases number? with
        | none => cases hpart
        | some number => exact (Number.toNat?_eq_some_iff.1 hpart).2
    | _ => cases hpart
  · exact hdefault

/-- The names of the fields of a configuration. -/
def fieldNames : List String :=
  ["version", "dedupe_window_ms", "log_filter", "extensions", "keymap", "initial_panel"]

/-- Reading a configuration is reading its six fields. -/
theorem decoder_eq_some_iff {room : Nat} {document : Document} {config : ShellConfig} :
    decoder (room + 1) document = some config ↔
      ∃ version window filter extensions keymap panel, recordFields? fieldNames document =
          some [version, window, filter, extensions, keymap, panel] ∧
        version.orDefault (.natBelow (Nat.pow 2 32)) default.version room = some config.version ∧
        window.orDefault .word default.dedupeWindowMillis room = some config.dedupeWindowMillis ∧
        filter.orDefault .text default.logFilter room = some config.logFilter ∧
        extensions.orDefault (.list .text) default.extensions room = some config.extensions ∧
        keymap.orDefault (.list KeyBinding.decoder) default.keymap room = some config.keymap ∧
        panel.orDefault .text default.initialPanel room = some config.initialPanel := by
  rw [decoder, Decoder.record, if_neg (Nat.succ_ne_zero room), Nat.add_sub_cancel, ← fieldNames]
  constructor
  · intro hread
    obtain ⟨fields, hfields, hbuild⟩ := Option.bind_eq_some_iff.1 hread
    split at hbuild
    · rename_i version window filter extensions keymap panel
      simp only [Option.bind_eq_bind, Option.bind_eq_some_iff, Option.some.injEq] at hbuild
      obtain ⟨_, hversion, _, hwindow, _, hfilter, _, hextensions, _, hkeymap, _, hpanel, rfl⟩ :=
        hbuild
      exact ⟨version, window, filter, extensions, keymap, panel, hfields, hversion, hwindow,
        hfilter, hextensions, hkeymap, hpanel⟩
    · cases hbuild
  · rintro ⟨version, window, filter, extensions, keymap, panel, hfields, hversion, hwindow,
      hfilter, hextensions, hkeymap, hpanel⟩
    simp [hfields, hversion, hwindow, hfilter, hextensions, hkeymap, hpanel]

theorem faithful_of_decoder {document : Document} (hrange : document.InRange)
    {config : ShellConfig} (hread : decoder Document.maxDepth document = some config) :
    config.Faithful := by
  obtain ⟨_, _, _, _, keymap, _, hfields, hversion, hwindow, -, -, hkeymap, -⟩ :=
    decoder_eq_some_iff.1 hread
  refine ⟨orDefault_lt (by decide) hversion, orDefault_lt (by decide) hwindow, ?_⟩
  intro binding hbinding
  rcases orDefault_cases hkeymap with ⟨part, rfl, hpart⟩ | hdefault
  · obtain ⟨item, hitem, hdecode⟩ :=
      exists_of_mem_list (inRange_of_recordFields? hrange hfields (by simp)) hpart hbinding
    exact KeyBinding.parsed_of_decoder hitem hdecode
  · rw [hdefault] at hbinding
    cases hbinding

/-! ### Writing and reading again -/

variable {config : ShellConfig}

/-- The fields of a configuration as they are written. -/
def fields (config : ShellConfig) : List (String × Option Value) :=
  [("version", some (.ofNat config.version)),
    ("dedupe_window_ms", some (.ofNat config.dedupeWindowMillis)),
    ("log_filter", some (.string config.logFilter)),
    ("extensions", some (.ofTexts config.extensions)),
    ("keymap", some (.array (config.keymap.map KeyBinding.toJson))),
    ("initial_panel", some (.string config.initialPanel))]

/-- No argument of the configuration's bindings holds a double. -/
def FloatFree (config : ShellConfig) : Prop :=
  ∀ binding ∈ config.keymap, ∀ value ∈ binding.args, ¬value.Floating

theorem Faithful.writable (faithful : config.Faithful) (hfloat : config.FloatFree) :
    ∀ binding ∈ config.keymap, binding.Writable := fun binding hbinding =>
  (faithful.keymap binding hbinding).writable (hfloat binding hbinding)

theorem integral_ofTexts (texts : List String) : (Value.ofTexts texts).Integral := by
  refine Value.integralItems_iff.2 fun item hitem => ?_
  obtain ⟨text, -, rfl⟩ := List.mem_map.1 hitem
  trivial

theorem Faithful.integral_toJson (faithful : config.Faithful) (hfloat : config.FloatFree) :
    config.toJson.Integral := by
  have hversion : config.version < Nat.pow 2 64 :=
    Nat.lt_of_lt_of_le faithful.version_lt (by decide)
  refine ⟨Value.integral_ofNat hversion, Value.integral_ofNat faithful.window_lt, trivial,
    integral_ofTexts _, Value.integralItems_iff.2 fun item hitem => ?_, trivial, trivial⟩
  obtain ⟨binding, hbinding, rfl⟩ := List.mem_map.1 hitem
  exact (faithful.writable hfloat binding hbinding).integral_toJson

/-- A configuration that has been read is read back from what is written. -/
theorem Faithful.decoder_toJson (faithful : config.Faithful) (hfloat : config.FloatFree) :
    decoder Document.maxDepth (.ofValue config.toJson) = some config := by
  have hnodup : (config.fields.map Prod.fst).Nodup := by
    show fieldNames.Nodup
    decide
  have hothers : ∀ member ∈ ([] : List (String × Value)),
      member.1 ∉ config.fields.map Prod.fst := by simp
  have hfields : recordFields? fieldNames (.ofValue config.toJson) =
      some (config.fields.map fun field => Field.ofValue? field.2) := by
    have hpresent := fieldsOfMembers?_present hnodup hothers
    rw [List.append_nil] at hpresent
    exact hpresent
  have hextensions : Decoder.list .text 126 (.ofValue (.ofTexts config.extensions)) =
      some config.extensions := list_ofValue fun _ _ => rfl
  -- A binding without doubles is written so that it reads back; the other members are texts and
  -- words.
  have hkeymap : Decoder.list KeyBinding.decoder 126
      (.ofValue (.array (config.keymap.map KeyBinding.toJson))) = some config.keymap :=
    list_ofValue fun binding hbinding =>
      (faithful.writable hfloat binding hbinding).decoder_toJson
        (faithful.keymap binding hbinding).depth_le
  have hwindow : Decoder.word 126 (.ofValue (.ofNat config.dedupeWindowMillis)) =
      some config.dedupeWindowMillis := Document.natBelow_ofNat faithful.window_lt 126
  refine decoder_eq_some_iff.2 ⟨_, _, _, _, _, _, hfields, ?_⟩
  refine ⟨(orDefault_ofValue _ _ _ _).trans (Document.natBelow_ofNat faithful.version_lt 126),
    (orDefault_ofValue _ _ _ _).trans hwindow, rfl,
    (orDefault_ofValue _ _ _ _).trans hextensions, (orDefault_ofValue _ _ _ _).trans hkeymap, rfl⟩

theorem parse_eq_ok_iff {text : String} :
    parse text = .ok config ↔ decode? decoder text = some config ∧ config.version = 1 := by
  rw [parse]
  cases decode? decoder text with
  | none => simp
  | some found =>
      by_cases hversion : found.version = currentVersion
      · simp only [hversion, ne_eq, not_true_eq_false, if_false, Except.ok.injEq,
          Option.some.injEq, iff_self_and]
        rintro rfl
        exact hversion
      · simp only [ne_eq, hversion, not_false_eq_true, if_true, Option.some.injEq]
        refine iff_of_false nofun ?_
        rintro ⟨rfl, hone⟩
        exact hversion hone

theorem faithful_of_parse {text : String} (hparse : parse text = .ok config) :
    config.Faithful := by
  obtain ⟨document, hdocument, hread⟩ :=
    Option.bind_eq_some_iff.1 (parse_eq_ok_iff.1 hparse).1
  exact faithful_of_decoder (Document.inRange_of_parse? hdocument) hread

/-- A configuration without doubles that has been read is read again from its text. -/
theorem parse_text_of_parse {text : String} (hparse : parse text = .ok config)
    (hfloat : config.FloatFree) : parse config.text = .ok config := by
  have faithful := faithful_of_parse hparse
  refine parse_eq_ok_iff.2 ⟨?_, (parse_eq_ok_iff.1 hparse).2⟩
  rw [decode?, ShellConfig.text, Document.parse?_indentedText (faithful.integral_toJson hfloat),
    Option.bind_eq_bind, Option.bind_some]
  exact faithful.decoder_toJson hfloat

end ShellConfig

/-- Whatever text a configuration without doubles has been read from, the text that is written for
it is read as the same configuration, which is written as the same text.  And a text that describes
a configuration of another version is refused, whatever else it says. -/
theorem configurations_read_back :
    (∀ text config, ShellConfig.parse text = .ok config → config.FloatFree →
      ShellConfig.parse config.text = .ok config ∧
        (ShellConfig.parse config.text).map ShellConfig.text = .ok config.text) ∧
    ∀ text config, decode? ShellConfig.decoder text = some config → config.version ≠ 1 →
      ShellConfig.parse text = .error (.unsupportedVersion config.version) := by
  constructor
  · intro text config hparse hfloat
    have hback := ShellConfig.parse_text_of_parse hparse hfloat
    exact ⟨hback, by rw [hback]; rfl⟩
  · intro text config hdecode hversion
    have hother : config.version ≠ ShellConfig.currentVersion := hversion
    rw [ShellConfig.parse, hdecode]
    exact if_pos hother

/-- A configuration with one binding in an array, without arguments, and an unknown setting. -/
def ShellConfig.looseText : String :=
  "\x7b \"keymap\": [[\" Control + H\",\"hello\",null]],\"theme\":[\"dark\"],\"extensions\":[]\x7d"

theorem configurations_read_back_loose :
    let config : ShellConfig :=
      { ShellConfig.default with extensions := [], keymap := [⟨⟨⟨1⟩, "h"⟩, "hello", none⟩] }
    ShellConfig.parse ShellConfig.looseText = .ok config ∧
      ShellConfig.parse config.text = .ok config ∧
      ShellConfig.parse "\x7b\"version\":2,\"keymap\":[]\x7d" =
        .error (.unsupportedVersion 2) := by
  intro config
  have hparse : ShellConfig.parse ShellConfig.looseText = .ok config := by decide +kernel
  have hfloat : config.FloatFree := by
    intro binding hbinding
    obtain rfl : binding = ⟨⟨⟨1⟩, "h"⟩, "hello", none⟩ := by simpa [config] using hbinding
    simp
  have hnewer : decode? ShellConfig.decoder "\x7b\"version\":2,\"keymap\":[]\x7d" =
      some { ShellConfig.default with version := 2 } := by decide +kernel
  exact ⟨hparse, (configurations_read_back.1 _ _ hparse hfloat).1,
    configurations_read_back.2 _ _ hnewer (by decide)⟩

end EditorShell
