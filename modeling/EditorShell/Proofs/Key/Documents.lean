import EditorShell.Proofs.Json.Reading
import EditorShell.Proofs.Key.Spelling
import EditorShell.Proofs.Key.Versions
import Mathlib.Data.List.Basic

/-!
# Keymap documents

A keymap is written as an object with the version of the format and the list of bindings, and it is
read back as that list (`Keymap.parse_text`).  Between the two the bindings are values that nobody
has taken for bindings yet: the reader sorts the members of their objects by name, and takes each
entry apart only when it knows the whole list.

What it takes an entry for is said by `KeyBinding.Reads`, which does not mention the reader: an
entry gives a chord in any spelling, a command and perhaps arguments, either in an object, with any
other members besides, or in an array.  Entries that give none of this are left out and counted.

Loading a keymap makes its bindings one after the other, so that a chord is bound to the last kept
entry for it.  Chords that were read are told apart by their texts, whatever they were spelled like
(`Chord.text_inj`).
-/

namespace EditorShell

open Json

/-- Chords that were read are told apart by their texts. -/
theorem Chord.text_inj {first second : Chord} (hfirst : first.Normal) (hsecond : second.Normal) :
    first.text = second.text ↔ first = second := by
  refine ⟨fun htext => ?_, congrArg Chord.text⟩
  have hparse := parse_text hfirst
  rw [htext, parse_text hsecond] at hparse
  exact (Except.ok.inj hparse).symm

/-! ## The fields of a record that is a value -/

namespace Json

/-- In an object whose members ascend a name stands for one member at most. -/
theorem Table.filter_eq_toList {α : Type} {name : String} {entries : List (String × α)}
    (hentries : Table.Ascending entries) : entries.filter (fun entry => entry.1 == name) =
      ((Table.find? name entries).map (name, ·)).toList := by
  induction entries with
  | nil => rfl
  | cons head rest ih =>
      obtain ⟨other, value⟩ := head
      obtain ⟨hhead, hrest⟩ := List.pairwise_cons.1 hentries
      rw [List.filter_cons, Table.find?, ih hrest]
      by_cases hname : other = name
      · subst hname
        simp [Table.find?_eq_none_of_lt hhead]
      · simp [hname, Ne.symm hname]

/-- The reader of a record finds each field of a value as it stands there. -/
theorem fieldsOfMembers?_ofMembers {members : List (String × Value)}
    (hmembers : Table.Ascending members) (names : List String) :
    fieldsOfMembers? names (Document.ofMembers members) =
      some (names.map fun name => Field.ofValue? (Table.find? name members)) := by
  have hfield : ∀ name, fieldOfMembers? (Document.ofMembers members) name =
      some (Field.ofValue? (Table.find? name members)) := by
    intro name
    rw [fieldOfMembers?, membersNamed_ofMembers, Table.filter_eq_toList hmembers]
    cases Table.find? name members <;> rfl
  have hnamed : (Document.ofMembers members).all (fun member => member.1.isSome) = true := by
    simp [Document.ofMembers_eq_map]
  rw [fieldsOfMembers?, if_pos hnamed]
  induction names with
  | nil => rfl
  | cons name names ih => simp [hfield name, ih]

end Json

namespace KeyBinding

/-! ## What an entry is read as -/

/-- The value gives these fields of a binding, in an object or in an array. -/
inductive Gives : (entry keys command : Value) → (args : Option Value) → Prop
  | object {members : List (String × Value)} {keys command : Value}
      (hkeys : Table.find? "keys" members = some keys)
      (hcommand : Table.find? "command" members = some command) :
      Gives (.object members) keys command (Table.find? "args" members)
  | pair (keys command : Value) : Gives (.array [keys, command]) keys command none
  | triple (keys command args : Value) :
      Gives (.array [keys, command, args]) keys command (some args)

/-- The entry stands for the binding: it gives its chord in some spelling, its command and its
arguments; arguments that are `null` are none. -/
def Reads (entry : Value) (binding : KeyBinding) : Prop :=
  ∃ raw args, Gives entry (.string raw) (.string binding.command) args ∧
    Chord.parse raw = .ok binding.keys ∧ binding.args = args.filter (· ≠ .null)

/-- Reading a binding is reading its three fields. -/
theorem decoder_eq_some_iff {room : Nat} {document : Document} {binding : KeyBinding} :
    decoder (room + 1) document = some binding ↔ ∃ keys command args,
      recordFields? ["keys", "command", "args"] document = some [keys, command, args] ∧
        keys.required Chord.decoder room = some binding.keys ∧
        command.required .text room = some binding.command ∧
        args.orDefault (.nullable .value) none room = some binding.args := by
  rw [decoder, Decoder.record, if_neg (Nat.succ_ne_zero room), Nat.add_sub_cancel]
  constructor
  · intro hread
    obtain ⟨fields, hfields, hbuild⟩ := Option.bind_eq_some_iff.1 hread
    split at hbuild
    · rename_i keys command args
      simp only [Option.bind_eq_bind, Option.bind_eq_some_iff, Option.some.injEq] at hbuild
      obtain ⟨chord, hkeys, name, hcommand, value, hargs, rfl⟩ := hbuild
      exact ⟨keys, command, args, hfields, hkeys, hcommand, hargs⟩
    · cases hbuild
  · rintro ⟨keys, command, args, hfields, hkeys, hcommand, hargs⟩
    simp [hfields, hkeys, hcommand, hargs]

theorem decoder_of_fields {room : Nat} {document : Document} {keys command args : Field}
    (hfields : recordFields? ["keys", "command", "args"] document = some [keys, command, args])
    {binding : KeyBinding} : decoder (room + 1) document = some binding ↔
      keys.required Chord.decoder room = some binding.keys ∧
        command.required .text room = some binding.command ∧
        args.orDefault (.nullable .value) none room = some binding.args := by
  rw [decoder_eq_some_iff, hfields]
  constructor
  · rintro ⟨_, _, _, heq, hread⟩
    cases heq
    exact hread
  · exact fun hread => ⟨_, _, _, rfl, hread⟩

variable {room : Nat}

theorem required_eq_some_iff {α : Type} {decoder : Decoder α} {value? : Option Value} {read : α} :
    (Field.ofValue? value?).required decoder room = some read ↔
      ∃ value, value? = some value ∧ decoder room (.ofValue value) = some read := by
  cases value? <;> simp [Field.ofValue?, Field.required]

theorem decoder_keys {value : Value} {chord : Chord} :
    Chord.decoder room (.ofValue value) = some chord ↔
      ∃ raw, value = .string raw ∧ Chord.parse raw = .ok chord := by
  cases value <;>
    simp [Chord.decoder, Decoder.andThen, Decoder.text, Document.ofValue, Chord.parse?_eq_some_iff]

theorem decoder_command {value : Value} {command : String} :
    Decoder.text room (.ofValue value) = some command ↔ value = .string command := by
  cases value <;> simp [Decoder.text, Document.ofValue]

/-- Arguments are read as they stand there, and `null` as none. -/
theorem orDefault_args {args : Option Value}
    (hargs : ∀ value ∈ args, value.Ordered ∧ value.depth ≤ room) :
    (Field.ofValue? args).orDefault (.nullable .value) none room =
      some (args.filter (· ≠ .null)) := by
  cases args with
  | none => rfl
  | some value =>
      obtain ⟨hordered, hdepth⟩ := hargs value rfl
      obtain ⟨back, hread, hback⟩ := Document.exists_value?_ofValue value room hdepth
      rw [hback hordered] at hread
      cases value with
      | null => rfl
      | _ => exact congrArg (Option.map some) hread

/-- Three values are read as the fields of a binding. -/
theorem fields_eq_some_iff {keys command args : Option Value} {binding : KeyBinding}
    (hargs : ∀ value ∈ args, value.Ordered ∧ value.depth ≤ room) :
    ((Field.ofValue? keys).required Chord.decoder room = some binding.keys ∧
      (Field.ofValue? command).required .text room = some binding.command ∧
      (Field.ofValue? args).orDefault (.nullable .value) none room = some binding.args) ↔
      ∃ raw, keys = some (.string raw) ∧ command = some (.string binding.command) ∧
        Chord.parse raw = .ok binding.keys ∧ binding.args = args.filter (· ≠ .null) := by
  simp only [required_eq_some_iff, decoder_keys, decoder_command, orDefault_args hargs,
    Option.some.injEq]
  constructor
  · rintro ⟨⟨_, rfl, raw, rfl, hparse⟩, ⟨_, rfl, rfl⟩, hread⟩
    exact ⟨raw, rfl, rfl, hparse, hread.symm⟩
  · rintro ⟨raw, rfl, rfl, hparse, hread⟩
    exact ⟨⟨_, rfl, raw, rfl, hparse⟩, ⟨_, rfl, rfl⟩, hread.symm⟩

theorem reads_object_iff {members : List (String × Value)} {binding : KeyBinding} :
    Reads (.object members) binding ↔ ∃ raw, Table.find? "keys" members = some (.string raw) ∧
      Table.find? "command" members = some (.string binding.command) ∧
      Chord.parse raw = .ok binding.keys ∧
      binding.args = (Table.find? "args" members).filter (· ≠ .null) := by
  constructor
  · rintro ⟨raw, args, gives, hparse, hargs⟩
    cases gives with
    | object hkeys hcommand => exact ⟨raw, hkeys, hcommand, hparse, hargs⟩
  · rintro ⟨raw, hkeys, hcommand, hparse, hargs⟩
    exact ⟨raw, _, .object hkeys hcommand, hparse, hargs⟩

/-- An object decodes as a binding exactly if its members give one. -/
theorem decoder_object {members : List (String × Value)} (hmembers : Table.Ascending members)
    (hargs : ∀ member ∈ members, member.2.Ordered ∧ member.2.depth ≤ room)
    {binding : KeyBinding} :
    decoder (room + 1) (.ofValue (.object members)) = some binding ↔
      Reads (.object members) binding := by
  have hfields : recordFields? ["keys", "command", "args"] (.ofValue (.object members)) =
      some [Field.ofValue? (Table.find? "keys" members),
        Field.ofValue? (Table.find? "command" members),
        Field.ofValue? (Table.find? "args" members)] := fieldsOfMembers?_ofMembers hmembers _
  have hgiven : ∀ value ∈ Table.find? "args" members, value.Ordered ∧ value.depth ≤ room :=
    fun value hvalue => hargs _ ((Table.find?_eq_some_iff hmembers).1 hvalue)
  rw [decoder_of_fields hfields, reads_object_iff, fields_eq_some_iff hgiven]

theorem reads_pair_iff {keys command : Value} {binding : KeyBinding} :
    Reads (.array [keys, command]) binding ↔ ∃ raw, some keys = some (.string raw) ∧
      some command = some (.string binding.command) ∧ Chord.parse raw = .ok binding.keys ∧
      binding.args = none := by
  constructor
  · rintro ⟨raw, args, gives, hparse, hargs⟩
    cases gives
    exact ⟨raw, rfl, rfl, hparse, hargs⟩
  · rintro ⟨raw, hkeys, hcommand, hparse, hargs⟩
    cases hkeys
    cases hcommand
    exact ⟨raw, _, .pair _ _, hparse, hargs⟩

theorem reads_triple_iff {keys command args : Value} {binding : KeyBinding} :
    Reads (.array [keys, command, args]) binding ↔ ∃ raw, some keys = some (.string raw) ∧
      some command = some (.string binding.command) ∧ Chord.parse raw = .ok binding.keys ∧
      binding.args = (some args).filter (· ≠ .null) := by
  constructor
  · rintro ⟨raw, args, gives, hparse, hargs⟩
    cases gives
    exact ⟨raw, rfl, rfl, hparse, hargs⟩
  · rintro ⟨raw, hkeys, hcommand, hparse, hargs⟩
    cases hkeys
    cases hcommand
    exact ⟨raw, _, .triple _ _ _, hparse, hargs⟩

/-- An array decodes as a binding exactly if it lists the fields of one in their order. -/
theorem decoder_array {items : List Value}
    (hargs : ∀ item ∈ items, item.Ordered ∧ item.depth ≤ room) {binding : KeyBinding} :
    decoder (room + 1) (.ofValue (.array items)) = some binding ↔
      Reads (.array items) binding := by
  -- Without a chord and a command, or with more than the fields, it is none.
  have hnone : (∀ keys command args, ¬Gives (.array items) keys command args) →
      ¬Reads (.array items) binding := fun hgives ⟨raw, args, gives, _⟩ => hgives _ _ _ gives
  match items with
  | [] =>
      have hfields : recordFields? ["keys", "command", "args"] (.ofValue (.array [])) =
          some [.cutOff, .cutOff, .cutOff] := rfl
      refine iff_of_false (fun hread => ?_) (hnone nofun)
      cases ((decoder_of_fields hfields).1 hread).1
  | [keys] =>
      have hfields : recordFields? ["keys", "command", "args"] (.ofValue (.array [keys])) =
          some [Field.ofValue? keys, .cutOff, .cutOff] := rfl
      refine iff_of_false (fun hread => ?_) (hnone nofun)
      cases ((decoder_of_fields hfields).1 hread).2.1
  | [keys, command] =>
      have hgiven : ∀ value ∈ (none : Option Value), value.Ordered ∧ value.depth ≤ room := by simp
      have hfields : recordFields? ["keys", "command", "args"] (.ofValue (.array [keys, command])) =
          some [Field.ofValue? keys, Field.ofValue? command, .cutOff] := rfl
      rw [decoder_of_fields hfields, reads_pair_iff]
      exact fields_eq_some_iff hgiven
  | [keys, command, args] =>
      have hgiven : ∀ value ∈ some args, value.Ordered ∧ value.depth ≤ room := by
        rintro _ ⟨⟩
        exact hargs args (by simp)
      have hfields : recordFields? ["keys", "command", "args"]
          (.ofValue (.array [keys, command, args])) =
          some [Field.ofValue? keys, Field.ofValue? command, Field.ofValue? args] := rfl
      rw [decoder_of_fields hfields, reads_triple_iff, fields_eq_some_iff hgiven]
  | _ :: _ :: _ :: _ :: _ =>
      refine iff_of_false (fun hread => ?_) (hnone nofun)
      obtain ⟨_, _, _, hfields, -⟩ := decoder_eq_some_iff.1 hread
      cases hfields

/-- An entry decodes as a binding exactly if it stands for one. -/
theorem decode?_eq_some_iff {entry : Value} (hordered : entry.Ordered)
    (hdepth : entry.depth ≤ Document.maxDepth) {binding : KeyBinding} :
    entry.decode? decoder = some binding ↔ Reads entry binding := by
  have hnone : (∀ keys command args, ¬Gives entry keys command args) →
      recordFields? ["keys", "command", "args"] (.ofValue entry) = none →
      (entry.decode? decoder = some binding ↔ Reads entry binding) := by
    intro hgives hfields
    refine iff_of_false (fun hread => ?_) fun ⟨raw, args, gives, _⟩ => hgives _ _ _ gives
    obtain ⟨_, _, _, hsome, -⟩ := decoder_eq_some_iff.1 hread
    rw [hfields] at hsome
    cases hsome
  cases entry with
  | object members =>
      refine decoder_object hordered.1 fun member hmember => ⟨?_, ?_⟩
      · exact Value.orderedMembers_iff.1 hordered.2 member hmember
      · exact Value.membersDepth_le_iff.1 (Nat.le_of_succ_le_succ hdepth) member hmember
  | array items =>
      refine decoder_array fun item hitem => ⟨?_, ?_⟩
      · exact Value.orderedItems_iff.1 hordered item hitem
      · exact Value.itemsDepth_le_iff.1 (Nat.le_of_succ_le_succ hdepth) item hitem
  | null | bool | number | string => exact hnone nofun rfl

end KeyBinding

/-! ## Reading a keymap -/

namespace Keymap

/-- The document has this list of bindings: as a whole, or as its member of that name. -/
inductive Lists : (document : Value) → (entries : List Value) → Prop
  | array (entries : List Value) : Lists (.array entries) entries
  | object {members : List (String × Value)} {entries : List Value}
      (hentries : Table.find? "bindings" members = some (.array entries)) :
      Lists (.object members) entries

/-- What is kept of the entries of a keymap. -/
structure Kept (entries : List Value) (keymap : ParsedKeymap) : Prop where
  /-- The bindings are what the entries decode as, in their order. -/
  bindings_eq : keymap.bindings = entries.filterMap (Value.decode? KeyBinding.decoder)
  /-- An entry decodes exactly if it stands for a binding, whatever stands around it. -/
  decode?_eq_some_iff : ∀ entry ∈ entries, ∀ binding,
    entry.decode? KeyBinding.decoder = some binding ↔ KeyBinding.Reads entry binding
  /-- The other entries are counted. -/
  counted : keymap.bindings.length + keymap.skipped = entries.length

theorem lists_of_entries {document : Value} {entries : List Value}
    (hentries : Keymap.entries document = .ok entries) : Lists document entries := by
  cases document with
  | array items =>
      cases hentries
      exact .array _
  | object members =>
      rw [Keymap.entries] at hentries
      split at hentries
      · cases hentries
      · split at hentries
        · rename_i items hitems
          cases hentries
          exact .object hitems
        · cases hentries
  | null | bool | number | string => cases hentries

theorem kept_ofEntries {entries : List Value}
    (hentries : ∀ entry ∈ entries, entry.Ordered ∧ entry.depth ≤ Document.maxDepth) :
    Kept entries (ofEntries entries) where
  bindings_eq := rfl
  decode?_eq_some_iff entry hentry _ :=
    KeyBinding.decode?_eq_some_iff (hentries entry hentry).1 (hentries entry hentry).2
  counted := Nat.add_sub_of_le (List.length_filterMap_le _ _)

/-- The entries of a document that has been read are in order, and not too deep. -/
theorem Lists.of_read {document : Value} {entries : List Value} (lists : Lists document entries)
    (hread : Value.Read Document.maxDepth document) :
    ∀ entry ∈ entries, entry.Ordered ∧ entry.depth ≤ Document.maxDepth := by
  have hitems : ∀ {items : List Value}, (Value.array items).Ordered →
      (Value.array items).depth ≤ Document.maxDepth →
      ∀ item ∈ items, item.Ordered ∧ item.depth ≤ Document.maxDepth := by
    intro items hordered hdepth item hitem
    refine ⟨Value.orderedItems_iff.1 hordered item hitem, ?_⟩
    exact Value.itemsDepth_le_iff.1 (Nat.le_of_succ_le hdepth) item hitem
  cases lists with
  | array => exact hitems hread.ordered hread.depth_le
  | object hentries =>
      obtain ⟨hascending, hordered⟩ := hread.ordered
      have hmember := (Table.find?_eq_some_iff hascending).1 hentries
      refine hitems (Value.orderedMembers_iff.1 hordered _ hmember) ?_
      exact Value.membersDepth_le_iff.1 (Nat.le_of_succ_le hread.depth_le) _ hmember

theorem exists_kept_of_parse {text : String} {keymap : ParsedKeymap}
    (hparse : parse text = .ok keymap) : ∃ document entries,
      Value.parse? text = some document ∧ Lists document entries ∧ Kept entries keymap := by
  rw [parse] at hparse
  cases hdocument : Value.parse? text with
  | none =>
      rw [hdocument] at hparse
      cases hparse
  | some document =>
      simp only [hdocument] at hparse
      cases hentries : Keymap.entries document with
      | error cause =>
          rw [hentries] at hparse
          cases hparse
      | ok entries =>
          rw [hentries] at hparse
          cases hparse
          have lists := lists_of_entries hentries
          exact ⟨document, entries, rfl, lists,
            kept_ofEntries (lists.of_read (Value.read_of_parse? hdocument))⟩

/-- The chords of the kept bindings have been read. -/
theorem Kept.normal {entries : List Value} {keymap : ParsedKeymap} (kept : Kept entries keymap) :
    ∀ binding ∈ keymap.bindings, binding.keys.Normal := by
  intro binding hbinding
  rw [kept.bindings_eq] at hbinding
  obtain ⟨entry, hentry, hdecode⟩ := List.mem_filterMap.1 hbinding
  obtain ⟨raw, args, -, hparse, -⟩ := (kept.decode?_eq_some_iff entry hentry binding).1 hdecode
  exact Chord.normal_of_parse hparse

end Keymap

/-- After loading, a chord is bound to the last of the loaded bindings for it, or as before. -/
theorem KeyDispatcher.binding?_load_of_normal (keys : KeyDispatcher) {bindings : List KeyBinding}
    (hbindings : ∀ binding ∈ bindings, binding.keys.Normal) {chord : Chord}
    (hchord : chord.Normal) : (keys.load bindings).binding? chord =
      (bindings.filter fun binding => binding.keys = chord).getLast?.or (keys.binding? chord) := by
  have hsame : (bindings.filter fun binding => binding.keys.text == chord.text) =
      bindings.filter fun binding => binding.keys = chord :=
    List.filter_congr fun binding hbinding => by
      rw [Bool.eq_iff_iff, beq_iff_eq, decide_eq_true_eq,
        Chord.text_inj (hbindings binding hbinding) hchord]
  rw [binding?_load, ← List.getLast?_filter, hsame]

/-! ## Writing a keymap -/

namespace KeyBinding

/-- A binding that can be written: its chord has been read, and its arguments are no `null`, which
would read as none, and no double is in them. -/
structure Writable (binding : KeyBinding) : Prop where
  keys : ∃ raw, Chord.parse raw = .ok binding.keys
  args : ∀ value ∈ binding.args, value ≠ .null ∧ value.Integral ∧ value.Ordered

/-- The fields of a binding as they are written. -/
def fields (binding : KeyBinding) : List (String × Option Value) :=
  [("keys", some binding.keys.toJson), ("command", some (.string binding.command)),
    ("args", binding.args)]

theorem toJson_eq (binding : KeyBinding) : binding.toJson = .object (present binding.fields) := by
  obtain ⟨keys, command, args⟩ := binding
  cases args <;> rfl

variable {binding : KeyBinding}

theorem Writable.filter_args (writable : binding.Writable) :
    binding.args.filter (· ≠ .null) = binding.args := by
  cases hargs : binding.args with
  | none => rfl
  | some value =>
      have hnull : value ≠ .null := (writable.args value hargs).1
      simp [Option.filter, hnull]

theorem Writable.of_mem_present (writable : binding.Writable) {member : String × Value}
    (hmember : member ∈ present binding.fields) : member.2.Integral ∧ member.2.Ordered := by
  have hfield := mem_present.1 hmember
  simp only [fields, List.mem_cons, List.not_mem_nil, or_false, Prod.mk.injEq,
    Option.some.injEq] at hfield
  rcases hfield with ⟨-, hvalue⟩ | ⟨-, hvalue⟩ | ⟨-, hvalue⟩
  · rw [hvalue]
    exact ⟨trivial, trivial⟩
  · rw [hvalue]
    exact ⟨trivial, trivial⟩
  · exact (writable.args _ hvalue.symm).2

theorem Writable.integral_toJson (writable : binding.Writable) : binding.toJson.Integral := by
  rw [toJson_eq]
  exact Value.integralMembers_iff.2 fun _ hmember => (writable.of_mem_present hmember).1

/-- Read as a value, a binding has its members in order. -/
theorem Writable.value?_toJson (writable : binding.Writable) {room : Nat}
    (hroom : binding.toJson.depth ≤ room) : (Document.ofValue binding.toJson).value? room =
      some (.ofMembers (present binding.fields)) := by
  rw [toJson_eq, Value.depth] at hroom
  rw [toJson_eq, Document.ofValue, Document.value?, if_neg (by omega),
    Document.memberValues?_ofMembers (fun _ hmember => (writable.of_mem_present hmember).2)
      (by omega)]
  rfl

/-- Read as a binding, it is the binding. -/
theorem Writable.decoder_toJson (writable : binding.Writable) {room : Nat}
    (hroom : binding.toJson.depth ≤ room + 1) :
    decoder (room + 1) (.ofValue binding.toJson) = some binding := by
  have hnodup : (binding.fields.map Prod.fst).Nodup := by
    show ["keys", "command", "args"].Nodup
    decide
  have hfields : recordFields? ["keys", "command", "args"] (.ofValue binding.toJson) =
      some [Field.ofValue? (some binding.keys.toJson),
        Field.ofValue? (some (.string binding.command)), Field.ofValue? binding.args] := by
    have hothers : ∀ member ∈ ([] : List (String × Value)),
        member.1 ∉ binding.fields.map Prod.fst := by simp
    have hpresent := fieldsOfMembers?_present hnodup hothers
    rw [List.append_nil] at hpresent
    rw [toJson_eq]
    exact hpresent
  rw [toJson_eq, Value.depth] at hroom
  have hargs : ∀ value ∈ binding.args, value.Ordered ∧ value.depth ≤ room := by
    intro value hvalue
    have hfield : ("args", some value) ∈ binding.fields := by
      simp [fields, Option.mem_def.1 hvalue]
    exact ⟨(writable.args value hvalue).2.2,
      Nat.le_trans (depth_le_of_field hfield) (Nat.le_of_succ_le_succ hroom)⟩
  -- The keys are written in their canonical spelling, which reads back as the chord itself.
  obtain ⟨raw, hparse⟩ := writable.keys
  have hself := Chord.parse_text (Chord.normal_of_parse hparse)
  exact (decoder_of_fields hfields).2
    ((fields_eq_some_iff hargs).2 ⟨_, rfl, rfl, hself, writable.filter_args.symm⟩)

/-- In the object that a binding is read as, each field stands under its name. -/
theorem find?_fields (binding : KeyBinding) :
    let members := (present binding.fields).foldl
      (fun entries member => Table.put member.1 member.2 entries) []
    Table.find? "keys" members = some (.string binding.keys.text) ∧
      Table.find? "command" members = some (.string binding.command) ∧
      Table.find? "args" members = binding.args := by
  obtain ⟨keys, command, args⟩ := binding
  cases args <;> simp [fields, present, Table.find?_put, Table.find?, Chord.toJson]

/-- Its members stand for the binding. -/
theorem Writable.reads (writable : binding.Writable) :
    Reads (.ofMembers (present binding.fields)) binding := by
  obtain ⟨raw, hparse⟩ := writable.keys
  have hself := Chord.parse_text (Chord.normal_of_parse hparse)
  obtain ⟨hkeys, hcommand, hargs⟩ := find?_fields binding
  refine reads_object_iff.2 ⟨binding.keys.text, hkeys, hcommand, hself, ?_⟩
  rw [hargs, writable.filter_args]

end KeyBinding

namespace KeymapDocument

variable {bindings : List KeyBinding}

/-- The entries of a keymap that has been written, as they are read. -/
def entries (bindings : List KeyBinding) : List Value :=
  bindings.map fun binding => .ofMembers (present binding.fields)

/-- The values of the bindings are read one after the other. -/
theorem itemValues?_bindings (hbindings : ∀ binding ∈ bindings, binding.Writable) {room : Nat}
    (hroom : Value.itemsDepth (bindings.map KeyBinding.toJson) ≤ room) :
    Document.itemValues? room (Document.ofItems (bindings.map KeyBinding.toJson)) =
      some (entries bindings) := by
  induction bindings with
  | nil => rfl
  | cons binding bindings ih =>
      rw [List.forall_mem_cons] at hbindings
      rw [List.map_cons, Value.itemsDepth] at hroom
      rw [List.map_cons, Document.ofItems, Document.itemValues?,
        hbindings.1.value?_toJson (by omega), ih hbindings.2 (by omega)]
      rfl

theorem integral_toJson (hbindings : ∀ binding ∈ bindings, binding.Writable) :
    (ofBindings bindings).toJson.Integral := by
  have hversion : currentVersion < Nat.pow 2 64 := by decide
  refine ⟨Value.integral_ofNat hversion, Value.integralItems_iff.2 fun item hitem => ?_, trivial⟩
  obtain ⟨binding, hbinding, rfl⟩ := List.mem_map.1 hitem
  exact (hbindings binding hbinding).integral_toJson

/-- The members of a keymap that has been written, as they are read. -/
def members (bindings : List KeyBinding) : List (String × Value) :=
  [("bindings", .array (entries bindings)), ("version", .ofNat currentVersion)]

theorem parse?_text (hbindings : ∀ binding ∈ bindings, binding.Writable)
    (hdepth : (ofBindings bindings).toJson.depth ≤ Document.maxDepth) :
    Value.parse? (ofBindings bindings).text = some (.object (members bindings)) := by
  have hitems : Document.itemValues? 125 (Document.ofItems (bindings.map KeyBinding.toJson)) =
      some (entries bindings) := by
    refine itemValues?_bindings hbindings ?_
    simp only [toJson, ofBindings, Value.ofNat, Value.depth, Value.membersDepth,
      Document.maxDepth] at hdepth
    omega
  have hsorted : "bindings" < "version" := by decide +kernel
  rw [Value.parse?, text, Document.parse?_indentedText (integral_toJson hbindings)]
  simp [toJson, ofBindings, Document.ofValue, Document.ofMembers, Document.value?,
    Document.memberValues?, Document.maxDepth, hitems, Value.ofMembers, Table.put, Value.ofNat,
    members, hsorted]

end KeymapDocument

/-- A keymap that is written is read back, and no entry is skipped. -/
theorem Keymap.parse_text {bindings : List KeyBinding}
    (hbindings : ∀ binding ∈ bindings, binding.Writable)
    (hdepth : (KeymapDocument.ofBindings bindings).toJson.depth ≤ Document.maxDepth) :
    parse (KeymapDocument.ofBindings bindings).text = .ok ⟨bindings, 0⟩ := by
  have hparse := KeymapDocument.parse?_text hbindings hdepth
  have hkeymap := parse_of_object hparse
  have states : States (KeymapDocument.members bindings) KeymapDocument.currentVersion :=
    ⟨rfl, by decide⟩
  rw [if_pos (statedVersion_of_states states)] at hkeymap
  have hread := (Lists.object (by rfl)).of_read (Value.read_of_parse? hparse)
  have hkept : (KeymapDocument.entries bindings).filterMap (Value.decode? KeyBinding.decoder) =
      bindings := by
    rw [KeymapDocument.entries, List.filterMap_map]
    refine (List.filterMap_congr fun binding hbinding => ?_).trans List.filterMap_some
    have hentry := hread _ (List.mem_map_of_mem hbinding)
    exact (KeyBinding.decode?_eq_some_iff hentry.1 hentry.2).2 (hbindings binding hbinding).reads
  have hcount : (KeymapDocument.entries bindings).length = bindings.length := List.length_map _
  rw [hkeymap]
  simp [KeymapDocument.members, Table.find?, ofEntries, hkept, hcount]

/-- A keymap that is written is read back.  And from whatever document is accepted, those entries
are kept that stand for a binding, in their order, and the others are counted; then loading the
document binds each chord to the last entry kept for it, and leaves it as it was if there is
none. -/
theorem keymap_documents_read {κ S : Type} :
    (∀ bindings : List KeyBinding, (∀ binding ∈ bindings, binding.Writable) →
      (KeymapDocument.ofBindings bindings).toJson.depth ≤ Document.maxDepth →
      Keymap.parse (KeymapDocument.ofBindings bindings).text = .ok ⟨bindings, 0⟩) ∧
    ∀ text keymap, Keymap.parse text = .ok keymap →
      (∃ document entries, Value.parse? text = some document ∧
        Keymap.Lists document entries ∧ Keymap.Kept entries keymap) ∧
      ∀ (caller : Caller κ S) (session : Session κ S),
        let loaded := (Session.loadKeymap text).run caller session
        loaded.1 = .ok keymap.bindings.length ∧
          ∀ raw chord, Chord.parse raw = .ok chord → loaded.2.binding? raw =
            (keymap.bindings.filter fun binding => binding.keys = chord).getLast?.or
              (session.binding? raw) := by
  refine ⟨fun _ => Keymap.parse_text, fun text keymap hparse => ?_⟩
  have hkept := Keymap.exists_kept_of_parse hparse
  refine ⟨hkept, fun caller session => ?_⟩
  obtain ⟨_, _, -, -, kept⟩ := hkept
  have hrun : (Session.loadKeymap text).run caller session = (.ok keymap.bindings.length,
      { session with keys := session.keys.load keymap.bindings }) := by
    simp [Session.loadKeymap, Session.loadMap, hparse]
  rw [hrun]
  refine ⟨rfl, fun raw chord hchord => ?_⟩
  rw [Session.binding?, Session.binding?, Chord.parse?_eq_some_iff.2 hchord]
  exact session.keys.binding?_load_of_normal kept.normal (Chord.normal_of_parse hchord)

/-- Two entries for one chord, in an object and in an array, and one without a command. -/
def Keymap.mixedText : String :=
  "[\x7b\"keys\":\"Ctrl+K\",\"command\":\"first\",\"note\":1\x7d," ++
    "\x7b\"keys\":\"ctrl+j\"\x7d,[\"control + k\",\"second\",null]]"

theorem keymap_documents_read_mixed :
    let bindings : List KeyBinding := [⟨⟨⟨1⟩, "k"⟩, "first", none⟩, ⟨⟨⟨1⟩, "k"⟩, "second", none⟩]
    let loaded := (Session.loadKeymap Keymap.mixedText).run (Code.plain.caller 0)
      Session.boundSession
    Keymap.parse Keymap.mixedText = .ok ⟨bindings, 1⟩ ∧
      Keymap.parse (KeymapDocument.ofBindings bindings).text = .ok ⟨bindings, 0⟩ ∧
      loaded.2.binding? "ctrl+k" = some ⟨⟨⟨1⟩, "k"⟩, "second", none⟩ := by
  intro bindings loaded
  have hparse : Keymap.parse Keymap.mixedText = .ok ⟨bindings, 1⟩ := by decide +kernel
  have hchord : Chord.parse "ctrl+k" = .ok ⟨⟨1⟩, "k"⟩ := by decide +kernel
  have hwritable : ∀ binding ∈ bindings, binding.Writable := by
    intro binding hbinding
    simp only [bindings, List.mem_cons, List.not_mem_nil, or_false] at hbinding
    rcases hbinding with rfl | rfl
    · exact ⟨⟨_, hchord⟩, by simp⟩
    · exact ⟨⟨_, hchord⟩, by simp⟩
  refine ⟨hparse, keymap_documents_read (κ := Empty) (S := Unit) |>.1 bindings hwritable
    (by decide), ?_⟩
  have hloaded := (keymap_documents_read (κ := Empty) (S := Unit)).2 _ _ hparse
  rw [(hloaded.2 (Code.plain.caller 0) Session.boundSession).2 "ctrl+k" _ hchord]
  rfl

end EditorShell
