import EditorShell.Proofs.Shell.Configuration

/-!
# A keymap in a configuration and by itself

The list of bindings in a configuration is read strictly and from the text: one entry that is no
binding, and the configuration is refused.  A keymap is read as a value first and then entry by
entry, and what is no binding is skipped.  What the strict reader takes, the lenient one takes for
the same bindings (`reads_of_decoder`): a field that occurs once in an object is the member of that
name in its value, and a field that is `null` or missing is none in both.

There is one exception.  The strict reader passes over members it does not know, and not even their
values are looked at; for the lenient reader a member that has no value makes the whole keymap no
value.  So the list `[{"keys": "ctrl+k", "command": "c", "x": 1e9999999999}]` gives a binding in a
configuration and is refused as a keymap, whatever else is in it (`keymap_refused_whole`).
-/

namespace EditorShell

open Json

/-! ## More room -/

namespace Json.Document

mutual

/-- What is a value with some room is the same value with more room. -/
theorem value?_mono : (document : Document) → ∀ {room more : Nat} {value : Value}, room ≤ more →
    document.value? room = some value → document.value? more = some value
  | .null, _, _, _, _, hvalue => hvalue
  | .bool _, _, _, _, _, hvalue => hvalue
  | .number _, _, _, _, _, hvalue => hvalue
  | .string _, _, _, _, _, hvalue => hvalue
  | .array items, room, more, value, hle, hvalue => by
      rw [value?, Option.ite_none_left_eq_some] at hvalue ⊢
      obtain ⟨hroom, hitems⟩ := hvalue
      obtain ⟨values, hvalues, rfl⟩ := Option.map_eq_some_iff.1 hitems
      exact ⟨by omega, Option.map_eq_some_iff.2
        ⟨values, itemValues?_mono items (Nat.sub_le_sub_right hle 1) hvalues, rfl⟩⟩
  | .object members, room, more, value, hle, hvalue => by
      rw [value?, Option.ite_none_left_eq_some] at hvalue ⊢
      obtain ⟨hroom, hmembers⟩ := hvalue
      obtain ⟨values, hvalues, rfl⟩ := Option.map_eq_some_iff.1 hmembers
      exact ⟨by omega, Option.map_eq_some_iff.2
        ⟨values, memberValues?_mono members (Nat.sub_le_sub_right hle 1) hvalues, rfl⟩⟩

theorem itemValues?_mono : (items : List Document) → ∀ {room more : Nat} {values : List Value},
    room ≤ more → itemValues? room items = some values → itemValues? more items = some values
  | [], _, _, _, _, hvalues => hvalues
  | item :: items, room, more, values, hle, hvalues => by
      simp only [itemValues?, Option.bind_eq_bind, Option.bind_eq_some_iff] at hvalues ⊢
      obtain ⟨first, hfirst, others, hothers, heq⟩ := hvalues
      exact ⟨first, value?_mono item hle hfirst, others, itemValues?_mono items hle hothers, heq⟩

theorem memberValues?_mono : (members : List (Option String × Document)) → ∀ {room more : Nat}
    {values : List (String × Value)}, room ≤ more →
    memberValues? room members = some values → memberValues? more members = some values
  | [], _, _, _, _, hvalues => hvalues
  | (name?, item) :: members, room, more, values, hle, hvalues => by
      simp only [memberValues?, Option.bind_eq_bind, Option.bind_eq_some_iff] at hvalues ⊢
      obtain ⟨name, hname, first, hfirst, others, hothers, heq⟩ := hvalues
      exact ⟨name, hname, first, value?_mono item hle hfirst, others,
        memberValues?_mono members hle hothers, heq⟩

end

/-! ## What has no value -/

theorem itemValues?_eq_none_iff {room : Nat} {items : List Document} :
    itemValues? room items = none ↔ ∃ item ∈ items, item.value? room = none := by
  induction items with
  | nil => simp [itemValues?]
  | cons item items ih =>
      rw [itemValues?]
      cases hitem : item.value? room with
      | none => simp [hitem]
      | some value =>
          cases hitems : itemValues? room items with
          | none => simpa [hitem, hitems] using ih.1 hitems
          | some values =>
              have hall := mt ih.2 (by simp [hitems])
              simpa [hitem, hitems] using hall

theorem memberValues?_eq_none_iff {room : Nat} {members : List (Option String × Document)} :
    memberValues? room members = none ↔
      ∃ member ∈ members, member.1 = none ∨ member.2.value? room = none := by
  induction members with
  | nil => simp [memberValues?]
  | cons member members ih =>
      obtain ⟨name?, item⟩ := member
      rw [memberValues?]
      cases name? with
      | none => simp
      | some name =>
          cases hitem : item.value? room with
          | none => simp [hitem]
          | some value =>
              cases hmembers : memberValues? room members with
              | none => simpa [hitem, hmembers] using ih.1 hmembers
              | some values =>
                  have hall := mt ih.2 (by simp [hmembers])
                  simpa [hitem, hmembers] using hall

end Json.Document

/-! ## A field and the member of its name -/

namespace Json

/-- The field of a record is this value, or there is none. -/
inductive Field.Is (room : Nat) : Field → Option Value → Prop
  | given {document : Document} {value : Value} (hvalue : document.value? room = some value) :
      Is room (.given document) (some value)
  | absent : Is room .absent none
  | cutOff : Is room .cutOff none

/-- Of several members of one name the last one stands in the table. -/
theorem find?_foldl_put (name : String) (members entries : List (String × Value)) :
    Table.find? name
        (members.foldl (fun entries member => Table.put member.1 member.2 entries) entries) =
      ((members.filter fun member => member.1 == name).getLast?.map Prod.snd).or
        (Table.find? name entries) := by
  induction members generalizing entries with
  | nil => rfl
  | cons member members ih =>
      rw [List.foldl_cons, ih, Table.find?_put, List.filter_cons]
      by_cases hname : member.1 = name
      · rw [if_pos (beq_iff_eq.2 hname), if_pos hname.symm]
        cases hlast : (members.filter fun member => member.1 == name).getLast? with
        | none =>
            rw [List.getLast?_eq_none_iff.1 hlast]
            rfl
        | some last => simp [List.getLast?_cons, hlast]
      · rw [if_neg (Ne.symm hname), if_neg (by simpa using hname)]

/-- The values of the members of one name. -/
theorem mapM_membersNamed {room : Nat} {members : List (Option String × Document)}
    {values : List (String × Value)} (hvalues : Document.memberValues? room members = some values)
    (name : String) : (membersNamed name members).mapM (Document.value? room) =
      some ((values.filter fun member => member.1 == name).map Prod.snd) := by
  induction members generalizing values with
  | nil =>
      cases hvalues
      rfl
  | cons member members ih =>
      obtain ⟨name?, item⟩ := member
      simp only [Document.memberValues?, Option.bind_eq_bind, Option.bind_eq_some_iff,
        Option.some.injEq] at hvalues
      obtain ⟨other, rfl, value, hvalue, others, hothers, rfl⟩ := hvalues
      have hrest := ih hothers
      unfold membersNamed at hrest ⊢
      by_cases hname : other = name
      · simp [hname, hvalue, hrest]
      · simpa [hname] using hrest

/-- A field that occurs once at most is the member of its name. -/
theorem is_of_fieldOfMembers? {room : Nat} {members : List (Option String × Document)}
    {values : List (String × Value)} (hvalues : Document.memberValues? room members = some values)
    {name : String} {field : Field} (hfield : fieldOfMembers? members name = some field) :
    field.Is room (Table.find? name
      (values.foldl (fun entries member => Table.put member.1 member.2 entries) [])) := by
  have hnamed := mapM_membersNamed hvalues name
  rw [find?_foldl_put, Table.find?, Option.or_none]
  rw [fieldOfMembers?] at hfield
  generalize values.filter (fun member => member.1 == name) = found at hnamed ⊢
  -- The strict reader refuses a name given twice, so of the members that the table folds one is
  -- left.
  cases hmembers : membersNamed name members with
  | nil =>
      rw [hmembers] at hfield hnamed
      cases hfield
      have hfound : found = [] := List.map_eq_nil_iff.1 (Option.some.inj hnamed).symm
      rw [hfound]
      exact .absent
  | cons document others =>
      cases others with
      | nil =>
          rw [hmembers] at hfield hnamed
          cases hfield
          simp only [List.mapM_cons, List.mapM_nil, Option.pure_def, Option.bind_eq_bind,
            Option.bind_some, Option.bind_eq_some_iff, Option.some.injEq] at hnamed
          obtain ⟨value, hvalue, hfound⟩ := hnamed
          obtain ⟨member, rfl, rfl⟩ := List.map_eq_singleton_iff.1 hfound.symm
          exact .given hvalue
      | cons =>
          rw [hmembers] at hfield
          cases hfield

theorem Decoder.nullable_eq_none_iff {α : Type} {decoder : Decoder α} {room : Nat}
    {document : Document} : nullable decoder room document = some none ↔ document = .null := by
  cases document <;> simp [nullable]

theorem Field.Is.unique {room : Nat} {field : Field} {first second : Option Value}
    (hfirst : field.Is room first) (hsecond : field.Is room second) : first = second := by
  cases hfirst with
  | given hvalue =>
      cases hsecond with
      | given hother => rw [← hvalue, hother]
  | absent =>
      cases hsecond
      rfl
  | cutOff =>
      cases hsecond
      rfl

/-- An object whose fields are read names all its members, and each field is known. -/
theorem fieldOfMembers?_of_recordFields? {members : List (Option String × Document)}
    {first second third : String} {a b c : Field}
    (hfields : recordFields? [first, second, third] (.object members) = some [a, b, c]) :
    (∀ member ∈ members, member.1 ≠ none) ∧ fieldOfMembers? members first = some a ∧
      fieldOfMembers? members second = some b ∧ fieldOfMembers? members third = some c := by
  simp only [recordFields?, fieldsOfMembers?, Option.ite_none_right_eq_some, List.all_eq_true,
    List.mapM_cons, List.mapM_nil, Option.pure_def, Option.bind_eq_bind, Option.bind_eq_some_iff,
    Option.some.injEq] at hfields
  obtain ⟨hnamed, _, hfirst, _, ⟨_, hsecond, _, ⟨_, hthird, _, rfl, rfl⟩, rfl⟩, heq⟩ := hfields
  cases heq
  refine ⟨fun member hmember hnone => ?_, hfirst, hsecond, hthird⟩
  have hsome := hnamed member hmember
  rw [hnone] at hsome
  cases hsome

/-- A member is what its field is given as. -/
theorem eq_given_of_mem {members : List (Option String × Document)} {name : String}
    {item : Document} (hmember : (some name, item) ∈ members) {field : Field}
    (hfield : fieldOfMembers? members name = some field) : field = .given item := by
  have hnamed : item ∈ membersNamed name members :=
    List.mem_map.2 ⟨_, List.mem_filter.2 ⟨hmember, beq_self_eq_true _⟩, rfl⟩
  rw [fieldOfMembers?] at hfield
  cases hmembers : membersNamed name members with
  | nil =>
      rw [hmembers] at hnamed
      cases hnamed
  | cons document others =>
      rw [hmembers] at hfield hnamed
      cases others with
      | nil =>
          rw [List.mem_singleton.1 hnamed]
          exact (Option.some.inj hfield).symm
      | cons => cases hfield

theorem Field.Is.ne_none {room : Nat} {field : Field} {value? : Option Value}
    (his : field.Is room value?) {document : Document} (hgiven : field = .given document) :
    document.value? room ≠ none := by
  subst hgiven
  cases his with
  | given hvalue => exact Option.ne_none_iff_exists'.2 ⟨_, hvalue⟩

end Json

/-! ## One binding -/

namespace KeyBinding

variable {room more : Nat} {binding : KeyBinding}

/-- The names of the fields of a binding. -/
def fieldNames : List String := ["keys", "command", "args"]

theorem is_of_keys {field : Field} {chord : Chord}
    (hkeys : field.required Chord.decoder room = some chord) (more : Nat) :
    ∃ raw, field.Is more (some (.string raw)) ∧ Chord.parse raw = .ok chord := by
  cases field with
  | given document =>
      obtain ⟨raw, htext, hparse⟩ := Option.bind_eq_some_iff.1 hkeys
      refine ⟨raw, .given ?_, Chord.parse?_eq_some_iff.1 hparse⟩
      cases document with
      | string text? => exact congrArg (Option.map Value.string) htext
      | _ => cases htext
  | absent => cases hkeys
  | cutOff => cases hkeys

theorem is_of_command {field : Field} {command : String}
    (hcommand : field.required .text room = some command) (more : Nat) :
    field.Is more (some (.string command)) := by
  cases field with
  | given document =>
      refine .given ?_
      cases document with
      | string text? => exact congrArg (Option.map Value.string) hcommand
      | _ => cases hcommand
  | absent => cases hcommand
  | cutOff => cases hcommand

theorem is_of_args {field : Field} {args : Option Value}
    (hargs : field.orDefault (.nullable .value) none room = some args) (hle : room ≤ more) :
    ∃ value?, field.Is more value? ∧ args = value?.filter (· ≠ .null) := by
  cases field with
  | given document =>
      cases args with
      | none =>
          obtain rfl : document = .null := Decoder.nullable_eq_none_iff.1 hargs
          exact ⟨some .null, .given rfl, rfl⟩
      | some value =>
          obtain ⟨hnull, hvalue⟩ := Decoder.nullable_eq_some_iff.1 hargs
          have hne : value ≠ .null := by
            rintro rfl
            exact hnull (Document.eq_null_of_value? hvalue)
          exact ⟨some value, .given (Document.value?_mono document hle hvalue),
            by simp [Option.filter, hne]⟩
  | absent =>
      cases hargs
      exact ⟨none, .absent, rfl⟩
  | cutOff =>
      cases hargs
      exact ⟨none, .cutOff, rfl⟩

/-- The fields of what is read as a binding have values, with at least as much room. -/
theorem exists_is_of_decoder {document : Document} (hle : room ≤ more)
    (hread : decoder (room + 1) document = some binding) :
    ∃ keys command args raw value?, recordFields? fieldNames document = some [keys, command, args] ∧
      keys.Is more (some (.string raw)) ∧ Chord.parse raw = .ok binding.keys ∧
      command.Is more (some (.string binding.command)) ∧
      args.Is more value? ∧ binding.args = value?.filter (· ≠ .null) := by
  obtain ⟨keys, command, args, hfields, hkeys, hcommand, hargs⟩ := decoder_eq_some_iff.1 hread
  obtain ⟨raw, his, hparse⟩ := is_of_keys hkeys more
  obtain ⟨value?, hvalue, hfilter⟩ := is_of_args hargs hle
  exact ⟨keys, command, args, raw, value?, hfields, his, hparse, is_of_command hcommand more,
    hvalue, hfilter⟩

/-- An array of the fields of a binding has a value, which gives them. -/
theorem gives_of_fieldsOfItems? {items : List Document} {keys command args : Field}
    (hfields : fieldsOfItems? fieldNames items = some [keys, command, args])
    {first second : Value} {third : Option Value} (hkeys : keys.Is more (some first))
    (hcommand : command.Is more (some second)) (hargs : args.Is more third) :
    ∃ values, Document.itemValues? more items = some values ∧
      Gives (.array values) first second third := by
  -- A list is a record by its positions: two items or three, the last one being optional.
  match items with
  | [] =>
      cases hfields
      cases hkeys
  | [_] =>
      cases hfields
      cases hcommand
  | [_, _] =>
      cases hfields
      cases hkeys with | given hkeys
      cases hcommand with | given hcommand
      cases hargs
      exact ⟨[first, second], by simp [Document.itemValues?, hkeys, hcommand], .pair _ _⟩
  | [_, _, _] =>
      cases hfields
      cases hkeys with | given hkeys
      cases hcommand with | given hcommand
      cases hargs with | given hargs
      exact ⟨_, by simp [Document.itemValues?, hkeys, hcommand, hargs], .triple _ _ _⟩
  | _ :: _ :: _ :: _ :: _ => cases hfields

/-- What is read as a binding stands for it as a value, if it has one. -/
theorem reads_of_decoder {document : Document} {entry : Value} (hle : room ≤ more)
    (hread : decoder (room + 1) document = some binding)
    (hentry : document.value? (more + 1) = some entry) : Reads entry binding := by
  obtain ⟨keys, command, args, raw, value?, hfields, hkeys, hparse, hcommand, hargs, hnull⟩ :=
    exists_is_of_decoder hle hread
  cases document with
  | object members =>
      obtain ⟨-, hfirst, hsecond, hthird⟩ := fieldOfMembers?_of_recordFields? hfields
      rw [Document.value?, if_neg (Nat.succ_ne_zero more), Nat.add_sub_cancel] at hentry
      obtain ⟨values, hvalues, rfl⟩ := Option.map_eq_some_iff.1 hentry
      have hmember := (is_of_fieldOfMembers? hvalues hthird).unique hargs
      refine reads_object_iff.2 ⟨raw, (is_of_fieldOfMembers? hvalues hfirst).unique hkeys,
        (is_of_fieldOfMembers? hvalues hsecond).unique hcommand, hparse, ?_⟩
      rw [hmember, hnull]
  | array items =>
      obtain ⟨values, hvalues, gives⟩ := gives_of_fieldsOfItems? hfields hkeys hcommand hargs
      rw [Document.value?, if_neg (Nat.succ_ne_zero more), Nat.add_sub_cancel, hvalues] at hentry
      cases hentry
      exact ⟨raw, value?, gives, hparse, hnull⟩
  | _ => cases hfields

/-- The document is an object with a member that no field of a binding is named like and that no
reader of values takes. -/
def Hides (room : Nat) (document : Document) : Prop :=
  ∃ members, document = .object members ∧ ∃ name item, (some name, item) ∈ members ∧
    name ∉ fieldNames ∧ item.value? room = none

/-- What is read as a binding has no value exactly if it hides something unreadable. -/
theorem value?_eq_none_iff_hides {document : Document} (hle : room ≤ more)
    (hread : decoder (room + 1) document = some binding) :
    document.value? (more + 1) = none ↔ Hides more document := by
  obtain ⟨keys, command, args, raw, value?, hfields, hkeys, -, hcommand, hargs, -⟩ :=
    exists_is_of_decoder hle hread
  cases document with
  | object members =>
      obtain ⟨hnamed, hfirst, hsecond, hthird⟩ := fieldOfMembers?_of_recordFields? hfields
      rw [Document.value?, if_neg (Nat.succ_ne_zero more), Nat.add_sub_cancel,
        Option.map_eq_none_iff, Document.memberValues?_eq_none_iff]
      constructor
      · rintro ⟨⟨name?, item⟩, hmember, hnone | hnone⟩
        · exact absurd hnone (hnamed _ hmember)
        · obtain ⟨name, rfl⟩ := Option.ne_none_iff_exists'.1 (hnamed _ hmember)
          refine ⟨members, rfl, name, item, hmember, fun hname => ?_, hnone⟩
          simp only [fieldNames, List.mem_cons, List.not_mem_nil, or_false] at hname
          rcases hname with rfl | rfl | rfl
          · -- The members that the strict reader looks at can be read, so the unreadable one is
            -- unknown to it.
            exact hkeys.ne_none (eq_given_of_mem hmember hfirst) hnone
          · exact hcommand.ne_none (eq_given_of_mem hmember hsecond) hnone
          · exact hargs.ne_none (eq_given_of_mem hmember hthird) hnone
      · rintro ⟨_, heq, name, item, hmember, -, hnone⟩
        cases heq
        exact ⟨_, hmember, .inr hnone⟩
  | array items =>
      -- All items of a list are looked at, so none can hide.
      obtain ⟨values, hvalues, -⟩ := gives_of_fieldsOfItems? hfields hkeys hcommand hargs
      rw [Document.value?, if_neg (Nat.succ_ne_zero more), Nat.add_sub_cancel, hvalues]
      refine iff_of_false (by simp) fun hides => ?_
      obtain ⟨_, heq, -⟩ := hides
      cases heq
  | _ => cases hfields

/-! ## A list of bindings -/

variable {items : List Document} {keymap : List KeyBinding}

theorem exists_of_items {α : Type} {decoder : Decoder α} {read : List α}
    (hread : Decoder.items decoder room items = some read) {item : Document}
    (hitem : item ∈ items) : ∃ value, decoder room item = some value := by
  induction items generalizing read with
  | nil => cases hitem
  | cons head items ih =>
      simp only [Decoder.items, Option.bind_eq_bind, Option.bind_eq_some_iff] at hread
      obtain ⟨first, hfirst, others, hothers, -⟩ := hread
      rcases List.mem_cons.1 hitem with rfl | hitem
      · exact ⟨first, hfirst⟩
      · exact ih hothers hitem

/-- What is read as a list of bindings has no value exactly if one of them hides something. -/
theorem itemValues?_eq_none_iff_hides (hle : room ≤ more)
    (hread : Decoder.items decoder (room + 1) items = some keymap) :
    Document.itemValues? (more + 1) items = none ↔ ∃ item ∈ items, Hides more item := by
  rw [Document.itemValues?_eq_none_iff]
  refine exists_congr fun item => and_congr_right fun hitem => ?_
  obtain ⟨binding, hbinding⟩ := exists_of_items hread hitem
  exact value?_eq_none_iff_hides hle hbinding

/-- The values of a list of bindings decode as these bindings. -/
theorem map_decode?_of_items {entries : List Value} (hle : room ≤ more)
    (hread : Decoder.items decoder (room + 1) items = some keymap)
    (hentries : Document.itemValues? (more + 1) items = some entries)
    (hshape : ∀ entry ∈ entries, entry.Ordered ∧ entry.depth ≤ Document.maxDepth) :
    entries.map (Value.decode? decoder) = keymap.map some := by
  induction items generalizing entries keymap with
  | nil =>
      cases hread
      cases hentries
      rfl
  | cons item items ih =>
      simp only [Decoder.items, Option.bind_eq_bind, Option.bind_eq_some_iff,
        Option.some.injEq] at hread
      simp only [Document.itemValues?, Option.bind_eq_bind, Option.bind_eq_some_iff,
        Option.some.injEq] at hentries
      obtain ⟨binding, hbinding, others, hothers, rfl⟩ := hread
      obtain ⟨entry, hentry, more, hmore, rfl⟩ := hentries
      rw [List.forall_mem_cons] at hshape
      have hdecode : entry.decode? decoder = some binding :=
        (decode?_eq_some_iff hshape.1.1 hshape.1.2).2 (reads_of_decoder hle hbinding hentry)
      rw [List.map_cons, List.map_cons, hdecode, ih hothers hmore hshape.2]

end KeyBinding

/-! ## A keymap -/

namespace Keymap

variable {text : String} {items : List Document}

theorem parse_of_itemValues? (hitems : Document.parse? text = some (.array items)) :
    parse text = match Document.itemValues? 126 items with
      | none => .error .notJson
      | some entries => .ok (ofEntries entries) := by
  have hvalue : Value.parse? text = (Document.itemValues? 126 items).map .array := by
    rw [Value.parse?, hitems]
    rfl
  rw [parse, hvalue]
  cases Document.itemValues? 126 items <;> rfl

/-- A list that is read as bindings throughout is a keymap of these bindings, unless one of them
hides something. -/
theorem parse_of_items (hitems : Document.parse? text = some (.array items))
    {keymap : List KeyBinding}
    (hread : Decoder.items KeyBinding.decoder 125 items = some keymap) :
    ((∃ item ∈ items, KeyBinding.Hides 125 item) → parse text = .error .notJson) ∧
      ((∀ item ∈ items, ¬KeyBinding.Hides 125 item) → parse text = .ok ⟨keymap, 0⟩) := by
  have hle : 124 ≤ 125 := by omega
  have hnone := KeyBinding.itemValues?_eq_none_iff_hides hle hread
  rw [parse_of_itemValues? hitems]
  constructor
  · intro hhidden
    rw [hnone.2 hhidden]
  · intro hopen
    cases hentries : Document.itemValues? 126 items with
    | none =>
        obtain ⟨item, hitem, hides⟩ := hnone.1 hentries
        exact absurd hides (hopen item hitem)
    | some entries =>
        have hrange := Document.inRange_of_parse? hitems
        cases hrange with | array hrange
        have hshape : ∀ entry ∈ entries, entry.Ordered ∧ entry.depth ≤ Document.maxDepth :=
          fun entry hentry =>
            have hvalue := Document.read_of_itemValues? items hrange hentries entry hentry
            ⟨hvalue.ordered, Nat.le_succ_of_le hvalue.depth_le⟩
        -- Every entry decodes, so none is skipped, and the count of the skipped ones is zero.
        have hmap := KeyBinding.map_decode?_of_items hle hread hentries hshape
        have hkept : entries.filterMap (Value.decode? KeyBinding.decoder) = keymap := by
          calc entries.filterMap (Value.decode? KeyBinding.decoder)
              = (entries.map (Value.decode? KeyBinding.decoder)).filterMap id := by
                rw [List.filterMap_map, Function.id_comp]
            _ = (keymap.map some).filterMap id := by rw [hmap]
            _ = keymap := by rw [List.filterMap_map, Function.id_comp, List.filterMap_some]
        have hcount : entries.length = keymap.length := by
          have hlength := congrArg List.length hmap
          rwa [List.length_map, List.length_map] at hlength
        show Except.ok (ofEntries entries) = _
        rw [ofEntries, hkept, hcount, Nat.sub_self]

end Keymap

/-! ## A keymap and nothing else in a configuration -/

namespace ShellConfig

variable {text : String} {items : List Document} {config : ShellConfig}

/-- The configuration that consists of this keymap. -/
def keymapText (keymap : String) : String := "\x7b\"keymap\":" ++ keymap ++ "\x7d"

theorem parse?_keymapText {keymap : String} {document : Document}
    (hkeymap : Document.parse? keymap = some document) :
    Document.parse? (keymapText keymap) = some (.object [(some "keymap", document)]) := by
  simp only [Document.parse?, Document.read?, Option.bind_eq_bind, Option.bind_eq_some_iff,
    Prod.exists, Option.ite_none_right_eq_some, Option.some.injEq, List.isEmpty_iff] at hkeymap
  obtain ⟨found, rest, hread, hrest, rfl⟩ := hkeymap
  have hends : Lexeme.Ends ['\x7d'] := by
    rintro c ⟨⟩
    decide
  have hclose : skipSpace (rest ++ ['\x7d']) = ['\x7d'] :=
    Layout.skipSpace_append (List.dropWhile_eq_nil_iff.1 hrest) _
  have htext : (keymapText keymap).toList =
      '\x7b' :: '"' :: 'k' :: 'e' :: 'y' :: 'm' :: 'a' :: 'p' :: '"' :: ':' ::
        (keymap.toList ++ ['\x7d']) := by
    simp [keymapText]
  -- What closes the object ends the lexemes of the document, and more fuel does no harm.
  have hmembers : ∀ fuel, 2 * keymap.toList.length + 2 ≤ fuel →
      Document.readMembers? (fuel + 1)
        ('"' :: 'k' :: 'e' :: 'y' :: 'm' :: 'a' :: 'p' :: '"' :: ':' ::
          (keymap.toList ++ ['\x7d'])) = some ([(some "keymap", found)], []) := by
    intro fuel hfuel
    refine Document.readMembers?_succ_iff.2 ⟨_, _, _, _, found, rest ++ ['\x7d'], rfl, rfl, rfl,
      (Document.extends_of_ends hends _).value hfuel hread, .inl ⟨hclose, rfl⟩⟩
  have hlength : (keymapText keymap).toList.length = keymap.toList.length + 11 := by
    simp [htext]
  have hobject : Document.readValue? (2 * (keymapText keymap).toList.length + 2)
      (keymapText keymap).toList = some (.object [(some "keymap", found)], []) := by
    rw [hlength, htext]
    exact Document.readValue?_succ_iff.2
      (.object rfl (by decide) (hmembers (2 * keymap.toList.length + 22) (by omega)))
  rw [Document.parse?, Document.read?, hobject]
  rfl

/-- A configuration that consists of a keymap is read with this keymap. -/
theorem items_of_parse
    (htext : Document.parse? text = some (.object [(some "keymap", .array items)]))
    (hparse : parse text = .ok config) :
    Decoder.items KeyBinding.decoder 125 items = some config.keymap ∧
      config = { default with keymap := config.keymap } := by
  obtain ⟨document, hdocument, hread⟩ := Option.bind_eq_some_iff.1 (parse_eq_ok_iff.1 hparse).1
  cases htext.symm.trans hdocument
  obtain ⟨version, window, filter, extensions, keymap, panel, hfields, hversion, hwindow, hfilter,
    hextensions, hkeymap, hpanel⟩ := decoder_eq_some_iff.1 hread
  have habsent : recordFields? fieldNames (.object [(some "keymap", .array items)]) =
      some [.absent, .absent, .absent, .absent, .given (.array items), .absent] := rfl
  cases habsent.symm.trans hfields
  refine ⟨hkeymap, ?_⟩
  obtain ⟨_, _, _, _, _, _⟩ := config
  cases hversion
  cases hwindow
  cases hfilter
  cases hextensions
  cases hpanel
  rfl

end ShellConfig

/-- Let a configuration consist of a list of bindings.  If it is accepted, the list by itself is a
keymap of the same bindings, none of them skipped, and loading it does what making these bindings
does; but if an entry hides something that no reader of values takes, the list is no value and is
refused, and nothing is loaded. -/
theorem keymaps_agree {κ S : Type} {keymap : String} {items : List Document}
    (hkeymap : Document.parse? keymap = some (.array items)) :
    Document.parse? (ShellConfig.keymapText keymap) =
        some (.object [(some "keymap", .array items)]) ∧
      ∀ text config, Document.parse? text = some (.object [(some "keymap", .array items)]) →
        ShellConfig.parse text = .ok config →
        config = { ShellConfig.default with keymap := config.keymap } ∧
        ((∀ item ∈ items, ¬KeyBinding.Hides 125 item) →
          Keymap.parse keymap = .ok ⟨config.keymap, 0⟩ ∧
          ∀ (caller : Caller κ S) (session : Session κ S),
            (Session.loadKeymap keymap).run caller session =
              (.ok config.keymap.length, ((Session.loadMap config.keymap).run caller session).2)) ∧
        ((∃ item ∈ items, KeyBinding.Hides 125 item) →
          Keymap.parse keymap = .error .notJson ∧
          ∀ (caller : Caller κ S) (session : Session κ S),
            (Session.loadKeymap keymap).run caller session = (.error .notJson, session)) := by
  refine ⟨ShellConfig.parse?_keymapText hkeymap, fun text config htext hparse => ?_⟩
  obtain ⟨hitems, hdefault⟩ := ShellConfig.items_of_parse htext hparse
  obtain ⟨hrefused, haccepted⟩ := Keymap.parse_of_items hkeymap hitems
  refine ⟨hdefault, fun hopen => ⟨haccepted hopen, fun caller session => ?_⟩,
    fun hhidden => ⟨hrefused hhidden, fun caller session => ?_⟩⟩
  · simp [Session.loadKeymap, Session.loadMap, haccepted hopen]
  · simp [Session.loadKeymap, hrefused hhidden]

/-- One binding in an object, with a member besides, and one in an array. -/
def Keymap.unevenText : String :=
  "[\x7b\"keys\":\"Ctrl+K\",\"note\":[true],\"command\":\"first\"\x7d," ++
    "[\"control + j\",\"second\",null]]"

theorem keymaps_agree_uneven :
    let bindings : List KeyBinding := [⟨⟨⟨1⟩, "k"⟩, "first", none⟩, ⟨⟨⟨1⟩, "j"⟩, "second", none⟩]
    ShellConfig.parse (ShellConfig.keymapText Keymap.unevenText) =
        .ok { ShellConfig.default with keymap := bindings } ∧
      Keymap.parse Keymap.unevenText = .ok ⟨bindings, 0⟩ := by
  intro bindings
  have hconfig : ShellConfig.parse (ShellConfig.keymapText Keymap.unevenText) =
      .ok { ShellConfig.default with keymap := bindings } := by decide +kernel
  have hkeymap : Document.parse? Keymap.unevenText = some (.array
      [.object [(some "keys", .string (some "Ctrl+K")), (some "note", .array [.bool true]),
        (some "command", .string (some "first"))],
      .array [.string (some "control + j"), .string (some "second"), .null]]) := by cbv
  obtain ⟨htext, hagree⟩ := keymaps_agree (κ := Empty) (S := Unit) hkeymap
  refine ⟨hconfig, ((hagree _ _ htext hconfig).2.1 ?_).1⟩
  rintro item hitem ⟨members, rfl, name, part, hmember, hname, hnone⟩
  simp only [List.mem_cons, List.not_mem_nil, or_false, Document.object.injEq, reduceCtorEq]
    at hitem
  subst hitem
  simp only [List.mem_cons, List.not_mem_nil, or_false, Prod.mk.injEq, Option.some.injEq] at hmember
  rcases hmember with ⟨rfl, rfl⟩ | ⟨rfl, rfl⟩ | ⟨rfl, rfl⟩ <;> cases hnone

/-- The items of a document, if it is an array. -/
def Json.Document.items? : Document → Option (List Document)
  | .array items => some items
  | _ => none

theorem Json.Document.items?_eq_some_iff {document : Document} {items : List Document} :
    document.items? = some items ↔ document = .array items := by
  cases document <;> simp [items?]

/-- One binding, with a member besides that is a number too large for a double. -/
def Keymap.overfullText : String :=
  "[\x7b\"keys\":\"ctrl+k\",\"command\":\"c\",\"x\":1e9999999999\x7d]"

/-- The list is accepted in a configuration, for one binding, and refused as a keymap. -/
theorem keymap_refused_whole :
    (∃ items, Document.parse? Keymap.overfullText = some (.array items)) ∧
      ShellConfig.parse (ShellConfig.keymapText Keymap.overfullText) =
        .ok { ShellConfig.default with keymap := [⟨⟨⟨1⟩, "k"⟩, "c", none⟩] } ∧
      Keymap.parse Keymap.overfullText = .error .notJson := by
  have hlist : ((Document.parse? Keymap.overfullText).bind Document.items?).isSome = true := by
    decide +kernel
  refine ⟨?_, by decide +kernel, by decide +kernel⟩
  obtain ⟨items, hitems⟩ := Option.isSome_iff_exists.1 hlist
  obtain ⟨document, hparse, harray⟩ := Option.bind_eq_some_iff.1 hitems
  exact ⟨items, by rw [hparse, Document.items?_eq_some_iff.1 harray]⟩

end EditorShell
