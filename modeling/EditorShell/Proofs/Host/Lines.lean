import EditorShell.Host.Transport
import EditorShell.Proofs.Json.Records
import EditorShell.Text.Parts

/-!
# Messages read back from lines

A line host writes one line for each message, and whoever reads the lines gets the messages back.
Three things could go wrong, and none does:

* an attribute of a node could shadow a field of the message.  The attributes stand beside the
  fields in one object, but `HostNode.ofNode` has left out every attribute with a field's name
  (`HostNode.Sendable.name_not_mem`);
* a field that is missing is not written, so its default must be what is missing
  (`HostNode.decoder_toJson`);
* a line end inside a line would split it, but strings escape it (`Value.newline_not_mem_compact`).

What a message may hold is said by `HostMessage.Sendable`: values without doubles, and numbers that
fit a 64-bit word.  A reader also limits how deep a message nests.
-/

namespace EditorShell

open Json

/-! ## What is sent -/

/-- A node that was made of a declared one, with values that can be written and read back. -/
structure HostNode.Sendable (node : HostNode) : Prop where
  made : ∃ (ι : Type) (source : Node ι) (id : NodeId) (placement : Option Placement),
    node = HostNode.ofNode source id placement
  order_lt : ∀ order ∈ node.order, order < Nat.pow 2 64
  style : ∀ entry ∈ node.style.entries, entry.2.Integral ∧ entry.2.Ordered
  props : ∀ entry ∈ node.props.entries, entry.2.Integral ∧ entry.2.Ordered

/-- A message with nothing but sendable nodes, texts and numbers of handles. -/
def HostMessage.Sendable : HostMessage → Prop
  | mount node | update node | unmount node => node.Sendable
  | requestHandle _ => True
  | invoke handle _ => handle.number < Nat.pow 2 64

/-! ## Nodes -/

namespace HostNode

/-- The fields of a node as they are written, those that are missing or empty without a value. -/
def fields (node : HostNode) : List (String × Option Value) :=
  [("id", some (.string node.id)), ("type", some node.kind.toJson),
    ("parent", node.parent.map Value.string), ("order", node.order.map Value.ofNat),
    ("style", if node.style.isEmpty then none else some (.ofTable node.style))]

theorem toJson_eq (node : HostNode) :
    node.toJson = .object (present node.fields ++ node.props.entries) := by
  obtain ⟨id, kind, parent, order, style, props⟩ := node
  unfold toJson fields
  cases parent <;> cases order <;> cases style.isEmpty <;> rfl

theorem Sendable.name_not_mem {node : HostNode} (hnode : node.Sendable) {entry : String × Value}
    (hentry : entry ∈ node.props.entries) : entry.1 ∉ fieldNames := by
  obtain ⟨ι, source, id, placement, rfl⟩ := hnode.made
  have hkept := (List.mem_filter.1 hentry).2
  simp only [withheldProps, Bool.not_eq_true', List.contains_eq_mem, decide_eq_false_iff_not,
    List.mem_append, not_or] at hkept
  exact hkept.1.2

theorem Sendable.integral_toJson {node : HostNode} (hnode : node.Sendable) :
    node.toJson.Integral := by
  rw [toJson_eq]
  refine Value.integralMembers_iff.2 fun member hmember => ?_
  rcases List.mem_append.1 hmember with hfield | hprop
  · obtain ⟨name, value⟩ := member
    have hmem := mem_present.1 hfield
    simp only [fields, List.mem_cons, Prod.mk.injEq, List.not_mem_nil, or_false] at hmem
    rcases hmem with ⟨-, hid⟩ | ⟨-, hkind⟩ | ⟨-, hparent⟩ | ⟨-, horder⟩ | ⟨-, hstyle⟩
    · cases hid
      trivial
    · cases hkind
      trivial
    · obtain ⟨parent, -, rfl⟩ := Option.map_eq_some_iff.1 hparent.symm
      trivial
    · obtain ⟨order, hmem, rfl⟩ := Option.map_eq_some_iff.1 horder.symm
      exact Value.integral_ofNat (hnode.order_lt order hmem)
    · split at hstyle
      · cases hstyle
      · cases hstyle
        exact Value.integralMembers_iff.2 fun entry hentry => (hnode.style entry hentry).1
  · exact (hnode.props member hprop).1

/-! ### Reading the fields -/

theorem parent_orDefault (parent : Option NodeId) (room : Nat) :
    (Field.ofValue? (parent.map Value.string)).orDefault (.nullable .text) none room =
      some parent := by
  cases parent <;> rfl

theorem order_orDefault {order : Option Nat} (horder : ∀ n ∈ order, n < Nat.pow 2 64)
    (room : Nat) : (Field.ofValue? (order.map Value.ofNat)).orDefault (.nullable .word) none room =
      some order := by
  cases order with
  | none => rfl
  | some n =>
      have hword : Decoder.word room (.ofValue (.ofNat n)) = some n :=
        Document.natBelow_ofNat (horder n rfl) room
      have hnullable : Decoder.word.nullable room (.ofValue (.ofNat n)) =
          (Decoder.word room (.ofValue (.ofNat n))).map some := rfl
      rw [Option.map_some, Field.ofValue?, Field.orDefault, hnullable, hword]
      rfl

theorem style_orDefault {style : Table Value} {room : Nat}
    (hordered : ∀ entry ∈ style.entries, entry.2.Ordered)
    (hroom : style.isEmpty = false → (Value.ofTable style).depth ≤ room) :
    (Field.ofValue? (if style.isEmpty then none else some (.ofTable style))).orDefault .table
      .empty room = some style := by
  cases hempty : style.isEmpty with
  | true =>
      have hentries : style.entries = [] := List.isEmpty_iff.1 hempty
      have : style = .empty := by
        ext1 name
        rw [Table.get?, hentries]
        rfl
      rw [this]
      rfl
  | false => exact Document.table_ofValue hordered (hroom hempty)

/-- The members that are not fields are the attributes. -/
theorem filter_isProp {node : HostNode} (hnode : node.Sendable) :
    (Document.ofMembers (present node.fields ++ node.props.entries)).filter
      (fun member => !(member.1.any fun name => fieldNames.contains name)) =
        Document.ofMembers node.props.entries := by
  have hfields : (Document.ofMembers (present node.fields)).filter
      (fun member => !(member.1.any fun name => fieldNames.contains name)) = [] := by
    rw [Document.ofMembers_eq_map, List.filter_eq_nil_iff]
    intro member hmember
    obtain ⟨⟨name, value⟩, hmem, rfl⟩ := List.mem_map.1 hmember
    have hname : name ∈ fieldNames := List.mem_map_of_mem (f := Prod.fst) (mem_present.1 hmem)
    simpa using hname
  have hprops : (Document.ofMembers node.props.entries).filter
      (fun member => !(member.1.any fun name => fieldNames.contains name)) =
        Document.ofMembers node.props.entries := by
    rw [Document.ofMembers_eq_map, List.filter_eq_self]
    intro member hmember
    obtain ⟨entry, hentry, rfl⟩ := List.mem_map.1 hmember
    simpa using hnode.name_not_mem hentry
  rw [Document.ofMembers_append, List.filter_append, hfields, hprops, List.nil_append]

/-- A node is read back from the object that it is written as. -/
theorem decoder_toJson {node : HostNode} (hnode : node.Sendable) (reading : Reading) {room : Nat}
    (hroom : node.toJson.depth ≤ room) :
    decoder reading room (.ofValue node.toJson) = some node := by
  have hdistinct : (node.fields.map Prod.fst).Nodup := by
    show fieldNames.Nodup
    decide
  have hfields : fieldsOfMembers? fieldNames
      (Document.ofMembers (present node.fields ++ node.props.entries)) =
        some (node.fields.map fun field => Field.ofValue? field.2) :=
    fieldsOfMembers?_present hdistinct fun _ => hnode.name_not_mem
  rw [toJson_eq, Value.depth, Value.membersDepth_append] at hroom
  -- A style that is empty is left out, and then it needs no room.
  have hstyle : node.style.isEmpty = false → (Value.ofTable node.style).depth ≤ room - 1 := by
    intro hempty
    have hmem : ("style", Value.ofTable node.style) ∈ present node.fields :=
      mem_present.2 (by simp [fields, hempty])
    have := Value.depth_le_of_mem hmem
    simp only at this
    omega
  have hprops : Document.memberValues? (room - 1) (Document.ofMembers node.props.entries) =
      some node.props.entries :=
    Document.memberValues?_ofMembers (fun entry hentry => (hnode.props entry hentry).2) (by omega)
  have hkind : WidgetKind.decoder reading (room - 1) (.ofValue node.kind.toJson) =
      some node.kind := WidgetKind.ofName?_name node.kind
  rw [toJson_eq, Document.ofValue, decoder, if_neg (by omega)]
  simp only [hfields, filter_isProp hnode, hprops]
  simp only [fields, List.map_cons, List.map_nil, Option.bind_eq_bind, Option.bind_some]
  rw [parent_orDefault, order_orDefault hnode.order_lt,
    style_orDefault (fun entry hentry => (hnode.style entry hentry).2) hstyle]
  simp only [Field.ofValue?, Field.required, hkind, Option.bind_some, Table.ofList_entries]
  rfl

end HostNode

/-! ## Handles and commands -/

/-- A handle is read back from the number that it is written as. -/
theorem WidgetHandle.decoder_toJson {handle : WidgetHandle} (hhandle : handle.number < Nat.pow 2 64)
    (room : Nat) : decoder room (.ofValue handle.toJson) = some handle := by
  have hword : Decoder.word room (.ofValue (.ofNat handle.number)) = some handle.number :=
    Document.natBelow_ofNat hhandle room
  rw [decoder, Decoder.map, toJson, hword]
  rfl

/-- A command is read back from the object that it is written as. -/
theorem WidgetCommand.decoder_toJson (command : WidgetCommand) (reading : Reading) {room : Nat}
    (hroom : 0 < room) : decoder reading room (.ofValue command.toJson) = some command := by
  obtain ⟨room, rfl⟩ : ∃ n, room = n + 1 := ⟨room - 1, by omega⟩
  cases command <;> rfl

/-! ## Messages -/

namespace HostMessage

/-- The fields of a message besides its operation. -/
def fields : HostMessage → List (String × Option Value)
  | mount node | update node | unmount node => [("node", some node.toJson)]
  | requestHandle id => [("id", some (.string id))]
  | invoke handle command => [("handle", some handle.toJson), ("command", some command.toJson)]

theorem toJson_eq (message : HostMessage) : message.toJson =
    .object (present (("op", some (.string message.op.name)) :: message.fields)) := by
  cases message <;> rfl

theorem map_fst_fields (message : HostMessage) :
    message.fields.map Prod.fst = fieldNames message.op := by
  cases message <;> rfl

theorem name_ne_op {message : HostMessage} {member : String × Value}
    (hmember : member ∈ present message.fields) : member.1 ≠ "op" := by
  have hname : member.1 ∈ fieldNames message.op := by
    rw [← map_fst_fields]
    exact List.mem_map_of_mem (mem_present.1 hmember)
  rintro heq
  rw [heq] at hname
  cases message <;> simp [fieldNames, op] at hname

theorem Sendable.integral_toJson {message : HostMessage} (hmessage : message.Sendable) :
    message.toJson.Integral := by
  cases message with
  | mount node | update node | unmount node =>
      exact ⟨trivial, HostNode.Sendable.integral_toJson hmessage, trivial⟩
  | requestHandle id => exact ⟨trivial, trivial, trivial⟩
  | invoke handle command =>
      refine ⟨trivial, Value.integral_ofNat hmessage, ?_, trivial⟩
      cases command
      · exact ⟨trivial, trivial⟩
      · exact ⟨trivial, trivial⟩
      · exact ⟨trivial, trivial⟩
      · exact ⟨trivial, trivial, trivial⟩

/-! ### Reading the members -/

theorem ofFields_invoke (handle command : Document) (room : Nat) :
    ofFields .invoke [.given handle, .given command] room =
      (WidgetHandle.decoder room handle).bind fun handle =>
        (WidgetCommand.decoder .buffered room command).bind fun command =>
          some (invoke handle command) := rfl

/-- The message of an operation is read back from its fields. -/
theorem ofFields_fields {message : HostMessage} (hmessage : message.Sendable) {room : Nat}
    (hroom : Value.membersDepth (present message.fields) ≤ room) :
    ofFields message.op (message.fields.map fun field => Field.ofValue? field.2) room =
      some message := by
  cases message with
  | mount node | update node | unmount node =>
      have hfield : ("node", some node.toJson) ∈ [("node", some node.toJson)] :=
        List.mem_singleton.2 rfl
      have hdepth : node.toJson.depth ≤ room := Nat.le_trans (depth_le_of_field hfield) hroom
      have hnode : HostNode.decoder .buffered room (.ofValue node.toJson) = some node :=
        HostNode.decoder_toJson hmessage _ hdepth
      simp [ofFields, op, fields, Field.ofValue?, Field.required, hnode]
  | requestHandle id => rfl
  -- The two fields are read on their own, and the command may be nested.
  | invoke handle command =>
      have hhandle : WidgetHandle.decoder room (.ofValue handle.toJson) = some handle :=
        WidgetHandle.decoder_toJson hmessage room
      have hfield : ("command", some command.toJson) ∈ (invoke handle command).fields :=
        List.mem_cons_of_mem _ (List.mem_singleton.2 rfl)
      have hdepth : command.toJson.depth ≤ room := Nat.le_trans (depth_le_of_field hfield) hroom
      have hpos : 0 < command.toJson.depth := by
        cases command <;> exact Nat.succ_pos _
      have hcommand : WidgetCommand.decoder .buffered room (.ofValue command.toJson) =
          some command :=
        WidgetCommand.decoder_toJson command _ (Nat.lt_of_lt_of_le hpos hdepth)
      refine (ofFields_invoke (.ofValue handle.toJson) (.ofValue command.toJson) room).trans ?_
      rw [hhandle, hcommand]
      rfl

/-- A message is read back from the object that it is written as. -/
theorem decoder_toJson {message : HostMessage} (hmessage : message.Sendable) {room : Nat}
    (hroom : message.toJson.depth ≤ room) :
    decoder room (.ofValue message.toJson) = some message := by
  obtain ⟨read, hread, -⟩ := Document.exists_value?_ofValue message.toJson room hroom
  have hmembers : message.toJson =
      .object (("op", .string message.op.name) :: present message.fields) := toJson_eq message
  have hop : fieldsOfMembers? ["op"]
      (Document.ofMembers (("op", .string message.op.name) :: present message.fields)) =
        some [.given (.string (some message.op.name))] := by
    have hdistinct : ([("op", some (Value.string message.op.name))].map Prod.fst).Nodup := by
      simp
    exact fieldsOfMembers?_present hdistinct fun _ hmember => by simpa using name_ne_op hmember
  -- No field of a message is named like the operation, so the members beside it are all there.
  have hrest : (Document.ofMembers (("op", .string message.op.name) ::
      present message.fields)).filter (fun member => member.1 ≠ some "op") =
        Document.ofMembers (present message.fields) := by
    rw [Document.ofMembers, List.filter_cons_of_neg (by simp), Document.ofMembers_eq_map,
      List.filter_eq_self]
    intro member hmember
    obtain ⟨field, hfield, rfl⟩ := List.mem_map.1 hmember
    simpa using name_ne_op hfield
  have hfields : fieldsOfMembers? (fieldNames message.op)
      (Document.ofMembers (present message.fields)) =
        some (message.fields.map fun field => Field.ofValue? field.2) := by
    have hdistinct : (message.fields.map Prod.fst).Nodup := by
      rw [map_fst_fields]
      cases message.op <;> decide
    have hread := fieldsOfMembers?_present hdistinct
      (fun _ hmember => absurd hmember List.not_mem_nil)
    rwa [List.append_nil, map_fst_fields] at hread
  rw [hmembers, Document.ofValue] at hread ⊢
  rw [hmembers, Value.depth, Value.membersDepth] at hroom
  rw [decoder, hread]
  simp only [Option.bind_eq_bind, Option.bind_some, hop, HostOp.ofName?_name, hrest, hfields]
  exact ofFields_fields hmessage (by omega)

/-! ### Lines -/

/-- The line of a message is not empty. -/
theorem line_ne_empty (message : HostMessage) : message.line ≠ "" := by
  intro hempty
  have htext := congrArg String.toList hempty
  rw [line, Value.compactText, String.toList_ofList] at htext
  cases htext

theorem Sendable.newline_not_mem_line {message : HostMessage} (hmessage : message.Sendable) :
    '\n' ∉ message.line.toList := by
  rw [line, Value.compactText, String.toList_ofList]
  exact Value.newline_not_mem_compact _ hmessage.integral_toJson

/-- A message is read back from its line. -/
theorem decode?_line {message : HostMessage} (hmessage : message.Sendable)
    (hdepth : message.toJson.depth ≤ Document.maxDepth) :
    decode? decoder message.line = some message := by
  rw [decode?, line, Document.parse?_compactText hmessage.integral_toJson]
  exact decoder_toJson hmessage hdepth

end HostMessage

/-! ## The output of a line host -/

/-- Takes messages one after the other, up to the first that is not taken. -/
def Wire.takeAll (wire : Wire) : List HostMessage → Except HostError Wire
  | [] => .ok wire
  | message :: messages =>
    match wire.take message with
    | (.ok (), wire) => wire.takeAll messages
    | (.error error, _) => .error error

/-- An output without a fault takes every message and gets each of them on a line. -/
theorem Wire.exists_takeAll (messages : List HostMessage) (wire : Wire)
    (hfault : wire.fault? = none) : ∃ after, wire.takeAll messages = .ok after ∧
      after.output.toList = wire.output.toList ++
        messages.flatMap fun message => message.line.toList ++ ['\n'] := by
  induction messages generalizing wire with
  | nil => exact ⟨wire, rfl, by simp⟩
  | cons message messages ih =>
      have htake : wire.take message =
          (.ok (), { wire with pieces := "\n" :: message.line :: wire.pieces }) := by
        rw [take, hfault]
      obtain ⟨after, hafter, houtput⟩ :=
        ih { wire with pieces := "\n" :: message.line :: wire.pieces } hfault
      refine ⟨after, by rw [takeAll, htake]; exact hafter, ?_⟩
      rw [houtput]
      simp [output]

theorem splitOn_flatMap_lines {messages : List HostMessage}
    (hmessages : ∀ message ∈ messages, '\n' ∉ message.line.toList) :
    List.splitOn '\n' (messages.flatMap fun message => message.line.toList ++ ['\n']) =
      messages.map (fun message => message.line.toList) ++ [[]] := by
  induction messages with
  | nil => rfl
  | cons message messages ih =>
      have hrest := ih fun other hother => hmessages other (by simp [hother])
      rw [List.flatMap_cons, List.append_assoc, List.singleton_append,
        List.splitOn_append_cons_self_of_not_mem (hmessages message (by simp)), hrest]
      rfl

/-- A line host writes exactly one line for each message, in their order and none of them empty,
and each line reads back as its message. -/
theorem HostMessage.lines_read_back (messages : List HostMessage)
    (hmessages : ∀ message ∈ messages,
      message.Sendable ∧ message.toJson.depth ≤ Document.maxDepth) :
    ∃ wire, Wire.fresh.takeAll messages = .ok wire ∧
      List.splitOn '\n' wire.output.toList =
        messages.map (fun message => message.line.toList) ++ [[]] ∧
      ∀ message ∈ messages,
        message.line ≠ "" ∧ decode? HostMessage.decoder message.line = some message := by
  obtain ⟨wire, hwire, houtput⟩ := Wire.exists_takeAll messages .fresh rfl
  refine ⟨wire, hwire, ?_, fun message hmessage => ?_⟩
  · have hlines := splitOn_flatMap_lines fun message hmessage =>
      (hmessages message hmessage).1.newline_not_mem_line
    rw [houtput]
    exact hlines
  · obtain ⟨hsendable, hdepth⟩ := hmessages message hmessage
    exact ⟨message.line_ne_empty, decode?_line hsendable hdepth⟩

/-- A node whose attributes bear the names of fields and of a callback, and hold line ends. -/
def Node.crowded : Node Unit where
  id := some "own"
  kind := .textInput
  style := ⟨[("color", .string "a\nb"), ("type", .array [.ofNat 1])], by decide⟩
  props := ⟨[("id", .string "other"), ("label", .string "\"\n\\"), ("onClick", .bool true),
    ("op", .string "invoke"), ("parent", .null)], by decide⟩
  handlers _ := some ()
  children := [.ofText "child"]
  data := some .null

/-- A message of each shape, about a crowded node. -/
def HostMessage.crowded : List HostMessage :=
  [mount (.ofNode .crowded "first\nsecond" (some (.childOf "root" 3))),
    update (.ofNode .crowded "" none), requestHandle "\n", invoke ⟨18446744073709551615⟩ .blur,
    invoke ⟨0⟩ (.setText "\t\u0001")]

theorem HostNode.sendable_crowded (id : NodeId) {placement : Option Placement}
    (horder : ∀ place ∈ placement, place.order < Nat.pow 2 64) :
    (HostNode.ofNode Node.crowded id placement).Sendable where
  made := ⟨Unit, Node.crowded, id, placement, rfl⟩
  order_lt := by
    intro order hmem
    obtain ⟨place, hplace, rfl⟩ := Option.map_eq_some_iff.1 hmem
    exact horder place hplace
  style := by
    intro entry hentry
    simp only [HostNode.ofNode, Node.crowded, List.mem_cons, List.not_mem_nil, or_false] at hentry
    rcases hentry with rfl | rfl
    · exact ⟨trivial, trivial⟩
    · exact ⟨⟨Value.integral_ofNat (by decide), trivial⟩, trivial, trivial⟩
  props := by
    have hprops : (HostNode.ofNode Node.crowded id placement).props.entries =
        [("label", .string "\"\n\\"), ("op", .string "invoke")] := rfl
    intro entry hentry
    rw [hprops] at hentry
    simp only [List.mem_cons, List.not_mem_nil, or_false] at hentry
    rcases hentry with rfl | rfl
    · exact ⟨trivial, trivial⟩
    · exact ⟨trivial, trivial⟩

theorem HostMessage.sendable_crowded : ∀ message ∈ crowded,
    message.Sendable ∧ message.toJson.depth ≤ Document.maxDepth := by
  intro message hmessage
  simp only [crowded, List.mem_cons, List.not_mem_nil, or_false] at hmessage
  rcases hmessage with rfl | rfl | rfl | rfl | rfl
  · exact ⟨HostNode.sendable_crowded _ (by rintro _ ⟨⟩; decide), by decide⟩
  · exact ⟨HostNode.sendable_crowded _ (by rintro _ ⟨⟩), by decide⟩
  · exact ⟨trivial, by decide⟩
  · exact ⟨show 18446744073709551615 < Nat.pow 2 64 by decide, by decide⟩
  · exact ⟨show 0 < Nat.pow 2 64 by decide, by decide⟩

theorem HostMessage.crowded_lines_read_back :
    (∀ message ∈ crowded, message.Sendable ∧ message.toJson.depth ≤ Document.maxDepth) ∧
      ∃ wire, Wire.fresh.takeAll crowded = .ok wire ∧
        List.splitOn '\n' wire.output.toList =
          crowded.map (fun message => message.line.toList) ++ [[]] ∧
        ∀ message ∈ crowded,
          message.line ≠ "" ∧ decode? HostMessage.decoder message.line = some message :=
  ⟨sendable_crowded, lines_read_back crowded sendable_crowded⟩

end EditorShell
