import EditorShell.Json.Decode
import EditorShell.Proofs.Json.Layouts

/-!
# Values and records read from documents

The document of a value is a syntax tree that nothing has been left out of.  A reader that expects
any value gets the value back, if its objects list their members in order (`Value.Ordered`) and if
it nests no deeper than the reader has room for (`Value.depth`).

A record is written as an object: first its fields, of which those that are missing are left out
(`present`), and then perhaps members of other names.  A reader that asks for the fields finds for
each name what was written under it, as long as no name stands for two fields and none of the other
members bears a field's name (`fieldsOfMembers?_present`).
-/

namespace EditorShell.Json

namespace Value

mutual

/-- The members of every object in the value ascend. -/
def Ordered : Value → Prop
  | null | bool _ | number _ | string _ => True
  | array items => OrderedItems items
  | object members => Table.Ascending members ∧ OrderedMembers members

/-- The members of every object in the items ascend. -/
def OrderedItems : List Value → Prop
  | [] => True
  | item :: items => Ordered item ∧ OrderedItems items

/-- The members of every object in the members ascend. -/
def OrderedMembers : List (String × Value) → Prop
  | [] => True
  | (_, item) :: members => Ordered item ∧ OrderedMembers members

end

mutual

/-- The number of levels that arrays and objects nest. -/
def depth : Value → Nat
  | null | bool _ | number _ | string _ => 0
  | array items => itemsDepth items + 1
  | object members => membersDepth members + 1

/-- The number of levels that the items of an array nest. -/
def itemsDepth : List Value → Nat
  | [] => 0
  | item :: items => max (depth item) (itemsDepth items)

/-- The number of levels that the members of an object nest. -/
def membersDepth : List (String × Value) → Nat
  | [] => 0
  | (_, item) :: members => max (depth item) (membersDepth members)

end

theorem orderedMembers_iff {members : List (String × Value)} :
    OrderedMembers members ↔ ∀ member ∈ members, member.2.Ordered := by
  induction members with
  | nil => simp [OrderedMembers]
  | cons member members ih => simp [OrderedMembers, ih]

theorem membersDepth_append (first second : List (String × Value)) :
    membersDepth (first ++ second) = max (membersDepth first) (membersDepth second) := by
  induction first with
  | nil => simp [membersDepth]
  | cons member first ih => simp [membersDepth, ih, Nat.max_assoc]

theorem depth_le_of_mem {member : String × Value} {members : List (String × Value)}
    (hmember : member ∈ members) : member.2.depth ≤ membersDepth members := by
  induction members with
  | nil => cases hmember
  | cons other members ih =>
      rw [membersDepth]
      rcases List.mem_cons.1 hmember with rfl | hmember
      · exact Nat.le_max_left _ _
      · exact Nat.le_trans (ih hmember) (Nat.le_max_right _ _)

end Value

namespace Document

/-! ## Reading values -/

mutual

/-- A value that nests no deeper than there is room is read, and read back if it is in order. -/
theorem exists_value?_ofValue : (value : Value) → ∀ (room : Nat), value.depth ≤ room →
    ∃ read, (ofValue value).value? room = some read ∧ (value.Ordered → read = value)
  | .null, _, _ => ⟨_, rfl, fun _ => rfl⟩
  | .bool _, _, _ => ⟨_, rfl, fun _ => rfl⟩
  | .number _, _, _ => ⟨_, rfl, fun _ => rfl⟩
  | .string _, _, _ => ⟨_, rfl, fun _ => rfl⟩
  | .array items, room, hroom => by
    rw [Value.depth] at hroom
    obtain ⟨read, hread, hback⟩ := exists_itemValues?_ofItems items (room - 1) (by omega)
    refine ⟨.array read, ?_, fun hordered => by rw [hback hordered]⟩
    rw [ofValue, value?, if_neg (by omega), hread]
    rfl
  | .object members, room, hroom => by
    rw [Value.depth] at hroom
    obtain ⟨read, hread, hback⟩ :=
      exists_memberValues?_ofMembers members (room - 1) (by omega)
    refine ⟨.ofMembers read, ?_, fun hordered => ?_⟩
    · rw [ofValue, value?, if_neg (by omega), hread]
      rfl
    · have hascending : Table.Ascending ([] ++ members) := hordered.1
      rw [hback hordered.2, Value.ofMembers, Table.foldl_put_of_ascending hascending,
        List.nil_append]

theorem exists_itemValues?_ofItems : (items : List Value) → ∀ (room : Nat),
    Value.itemsDepth items ≤ room →
    ∃ read, itemValues? room (ofItems items) = some read ∧
      (Value.OrderedItems items → read = items)
  | [], _, _ => ⟨_, rfl, fun _ => rfl⟩
  | item :: items, room, hroom => by
    rw [Value.itemsDepth] at hroom
    obtain ⟨first, hfirst, hback⟩ := exists_value?_ofValue item room (by omega)
    obtain ⟨others, hothers, hbacks⟩ := exists_itemValues?_ofItems items room (by omega)
    refine ⟨first :: others, ?_, fun hordered => by rw [hback hordered.1, hbacks hordered.2]⟩
    rw [ofItems, itemValues?, hfirst, hothers]
    rfl

theorem exists_memberValues?_ofMembers : (members : List (String × Value)) → ∀ (room : Nat),
    Value.membersDepth members ≤ room →
    ∃ read, memberValues? room (ofMembers members) = some read ∧
      (Value.OrderedMembers members → read = members)
  | [], _, _ => ⟨_, rfl, fun _ => rfl⟩
  | (name, item) :: members, room, hroom => by
    rw [Value.membersDepth] at hroom
    obtain ⟨first, hfirst, hback⟩ := exists_value?_ofValue item room (by omega)
    obtain ⟨others, hothers, hbacks⟩ :=
      exists_memberValues?_ofMembers members room (by omega)
    refine ⟨(name, first) :: others, ?_, fun hordered => by
      rw [hback hordered.1, hbacks hordered.2]⟩
    rw [ofMembers, memberValues?, hfirst, hothers]
    rfl

end

theorem memberValues?_ofMembers {members : List (String × Value)} {room : Nat}
    (hordered : ∀ member ∈ members, member.2.Ordered)
    (hroom : Value.membersDepth members ≤ room) :
    memberValues? room (ofMembers members) = some members := by
  obtain ⟨read, hread, hback⟩ := exists_memberValues?_ofMembers members room hroom
  rw [hread, hback (Value.orderedMembers_iff.2 hordered)]

theorem table_ofValue {table : Table Value} {room : Nat}
    (hordered : ∀ entry ∈ table.entries, entry.2.Ordered)
    (hroom : (Value.ofTable table).depth ≤ room) :
    Decoder.table room (ofValue (.ofTable table)) = some table := by
  rw [Value.ofTable, Value.depth] at hroom
  rw [Value.ofTable, ofValue, Decoder.table, if_neg (by omega),
    memberValues?_ofMembers hordered (by omega), Option.map_some, Table.ofList_entries]

/-! ## Reading the fields of a record -/

theorem natBelow_ofNat {limit n : Nat} (hn : n < limit) (room : Nat) :
    Decoder.natBelow limit room (ofValue (.ofNat n)) = some n := by
  show (Number.int n).toNat? limit = some n
  rw [Number.toNat?, if_pos ⟨Int.natCast_nonneg n, Int.ofNat_lt.2 hn⟩, Int.toNat_natCast]

theorem ofMembers_eq_map (members : List (String × Value)) :
    ofMembers members = members.map fun member => (some member.1, ofValue member.2) := by
  induction members with
  | nil => rfl
  | cons member members ih => simp [ofMembers, ih]

theorem ofMembers_append (first second : List (String × Value)) :
    ofMembers (first ++ second) = ofMembers first ++ ofMembers second := by
  simp [ofMembers_eq_map]

end Document

/-- The members that write the fields of a record; a field that is missing is left out. -/
def present (fields : List (String × Option Value)) : List (String × Value) :=
  fields.filterMap fun field => field.2.map (field.1, ·)

/-- What a reader finds in the place of a field that is written, or left out. -/
def Field.ofValue? : Option Value → Field
  | some value => .given (.ofValue value)
  | none => .absent

theorem mem_present {fields : List (String × Option Value)} {member : String × Value} :
    member ∈ present fields ↔ (member.1, some member.2) ∈ fields := by
  constructor
  · intro hmember
    obtain ⟨⟨name, value?⟩, hfield, hvalue⟩ := List.mem_filterMap.1 hmember
    obtain ⟨value, rfl, rfl⟩ := Option.map_eq_some_iff.1 hvalue
    exact hfield
  · intro hfield
    exact List.mem_filterMap.2 ⟨_, hfield, rfl⟩

theorem depth_le_of_field {fields : List (String × Option Value)} {name : String} {value : Value}
    (hfield : (name, some value) ∈ fields) : value.depth ≤ Value.membersDepth (present fields) := by
  have hmember : (name, value) ∈ present fields := mem_present.2 hfield
  exact Value.depth_le_of_mem hmember

theorem filter_present_eq_nil {fields : List (String × Option Value)} {name : String}
    (hname : name ∉ fields.map Prod.fst) :
    (present fields).filter (fun member => member.1 == name) = [] := by
  refine List.filter_eq_nil_iff.2 fun member hmember => ?_
  simp only [beq_iff_eq]
  rintro rfl
  exact hname (List.mem_map_of_mem (mem_present.1 hmember))

/-- Under the name of a field stands what was written for it, and nothing else. -/
theorem filter_present {fields : List (String × Option Value)}
    (hnodup : (fields.map Prod.fst).Nodup) {field : String × Option Value}
    (hfield : field ∈ fields) : (present fields).filter (fun member => member.1 == field.1) =
      (field.2.map (field.1, ·)).toList := by
  induction fields with
  | nil => cases hfield
  | cons other fields ih =>
      rw [List.map_cons, List.nodup_cons] at hnodup
      have hsplit : present (other :: fields) =
          (other.2.map (other.1, ·)).toList ++ present fields := by
        cases other with
        | mk name value? => cases value? <;> rfl
      rw [hsplit, List.filter_append]
      rcases List.mem_cons.1 hfield with rfl | hmem
      · rw [filter_present_eq_nil hnodup.1]
        cases field.2 <;> simp
      · have hne : other.1 ≠ field.1 := fun heq => hnodup.1 (heq ▸ List.mem_map_of_mem hmem)
        rw [ih hnodup.2 hmem]
        cases other.2 <;> simp [hne]

theorem membersNamed_ofMembers (name : String) (members : List (String × Value)) :
    membersNamed name (Document.ofMembers members) =
      (members.filter fun member => member.1 == name).map fun member => .ofValue member.2 := by
  rw [membersNamed, Document.ofMembers_eq_map, List.filter_map, List.map_map]
  rfl

/-- The reader of a record finds each field as it was written. -/
theorem fieldsOfMembers?_present {fields : List (String × Option Value)}
    {others : List (String × Value)} (hnodup : (fields.map Prod.fst).Nodup)
    (hothers : ∀ member ∈ others, member.1 ∉ fields.map Prod.fst) :
    fieldsOfMembers? (fields.map Prod.fst) (Document.ofMembers (present fields ++ others)) =
      some (fields.map fun field => Field.ofValue? field.2) := by
  have hfield : ∀ field ∈ fields, fieldOfMembers? (Document.ofMembers (present fields ++ others))
      field.1 = some (Field.ofValue? field.2) := by
    intro field hmem
    have hnone : others.filter (fun member => member.1 == field.1) = [] := by
      refine List.filter_eq_nil_iff.2 fun member hmember => ?_
      simp only [beq_iff_eq]
      intro heq
      exact hothers member hmember (heq ▸ List.mem_map_of_mem hmem)
    rw [fieldOfMembers?, membersNamed_ofMembers, List.filter_append, hnone,
      filter_present hnodup hmem]
    cases field.2 <;> rfl
  -- The members stay the same while the fields are gone through, so the induction is on a part of
  -- them.
  have hmapM : ∀ part : List (String × Option Value), part ⊆ fields →
      (part.map Prod.fst).mapM (fieldOfMembers? (Document.ofMembers (present fields ++ others))) =
        some (part.map fun field => Field.ofValue? field.2) := by
    intro part hpart
    induction part with
    | nil => rfl
    | cons field part ih =>
        rw [List.cons_subset] at hpart
        simp [hfield field hpart.1, ih hpart.2]
  have hnamed : (Document.ofMembers (present fields ++ others)).all
      (fun member => member.1.isSome) = true := by
    simp [Document.ofMembers_eq_map]
  rw [fieldsOfMembers?, if_pos hnamed, hmapM fields (List.Subset.refl fields)]

end EditorShell.Json
