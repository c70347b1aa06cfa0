import EditorShell.Proofs.Widget.Declaring
import EditorShell.Host.Slots
import EditorShell.Proofs.Run.Reaching

/-!
# Trees without ids of their own

A node without an id of its own gets one from its place: the id of its parent, its index and its
kind.  The id of the root may be any text, so it may hold slashes, digits and colons itself, and the
name of a slot does not even tell colons from underscores.

Still no two nodes of such a tree have the same id, and no two share a slot (`nodup_slotNames`).
Nothing has to be decoded for this.  All ids of the tree start with the id of the root, so it does
not matter what is in there.  Below a parent, each id goes on with a slash, the index of the child
above it, and a character that is no digit; so the ids below different children differ in the index.
The induction is on the tree, and it is about slots, since ids with different slots are different.
-/

namespace EditorShell

variable {κ S ι : Type}

namespace Node

mutual

/-- Whether no node of the tree has an id of its own. -/
def isUnnamed : Node ι → Bool
  | ⟨id, _, _, _, _, children, _⟩ => id.isNone && areUnnamed children

/-- Whether no node of these trees has an id of its own. -/
def areUnnamed : List (Node ι) → Bool
  | [] => true
  | node :: nodes => isUnnamed node && areUnnamed nodes

end

theorem areUnnamed_children {node : Node ι} (hunnamed : node.isUnnamed = true) :
    areUnnamed node.children = true := by
  obtain ⟨id, kind, style, props, handlers, children, data⟩ := node
  rw [isUnnamed, Bool.and_eq_true] at hunnamed
  exact hunnamed.2

end Node

/-! ## The characters of a slot -/

/-- The part of the name of a slot that the id is in. -/
def slotChars (id : NodeId) : List Char := id.toList.map fun c => if c = ':' then '_' else c

theorem slotName_eq_iff {first second : NodeId} :
    slotName first = slotName second ↔ slotChars first = slotChars second := by
  unfold slotName
  rw [String.append_right_inj, String.ofList_inj]
  rfl

theorem slotChars_digits (n : Nat) : slotChars (Decimal.text n) = Decimal.digits n := by
  unfold slotChars Decimal.text
  rw [String.toList_ofList]
  refine (List.map_congr_left fun c hc => if_neg ?_).trans (List.map_id _)
  rintro rfl
  cases Decimal.isDigit_of_mem_digits hc

/-- The slot of a child is that of its parent, a slash, the index, and an underscore before the
kind. -/
theorem slotChars_childId (parent : NodeId) (index : Nat) (kind : String) :
    slotChars (Node.childId parent index kind) =
      slotChars parent ++ '/' :: (Decimal.digits index ++ '_' :: slotChars kind) := by
  rw [← slotChars_digits]
  unfold slotChars Node.childId
  simp

/-- Digits end where a character follows that is no digit. -/
theorem index_inj {first second : Nat} {rest more : List Char}
    (heq : Decimal.digits first ++ '_' :: rest = Decimal.digits second ++ '_' :: more) :
    first = second := by
  have hdigits : ∀ n rest, (Decimal.digits n ++ '_' :: rest).takeWhile Char.isDigit =
      Decimal.digits n := by
    intro n rest
    rw [List.takeWhile_append_of_pos fun c hc => Decimal.isDigit_of_mem_digits hc]
    exact List.append_nil _
  calc first = Decimal.ofDigits (Decimal.digits first) := (Decimal.ofDigits_digits first).symm
    _ = Decimal.ofDigits (Decimal.digits second) := by
      rw [← hdigits first rest, heq, hdigits]
    _ = second := Decimal.ofDigits_digits second

/-! ## The slots of a tree -/

/-- The slot is that of something at or below a child of `parent`, the child with this index. -/
def SlotBelow (parent : NodeId) (index : Nat) (id : NodeId) : Prop :=
  ∃ rest, slotChars id = slotChars parent ++ '/' :: (Decimal.digits index ++ '_' :: rest)

theorem SlotBelow.index_eq {parent id other : NodeId} {first second : Nat}
    (hfirst : SlotBelow parent first id) (hsecond : SlotBelow parent second other)
    (heq : slotChars id = slotChars other) : first = second := by
  obtain ⟨rest, hrest⟩ := hfirst
  obtain ⟨more, hmore⟩ := hsecond
  rw [hrest, hmore, List.append_cancel_left_eq, List.cons_inj_right] at heq
  exact index_inj heq

/-- A slot below another one is a different slot. -/
theorem SlotBelow.ne {parent id : NodeId} {index : Nat} (hbelow : SlotBelow parent index id) :
    slotChars id ≠ slotChars parent := by
  obtain ⟨rest, hrest⟩ := hbelow
  intro heq
  have hlength := congrArg List.length (hrest.symm.trans heq)
  simp at hlength

namespace Node

/-- What starts with the slot of a child without an id of its own is below the parent. -/
theorem slotBelow_of_child {parent id : NodeId} {index : Nat} {child : Node ι} {rest : List Char}
    (hunnamed : child.isUnnamed = true)
    (hrest : slotChars id = slotChars (child.effectiveId (some parent) index) ++ rest) :
    SlotBelow parent index id := by
  obtain ⟨own, kind, style, props, handlers, children, data⟩ := child
  rw [isUnnamed, Bool.and_eq_true, Option.isNone_iff_eq_none] at hunnamed
  obtain ⟨rfl, -⟩ := hunnamed
  have hown : slotChars id = slotChars (childId parent index kind.name) ++ rest := hrest
  refine ⟨slotChars kind.name ++ rest, ?_⟩
  rw [hown, slotChars_childId]
  simp

mutual

/-- The slots of a tree start with that of its root. -/
theorem exists_slotChars_eq (parent : Option NodeId) (index : Nat) (node : Node ι)
    (hunnamed : areUnnamed node.children = true) :
    ∀ entry ∈ node.members parent index,
      ∃ rest, slotChars entry.1 = slotChars (node.effectiveId parent index) ++ rest := by
  match node with
  | ⟨id, kind, style, props, handlers, children, data⟩ =>
      intro entry hentry
      rw [members, List.mem_cons] at hentry
      rcases hentry with rfl | hentry
      · exact ⟨[], (List.append_nil _).symm⟩
      · obtain ⟨below, -, rest, hrest⟩ := slotBelow_of_mem _ 0 children hunnamed entry hentry
        exact ⟨_, hrest⟩

/-- The slots below a parent have the index of a child in them. -/
theorem slotBelow_of_mem (parent : NodeId) (index : Nat) (children : List (Node ι))
    (hunnamed : areUnnamed children = true) :
    ∀ entry ∈ membersBelow parent index children, ∃ below, index ≤ below ∧
      SlotBelow parent below entry.1 := by
  match children with
  | [] =>
      intro entry hentry
      cases hentry
  | child :: children =>
      intro entry hentry
      rw [areUnnamed, Bool.and_eq_true] at hunnamed
      rw [membersBelow, List.mem_append] at hentry
      rcases hentry with hentry | hentry
      · obtain ⟨rest, hrest⟩ := exists_slotChars_eq (some parent) index child
          (areUnnamed_children hunnamed.1) entry hentry
        exact ⟨index, Nat.le_refl index, slotBelow_of_child hunnamed.1 hrest⟩
      · obtain ⟨below, hle, hbelow⟩ :=
          slotBelow_of_mem parent (index + 1) children hunnamed.2 entry hentry
        exact ⟨below, by omega, hbelow⟩

end

mutual

/-- No two nodes of the tree share a slot. -/
theorem nodup_slotChars (parent : Option NodeId) (index : Nat) (node : Node ι)
    (hunnamed : areUnnamed node.children = true) :
    ((node.members parent index).map fun entry => slotChars entry.1).Nodup := by
  match node with
  | ⟨id, kind, style, props, handlers, children, data⟩ =>
      rw [members, List.map_cons, List.nodup_cons]
      refine ⟨?_, nodup_slotCharsBelow _ 0 children hunnamed⟩
      intro hmem
      obtain ⟨entry, hentry, heq⟩ := List.mem_map.1 hmem
      obtain ⟨below, -, hbelow⟩ := slotBelow_of_mem _ 0 children hunnamed entry hentry
      exact hbelow.ne heq

/-- No two nodes below a parent share a slot. -/
theorem nodup_slotCharsBelow (parent : NodeId) (index : Nat) (children : List (Node ι))
    (hunnamed : areUnnamed children = true) :
    ((membersBelow parent index children).map fun entry => slotChars entry.1).Nodup := by
  match children with
  | [] => exact List.nodup_nil
  | child :: children =>
      rw [areUnnamed, Bool.and_eq_true] at hunnamed
      have hchild := exists_slotChars_eq (some parent) index child (areUnnamed_children hunnamed.1)
      have hrest := slotBelow_of_mem parent (index + 1) children hunnamed.2
      rw [membersBelow, List.map_append, List.nodup_append]
      refine ⟨?_, nodup_slotCharsBelow parent (index + 1) children hunnamed.2, ?_⟩
      · exact nodup_slotChars (some parent) index child (areUnnamed_children hunnamed.1)
      · -- A slot of this child and one of a later child differ in the index.
        intro first hfirst second hsecond heq
        obtain ⟨entry, hentry, rfl⟩ := List.mem_map.1 hfirst
        obtain ⟨other, hother, rfl⟩ := List.mem_map.1 hsecond
        obtain ⟨below, hle, hbelow⟩ := hrest other hother
        obtain ⟨rest, hown⟩ := hchild entry hentry
        have hindex := (slotBelow_of_child hunnamed.1 hown).index_eq hbelow heq
        omega

end

end Node

theorem nodup_slotNames (root : Node ι) (hunnamed : Node.areUnnamed root.children = true) :
    ((root.members none 0).map fun entry => slotName entry.1).Nodup := by
  have hslots := Node.nodup_slotChars none 0 root hunnamed
  rw [List.Nodup, List.pairwise_map] at hslots ⊢
  exact hslots.imp fun hne heq => hne (slotName_eq_iff.1 heq)

theorem nodup_memberIds (root : Node ι) (hunnamed : Node.areUnnamed root.children = true) :
    ((root.members none 0).map Prod.fst).Nodup := by
  have hslots := nodup_slotNames root hunnamed
  rw [List.Nodup, List.pairwise_map] at hslots ⊢
  exact hslots.imp fun hne heq => hne (congrArg slotName heq)

/-- **Trees without ids of their own.**  In a tree in which no node but the root has an id of its
own, no two nodes have the same id, and no two share a slot, although ids may do so.

Hence a render of such a tree, under a host that refuses none of the mounts, skips no node: it
mounts every node that was not mounted, updates every node, and leaves just the nodes of the tree
mounted. -/
theorem positions_distinct (root : Node (Handler κ))
    (hunnamed : Node.areUnnamed root.children = true) :
    ((root.members none 0).map Prod.fst).Nodup ∧
    ((root.members none 0).map fun entry => slotName entry.1).Nodup ∧
    (∃ first second : NodeId, first ≠ second ∧ slotName first = slotName second) ∧
    ∀ (caller : Caller κ S), caller.HostApart → ∀ session : Session κ S,
      let rendered := (Session.render root).run caller session
      session.AcceptsMounts rendered.2 →
        rendered.1.duplicates = 0 ∧
        rendered.1.updated = (root.members none 0).length ∧
        rendered.1.mounted = ((root.members none 0).map Prod.fst).filter
          (fun id => !session.bridge.isMounted id) ∧
        (∀ id, rendered.2.bridge.isMounted id = true ↔ id ∈ (root.members none 0).map Prod.fst) ∧
        ∃ noted, rendered.2.journal = noted ++ session.journal ∧ ∀ entry ∈ root.members none 0,
          Entry.Updates entry.1 entry.2 noted ∧
            (session.bridge.isMounted entry.1 = false →
              noted.any (Entry.acceptsMount entry.1) = true) := by
  have hnodup := nodup_memberIds root hunnamed
  refine ⟨hnodup, nodup_slotNames root hunnamed, ⟨"a:b", "a_b", by decide, by decide⟩, ?_⟩
  intro caller apart session rendered accepts
  obtain ⟨-, hmounted, hsends, hreport, hupdated, hduplicates⟩ :=
    Session.reaches_render apart root session hnodup accepts
  exact ⟨hduplicates, hupdated, hreport, hmounted, hsends⟩

/-- A tree whose root has an id like that of a child of another root. -/
def likeChild : Node (Handler Empty) :=
  ((Node.ofKind .view).withId "shell/1:Text").withChildren
    [(Node.ofKind .view).withChildren [Node.ofText "a", Node.ofText "b"], Node.ofText "c"]

theorem positions_distinct_likeChild :
    let rendered := (Session.render likeChild).run (Code.plain.caller 1) Session.recordingSession
    Node.areUnnamed likeChild.children = true ∧
      Session.recordingSession.AcceptsMounts rendered.2 ∧
      rendered.1.duplicates = 0 ∧ rendered.1.updated = 5 ∧
      rendered.1.mounted = ["shell/1:Text", "shell/1:Text/0:View", "shell/1:Text/0:View/0:Text",
        "shell/1:Text/0:View/1:Text", "shell/1:Text/1:Text"] := by
  intro rendered
  have accepts : Session.recordingSession.AcceptsMounts rendered.2 :=
    (Session.unrefused_of_all (by decide +kernel)).acceptsMounts
  obtain ⟨hduplicates, hupdated, hmounted, -⟩ := (positions_distinct likeChild (by decide)).2.2.2
    (Code.plain.caller 1) (Code.hostApart_plain 1) Session.recordingSession accepts
  exact ⟨by decide, accepts, hduplicates, hupdated, hmounted.trans (by decide +kernel)⟩

end EditorShell
