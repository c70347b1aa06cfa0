import EditorShell.Bridge.State

/-!
# What lies below a widget

Placements may name parents that are not mounted, and they may form cycles.  `descendsFrom` decides
even then what lies below a widget (`descendsFrom_iff`): whoever comes up to a widget at all comes
up to it without meeting another one twice, so in no more steps than there are mounted widgets.
-/

namespace EditorShell.Bridge

variable {mounted : Table MountRecord} {ancestor : NodeId}

/-- A widget is met on the way up from another one, by recorded parents of mounted widgets. -/
inductive Above (mounted : Table MountRecord) (ancestor : NodeId) : NodeId → Prop where
  | parent {id : NodeId} (hparent : parentOf? mounted id = some ancestor) :
      Above mounted ancestor id
  | step {id parent : NodeId} (hparent : parentOf? mounted id = some parent)
      (above : Above mounted ancestor parent) : Above mounted ancestor id

/-- The widget that some steps up lead to. -/
def climb (mounted : Table MountRecord) : Nat → Option NodeId → Option NodeId
  | 0, current => current
  | steps + 1, current => climb mounted steps (current.bind (parentOf? mounted))

theorem climb_none (steps : Nat) : climb mounted steps none = none := by
  induction steps with
  | zero => rfl
  | succ steps ih => exact ih

theorem climb_add (first second : Nat) (current : Option NodeId) :
    climb mounted (first + second) current =
      climb mounted second (climb mounted first current) := by
  induction first generalizing current with
  | zero => rw [Nat.zero_add]; rfl
  | succ first ih => rw [Nat.succ_add]; exact ih _

theorem isSome_parentOf? {id : NodeId} (hparent : (parentOf? mounted id).isSome) :
    id ∈ mounted.names := by
  rw [Table.mem_names_iff, Table.contains_iff]
  cases hrecord : mounted.get? id with
  | none => simp [parentOf?, hrecord] at hparent
  | some record => exact ⟨record, rfl⟩

/-- Whatever has been passed on the way up is mounted. -/
theorem climb_mem_names {first later : Nat} {current : Option NodeId} (hlt : first < later)
    (hlater : climb mounted later current = some ancestor) :
    ∃ id ∈ mounted.names, climb mounted first current = some id := by
  obtain ⟨more, rfl⟩ : ∃ more, later = first + (more + 1) := ⟨later - first - 1, by omega⟩
  rw [climb_add] at hlater
  cases hfirst : climb mounted first current with
  | none =>
      rw [hfirst, climb_none] at hlater
      cases hlater
  | some id =>
      refine ⟨id, isSome_parentOf? ?_, rfl⟩
      cases hparent : parentOf? mounted id with
      | some parent => rfl
      | none =>
          have hstuck : climb mounted (more + 1) (some id) = none := by
            rw [climb, Option.bind_some, hparent, climb_none]
          rw [hfirst, hstuck] at hlater
          cases hlater

/-- A way up that meets a widget twice has a shortcut, so some way up is short. -/
theorem exists_climb_le_size (steps : Nat) {current : Option NodeId}
    (hclimb : climb mounted steps current = some ancestor) :
    ∃ fewer, fewer ≤ mounted.size ∧ climb mounted fewer current = some ancestor := by
  induction steps using Nat.strongRecOn with
  | ind steps ih =>
      by_cases hshort : steps ≤ mounted.size
      · exact ⟨steps, hshort, hclimb⟩
      · have hrepeats : ∃ first second, first < second ∧ second < steps ∧
            climb mounted first current = climb mounted second current := by
          refine Classical.byContradiction fun hnone => hshort ?_
          have hnodup : ((List.range steps).map fun step => climb mounted step current).Nodup := by
            rw [List.Nodup, List.pairwise_map]
            refine List.pairwise_lt_range.imp_of_mem fun {first second} _ hsecond hlt heq => ?_
            exact hnone ⟨first, second, hlt, List.mem_range.1 hsecond, heq⟩
          have hsubset : ((List.range steps).map fun step => climb mounted step current) ⊆
              mounted.names.map some := by
            intro met hmet
            obtain ⟨step, hstep, rfl⟩ := List.mem_map.1 hmet
            obtain ⟨id, hid, heq⟩ := climb_mem_names (List.mem_range.1 hstep) hclimb
            exact List.mem_map.2 ⟨id, hid, heq.symm⟩
          have hlength := hnodup.length_le_of_subset hsubset
          rwa [List.length_map, List.length_range, List.length_map, Table.names, List.length_map]
            at hlength
        -- Leave out the way between the two.
        obtain ⟨first, second, hlt, hsecond, heq⟩ := hrepeats
        refine ih (first + (steps - second)) (by omega) ?_
        rw [climb_add, heq, ← climb_add, Nat.add_sub_cancel' (by omega)]
        exact hclimb

theorem meets_iff (bound : Nat) (current : Option NodeId) :
    meets mounted ancestor bound current = true ↔
      ∃ steps, steps < bound ∧ climb mounted steps current = some ancestor := by
  induction bound generalizing current with
  | zero => simp [meets]
  | succ bound ih =>
      cases current with
      | none => simp [meets, climb_none]
      | some id =>
          rw [meets, Bool.or_eq_true, beq_iff_eq, ih]
          constructor
          · rintro (rfl | ⟨steps, hsteps, hclimb⟩)
            · exact ⟨0, by omega, rfl⟩
            · exact ⟨steps + 1, by omega, hclimb⟩
          · rintro ⟨steps, hsteps, hclimb⟩
            cases steps with
            | zero => exact .inl (Option.some.inj hclimb)
            | succ steps => exact .inr ⟨steps, by omega, hclimb⟩

theorem above_of_climb (steps : Nat) {id : NodeId}
    (hclimb : climb mounted steps (parentOf? mounted id) = some ancestor) :
    Above mounted ancestor id := by
  induction steps generalizing id with
  | zero => exact .parent hclimb
  | succ steps ih =>
      cases hparent : parentOf? mounted id with
      | none =>
          rw [hparent, climb_none] at hclimb
          cases hclimb
      | some parent =>
          rw [hparent] at hclimb
          exact .step hparent (ih hclimb)

theorem Above.exists_climb {id : NodeId} (above : Above mounted ancestor id) :
    ∃ steps, climb mounted steps (parentOf? mounted id) = some ancestor := by
  induction above with
  | parent hparent => exact ⟨0, hparent⟩
  | step hparent _ ih =>
      obtain ⟨steps, hclimb⟩ := ih
      refine ⟨steps + 1, ?_⟩
      rw [hparent]
      exact hclimb

/-- The bound on the steps does no harm, not even on a cycle. -/
theorem descendsFrom_iff {id : NodeId} :
    descendsFrom mounted id ancestor = true ↔ Above mounted ancestor id := by
  unfold descendsFrom
  rw [meets_iff]
  constructor
  · rintro ⟨steps, -, hclimb⟩
    exact above_of_climb steps hclimb
  · intro above
    obtain ⟨steps, hclimb⟩ := above.exists_climb
    obtain ⟨fewer, hfewer, hclimb⟩ := exists_climb_le_size steps hclimb
    exact ⟨fewer, Nat.lt_succ_of_le hfewer, hclimb⟩

end EditorShell.Bridge
