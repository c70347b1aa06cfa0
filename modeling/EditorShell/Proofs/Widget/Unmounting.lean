import EditorShell.Proofs.Sorting
import EditorShell.Proofs.Widget.Mounting

/-!
# Unmounting several widgets

The ids that a render or the unmount of a subtree picks come without repetition and deeper ones
first (`nodup_unmountOrder`, `pairwise_unmountOrder`).  Unmounting them one after the other takes
exactly them out of the mounted widgets (`get?_unmountAll`).
-/

namespace EditorShell

/-! ## The order -/

namespace Bridge

variable {ι : Type}

theorem mem_unmountOrder {bridge : Bridge ι} {doomed : NodeId → Bool} {id : NodeId} :
    id ∈ bridge.unmountOrder doomed ↔ bridge.isMounted id = true ∧ doomed id = true := by
  unfold unmountOrder isMounted
  rw [Table.contains_iff, List.mem_map]
  constructor
  · rintro ⟨⟨other, record⟩, hmem, rfl⟩
    obtain ⟨hentry, hdoomed⟩ := List.mem_filter.1 (Sorting.mem_sort.1 hmem)
    exact ⟨⟨record, Table.mem_entries_iff.1 hentry⟩, hdoomed⟩
  · rintro ⟨⟨record, hrecord⟩, hdoomed⟩
    refine ⟨(id, record), Sorting.mem_sort.2 (List.mem_filter.2 ⟨?_, hdoomed⟩), rfl⟩
    exact Table.mem_entries_iff.2 hrecord

theorem nodup_unmountOrder (bridge : Bridge ι) (doomed : NodeId → Bool) :
    (bridge.unmountOrder doomed).Nodup := by
  unfold unmountOrder
  rw [((Sorting.sort_perm _).map Prod.fst).nodup_iff]
  exact bridge.mounted.nodup_names.sublist (List.filter_sublist.map Prod.fst)

theorem unmountsBefore_total (first second : NodeId × MountRecord) :
    unmountsBefore first second = true ∨ unmountsBefore second first = true := by
  simp only [unmountsBefore, Bool.or_eq_true, Bool.and_eq_true, decide_eq_true_eq, beq_iff_eq]
  rcases Nat.lt_trichotomy first.2.depth second.2.depth with hlt | heq | hlt
  · exact .inr (.inl hlt)
  · rcases String.le_total first.1 second.1 with hid | hid
    · exact .inl (.inr ⟨heq, hid⟩)
    · exact .inr (.inr ⟨heq.symm, hid⟩)
  · exact .inl (.inl hlt)

theorem unmountsBefore_trans (first second third : NodeId × MountRecord)
    (hfirst : unmountsBefore first second = true) (hsecond : unmountsBefore second third = true) :
    unmountsBefore first third = true := by
  simp only [unmountsBefore, Bool.or_eq_true, Bool.and_eq_true, decide_eq_true_eq, beq_iff_eq]
    at hfirst hsecond ⊢
  rcases hfirst with hfirst | ⟨hfirst, hid⟩
  · omega
  · rcases hsecond with hsecond | ⟨hsecond, hid'⟩
    · omega
    · exact .inr ⟨hfirst.trans hsecond, String.le_trans hid hid'⟩

/-- Nothing is unmounted before something deeper. -/
theorem pairwise_unmountOrder (bridge : Bridge ι) (doomed : NodeId → Bool) :
    (bridge.unmountOrder doomed).Pairwise fun first second => ∀ record record',
      bridge.mounted.get? first = some record → bridge.mounted.get? second = some record' →
        record'.depth ≤ record.depth := by
  unfold unmountOrder
  rw [List.pairwise_map]
  refine List.Pairwise.imp_of_mem ?_
    (Sorting.pairwise_sort unmountsBefore_total unmountsBefore_trans _)
  intro first second hfirst hsecond hbefore record record' hrecord hrecord'
  have hget : ∀ {entry : NodeId × MountRecord},
      entry ∈ Sorting.sort unmountsBefore
        (bridge.mounted.entries.filter fun entry => doomed entry.1) →
      bridge.mounted.get? entry.1 = some entry.2 := fun hmem =>
    Table.mem_entries_iff.1 (List.mem_filter.1 (Sorting.mem_sort.1 hmem)).1
  rw [hget hfirst, Option.some.injEq] at hrecord
  rw [hget hsecond, Option.some.injEq] at hrecord'
  subst hrecord hrecord'
  simp only [unmountsBefore, Bool.or_eq_true, Bool.and_eq_true, decide_eq_true_eq, beq_iff_eq]
    at hbefore
  omega

end Bridge

/-! ## The unmounts -/

namespace Session

variable {κ S : Type} {caller : Caller κ S}

/-- Unmounting several widgets takes out these and no others, and mounts nothing. -/
theorem get?_unmountAll (apart : caller.HostApart) (ids : List NodeId) (session : Session κ S) :
    (∀ id, ((unmountAll ids).run caller session).2.bridge.mounted.get? id =
        if id ∈ ids then none else session.bridge.mounted.get? id) ∧
      ∃ noted, ((unmountAll ids).run caller session).2.journal = noted ++ session.journal ∧
        ∀ id, noted.any (Entry.acceptsMount id) = false := by
  induction ids generalizing session with
  | nil => exact ⟨fun _ => by simp [unmountAll], [], rfl, fun _ => rfl⟩
  | cons id rest ih =>
      obtain ⟨hmounted, noted, hjournal, hnoted⟩ := mounted_unmount apart id session
      obtain ⟨hget, noted', hjournal', hnoted'⟩ := ih ((unmount id).run caller session).2
      unfold unmountAll
      rw [Act.run_bind]
      refine ⟨fun other => ?_, noted' ++ noted, ?_, fun other => ?_⟩
      · rw [hget, hmounted, Table.get?_erase]
        by_cases hid : other = id <;> simp [hid]
      · rw [hjournal', hjournal, List.append_assoc]
      · rw [List.any_append, hnoted', hnoted, Bool.or_false]

end Session

end EditorShell
