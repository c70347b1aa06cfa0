import EditorShell.Event.Bus

/-!
# Subscriptions

The event bus gives out numbers in ascending order and never twice.  So the listeners of an event
stand in the order of their numbers, no number belongs to two events (`EventBus.Orderly`), and a
subscription that is gone does not come back (`EventBus.Grows`).
-/

namespace EditorShell

variable {L : Type}

/-! ## Removing a subscription -/

namespace EventBus

/-- The listeners that are left when one subscription is removed. -/
theorem listeners_unsubscribe (bus : EventBus L) (event other : String) (id : SubscriptionId) :
    (bus.unsubscribe event id).2.listeners other =
      if other = event then (bus.listeners event).filter fun subscription => subscription.id != id
      else bus.listeners other := by
  unfold unsubscribe
  dsimp only
  split
  · rename_i hlength
    split
    · rename_i heq
      rw [heq, List.filter_eq_self.2 (List.length_filter_eq_length_iff.1 hlength)]
    · rfl
  · exact listeners_setListeners _ _ _ _

@[simp]
theorem nextId_unsubscribe (bus : EventBus L) (event : String) (id : SubscriptionId) :
    (bus.unsubscribe event id).2.nextId = bus.nextId := by
  unfold unsubscribe
  dsimp only
  split <;> rfl

end EventBus

/-! ## Numbers -/

/-- New subscriptions have new numbers. -/
structure EventBus.Grows (before after : EventBus L) : Prop where
  nextId_le : before.nextId ≤ after.nextId
  mem_listeners : ∀ event, ∀ subscription ∈ after.listeners event,
    subscription.id < before.nextId → subscription ∈ before.listeners event

namespace EventBus

theorem Grows.refl (bus : EventBus L) : bus.Grows bus := ⟨Nat.le_refl _, fun _ _ hmem _ => hmem⟩

theorem Grows.trans {first second third : EventBus L} (hfirst : first.Grows second)
    (hsecond : second.Grows third) : first.Grows third where
  nextId_le := Nat.le_trans hfirst.nextId_le hsecond.nextId_le
  mem_listeners event subscription hmem hlt := by
    have hmiddle := hsecond.mem_listeners event subscription hmem
      (Nat.lt_of_lt_of_le hlt hfirst.nextId_le)
    exact hfirst.mem_listeners event subscription hmiddle hlt

theorem grows_subscribe (bus : EventBus L) (event : String) (listener : L) :
    bus.Grows (bus.subscribe event listener).2 where
  nextId_le := Nat.le_succ _
  mem_listeners other subscription hmem hlt := by
    rw [listeners_subscribe] at hmem
    split at hmem
    · rename_i heq
      rcases List.mem_append.1 hmem with hmem | hmem
      · exact heq ▸ hmem
      · obtain rfl := List.mem_singleton.1 hmem
        exact absurd hlt (Nat.lt_irrefl _)
    · exact hmem

theorem grows_unsubscribe (bus : EventBus L) (event : String) (id : SubscriptionId) :
    bus.Grows (bus.unsubscribe event id).2 where
  nextId_le := Nat.le_of_eq (bus.nextId_unsubscribe event id).symm
  mem_listeners other subscription hmem _ := by
    rw [listeners_unsubscribe] at hmem
    split at hmem
    · rename_i heq
      exact heq ▸ (List.mem_filter.1 hmem).1
    · exact hmem

theorem grows_clear (bus : EventBus L) (event : String) : bus.Grows (bus.clear event) where
  nextId_le := Nat.le_refl _
  mem_listeners other subscription hmem _ := by
    rw [listeners_clear] at hmem
    split at hmem
    · cases hmem
    · exact hmem

end EventBus

/-! ## Order -/

namespace EventBus

/-- Every event in the table has listeners, they stand in the order of their numbers, and each
number was given out once. -/
structure Orderly (bus : EventBus L) : Prop where
  inhabited : ∀ event, bus.byEvent.get? event ≠ some []
  ascending : ∀ event, (bus.listeners event).Pairwise fun first second => first.id < second.id
  bounded : ∀ event, ∀ subscription ∈ bus.listeners event, subscription.id < bus.nextId
  disjoint : ∀ {event other}, ∀ first ∈ bus.listeners event, ∀ second ∈ bus.listeners other,
    first.id = second.id → event = other

theorem orderly_empty : (empty : EventBus L).Orderly where
  inhabited _ := nofun
  ascending _ := .nil
  bounded _ _ hmem := by cases hmem
  disjoint _ hmem := by cases hmem

/-- Taking listeners away keeps the order. -/
theorem Orderly.of_sublist {before after : EventBus L} (orderly : before.Orderly)
    (hnext : after.nextId = before.nextId)
    (hsublist : ∀ event, (after.listeners event).Sublist (before.listeners event))
    (inhabited : ∀ event, after.byEvent.get? event ≠ some []) : after.Orderly where
  inhabited := inhabited
  ascending event := (orderly.ascending event).sublist (hsublist event)
  bounded event subscription hmem := by
    rw [hnext]
    exact orderly.bounded event subscription ((hsublist event).subset hmem)
  disjoint first hfirst second hsecond :=
    orderly.disjoint first ((hsublist _).subset hfirst) second ((hsublist _).subset hsecond)

theorem Orderly.subscribe {bus : EventBus L} (orderly : bus.Orderly) (event : String)
    (listener : L) : (bus.subscribe event listener).2.Orderly := by
  -- A listener is an old one of its event, or the new one of `event`.
  have hmem : ∀ {other subscription},
      subscription ∈ (bus.subscribe event listener).2.listeners other →
        subscription ∈ bus.listeners other ∨
          other = event ∧ subscription = ⟨bus.nextId, listener⟩ := by
    intro other subscription hmem
    rw [listeners_subscribe] at hmem
    split at hmem
    · rename_i heq
      rcases List.mem_append.1 hmem with hmem | hmem
      · exact .inl (heq ▸ hmem)
      · exact .inr ⟨heq, List.mem_singleton.1 hmem⟩
    · exact .inl hmem
  refine ⟨fun other => ?_, fun other => ?_, fun other subscription hsubscription => ?_, ?_⟩
  · simp only [EventBus.subscribe, Table.get?_insert]
    split
    · simp
    · exact orderly.inhabited other
  · rw [listeners_subscribe]
    split
    · refine List.pairwise_append.2 ⟨orderly.ascending event, List.pairwise_singleton _ _, ?_⟩
      intro first hfirst second hsecond
      obtain rfl := List.mem_singleton.1 hsecond
      exact orderly.bounded event first hfirst
    · exact orderly.ascending other
  · rcases hmem hsubscription with hold | ⟨-, rfl⟩
    · exact Nat.lt_succ_of_lt (orderly.bounded other subscription hold)
    · exact Nat.lt_succ_self _
  · intro one two first hfirst second hsecond hid
    rcases hmem hfirst with hfirst | ⟨hone, rfl⟩ <;> rcases hmem hsecond with hsecond | ⟨htwo, rfl⟩
    · exact orderly.disjoint first hfirst second hsecond hid
    · exact absurd hid (Nat.ne_of_lt (orderly.bounded one first hfirst))
    · exact absurd hid.symm (Nat.ne_of_lt (orderly.bounded two second hsecond))
    · exact hone.trans htwo.symm

theorem Orderly.unsubscribe {bus : EventBus L} (orderly : bus.Orderly) (event : String)
    (id : SubscriptionId) : (bus.unsubscribe event id).2.Orderly := by
  refine orderly.of_sublist (bus.nextId_unsubscribe event id) (fun other => ?_) fun other => ?_
  · rw [listeners_unsubscribe]
    split
    · rename_i heq
      exact heq ▸ List.filter_sublist
    · exact List.Sublist.refl _
  · -- An event whose last listener goes is taken out of the table, so no entry becomes empty.
    unfold EventBus.unsubscribe setListeners
    dsimp only
    split
    · exact orderly.inhabited other
    · split
      · rw [Table.get?_erase]
        split
        · simp
        · exact orderly.inhabited other
      · rename_i hrest
        rw [Table.get?_insert]
        split
        · rintro hnil
          simp [Option.some.inj hnil] at hrest
        · exact orderly.inhabited other

theorem Orderly.clear {bus : EventBus L} (orderly : bus.Orderly) (event : String) :
    (bus.clear event).Orderly := by
  refine orderly.of_sublist rfl (fun other => ?_) fun other => ?_
  · rw [listeners_clear]
    split
    · exact List.nil_sublist _
    · exact List.Sublist.refl _
  · rw [EventBus.clear, Table.get?_erase]
    split
    · simp
    · exact orderly.inhabited other

/-- One subscription of an event goes, or nothing changes. -/
inductive Unsubscribed (before : EventBus L) (event : String) (id : SubscriptionId) :
    Bool → EventBus L → Prop where
  | absent (unknown : ∀ subscription ∈ before.listeners event, subscription.id ≠ id) :
      Unsubscribed before event id false before
  | removed {after : EventBus L} {earlier later : List (Subscription L)} {listener : L}
      (there : before.listeners event = earlier ++ ⟨id, listener⟩ :: later)
      (gone : after.listeners event = earlier ++ later)
      (others : ∀ other, other ≠ event → after.listeners other = before.listeners other)
      (nextId : after.nextId = before.nextId) : Unsubscribed before event id true after

/-- Removing a subscription removes that one only. -/
theorem Orderly.unsubscribed {bus : EventBus L} (orderly : bus.Orderly) (event : String)
    (id : SubscriptionId) :
    Unsubscribed bus event id (bus.unsubscribe event id).1 (bus.unsubscribe event id).2 := by
  by_cases hthere : ∃ listener, ⟨id, listener⟩ ∈ bus.listeners event
  · obtain ⟨listener, hmem⟩ := hthere
    obtain ⟨earlier, later, hsplit⟩ := List.append_of_mem hmem
    have hascending := orderly.ascending event
    rw [hsplit] at hascending
    obtain ⟨-, hlater, hearlier⟩ := List.pairwise_append.1 hascending
    -- All other listeners have other numbers, since the numbers ascend.
    have hfilter : ((bus.listeners event).filter fun subscription => subscription.id != id) =
        earlier ++ later := by
      rw [hsplit, List.filter_append, List.filter_cons_of_neg (by simp)]
      rw [List.filter_eq_self.2, List.filter_eq_self.2]
      · intro subscription hsubscription
        have hlt := (List.pairwise_cons.1 hlater).1 subscription hsubscription
        simpa using (Nat.ne_of_lt hlt).symm
      · intro subscription hsubscription
        have hlt := hearlier subscription hsubscription _ List.mem_cons_self
        simpa using Nat.ne_of_lt hlt
    have hfound : (bus.unsubscribe event id).1 = true := by
      unfold EventBus.unsubscribe
      rw [hfilter, hsplit]
      simp
    rw [hfound]
    refine .removed hsplit ?_ (fun other hother => ?_) (bus.nextId_unsubscribe _ _)
    · rw [listeners_unsubscribe, if_pos rfl, hfilter]
    · rw [listeners_unsubscribe, if_neg hother]
  · have hunknown : ∀ subscription ∈ bus.listeners event, subscription.id ≠ id :=
      fun subscription hmem heq => hthere ⟨subscription.listener, heq ▸ hmem⟩
    have hself : ((bus.listeners event).filter fun subscription => subscription.id != id) =
        bus.listeners event := List.filter_eq_self.2 fun subscription hmem => by
      simpa using hunknown subscription hmem
    have hsame : bus.unsubscribe event id = (false, bus) := by
      unfold EventBus.unsubscribe
      rw [hself, if_pos rfl]
    rw [hsame]
    exact .absent hunknown

end EventBus

end EditorShell
