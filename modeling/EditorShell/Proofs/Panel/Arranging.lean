import EditorShell.Panel.State
import Mathlib.Data.List.Induction
import Mathlib.Data.List.Nodup

/-!
# Histories of a registry of components

Each change registers a component under an id or removes an id.  A history of changes says by itself
what has to be registered in the end:

* an id has the component with which it was registered last, unless it has been removed since
  (`latest?`);
* an id stands where it was registered first since it was last absent (`Since`).

`Arranged` puts both together, and each change keeps it (`Arranged.change`).
-/

namespace EditorShell.ComponentRegistry

variable {C : Type}

/-- A change of a registry of components. -/
inductive Change (C : Type) where
  | insert (id : String) (component : C)
  | remove (id : String)

namespace Change

/-- The id that a change is about. -/
def id : Change C → String
  | .insert id _ | .remove id => id

/-- The component that the id has after the change. -/
def component? : Change C → Option C
  | .insert _ component => some component
  | .remove _ => none

end Change

/-- The registry after a change. -/
def change (registry : ComponentRegistry C) : Change C → ComponentRegistry C
  | .insert id component => (registry.insert id component).2
  | .remove id => (registry.remove id).2

/-- The component of an id, told by the last change of this id. -/
def latest? (id : String) (changes : List (Change C)) : Option C :=
  (changes.filter fun change => change.id == id).getLast?.bind Change.component?

/-- After `n` changes an absent id was registered, and it has not been removed since. -/
def Since (changes : List (Change C)) (id : String) (n : Nat) : Prop :=
  ∃ before component after, changes = before ++ .insert id component :: after ∧
    before.length = n ∧ latest? id before = none ∧ .remove id ∉ after

/-- One id was registered before another one, each first since it was last absent. -/
def Precedes (changes : List (Change C)) (first second : String) : Prop :=
  ∃ m n, Since changes first m ∧ Since changes second n ∧ m < n

/-- A registry is what these changes make of an empty one. -/
structure Arranged (changes : List (Change C)) (registry : ComponentRegistry C) : Prop where
  nodup : registry.ids.Nodup
  mem_iff : ∀ id component, (id, component) ∈ registry.entries ↔
    latest? id changes = some component
  since : ∀ id ∈ registry.ids, ∃ n, Since changes id n
  /-- Ids stand in the order in which they were registered first since they were last absent. -/
  order : registry.ids.Pairwise (Precedes changes)

/-! ## What a change tells -/

theorem latest?_concat (id : String) (changes : List (Change C)) (change : Change C) :
    latest? id (changes ++ [change]) =
      if change.id = id then change.component? else latest? id changes := by
  unfold latest?
  by_cases hid : change.id = id <;> simp [List.filter_append, hid]

theorem Since.concat {changes : List (Change C)} {id : String} {n : Nat}
    (since : Since changes id n) {change : Change C} (hkept : change ≠ .remove id) :
    Since (changes ++ [change]) id n := by
  obtain ⟨before, component, after, rfl, hlength, habsent, hafter⟩ := since
  refine ⟨before, component, after ++ [change], by simp, hlength, habsent, ?_⟩
  intro hmem
  rcases List.mem_append.1 hmem with hmem | hmem
  · exact hafter hmem
  · exact hkept (List.mem_singleton.1 hmem).symm

theorem since_new {changes : List (Change C)} {id : String} (habsent : latest? id changes = none)
    (component : C) : Since (changes ++ [.insert id component]) id changes.length :=
  ⟨changes, component, [], rfl, rfl, habsent, List.not_mem_nil⟩

theorem Since.lt_length {changes : List (Change C)} {id : String} {n : Nat}
    (since : Since changes id n) : n < changes.length := by
  obtain ⟨before, component, after, rfl, rfl, -, -⟩ := since
  simp

/-! ## Entries after a change -/

theorem mem_ids_iff {registry : ComponentRegistry C} {id : String} :
    id ∈ registry.ids ↔ ∃ component, (id, component) ∈ registry.entries := by
  simp [ids]

/-- The entries of other ids stay when a component is replaced. -/
theorem mem_replace_iff {id other : String} {component value : C} {entries : List (String × C)}
    (nodup : (entries.map Prod.fst).Nodup) : (other, value) ∈ replace id component entries ↔
      if other = id then id ∈ entries.map Prod.fst ∧ value = component
      else (other, value) ∈ entries := by
  induction entries with
  | nil => simp [replace]
  | cons entry rest ih =>
      obtain ⟨name, old⟩ := entry
      rw [List.map_cons, List.nodup_cons] at nodup
      -- The name stands here only, so the replacement need not look behind the first match.
      have hrest : ∀ value, (name, value) ∉ rest := by
        intro value hmem
        have hname := List.mem_map_of_mem (f := Prod.fst) hmem
        exact nodup.1 hname
      unfold replace
      by_cases hname : name = id
      · subst hname
        by_cases hother : other = name
        · subst hother
          simp [hrest]
        · simp [hother]
      · rw [if_neg hname, List.mem_cons, ih nodup.2]
        by_cases hother : other = id
        · subst hother
          simp [Ne.symm hname]
        · simp [hother]

theorem mem_insert_iff {registry : ComponentRegistry C} (nodup : registry.ids.Nodup)
    {id other : String} {component value : C} :
    (other, value) ∈ (registry.insert id component).2.entries ↔
      if other = id then value = component else (other, value) ∈ registry.entries := by
  unfold insert contains
  by_cases hmem : id ∈ registry.ids
  · rw [if_pos (List.contains_iff_mem.2 hmem), mem_replace_iff nodup]
    have hold : id ∈ registry.entries.map Prod.fst := hmem
    by_cases hother : other = id <;> simp [hother, hold]
  · rw [if_neg (mt List.contains_iff_mem.1 hmem)]
    have hnew : ∀ value, (id, value) ∉ registry.entries := fun value hvalue =>
      hmem (mem_ids_iff.2 ⟨value, hvalue⟩)
    by_cases hother : other = id
    · subst hother
      simp [hnew]
    · simp [hother]

theorem mem_remove_iff {registry : ComponentRegistry C} (nodup : registry.ids.Nodup)
    {id other : String} {value : C} : (other, value) ∈ (registry.remove id).2.entries ↔
      other ≠ id ∧ (other, value) ∈ registry.entries := by
  have hids : other ∈ (registry.remove id).2.ids ↔ other ≠ id ∧ other ∈ registry.ids := by
    rw [ids_remove, nodup.mem_erase_iff]
  have hsublist : (registry.remove id).2.entries.Sublist registry.entries := by
    unfold remove
    split
    · exact List.eraseP_sublist
    · exact List.Sublist.refl _
  constructor
  · intro hmem
    exact ⟨(hids.1 (mem_ids_iff.2 ⟨value, hmem⟩)).1, hsublist.subset hmem⟩
  · rintro ⟨hother, hmem⟩
    -- An id that stays has one component, before and after.
    obtain ⟨kept, hkept⟩ := mem_ids_iff.1 (hids.2 ⟨hother, mem_ids_iff.2 ⟨value, hmem⟩⟩)
    have hsame := List.inj_on_of_nodup_map nodup hmem (hsublist.subset hkept) rfl
    rwa [hsame]

/-! ## Each change keeps the arrangement -/

namespace Arranged

variable {changes : List (Change C)} {registry : ComponentRegistry C}

theorem empty : Arranged [] (empty : ComponentRegistry C) where
  nodup := List.nodup_nil
  mem_iff id component := by simp [latest?, ComponentRegistry.empty]
  since _ hmem := by cases hmem
  order := List.Pairwise.nil

theorem latest?_eq_none_iff (arranged : Arranged changes registry) {id : String} :
    latest? id changes = none ↔ id ∉ registry.ids := by
  rw [mem_ids_iff, Option.eq_none_iff_forall_ne_some]
  constructor
  · rintro hnone ⟨component, hmem⟩
    exact hnone component ((arranged.mem_iff id component).1 hmem)
  · intro habsent component hsome
    exact habsent ⟨component, (arranged.mem_iff id component).2 hsome⟩

theorem insert (arranged : Arranged changes registry) (id : String) (component : C) :
    Arranged (changes ++ [.insert id component]) (registry.insert id component).2 := by
  have hkept : ∀ {other n}, Since changes other n →
      Since (changes ++ [.insert id component]) other n := fun since =>
    since.concat nofun
  refine ⟨?_, fun other value => ?_, fun other hother => ?_, ?_⟩
  · rw [ids_insert]
    split
    · exact arranged.nodup
    · rename_i hnew
      rw [← List.concat_eq_append]
      exact arranged.nodup.concat hnew
  · rw [mem_insert_iff arranged.nodup, latest?_concat, arranged.mem_iff]
    by_cases hother : other = id
    · simp [hother, Change.id, Change.component?, eq_comm]
    · simp [Change.id, hother, Ne.symm hother]
  · by_cases hold : other ∈ registry.ids
    · obtain ⟨n, since⟩ := arranged.since other hold
      exact ⟨n, hkept since⟩
    · rw [ids_insert] at hother
      split at hother
      · exact absurd hother hold
      · rename_i hnew
        obtain rfl := List.mem_singleton.1 ((List.mem_append.1 hother).resolve_left hold)
        exact ⟨changes.length, since_new (arranged.latest?_eq_none_iff.2 hnew) component⟩
  · rw [ids_insert]
    -- A new component comes last and is younger than all the others; an old one keeps its place.
    have horder : registry.ids.Pairwise (Precedes (changes ++ [.insert id component])) := by
      apply arranged.order.imp
      rintro first second ⟨m, n, hfirst, hsecond, hlt⟩
      exact ⟨m, n, hkept hfirst, hkept hsecond, hlt⟩
    split
    · exact horder
    · rename_i hnew
      rw [List.pairwise_append]
      refine ⟨horder, List.pairwise_singleton _ _, ?_⟩
      intro first hfirst second hsecond
      obtain rfl := List.mem_singleton.1 hsecond
      obtain ⟨m, since⟩ := arranged.since first hfirst
      exact ⟨m, changes.length, hkept since,
        since_new (arranged.latest?_eq_none_iff.2 hnew) component, since.lt_length⟩

theorem remove (arranged : Arranged changes registry) (id : String) :
    Arranged (changes ++ [.remove id]) (registry.remove id).2 := by
  have hkept : ∀ {other n}, other ≠ id → Since changes other n →
      Since (changes ++ [.remove id]) other n := fun hother since =>
    since.concat fun heq => hother (Change.remove.inj heq).symm
  -- Those that stay are not the removed one, so their latest changes stay the same.
  have hids : ∀ other ∈ (registry.remove id).2.ids, other ≠ id ∧ other ∈ registry.ids := by
    intro other hmem
    rwa [ids_remove, arranged.nodup.mem_erase_iff] at hmem
  refine ⟨?_, fun other value => ?_, fun other hother => ?_, ?_⟩
  · rw [ids_remove]
    exact arranged.nodup.erase id
  · rw [mem_remove_iff arranged.nodup, latest?_concat, arranged.mem_iff]
    by_cases hother : other = id
    · simp [hother, Change.id, Change.component?]
    · simp [Change.id, hother, Ne.symm hother]
  · obtain ⟨hne, hold⟩ := hids other hother
    obtain ⟨n, since⟩ := arranged.since other hold
    exact ⟨n, hkept hne since⟩
  · have hsublist : (registry.remove id).2.ids.Sublist registry.ids := by
      rw [ids_remove]
      exact List.erase_sublist
    apply (arranged.order.sublist hsublist).imp_of_mem
    rintro first second hfirst hsecond ⟨m, n, hm, hn, hlt⟩
    exact ⟨m, n, hkept (hids first hfirst).1 hm, hkept (hids second hsecond).1 hn, hlt⟩

theorem change (arranged : Arranged changes registry) (change : Change C) :
    Arranged (changes ++ [change]) (registry.change change) := by
  cases change with
  | insert id component => exact arranged.insert id component
  | remove id => exact arranged.remove id

theorem change? (arranged : Arranged changes registry) (change? : Option (Change C)) :
    Arranged (changes ++ change?.toList) (change?.elim registry registry.change) := by
  cases change? with
  | none => rwa [Option.toList_none, List.append_nil]
  | some change => exact arranged.change change

end Arranged

end EditorShell.ComponentRegistry
