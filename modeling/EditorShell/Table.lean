/-!
# Sorted tables

`Table α` is a finite map from names to values of type `α`, kept as a list of entries in strictly
ascending order of their names.  Commands, bindings, extensions, mounted widgets and the
properties of a node are all tables, and every listing of them shows this order.

The order is part of the type, so a table is determined by what it answers: two tables with the
same lookups are equal (`Table.ext_get?`).  Restoring every lookup therefore restores the table
itself, which is how laws about undoing a change are stated.

## Strategy

The operations are single passes over the raw entry list (`put`, `drop`, `find?`).  One lemma per
operation says what it does to a lookup, and one says that it keeps the order.
-/

namespace EditorShell

namespace Table

variable {α : Type}

/-- The entries stand in strictly ascending order of their names. -/
abbrev Ascending (entries : List (String × α)) : Prop :=
  entries.Pairwise fun first second => first.1 < second.1

/-! ## Raw entry lists -/

/-- Stores `value` under `name` at its place in the order, over any value already there. -/
def put (name : String) (value : α) : List (String × α) → List (String × α)
  | [] => [(name, value)]
  | (other, old) :: rest =>
    if name < other then (name, value) :: (other, old) :: rest
    else if name = other then (name, value) :: rest
    else (other, old) :: put name value rest

/-- Takes the entry of a name out of a list of entries. -/
def drop (name : String) : List (String × α) → List (String × α)
  | [] => []
  | (other, old) :: rest => if name = other then rest else (other, old) :: drop name rest

/-- The value of the first entry of a name. -/
def find? (name : String) : List (String × α) → Option α
  | [] => none
  | (other, value) :: rest => if name = other then some value else find? name rest

theorem mem_put {name : String} {value : α} {entry : String × α} {entries : List (String × α)}
    (hmem : entry ∈ put name value entries) : entry = (name, value) ∨ entry ∈ entries := by
  induction entries with
  | nil => simpa [put] using hmem
  | cons head rest ih =>
      obtain ⟨other, old⟩ := head
      simp only [put] at hmem
      split at hmem
      · simpa using hmem
      · split at hmem <;> simp only [List.mem_cons] at hmem ⊢ <;> grind

theorem mem_of_mem_drop {name : String} {entry : String × α} {entries : List (String × α)}
    (hmem : entry ∈ drop name entries) : entry ∈ entries := by
  induction entries with
  | nil => simp [drop] at hmem
  | cons head rest ih =>
      obtain ⟨other, old⟩ := head
      simp only [drop] at hmem
      split at hmem <;> simp only [List.mem_cons] at hmem ⊢ <;> grind

theorem ascending_put (name : String) (value : α) {entries : List (String × α)}
    (hentries : Ascending entries) : Ascending (put name value entries) := by
  induction entries with
  | nil => simp [put]
  | cons head rest ih =>
      obtain ⟨other, old⟩ := head
      obtain ⟨hhead, hrest⟩ := List.pairwise_cons.1 hentries
      simp only [put]
      split
      · rename_i hlt
        refine List.pairwise_cons.2 ⟨fun entry hmem => ?_, hentries⟩
        rcases List.mem_cons.1 hmem with rfl | hmem
        · exact hlt
        · exact String.lt_trans hlt (hhead entry hmem)
      · split
        · rename_i heq
          subst heq
          exact List.pairwise_cons.2 ⟨hhead, hrest⟩
        · rename_i hlt hne
          refine List.pairwise_cons.2 ⟨fun entry hmem => ?_, ih hrest⟩
          rcases mem_put hmem with rfl | hmem
          · show other < name
            grind
          · exact hhead entry hmem

theorem ascending_drop (name : String) {entries : List (String × α)}
    (hentries : Ascending entries) : Ascending (drop name entries) := by
  induction entries with
  | nil => simp [drop]
  | cons head rest ih =>
      obtain ⟨other, old⟩ := head
      obtain ⟨hhead, hrest⟩ := List.pairwise_cons.1 hentries
      simp only [drop]
      split
      · exact hrest
      · exact List.pairwise_cons.2 ⟨fun entry hmem => hhead entry (mem_of_mem_drop hmem), ih hrest⟩

theorem find?_put (name : String) (value : α) (wanted : String) (entries : List (String × α)) :
    find? wanted (put name value entries) =
      if wanted = name then some value else find? wanted entries := by
  induction entries with
  | nil => simp [put, find?]
  | cons head rest ih =>
      obtain ⟨other, old⟩ := head
      simp only [put]
      split
      · simp [find?]
      · split <;> simp only [find?] <;> grind

theorem find?_eq_none_of_lt {name : String} {entries : List (String × α)}
    (hlt : ∀ entry ∈ entries, name < entry.1) : find? name entries = none := by
  induction entries with
  | nil => rfl
  | cons head rest ih =>
      obtain ⟨other, old⟩ := head
      have hhead : name < other := hlt (other, old) (by simp)
      have hne : name ≠ other := fun heq => String.lt_irrefl other (heq ▸ hhead)
      simp only [find?, hne, if_false]
      exact ih fun entry hmem => hlt entry (by simp [hmem])

theorem find?_drop (name wanted : String) {entries : List (String × α)}
    (hentries : Ascending entries) :
    find? wanted (drop name entries) = if wanted = name then none else find? wanted entries := by
  induction entries with
  | nil => simp [drop, find?]
  | cons head rest ih =>
      obtain ⟨other, old⟩ := head
      obtain ⟨hhead, hrest⟩ := List.pairwise_cons.1 hentries
      simp only [drop]
      split
      · rename_i heq
        subst heq
        split
        · rename_i hwanted
          subst hwanted
          exact find?_eq_none_of_lt hhead
        · simp [find?, *]
      · simp only [find?]
        rw [ih hrest]
        grind

/-- Ascending entry lists with the same lookups are the same list. -/
theorem eq_of_find?_eq {first second : List (String × α)} (hfirst : Ascending first)
    (hsecond : Ascending second) (hfind : ∀ name, find? name first = find? name second) :
    first = second := by
  induction first generalizing second with
  | nil =>
      cases second with
      | nil => rfl
      | cons head rest => simpa [find?] using hfind head.1
  | cons head rest ih =>
      obtain ⟨name, value⟩ := head
      obtain ⟨hhead, hrest⟩ := List.pairwise_cons.1 hfirst
      cases second with
      | nil => simpa [find?] using hfind name
      | cons head' rest' =>
          obtain ⟨name', value'⟩ := head'
          obtain ⟨hhead', hrest'⟩ := List.pairwise_cons.1 hsecond
          have hname : name = name' := by
            rcases Decidable.em (name < name') with hlt | hge
            · have hnone : find? name ((name', value') :: rest') = none :=
                find?_eq_none_of_lt fun entry hmem => by
                  rcases List.mem_cons.1 hmem with rfl | hmem
                  · exact hlt
                  · exact String.lt_trans hlt (hhead' entry hmem)
              have := hfind name
              rw [hnone] at this
              simp [find?] at this
            · rcases Decidable.em (name' < name) with hlt' | hge'
              · have hnone : find? name' ((name, value) :: rest) = none :=
                  find?_eq_none_of_lt fun entry hmem => by
                    rcases List.mem_cons.1 hmem with rfl | hmem
                    · exact hlt'
                    · exact String.lt_trans hlt' (hhead entry hmem)
                have := hfind name'
                rw [hnone] at this
                simp [find?] at this
              · grind
          subst hname
          have hvalue : value = value' := by simpa [find?] using hfind name
          subst hvalue
          congr 1
          refine ih hrest hrest' fun wanted => ?_
          have hwanted := hfind wanted
          simp only [find?] at hwanted
          rcases Decidable.em (wanted = name) with rfl | hne
          · rw [find?_eq_none_of_lt hhead, find?_eq_none_of_lt hhead']
          · simpa [hne] using hwanted

end Table

/-- A finite map from names to values, listed in ascending order of the names. -/
structure Table (α : Type) where
  entries : List (String × α)
  /-- No name is listed twice, and smaller names come first. -/
  ascending : Table.Ascending entries

namespace Table

variable {α β : Type}

instance [DecidableEq α] : DecidableEq (Table α) := fun first second =>
  decidable_of_iff (first.entries = second.entries)
    ⟨fun heq => by cases first; cases second; simpa using heq, fun heq => heq ▸ rfl⟩

/-- A table without entries. -/
def empty : Table α := ⟨[], List.Pairwise.nil⟩

instance : Inhabited (Table α) := ⟨empty⟩

/-- The value of a name. -/
def get? (table : Table α) (name : String) : Option α := find? name table.entries

/-- Whether a name has a value. -/
def contains (table : Table α) (name : String) : Bool := (table.get? name).isSome

/-- Gives a name a value, in place of the one it has. -/
def insert (table : Table α) (name : String) (value : α) : Table α :=
  ⟨put name value table.entries, ascending_put name value table.ascending⟩

/-- Takes a name out of a table. -/
def erase (table : Table α) (name : String) : Table α :=
  ⟨drop name table.entries, ascending_drop name table.ascending⟩

/-- Changes the value of a name, if it has one. -/
def modify (table : Table α) (name : String) (change : α → α) : Table α :=
  match table.get? name with
  | some value => table.insert name (change value)
  | none => table

/-- The names that have values, in ascending order. -/
def names (table : Table α) : List String := table.entries.map Prod.fst

/-- The values, in the order of their names. -/
def values (table : Table α) : List α := table.entries.map Prod.snd

/-- The number of names that have values. -/
def size (table : Table α) : Nat := table.entries.length

/-- Whether no name has a value. -/
def isEmpty (table : Table α) : Bool := table.entries.isEmpty

/-- Keeps some of the entries. -/
def filter (table : Table α) (keep : String → α → Bool) : Table α :=
  ⟨table.entries.filter fun entry => keep entry.1 entry.2, table.ascending.filter _⟩

/-- The table of a list of entries; of several entries of one name the last one counts. -/
def ofList (entries : List (String × α)) : Table α :=
  entries.foldl (fun table entry => table.insert entry.1 entry.2) empty

/-! ## Lookups -/

@[ext]
theorem ext_get? {first second : Table α} (hget : ∀ name, first.get? name = second.get? name) :
    first = second := by
  obtain ⟨entries, hentries⟩ := first
  obtain ⟨entries', hentries'⟩ := second
  obtain rfl : entries = entries' := eq_of_find?_eq hentries hentries' hget
  rfl

@[simp]
theorem get?_empty (name : String) : (empty : Table α).get? name = none := rfl

theorem get?_insert (table : Table α) (name : String) (value : α) (wanted : String) :
    (table.insert name value).get? wanted =
      if wanted = name then some value else table.get? wanted :=
  find?_put name value wanted table.entries

theorem get?_erase (table : Table α) (name wanted : String) :
    (table.erase name).get? wanted = if wanted = name then none else table.get? wanted :=
  find?_drop name wanted table.ascending

theorem get?_modify (table : Table α) (name : String) (change : α → α) (wanted : String) :
    (table.modify name change).get? wanted =
      if wanted = name then (table.get? name).map change else table.get? wanted := by
  unfold modify
  split
  · rename_i value hvalue
    rw [get?_insert, hvalue]
    rfl
  · rename_i hnone
    split
    · rename_i heq
      rw [heq, hnone]
      rfl
    · rfl

theorem modify_modify (table : Table α) (name : String) (first second : α → α) :
    (table.modify name first).modify name second =
      table.modify name fun value => second (first value) := by
  ext1 wanted
  rw [get?_modify, get?_modify, get?_modify, get?_modify]
  split
  · rw [if_pos rfl, Option.map_map]
    rfl
  · rfl

/-! ## Which names there are -/

@[simp]
theorem contains_empty (name : String) : (empty : Table α).contains name = false := rfl

theorem contains_iff {table : Table α} {name : String} :
    table.contains name = true ↔ ∃ value, table.get? name = some value := Option.isSome_iff_exists

theorem contains_eq_false_iff {table : Table α} {name : String} :
    table.contains name = false ↔ table.get? name = none := by
  unfold contains
  rw [Option.isSome_eq_false_iff, Option.isNone_iff_eq_none]

theorem contains_insert (table : Table α) (name : String) (value : α) (wanted : String) :
    (table.insert name value).contains wanted = (wanted == name || table.contains wanted) := by
  unfold contains
  rw [get?_insert]
  by_cases heq : wanted = name <;> simp [heq]

theorem contains_erase (table : Table α) (name wanted : String) :
    (table.erase name).contains wanted = (wanted != name && table.contains wanted) := by
  unfold contains
  rw [get?_erase]
  by_cases heq : wanted = name <;> simp [heq]

@[simp]
theorem contains_modify (table : Table α) (name : String) (change : α → α) (wanted : String) :
    (table.modify name change).contains wanted = table.contains wanted := by
  unfold contains
  rw [get?_modify]
  by_cases heq : wanted = name <;> simp [heq]

theorem find?_eq_some_iff {name : String} {value : α} {entries : List (String × α)}
    (hentries : Ascending entries) : find? name entries = some value ↔ (name, value) ∈ entries := by
  induction entries with
  | nil => simp [find?]
  | cons head rest ih =>
      obtain ⟨other, old⟩ := head
      obtain ⟨hhead, hrest⟩ := List.pairwise_cons.1 hentries
      simp only [find?, List.mem_cons, Prod.mk.injEq]
      split
      · rename_i heq
        subst heq
        have hnot : (name, value) ∉ rest := fun hmem => String.lt_irrefl name (hhead _ hmem)
        simp [hnot, eq_comm]
      · rename_i hne
        simp [hne, ih hrest]

theorem mem_entries_iff {table : Table α} {name : String} {value : α} :
    (name, value) ∈ table.entries ↔ table.get? name = some value :=
  (find?_eq_some_iff table.ascending).symm

theorem mem_names_iff {table : Table α} {name : String} :
    name ∈ table.names ↔ table.contains name = true := by
  rw [contains_iff]
  simp only [names, List.mem_map, Prod.exists, exists_and_right, exists_eq_right, mem_entries_iff]

theorem nodup_names (table : Table α) : table.names.Nodup := by
  refine List.pairwise_map.2 (table.ascending.imp ?_)
  intro first second hlt heq
  rw [heq] at hlt
  exact String.lt_irrefl _ hlt

theorem map_fst_put {name : String} {value : α} {entries : List (String × α)}
    (hentries : Ascending entries) (hfound : (find? name entries).isSome = true) :
    (put name value entries).map Prod.fst = entries.map Prod.fst := by
  induction entries with
  | nil => cases hfound
  | cons head rest ih =>
      obtain ⟨other, old⟩ := head
      obtain ⟨hhead, hrest⟩ := List.pairwise_cons.1 hentries
      simp only [put]
      split
      · rename_i hlt
        have hnone : find? name ((other, old) :: rest) = none :=
          find?_eq_none_of_lt fun entry hmem => by
            rcases List.mem_cons.1 hmem with rfl | hmem
            · exact hlt
            · exact String.lt_trans hlt (hhead entry hmem)
        rw [hnone] at hfound
        cases hfound
      · split
        · rename_i heq
          rw [heq]
          rfl
        · rename_i hne
          simp only [find?, hne, if_false] at hfound
          rw [List.map_cons, ih hrest hfound]
          rfl

@[simp]
theorem names_modify (table : Table α) (name : String) (change : α → α) :
    (table.modify name change).names = table.names := by
  unfold modify
  split
  · rename_i value hvalue
    have hfound : (find? name table.entries).isSome = true := Option.isSome_of_eq_some hvalue
    exact map_fst_put table.ascending hfound
  · rfl

/-! ## How many names there are -/

theorem length_names (table : Table α) : table.names.length = table.size := List.length_map _

theorem length_put {name : String} (value : α) {entries : List (String × α)}
    (hnone : find? name entries = none) :
    (put name value entries).length = entries.length + 1 := by
  induction entries with
  | nil => rfl
  | cons head rest ih =>
      obtain ⟨other, old⟩ := head
      simp only [put]
      split
      · rfl
      · simp only [find?] at hnone
        split at hnone
        · cases hnone
        · rename_i hne
          rw [if_neg hne, List.length_cons, ih hnone, List.length_cons]

theorem length_drop {name : String} {entries : List (String × α)}
    (hfound : (find? name entries).isSome = true) :
    (drop name entries).length + 1 = entries.length := by
  induction entries with
  | nil => cases hfound
  | cons head rest ih =>
      obtain ⟨other, old⟩ := head
      simp only [drop]
      split
      · rfl
      · rename_i hne
        simp only [find?, hne, if_false] at hfound
        rw [List.length_cons, ih hfound, List.length_cons]

theorem size_insert {table : Table α} {name : String} (hnew : table.contains name = false)
    (value : α) : (table.insert name value).size = table.size + 1 :=
  length_put value (contains_eq_false_iff.1 hnew)

theorem size_erase {table : Table α} {name : String} (hfound : table.contains name = true) :
    (table.erase name).size + 1 = table.size := length_drop hfound

/-! ## Tables of lists -/

theorem put_append {name : String} {value : α} {entries : List (String × α)}
    (hlast : ∀ entry ∈ entries, entry.1 < name) :
    put name value entries = entries ++ [(name, value)] := by
  induction entries with
  | nil => rfl
  | cons head rest ih =>
      obtain ⟨other, old⟩ := head
      have hlt : other < name := hlast (other, old) (by simp)
      have hnot : ¬name < other := fun hlt' => String.lt_irrefl name (String.lt_trans hlt' hlt)
      have hne : name ≠ other := fun heq => String.lt_irrefl other (heq ▸ hlt)
      rw [put, if_neg hnot, if_neg hne, ih fun entry hmem => hlast entry (by simp [hmem])]
      rfl

/-- Entries that ascend are stored one behind the other. -/
theorem foldl_put_of_ascending {entries more : List (String × α)}
    (hentries : Ascending (entries ++ more)) :
    more.foldl (fun stored entry => put entry.1 entry.2 stored) entries = entries ++ more := by
  induction more generalizing entries with
  | nil => simp
  | cons entry more ih =>
      have hlast : ∀ other ∈ entries, other.1 < entry.1 := by
        intro other hother
        exact (List.pairwise_append.1 hentries).2.2 other hother entry (by simp)
      rw [List.foldl_cons, put_append hlast, ih (by simpa using hentries)]
      simp

theorem entries_ofList (entries : List (String × α)) : (ofList entries).entries =
    entries.foldl (fun stored entry => put entry.1 entry.2 stored) [] := by
  have hfold : ∀ (more : List (String × α)) (table : Table α),
      (more.foldl (fun table entry => table.insert entry.1 entry.2) table).entries =
        more.foldl (fun stored entry => put entry.1 entry.2 stored) table.entries := by
    intro more
    induction more with
    | nil => intro table; rfl
    | cons entry more ih =>
        intro table
        rw [List.foldl_cons, List.foldl_cons, ih]
        rfl
  exact hfold entries empty

theorem ofList_entries (table : Table α) : ofList table.entries = table := by
  have hentries : (ofList table.entries).entries = table.entries := by
    have hascending : Ascending ([] ++ table.entries) := table.ascending
    rw [entries_ofList, foldl_put_of_ascending hascending, List.nil_append]
  ext1 name
  unfold get?
  rw [hentries]

end Table

end EditorShell
