import EditorShell.Proofs.Run.Making

/-!
# The life of a registration

A registration is told from all others by its generation.  The journal tells of its life: a
*bring-up* begins with the call that lists its commands, and fails, or ends with a call of its
activation that succeeds; some time after that a call of its deactivation may begin.

`Orderly` relates the registered extensions to the journal.  An entry that is not active has no
bring-up whose success stands, an active one has, and no bring-up has begun before the one before it
was over.  `Watched` follows a single registration from some moment on.

## Strategy

An extension's own calls may change the registry in any way, so nothing that is known of an entry
before a call can be relied on afterwards, with one exception: an entry that is being activated can
only be removed, and once it is removed it never comes back, since every registration gets a new
generation.  `Watched` says just this, and it is all that an activation has to know about what
happened in the middle of it.
-/

namespace EditorShell

variable {κ S : Type}

/-! ## The journal of a registration -/

/-- Whether a contribution asks for a default chord that is none. -/
def Contribution.hasInvalidChord {B : Type} (contribution : Contribution B) : Bool :=
  match contribution.keys.mapM Chord.parse with
  | .error _ => true
  | .ok _ => false

namespace Entry

/-- Whether a bring-up of a registration begins. -/
def lists (generation : Nat) : Entry κ → Bool
  | .called (.listing _ other _) => other == generation
  | _ => false

/-- Whether a bring-up of a registration fails: one of its calls panics or reports an error, or a
command that it contributes asks for an invalid chord. -/
def fails (generation : Nat) : Entry κ → Bool
  | .returned (.listing _ other _) (.error _) => other == generation
  | .returned (.listing _ other _) (.ok contributions) =>
    other == generation && contributions.any Contribution.hasInvalidChord
  | .returned (.activate _ other _) (.ok (.error _)) => other == generation
  | .returned (.activate _ other _) (.error _) => other == generation
  | _ => false

/-- Whether the activation of a registration succeeds. -/
def succeeds (generation : Nat) : Entry κ → Bool
  | .returned (.activate _ other _) (.ok (.ok ())) => other == generation
  | _ => false

/-- Whether a call of the deactivation of a registration begins. -/
def retires (generation : Nat) : Entry κ → Bool
  | .called (.deactivate _ other _) => other == generation
  | _ => false

/-- Whether an entry is a call that begins a bring-up or deactivates an extension. -/
def isTurn : Entry κ → Bool
  | .called (.listing _ _ _) | .called (.deactivate _ _ _) => true
  | _ => false

theorem isTurn_of_isLifecycle {entry : Entry κ} (hentry : entry.isLifecycle = false) :
    entry.isTurn = false := by
  unfold isTurn
  split
  · cases hentry
  · cases hentry
  · rfl

theorem lists_of_isTurn {entry : Entry κ} (hturn : entry.isTurn = false) (generation : Nat) :
    entry.lists generation = false := by
  unfold lists
  split
  · cases hturn
  · rfl

theorem retires_of_isTurn {entry : Entry κ} (hturn : entry.isTurn = false) (generation : Nat) :
    entry.retires generation = false := by
  unfold retires
  split
  · cases hturn
  · rfl

theorem lists_of_retires {entry : Entry κ} {generation : Nat}
    (hretires : entry.retires generation = true) (other : Nat) : entry.lists other = false := by
  unfold retires at hretires
  split at hretires
  · rfl
  · cases hretires

end Entry

/-- What was noted since the latest bring-up of a registration began, newest first. -/
def sinceBringUp (generation : Nat) : List (Entry κ) → Option (List (Entry κ))
  | [] => none
  | entry :: earlier =>
    if entry.lists generation = true then some []
    else (sinceBringUp generation earlier).map (entry :: ·)

/-- Among these entries a bring-up is over: it failed, or it succeeded and a call of the
deactivation began after that. -/
def Over (generation : Nat) (entries : List (Entry κ)) : Prop :=
  (∃ entry ∈ entries, entry.fails generation = true) ∨
    ∃ later retired between succeeded earlier,
      entries = later ++ retired :: between ++ succeeded :: earlier ∧
        retired.retires generation = true ∧ succeeded.succeeds generation = true

/-- Every bring-up of a registration is over. -/
def Idle (generation : Nat) (journal : List (Entry κ)) : Prop :=
  ∀ since, sinceBringUp generation journal = some since → Over generation since

/-- The latest bring-up of a registration has succeeded, and no call of its deactivation has begun
since the bring-up did. -/
def Stands (generation : Nat) (journal : List (Entry κ)) : Prop :=
  ∃ since, sinceBringUp generation journal = some since ∧
    (∃ entry ∈ since, entry.succeeds generation = true) ∧
    ∀ entry ∈ since, entry.retires generation = false

section

variable {generation : Nat} {journal entries : List (Entry κ)} {entry : Entry κ}

theorem sinceBringUp_cons (hentry : entry.lists generation = false) :
    sinceBringUp generation (entry :: journal) =
      (sinceBringUp generation journal).map (entry :: ·) := by
  rw [sinceBringUp, hentry]
  rfl

theorem sinceBringUp_eq_none (hnone : ∀ entry ∈ journal, entry.lists generation = false) :
    sinceBringUp generation journal = none := by
  induction journal with
  | nil => rfl
  | cons entry earlier ih =>
      rw [sinceBringUp_cons (hnone entry List.mem_cons_self)]
      rw [ih fun other hmem => hnone other (List.mem_cons_of_mem entry hmem)]
      rfl

theorem sinceBringUp_append (hnone : ∀ entry ∈ entries, entry.lists generation = false)
    {begun : Entry κ} (hbegun : begun.lists generation = true) (earlier : List (Entry κ)) :
    sinceBringUp generation (entries ++ begun :: earlier) = some entries := by
  induction entries with
  | nil =>
      rw [List.nil_append, sinceBringUp, hbegun]
      rfl
  | cons entry rest ih =>
      rw [List.cons_append, sinceBringUp_cons (hnone entry List.mem_cons_self)]
      rw [ih fun other hmem => hnone other (List.mem_cons_of_mem entry hmem)]
      rfl

theorem Over.cons (ended : Over generation entries) (entry : Entry κ) :
    Over generation (entry :: entries) := by
  rcases ended with ⟨failed, hmem, hfails⟩ |
    ⟨later, retired, between, succeeded, earlier, rfl, hretires, hsucceeds⟩
  · exact .inl ⟨failed, List.mem_cons_of_mem entry hmem, hfails⟩
  · exact .inr ⟨entry :: later, retired, between, succeeded, earlier, rfl, hretires, hsucceeds⟩

theorem Idle.cons (idle : Idle generation journal) (hentry : entry.lists generation = false) :
    Idle generation (entry :: journal) := by
  intro since hsince
  rw [sinceBringUp_cons hentry, Option.map_eq_some_iff] at hsince
  obtain ⟨before, hbefore, rfl⟩ := hsince
  exact (idle before hbefore).cons entry

theorem Stands.cons (stands : Stands generation journal) (hlists : entry.lists generation = false)
    (hretires : entry.retires generation = false) : Stands generation (entry :: journal) := by
  obtain ⟨since, hsince, ⟨succeeded, hmem, hsucceeds⟩, hkept⟩ := stands
  refine ⟨entry :: since, ?_, ⟨succeeded, List.mem_cons_of_mem entry hmem, hsucceeds⟩, ?_⟩
  · rw [sinceBringUp_cons hlists, hsince]
    rfl
  · intro other hother
    rcases List.mem_cons.1 hother with rfl | hother
    · exact hretires
    · exact hkept other hother

/-- A bring-up that succeeded is over once a call of the deactivation begins. -/
theorem Stands.idle_cons (stands : Stands generation journal)
    (hretires : entry.retires generation = true) : Idle generation (entry :: journal) := by
  obtain ⟨since, hsince, ⟨succeeded, hmem, hsucceeds⟩, -⟩ := stands
  intro since' hsince'
  rw [sinceBringUp_cons (Entry.lists_of_retires hretires generation), hsince] at hsince'
  obtain rfl : entry :: since = since' := Option.some.inj hsince'
  obtain ⟨between, earlier, rfl⟩ := List.append_of_mem hmem
  exact .inr ⟨[], entry, between, succeeded, earlier, rfl, hretires, hsucceeds⟩

end

/-! ## The registry and the journal -/

/-- No registration has a later number than the last one. -/
def ExtensionRegistry.Numbered {E B : Type} (registry : ExtensionRegistry E B) : Prop :=
  ∀ name entry, registry.get? name = some entry → entry.generation ≤ registry.lastGeneration

/-- The registered extensions of a session. -/
abbrev Registered (κ : Type) := ExtensionRegistry (Extension κ) (ActionBody κ)

/-- An entry is registered only while every bring-up is over, and active only while one stands. -/
structure ExtensionEntry.Fits (entry : ExtensionEntry (Extension κ) (ActionBody κ))
    (journal : List (Entry κ)) : Prop where
  idle : entry.state = .registered → Idle entry.generation journal
  stands : entry.state = .active → Stands entry.generation journal

/-- The registry and the journal fit together. -/
structure Orderly (registry : Registered κ) (journal : List (Entry κ)) : Prop where
  numbered : registry.Numbered
  unique : ∀ name name' entry entry', registry.get? name = some entry →
    registry.get? name' = some entry' → entry.generation = entry'.generation → name = name'
  known : ∀ generation, ∀ entry ∈ journal, entry.lists generation = true →
    generation ≤ registry.lastGeneration
  fits : ∀ name entry, registry.get? name = some entry → entry.Fits journal
  /-- A bring-up begins only when the one before it is over. -/
  begun : ∀ generation later entry earlier, journal = later ++ entry :: earlier →
    entry.lists generation = true → Idle generation earlier

/-- One registration, from the time on at which the journal was `base`. -/
structure Watch (κ : Type) where
  generation : Nat
  /-- Where the registration may be stored, and what was registered; nothing when it is gone. -/
  place? : Option (String × Extension κ)
  base : List (Entry κ)
  /-- What has been noted since. -/
  seen : List (Entry κ)

/-- As long as the watched registration is stored, it is being activated and nothing has called its
deactivation. -/
structure Watched (watch : Watch κ) (registry : Registered κ) (journal : List (Entry κ)) :
    Prop where
  known : watch.generation ≤ registry.lastGeneration
  stored : ∀ name entry, registry.get? name = some entry → entry.generation = watch.generation →
    watch.place? = some (name, entry.extension) ∧ entry.state = .activating
  since : ∃ noted, journal = noted ++ watch.base ∧ watch.seen ⊆ noted ∧
    (∀ entry ∈ noted, entry.lists watch.generation = false) ∧
    ∀ name stored, registry.get? name = some stored → stored.generation = watch.generation →
      ∀ entry ∈ noted, entry.retires watch.generation = false

/-! ### Changes of the registry -/

namespace ExtensionRegistry

variable {E B : Type}

/-- What a name has after a change of an entry comes from what it had before. -/
theorem exists_of_get?_modify {registry : ExtensionRegistry E B} {name wanted : String}
    {change : ExtensionEntry E B → ExtensionEntry E B} {entry : ExtensionEntry E B}
    (hentry : (registry.modify name change).get? wanted = some entry) :
    (wanted = name ∧ ∃ before, registry.get? name = some before ∧ change before = entry) ∨
      wanted ≠ name ∧ registry.get? wanted = some entry := by
  rw [get?_modify] at hentry
  split at hentry
  · rename_i heq
    exact .inl ⟨heq, Option.map_eq_some_iff.1 hentry⟩
  · rename_i hne
    exact .inr ⟨hne, hentry⟩

theorem get?_of_get?_remove {registry : ExtensionRegistry E B} {name wanted : String}
    {entry : ExtensionEntry E B} (hentry : (registry.remove name).get? wanted = some entry) :
    wanted ≠ name ∧ registry.get? wanted = some entry := by
  rw [get?_remove] at hentry
  split at hentry
  · cases hentry
  · rename_i hne
    exact ⟨hne, hentry⟩

/-- A name that has an entry after a new registration has the new one, or the one it had before. -/
theorem exists_of_get?_add {registry : ExtensionRegistry E B} {name wanted : String} {extension : E}
    {entry : ExtensionEntry E B} (hentry : (registry.add name extension).get? wanted = some entry) :
    (wanted = name ∧ entry = ⟨extension, .registered, registry.lastGeneration + 1, []⟩) ∨
      wanted ≠ name ∧ registry.get? wanted = some entry := by
  rw [get?_add] at hentry
  split at hentry
  · rename_i heq
    exact .inl ⟨heq, (Option.some.inj hentry).symm⟩
  · rename_i hne
    exact .inr ⟨hne, hentry⟩

namespace Numbered

variable {registry : ExtensionRegistry E B}

theorem modify (numbered : registry.Numbered) (name : String)
    {change : ExtensionEntry E B → ExtensionEntry E B}
    (hgeneration : ∀ entry, (change entry).generation = entry.generation) :
    (registry.modify name change).Numbered := by
  intro wanted entry hentry
  rcases exists_of_get?_modify hentry with ⟨rfl, before, hget, rfl⟩ | ⟨-, hget⟩
  · rw [hgeneration]
    exact numbered wanted before hget
  · exact numbered wanted entry hget

theorem remove (numbered : registry.Numbered) (name : String) : (registry.remove name).Numbered :=
  fun wanted entry hentry => numbered wanted entry (get?_of_get?_remove hentry).2

theorem add (numbered : registry.Numbered) (name : String) (extension : E) :
    (registry.add name extension).Numbered := by
  intro wanted entry hentry
  rcases exists_of_get?_add hentry with ⟨-, rfl⟩ | ⟨-, hget⟩
  · exact Nat.le_refl _
  · exact Nat.le_succ_of_le (numbered wanted entry hget)

end Numbered

end ExtensionRegistry

namespace Orderly

variable {registry : Registered κ} {journal : List (Entry κ)} {name : String}

/-- A change of an entry that leaves its generation alone, and its state as the journal allows. -/
theorem modify (orderly : Orderly registry journal)
    {change : ExtensionEntry (Extension κ) (ActionBody κ) →
      ExtensionEntry (Extension κ) (ActionBody κ)}
    (hgeneration : ∀ entry, (change entry).generation = entry.generation)
    (hfits : ∀ entry, registry.get? name = some entry → (change entry).Fits journal) :
    Orderly (registry.modify name change) journal := by
  -- Every entry has the generation of one that was stored under the same name before.
  have hbefore : ∀ wanted entry, (registry.modify name change).get? wanted = some entry →
      ∃ before, registry.get? wanted = some before ∧ before.generation = entry.generation := by
    intro wanted entry hentry
    rcases ExtensionRegistry.exists_of_get?_modify hentry with ⟨rfl, before, hget, rfl⟩ | ⟨-, hget⟩
    · exact ⟨before, hget, (hgeneration before).symm⟩
    · exact ⟨entry, hget, rfl⟩
  refine ⟨orderly.numbered.modify name hgeneration,
    fun wanted wanted' entry entry' hentry hentry' heq => ?_, orderly.known,
    fun wanted entry hentry => ?_, orderly.begun⟩
  · obtain ⟨before, hget, hsame⟩ := hbefore wanted entry hentry
    obtain ⟨before', hget', hsame'⟩ := hbefore wanted' entry' hentry'
    exact orderly.unique wanted wanted' before before' hget hget'
      (by rw [hsame, hsame', heq])
  · rcases ExtensionRegistry.exists_of_get?_modify hentry with ⟨rfl, before, hget, rfl⟩ | ⟨-, hget⟩
    · exact hfits before hget
    · exact orderly.fits wanted entry hget

theorem remove (orderly : Orderly registry journal) (name : String) :
    Orderly (registry.remove name) journal := by
  refine ⟨orderly.numbered.remove name,
    fun wanted wanted' entry entry' hentry hentry' heq => ?_, orderly.known,
    fun wanted entry hentry => ?_, orderly.begun⟩
  · exact orderly.unique wanted wanted' entry entry'
      (ExtensionRegistry.get?_of_get?_remove hentry).2
      (ExtensionRegistry.get?_of_get?_remove hentry').2 heq
  · exact orderly.fits wanted entry (ExtensionRegistry.get?_of_get?_remove hentry).2

/-- A new registration has a generation that nothing has had before. -/
theorem add (orderly : Orderly registry journal) (name : String) (extension : Extension κ) :
    Orderly (registry.add name extension) journal := by
  refine ⟨orderly.numbered.add name extension,
    fun wanted wanted' entry entry' hentry hentry' heq => ?_,
    fun generation entry hmem hlists => ?_, fun wanted entry hentry => ?_, orderly.begun⟩
  · rcases ExtensionRegistry.exists_of_get?_add hentry with ⟨rfl, rfl⟩ | ⟨-, hget⟩ <;>
      rcases ExtensionRegistry.exists_of_get?_add hentry' with ⟨rfl, rfl⟩ | ⟨-, hget'⟩
    · rfl
    · have hle := orderly.numbered wanted' entry' hget'
      dsimp only at heq
      omega
    · have hle := orderly.numbered wanted entry hget
      dsimp only at heq
      omega
    · exact orderly.unique wanted wanted' entry entry' hget hget' heq
  · exact Nat.le_succ_of_le (orderly.known generation entry hmem hlists)
  · rcases ExtensionRegistry.exists_of_get?_add hentry with ⟨-, rfl⟩ | ⟨-, hget⟩
    · refine ⟨fun _ since hsince => ?_, fun hactive => by cases hactive⟩
      -- The generation is new, so the journal cannot tell of a bring-up of it.
      have hnone : sinceBringUp (registry.lastGeneration + 1) journal = none := by
        refine sinceBringUp_eq_none fun entry hmem => ?_
        rw [Bool.eq_false_iff]
        intro hlists
        have hknown := orderly.known _ entry hmem hlists
        omega
      rw [hnone] at hsince
      cases hsince
    · exact orderly.fits wanted entry hget

/-- An entry may be noted if it begins a bring-up only of a registration that is being activated
and whose bring-ups are over, and a deactivation only of one that is not active. -/
theorem note (orderly : Orderly registry journal) {noted : Entry κ}
    (hlists : ∀ generation, noted.lists generation = true → Idle generation journal ∧
      generation ≤ registry.lastGeneration ∧ ∀ name entry, registry.get? name = some entry →
        entry.generation = generation → entry.state = .activating)
    (hretires : ∀ generation, noted.retires generation = true → ∀ name entry,
      registry.get? name = some entry → entry.generation = generation → entry.state ≠ .active) :
    Orderly registry (noted :: journal) := by
  refine ⟨orderly.numbered, orderly.unique, fun generation entry hmem hentry => ?_,
    fun name entry hentry => ⟨fun hstate => ?_, fun hstate => ?_⟩,
    fun generation later entry earlier hsplit hentry => ?_⟩
  · rcases List.mem_cons.1 hmem with rfl | hmem
    · exact (hlists generation hentry).2.1
    · exact orderly.known generation entry hmem hentry
  · refine ((orderly.fits name entry hentry).idle hstate).cons ?_
    -- A bring-up begins for an entry that is being activated, and this one is not.
    rw [Bool.eq_false_iff]
    intro hbegins
    have hactivating := (hlists _ hbegins).2.2 name entry hentry rfl
    rw [hstate] at hactivating
    cases hactivating
  · refine ((orderly.fits name entry hentry).stands hstate).cons ?_ ?_
    · rw [Bool.eq_false_iff]
      intro hbegins
      have hactivating := (hlists _ hbegins).2.2 name entry hentry rfl
      rw [hstate] at hactivating
      cases hactivating
    · rw [Bool.eq_false_iff]
      intro hends
      exact hretires _ hends name entry hentry rfl hstate
  · cases later with
    -- The new entry stands at the beginning or the split lies in the old journal.
    | nil =>
        obtain ⟨rfl, rfl⟩ := List.cons_eq_cons.1 hsplit
        exact (hlists generation hentry).1
    | cons head rest =>
        obtain ⟨rfl, rfl⟩ := List.cons_eq_cons.1 hsplit
        exact orderly.begun generation rest entry earlier rfl hentry

theorem note_aside (orderly : Orderly registry journal) {noted : Entry κ}
    (hturn : noted.isTurn = false) : Orderly registry (noted :: journal) := by
  refine orderly.note (fun generation hlists => ?_) fun generation hretires => ?_
  · rw [Entry.lists_of_isTurn hturn] at hlists
    cases hlists
  · rw [Entry.retires_of_isTurn hturn] at hretires
    cases hretires

/-- An active extension becomes inactive just when it is told so. -/
theorem setInactive (orderly : Orderly registry journal)
    {entry : ExtensionEntry (Extension κ) (ActionBody κ)}
    (hentry : registry.get? name = some entry) (hactive : entry.state = .active)
    (extension : Extension κ) :
    Orderly (registry.setInactive name)
      (.called (.deactivate name entry.generation extension) :: journal) := by
  -- In between the entry is in neither of the two states that the journal has to account for.
  have hmarked : Orderly (registry.setState name .activating) journal :=
    orderly.modify (fun _ => rfl) fun _ _ => ⟨nofun, nofun⟩
  have hnoted : Orderly (registry.setState name .activating)
      (.called (.deactivate name entry.generation extension) :: journal) := by
    refine hmarked.note nofun fun generation hretires other stored hstored heq => ?_
    obtain rfl := beq_iff_eq.1 hretires
    rcases ExtensionRegistry.exists_of_get?_modify hstored with ⟨rfl, before, -, rfl⟩ | ⟨hne, hget⟩
    · nofun
    · exact absurd (orderly.unique other name stored entry hget hentry heq) hne
  have hinactive : registry.setInactive name = (registry.setState name .activating).modify name
      fun entry => { entry with state := .registered, contributed := [] } := by
    unfold ExtensionRegistry.setInactive ExtensionRegistry.setState ExtensionRegistry.modify
    rw [Table.modify_modify]
  rw [hinactive]
  refine hnoted.modify (fun _ => rfl) fun marked hmarked => ⟨fun _ => ?_, nofun⟩
  rcases ExtensionRegistry.exists_of_get?_modify hmarked with ⟨-, before, hbefore, rfl⟩ | ⟨hne, -⟩
  · rw [hentry] at hbefore
    obtain rfl := Option.some.inj hbefore
    exact ((orderly.fits name entry hentry).stands hactive).idle_cons (beq_self_eq_true _)
  · exact absurd rfl hne

/-- A registered extension is marked just before its bring-up begins. -/
theorem setActivating (orderly : Orderly registry journal)
    {entry : ExtensionEntry (Extension κ) (ActionBody κ)}
    (hentry : registry.get? name = some entry) (hregistered : entry.state = .registered)
    (extension : Extension κ) :
    Orderly (registry.setState name .activating)
      (.called (.listing name entry.generation extension) :: journal) := by
  have hmarked : Orderly (registry.setState name .activating) journal :=
    orderly.modify (fun _ => rfl) fun _ _ => ⟨nofun, nofun⟩
  refine hmarked.note (fun generation hlists => ?_) nofun
  obtain rfl := beq_iff_eq.1 hlists
  refine ⟨(orderly.fits name entry hentry).idle hregistered, orderly.numbered name entry hentry,
    fun other stored hstored heq => ?_⟩
  rcases ExtensionRegistry.exists_of_get?_modify hstored with ⟨-, before, -, rfl⟩ | ⟨hne, hget⟩
  · rfl
  · exact absurd (orderly.unique other name stored entry hget hentry heq) hne

end Orderly

namespace Watched

variable {watch : Watch κ} {registry : Registered κ} {journal : List (Entry κ)} {name : String}

/-- A change of an entry that leaves its generation alone and is not the watched one. -/
theorem modify (watched : Watched watch registry journal)
    {change : ExtensionEntry (Extension κ) (ActionBody κ) →
      ExtensionEntry (Extension κ) (ActionBody κ)}
    (hgeneration : ∀ entry, (change entry).generation = entry.generation)
    (hother : ∀ entry, registry.get? name = some entry → entry.generation ≠ watch.generation) :
    Watched watch (registry.modify name change) journal := by
  -- The watched registration is stored under another name, or not at all.
  have hbefore : ∀ wanted entry, (registry.modify name change).get? wanted = some entry →
      entry.generation = watch.generation → registry.get? wanted = some entry := by
    intro wanted entry hentry heq
    rcases ExtensionRegistry.exists_of_get?_modify hentry with ⟨rfl, before, hget, rfl⟩ | ⟨-, hget⟩
    · rw [hgeneration] at heq
      exact absurd heq (hother before hget)
    · exact hget
  obtain ⟨noted, hjournal, hseen, hlists, hretires⟩ := watched.since
  refine ⟨watched.known, fun wanted entry hentry heq => ?_, noted, hjournal, hseen, hlists,
    fun wanted entry hentry heq => ?_⟩
  · exact watched.stored wanted entry (hbefore wanted entry hentry heq) heq
  · exact hretires wanted entry (hbefore wanted entry hentry heq) heq

theorem remove (watched : Watched watch registry journal) (name : String) :
    Watched watch (registry.remove name) journal := by
  obtain ⟨noted, hjournal, hseen, hlists, hretires⟩ := watched.since
  refine ⟨watched.known, fun wanted entry hentry heq => ?_, noted, hjournal, hseen, hlists,
    fun wanted entry hentry heq => ?_⟩
  · exact watched.stored wanted entry (ExtensionRegistry.get?_of_get?_remove hentry).2 heq
  · exact hretires wanted entry (ExtensionRegistry.get?_of_get?_remove hentry).2 heq

theorem add (watched : Watched watch registry journal) (name : String) (extension : Extension κ) :
    Watched watch (registry.add name extension) journal := by
  have hbefore : ∀ wanted entry, (registry.add name extension).get? wanted = some entry →
      entry.generation = watch.generation → registry.get? wanted = some entry := by
    intro wanted entry hentry heq
    rcases ExtensionRegistry.exists_of_get?_add hentry with ⟨-, rfl⟩ | ⟨-, hget⟩
    · have hknown := watched.known
      dsimp only at heq
      omega
    · exact hget
  obtain ⟨noted, hjournal, hseen, hlists, hretires⟩ := watched.since
  refine ⟨Nat.le_succ_of_le watched.known, fun wanted entry hentry heq => ?_, noted, hjournal,
    hseen, hlists, fun wanted entry hentry heq => ?_⟩
  · exact watched.stored wanted entry (hbefore wanted entry hentry heq) heq
  · exact hretires wanted entry (hbefore wanted entry hentry heq) heq

theorem note (watched : Watched watch registry journal) {noted : Entry κ}
    (hlists : noted.lists watch.generation = false)
    (hretires : noted.retires watch.generation = true → ∀ name entry,
      registry.get? name = some entry → entry.generation ≠ watch.generation) :
    Watched watch registry (noted :: journal) := by
  obtain ⟨before, hjournal, hseen, hbefore, hkept⟩ := watched.since
  refine ⟨watched.known, watched.stored, noted :: before, by rw [hjournal]; rfl,
    List.subset_cons_of_subset noted hseen, fun entry hmem => ?_,
    fun name stored hstored heq entry hmem => ?_⟩
  · rcases List.mem_cons.1 hmem with rfl | hmem
    · exact hlists
    · exact hbefore entry hmem
  · rcases List.mem_cons.1 hmem with rfl | hmem
    · rw [Bool.eq_false_iff]
      intro hends
      exact hretires hends name stored hstored heq
    · exact hkept name stored hstored heq entry hmem

/-- A registration can be watched from the beginning of its bring-up on. -/
theorem setActivating {entry : ExtensionEntry (Extension κ) (ActionBody κ)}
    (orderly : Orderly registry journal) (hentry : registry.get? name = some entry)
    (base : List (Entry κ)) :
    Watched ⟨entry.generation, some (name, entry.extension), base, []⟩
      (registry.setState name .activating) base := by
  refine ⟨orderly.numbered name entry hentry, fun other stored hstored heq => ?_,
    [], (List.nil_append base).symm, by simp, by simp, by simp⟩
  rcases ExtensionRegistry.exists_of_get?_modify hstored with
    ⟨rfl, before, hbefore, rfl⟩ | ⟨hne, hget⟩
  · rw [hentry] at hbefore
    obtain rfl := Option.some.inj hbefore
    exact ⟨rfl, rfl⟩
  · exact absurd (orderly.unique other name stored entry hget hentry heq) hne

/-- What is noted last has been noted. -/
theorem see {noted : Entry κ} (watched : Watched watch registry (noted :: journal))
    (hbase : watch.base <:+ journal) :
    Watched { watch with seen := noted :: watch.seen } registry (noted :: journal) := by
  obtain ⟨before, hjournal, hseen, hbefore, hkept⟩ := watched.since
  refine ⟨watched.known, watched.stored, before, hjournal, ?_, hbefore, hkept⟩
  obtain ⟨first, rfl⟩ := hbase
  have hnoted : noted :: first = before := by
    have hsame : (noted :: first) ++ watch.base = before ++ watch.base := by
      rw [← hjournal]
      rfl
    exact List.append_cancel_right hsame
  refine List.cons_subset.2 ⟨?_, hseen⟩
  rw [← hnoted]
  exact List.mem_cons_self

/-- A bring-up is over when it has been seen to fail. -/
theorem idle (watched : Watched watch registry journal) {begun told : Entry κ}
    {earlier : List (Entry κ)} (hbase : watch.base = begun :: earlier)
    (hbegun : begun.lists watch.generation = true) (hseen : told ∈ watch.seen)
    (hfails : told.fails watch.generation = true) : Idle watch.generation journal := by
  obtain ⟨noted, hjournal, htold, hlists, -⟩ := watched.since
  rw [hjournal, hbase]
  intro since hsince
  rw [sinceBringUp_append hlists hbegun] at hsince
  obtain rfl := Option.some.inj hsince
  exact .inl ⟨told, htold hseen, hfails⟩

/-- A bring-up stands when it has been seen to succeed and the registration is still stored. -/
theorem stands (watched : Watched watch registry journal) {begun told : Entry κ}
    {earlier : List (Entry κ)} (hbase : watch.base = begun :: earlier)
    (hbegun : begun.lists watch.generation = true) (hseen : told ∈ watch.seen)
    (hsucceeds : told.succeeds watch.generation = true)
    {stored : ExtensionEntry (Extension κ) (ActionBody κ)}
    (hstored : registry.get? name = some stored)
    (hgeneration : stored.generation = watch.generation) : Stands watch.generation journal := by
  obtain ⟨noted, hjournal, htold, hlists, hretires⟩ := watched.since
  refine ⟨noted, ?_, ⟨told, htold hseen, hsucceeds⟩, hretires name stored hstored hgeneration⟩
  rw [hjournal, hbase]
  exact sinceBringUp_append hlists hbegun earlier

theorem base_suffix (watched : Watched watch registry journal) : watch.base <:+ journal := by
  obtain ⟨noted, hjournal, -⟩ := watched.since
  exact ⟨noted, hjournal.symm⟩

end Watched

end EditorShell
