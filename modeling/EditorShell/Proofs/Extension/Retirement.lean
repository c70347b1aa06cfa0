import EditorShell.Proofs.Extension.Lifecycle

/-!
# Bring-ups that are not retired

A bring-up is *unretired* as long as neither a deactivation of its registration nor another bring-up
of it has begun.  `Accounted` says where the registrations of unretired bring-ups are: stored under
their names, and active if the activation has succeeded.

There is one exception.  A registration that is replaced is taken out before it is deactivated, and
the new one is stored only after that.  What its deactivation registers under the same name in
between is overwritten without being deactivated.  So nothing is said of a bring-up that began while
a deactivation of another registration under its name was running.

## Strategy

A deactivation retires all the bring-ups of one registration, and under its name there is no other
registration with unretired bring-ups, but for the excepted ones.  From then on, and as long as the
deactivation runs and the registration is gone, all unretired bring-ups under the name are excepted
(`Cleared`).  This is why the entry that is overwritten need not be looked at when the new one is
stored.
-/

namespace EditorShell

variable {κ : Type}

/-! ## Deactivations in the journal -/

namespace Entry

/-- Whether a deactivation of a registration under a name begins. -/
def deactivates (name : String) (generation : Nat) : Entry κ → Bool
  | .called (.deactivate wanted other _) => wanted == name && other == generation
  | _ => false

/-- Whether a deactivation of a registration under a name returns. -/
def deactivated (name : String) (generation : Nat) : Entry κ → Bool
  | .returned (.deactivate wanted other _) _ => wanted == name && other == generation
  | _ => false

theorem deactivates_of_isTurn {entry : Entry κ} (hturn : entry.isTurn = false) (name : String)
    (generation : Nat) : entry.deactivates name generation = false := by
  unfold deactivates
  split
  · cases hturn
  · rfl

theorem deactivated_of_isLifecycle {entry : Entry κ} (hentry : entry.isLifecycle = false)
    (name : String) (generation : Nat) : entry.deactivated name generation = false := by
  unfold deactivated
  split
  · cases hentry
  · rfl

end Entry

/-- A deactivation of a registration is running: more of them have begun than have returned. -/
def Deactivating (name : String) (generation : Nat) (journal : List (Entry κ)) : Prop :=
  journal.countP (Entry.deactivated name generation) <
    journal.countP (Entry.deactivates name generation)

/-- A deactivation of another registration under the name of this one is running. -/
def Superseded (name : String) (generation : Nat) (journal : List (Entry κ)) : Prop :=
  ∃ other, other ≠ generation ∧ Deactivating name other journal

variable {name : String} {generation : Nat} {entry : Entry κ}
  {since earlier journal : List (Entry κ)}

theorem Deactivating.of_cons (deactivating : Deactivating name generation (entry :: journal))
    (hentry : entry.deactivates name generation = false) :
    Deactivating name generation journal := by
  unfold Deactivating at deactivating ⊢
  rw [List.countP_cons, List.countP_cons, hentry] at deactivating
  simp only [Bool.false_eq_true, if_false] at deactivating
  omega

/-! ## Unretired bring-ups -/

/-- A bring-up of a registration began under a name, after what is `earlier`.  Among what has been
noted since, no other bring-up and no deactivation of the registration begins. -/
structure Unretired (name : String) (generation : Nat) (since earlier journal : List (Entry κ)) :
    Prop where
  split : ∃ extension, journal = since ++ .called (.listing name generation extension) :: earlier
  latest : ∀ entry ∈ since, entry.lists generation = false
  kept : ∀ entry ∈ since, entry.retires generation = false

/-- Among entries is the end of an activation that succeeded. -/
def Succeeded (name : String) (generation : Nat) (entries : List (Entry κ)) : Prop :=
  ∃ extension, .returned (.activate name generation extension) (.ok (.ok ())) ∈ entries

/-- Every unretired bring-up under a name is excepted. -/
def Cleared (name : String) (journal : List (Entry κ)) : Prop :=
  ∀ generation since earlier, Unretired name generation since earlier journal →
    Superseded name generation earlier

/-- A bring-up is unretired if it has just begun, or if it has been unretired and the latest entry
does not retire it. -/
theorem Unretired.of_cons (unretired : Unretired name generation since earlier (entry :: journal)) :
    (since = [] ∧ earlier = journal ∧
        ∃ extension, entry = .called (.listing name generation extension)) ∨
      ∃ before, since = entry :: before ∧ Unretired name generation before earlier journal ∧
        entry.lists generation = false ∧ entry.retires generation = false := by
  obtain ⟨⟨extension, hsplit⟩, hlatest, hkept⟩ := unretired
  cases since with
  | nil =>
      obtain ⟨rfl, rfl⟩ := List.cons_eq_cons.1 hsplit
      exact .inl ⟨rfl, rfl, extension, rfl⟩
  | cons first before =>
      obtain ⟨rfl, rfl⟩ := List.cons_eq_cons.1 hsplit
      refine .inr ⟨before, rfl, ⟨⟨extension, rfl⟩, ?_, ?_⟩, ?_, ?_⟩
      · exact fun other hmem => hlatest other (List.mem_cons_of_mem entry hmem)
      · exact fun other hmem => hkept other (List.mem_cons_of_mem entry hmem)
      · exact hlatest entry List.mem_cons_self
      · exact hkept entry List.mem_cons_self

theorem Succeeded.of_cons (succeeded : Succeeded name generation (entry :: since)) :
    Succeeded name generation since ∨
      ∃ extension, entry = .returned (.activate name generation extension) (.ok (.ok ())) := by
  obtain ⟨extension, hmem⟩ := succeeded
  rcases List.mem_cons.1 hmem with heq | hmem
  · exact .inr ⟨extension, heq.symm⟩
  · exact .inl ⟨extension, hmem⟩

/-- A name stays cleared as long as only excepted bring-ups begin under it. -/
theorem Cleared.cons (cleared : Cleared name journal)
    (hbegun : ∀ generation extension, entry = .called (.listing name generation extension) →
      Superseded name generation journal) : Cleared name (entry :: journal) := by
  intro generation since earlier unretired
  rcases unretired.of_cons with ⟨-, rfl, extension, heq⟩ | ⟨before, -, hbefore, -⟩
  · exact hbegun generation extension heq
  · exact cleared generation before earlier hbefore

theorem Cleared.cons_aside (cleared : Cleared name journal) (hturn : entry.isTurn = false) :
    Cleared name (entry :: journal) :=
  cleared.cons fun generation extension heq => by
    rw [heq] at hturn
    cases hturn

/-! ## The registry and the journal -/

/-- The registration of a bring-up is stored.  It is active if the activation has succeeded, unless
this has not been settled yet. -/
def Located (settling? : Option (String × Nat)) (registry : Registered κ) (name : String)
    (generation : Nat) (since : List (Entry κ)) : Prop :=
  ∃ stored, registry.get? name = some stored ∧ stored.generation = generation ∧
    (settling? ≠ some (name, generation) → Succeeded name generation since →
      stored.state = .active)

/-- Every unretired bring-up is accounted for; `settling?` is one that has succeeded just now. -/
structure Accounted (settling? : Option (String × Nat)) (registry : Registered κ)
    (journal : List (Entry κ)) : Prop where
  numbered : registry.Numbered
  located : ∀ name generation since earlier, Unretired name generation since earlier journal →
    Superseded name generation earlier ∨ Located settling? registry name generation since
  cleared : ∀ name generation, Deactivating name generation journal →
    registry.holds name generation = true ∨ Cleared name journal

namespace Accounted

variable {settling? : Option (String × Nat)} {registry registry' : Registered κ}
  {stored : ExtensionEntry (Extension κ) (ActionBody κ)}

/-- A name is cleared if nothing is stored under it. -/
theorem cleared_of_get?_eq_none (accounted : Accounted settling? registry journal)
    (hnone : registry.get? name = none) : Cleared name journal := by
  intro generation since earlier unretired
  rcases accounted.located name generation since earlier unretired with hexcept | ⟨stored, hget, -⟩
  · exact hexcept
  · rw [hnone] at hget
    cases hget

/-- Entries that begin no bring-up and no deactivation may be noted.  The end of an activation that
has succeeded has to be settled then. -/
theorem note (accounted : Accounted none registry journal) (hturn : entry.isTurn = false)
    (hsettling : ∀ name generation extension,
      entry = .returned (.activate name generation extension) (.ok (.ok ())) →
        settling? = some (name, generation)) : Accounted settling? registry (entry :: journal) := by
  refine ⟨accounted.numbered, fun name generation since earlier unretired => ?_,
    fun name generation deactivating => ?_⟩
  · rcases unretired.of_cons with ⟨-, -, extension, rfl⟩ | ⟨before, rfl, hbefore, -⟩
    · cases hturn
    -- What is unretired now was so before.  Only its success can be new.
    · refine (accounted.located name generation before earlier hbefore).imp_right ?_
      rintro ⟨stored, hget, hsame, hactive⟩
      refine ⟨stored, hget, hsame, fun hne succeeded => ?_⟩
      rcases succeeded.of_cons with succeeded | ⟨extension, heq⟩
      · exact hactive nofun succeeded
      · exact absurd (hsettling name generation extension heq) hne
  · have hbefore := deactivating.of_cons (Entry.deactivates_of_isTurn hturn name generation)
    exact (accounted.cleared name generation hbefore).imp_right fun cleared =>
      cleared.cons_aside hturn

/-- Under the name of a registration, an entry that begins a bring-up or a deactivation of it leaves
only excepted bring-ups unretired. -/
theorem excepted (accounted : Accounted settling? registry journal)
    (hstored : registry.get? name = some stored)
    (hturn : entry.lists stored.generation = true ∨ entry.retires stored.generation = true)
    (unretired : Unretired name generation since earlier journal)
    (hlists : entry.lists generation = false) (hretires : entry.retires generation = false) :
    Superseded name generation earlier := by
  rcases accounted.located name generation since earlier unretired with
    hexcept | ⟨found, hfound, rfl, -⟩
  · exact hexcept
  · rw [hstored] at hfound
    obtain rfl := Option.some.inj hfound
    rw [hlists, hretires] at hturn
    rcases hturn with hturn | hturn <;> cases hturn

/-- Nothing is changed under other names, and a call does not end an activation. -/
theorem located_of_ne (hother : ∀ wanted, wanted ≠ name →
      registry'.get? wanted = registry.get? wanted) {wanted : String} (hne : wanted ≠ name)
    {call : Call κ} (located : Located settling? registry wanted generation since) :
    Located settling? registry' wanted generation (.called call :: since) := by
  obtain ⟨found, hget, hsame, hactive⟩ := located
  refine ⟨found, (hother wanted hne).trans hget, hsame, fun hsettling succeeded => ?_⟩
  rcases succeeded.of_cons with succeeded | ⟨_, heq⟩
  · exact hactive hsettling succeeded
  · cases heq

theorem holds_of_ne (hother : ∀ wanted, wanted ≠ name →
      registry'.get? wanted = registry.get? wanted) {wanted : String} (hne : wanted ≠ name)
    (holds : registry.holds wanted generation = true) :
    registry'.holds wanted generation = true := by
  unfold ExtensionRegistry.holds
  rw [hother wanted hne]
  exact holds

/-- A registration that is stored is brought up. -/
theorem list (accounted : Accounted settling? registry journal)
    (hstored : registry.get? name = some stored) (hnumbered : registry'.Numbered)
    (hother : ∀ wanted, wanted ≠ name → registry'.get? wanted = registry.get? wanted)
    {marked : ExtensionEntry (Extension κ) (ActionBody κ)}
    (hmarked : registry'.get? name = some marked) (hsame : marked.generation = stored.generation)
    (extension : Extension κ) :
    Accounted settling? registry'
      (.called (.listing name stored.generation extension) :: journal) := by
  refine ⟨hnumbered, fun wanted generation since earlier unretired => ?_,
    fun wanted generation deactivating => ?_⟩
  · rcases unretired.of_cons with ⟨rfl, rfl, _, heq⟩ | ⟨before, rfl, hbefore, hlists, hretires⟩
    · cases heq
      exact .inr ⟨marked, hmarked, hsame, fun _ ⟨_, hmem⟩ => absurd hmem List.not_mem_nil⟩
    · by_cases hname : wanted = name
      -- Earlier bring-ups of this registration do not count any more.
      · subst hname
        exact .inl (accounted.excepted hstored (.inl (beq_self_eq_true _)) hbefore hlists hretires)
      · exact (accounted.located wanted generation before earlier hbefore).imp_right
          (located_of_ne hother hname)
  · have hbefore := deactivating.of_cons rfl
    by_cases hname : wanted = name
    · subst hname
      by_cases hgeneration : generation = stored.generation
      · exact .inl (ExtensionRegistry.holds_iff.2 ⟨marked, hmarked, hsame.trans hgeneration.symm⟩)
      · -- The other deactivation supersedes what begins now.
        refine .inr (Cleared.cons ?_ ?_)
        · refine (accounted.cleared wanted generation hbefore).resolve_left fun holds => ?_
          obtain ⟨found, hfound, rfl⟩ := ExtensionRegistry.holds_iff.1 holds
          rw [hstored] at hfound
          exact hgeneration (congrArg ExtensionEntry.generation (Option.some.inj hfound)).symm
        · rintro _ _ ⟨⟩
          exact ⟨generation, hgeneration, hbefore⟩
    · refine (accounted.cleared wanted generation hbefore).imp (holds_of_ne hother hname)
        fun cleared => cleared.cons ?_
      rintro _ _ ⟨⟩
      exact absurd rfl hname

/-- A registration that is stored is deactivated, and its name is cleared. -/
theorem retire (accounted : Accounted settling? registry journal)
    (hstored : registry.get? name = some stored) (hnumbered : registry'.Numbered)
    (hother : ∀ wanted, wanted ≠ name → registry'.get? wanted = registry.get? wanted)
    (extension : Extension κ) :
    Accounted settling? registry'
      (.called (.deactivate name stored.generation extension) :: journal) := by
  -- One registration at most has bring-ups that count, and it is the one that is retired.
  have hcleared : Cleared name
      (.called (.deactivate name stored.generation extension) :: journal) := by
    intro generation since earlier unretired
    rcases unretired.of_cons with ⟨-, -, _, heq⟩ | ⟨before, -, hbefore, hlists, hretires⟩
    · cases heq
    · exact accounted.excepted hstored (.inr (beq_self_eq_true _)) hbefore hlists hretires
  refine ⟨hnumbered, fun wanted generation since earlier unretired => ?_,
    fun wanted generation deactivating => ?_⟩
  · by_cases hname : wanted = name
    · subst hname
      exact .inl (hcleared generation since earlier unretired)
    · rcases unretired.of_cons with ⟨-, -, _, heq⟩ | ⟨before, rfl, hbefore, -⟩
      · cases heq
      · exact (accounted.located wanted generation before earlier hbefore).imp_right
          (located_of_ne hother hname)
  · by_cases hname : wanted = name
    · subst hname
      exact .inr hcleared
    · refine (accounted.cleared wanted generation (deactivating.of_cons ?_)).imp
        (holds_of_ne hother hname) fun cleared => cleared.cons nofun
      simp [Entry.deactivates, Ne.symm hname]

/-- An entry is stored under a name that is cleared. -/
theorem add (accounted : Accounted settling? registry journal) (hcleared : Cleared name journal)
    (extension : Extension κ) : Accounted settling? (registry.add name extension) journal := by
  have hother : ∀ wanted, wanted ≠ name →
      (registry.add name extension).get? wanted = registry.get? wanted := by
    intro wanted hne
    rw [ExtensionRegistry.get?_add, if_neg hne]
  refine ⟨accounted.numbered.add name extension,
    fun wanted generation since earlier unretired => ?_, fun wanted generation deactivating => ?_⟩
  · by_cases hname : wanted = name
    -- Whatever is overwritten, no bring-up counts that it had.
    · subst hname
      exact .inl (hcleared generation since earlier unretired)
    · refine (accounted.located wanted generation since earlier unretired).imp_right ?_
      rintro ⟨found, hget, hrest⟩
      exact ⟨found, (hother wanted hname).trans hget, hrest⟩
  · by_cases hname : wanted = name
    · subst hname
      exact .inr hcleared
    · exact (accounted.cleared wanted generation deactivating).imp_left (holds_of_ne hother hname)

/-- The registry changes while no name is taken or given up.  Entries that are active stay so, and
the one whose bring-up has to be settled becomes active if it is still stored. -/
theorem settle (accounted : Accounted settling? registry journal) (hnumbered : registry'.Numbered)
    (hsettled : ∀ wanted stored, registry.get? wanted = some stored → ∃ settled,
      registry'.get? wanted = some settled ∧ settled.generation = stored.generation ∧
        (stored.state = .active ∨ settling? = some (wanted, stored.generation) →
          settled.state = .active)) : Accounted none registry' journal := by
  refine ⟨hnumbered, fun wanted generation since earlier unretired => ?_,
    fun wanted generation deactivating => ?_⟩
  · refine (accounted.located wanted generation since earlier unretired).imp_right ?_
    rintro ⟨stored, hget, rfl, hactive⟩
    obtain ⟨settled, hget', hsame, hstate⟩ := hsettled wanted stored hget
    refine ⟨settled, hget', hsame, fun _ succeeded => hstate ?_⟩
    by_cases hsettling : settling? = some (wanted, stored.generation)
    · exact .inr hsettling
    · exact .inl (hactive hsettling succeeded)
  · refine (accounted.cleared wanted generation deactivating).imp_left fun holds => ?_
    obtain ⟨stored, hget, rfl⟩ := ExtensionRegistry.holds_iff.1 holds
    obtain ⟨settled, hget', hsame, -⟩ := hsettled wanted stored hget
    exact ExtensionRegistry.holds_iff.2 ⟨settled, hget', hsame⟩

end Accounted

end EditorShell
