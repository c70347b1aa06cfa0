import EditorShell.Proofs.Extension.Contributions
import EditorShell.Proofs.Extension.Retirement
import EditorShell.Proofs.Run.ExtensionLaw

/-!
# Bring-ups stay accounted for

Whatever extensions do in the middle of their own activation and deactivation, every bring-up that
is not retired stays accounted for (`Retirement.governs`).

## Strategy

Between two of its steps an operation calls an extension, which may change the registry in any way.
`Focus` is what the operation can still rely on afterwards.  A deactivation that is running does not
return from inside, which is seen by counting.  A registration that is being brought up stays marked
as long as it is stored, and one that is gone stays gone.
-/

namespace EditorShell

variable {κ S : Type}

/-! ## What an operation relies on -/

/-- A registration under its name, which is being brought up or is gone. -/
structure Mark where
  name : String
  generation : Nat
  gone : Bool

/-- A marked registration is not stored, or it is still being brought up. -/
structure Marked (mark : Mark) (registry : Registered κ) : Prop where
  known : mark.generation ≤ registry.lastGeneration
  activating : ∀ stored, registry.get? mark.name = some stored →
    stored.generation = mark.generation → mark.gone = false ∧ stored.state = .activating

namespace Marked

variable {mark : Mark} {registry : Registered κ}

theorem modify (marked : Marked mark registry) {name : String}
    {change : ExtensionEntry (Extension κ) (ActionBody κ) →
      ExtensionEntry (Extension κ) (ActionBody κ)}
    (hgeneration : ∀ stored, (change stored).generation = stored.generation)
    (hchange : ∀ stored, registry.get? name = some stored → stored.state = .activating →
      mark.name = name → stored.generation = mark.generation →
        (change stored).state = .activating) :
    Marked mark (registry.modify name change) := by
  refine ⟨marked.known, fun stored hstored hsame => ?_⟩
  rcases ExtensionRegistry.exists_of_get?_modify hstored with
    ⟨hname, before, hget, rfl⟩ | ⟨-, hget⟩
  · rw [hgeneration] at hsame
    rw [← hname] at hchange
    obtain ⟨hgone, hstate⟩ := marked.activating before (hname ▸ hget) hsame
    exact ⟨hgone, hchange before (hname ▸ hget) hstate rfl hsame⟩
  · exact marked.activating stored hget hsame

theorem remove (marked : Marked mark registry) (name : String) :
    Marked mark (registry.remove name) :=
  ⟨marked.known, fun stored hstored =>
    marked.activating stored (ExtensionRegistry.get?_of_get?_remove hstored).2⟩

theorem add (marked : Marked mark registry) (name : String) (extension : Extension κ) :
    Marked mark (registry.add name extension) := by
  refine ⟨Nat.le_succ_of_le marked.known, fun stored hstored hsame => ?_⟩
  rcases ExtensionRegistry.exists_of_get?_add hstored with ⟨-, rfl⟩ | ⟨-, hget⟩
  · have hknown := marked.known
    dsimp only at hsame
    omega
  · exact marked.activating stored hget hsame

theorem not_holds (marked : Marked mark registry) (hgone : mark.gone = true) :
    ¬registry.holds mark.name mark.generation = true := by
  intro holds
  obtain ⟨stored, hget, hsame⟩ := ExtensionRegistry.holds_iff.1 holds
  have hstays := (marked.activating stored hget hsame).1
  rw [hgone] at hstays
  cases hstays

end Marked

/-- What the operations that are in progress rely on. -/
structure Focus where
  /-- How many deactivations of a registration are known to be running. -/
  running : String → Nat → Nat
  mark? : Option Mark

/-- Nothing is in progress. -/
def Focus.idle : Focus := ⟨fun _ _ => 0, none⟩

/-- One more deactivation of a registration is running. -/
def Focus.entering (focus : Focus) (name : String) (generation : Nat) : Focus :=
  { focus with running := fun wanted other =>
      focus.running wanted other + if name = wanted ∧ generation = other then 1 else 0 }

/-- A registration is marked instead of another one. -/
def Focus.marking (focus : Focus) (mark : Mark) : Focus := { focus with mark? := some mark }

/-- If a bring-up begins at a moment, then every bring-up under its name that has succeeded is
retired, or began while another registration of the name was being deactivated. -/
def Moment.BeginsAlone (moment : Moment κ S) : Prop :=
  ∀ name generation extension, moment.entry = .called (.listing name generation extension) →
    ∀ other since earlier, Unretired name other since earlier moment.session.journal →
      Succeeded name other since → Superseded name other earlier

namespace Retirement

/-- All bring-ups are accounted for, and what is in progress can rely on `focus`. -/
structure HoldsFor (settling? : Option (String × Nat)) (focus : Focus) (session : Session κ S) :
    Prop where
  accounted : Accounted settling? session.extensions session.journal
  running : ∀ name generation, focus.running name generation +
    session.journal.countP (Entry.deactivated name generation) ≤
      session.journal.countP (Entry.deactivates name generation)
  marked : ∀ mark ∈ focus.mark?, Marked mark session.extensions

/-- All bring-ups are accounted for, also those that have succeeded. -/
abbrev Holds (focus : Focus) (session : Session κ S) : Prop := HoldsFor none focus session

/-- All bring-ups are accounted for when a call begins. -/
def HoldsAt (focus : Focus) (moment : Moment κ S) : Prop :=
  (∀ call, moment.entry = .called call → Holds focus (moment.session.noting moment.entry)) ∧
    moment.BeginsAlone

variable {settling? : Option (String × Nat)} {focus : Focus} {session : Session κ S}
  {caller : Caller κ S} {name : String} {entry : ExtensionEntry (Extension κ) (ActionBody κ)}

theorem HoldsFor.congr (holds : HoldsFor settling? focus session) {later : Session κ S}
    (hextensions : later.extensions = session.extensions)
    (hjournal : later.journal = session.journal) : HoldsFor settling? focus later := by
  obtain ⟨haccounted, hrunning, hmarked⟩ := holds
  refine ⟨?_, ?_, ?_⟩
  · rw [hextensions, hjournal]
    exact haccounted
  · rw [hjournal]
    exact hrunning
  · rw [hextensions]
    exact hmarked

/-- Entries of most kinds may be noted.  The end of an activation that has succeeded has to be
settled then. -/
theorem HoldsFor.note (holds : Holds focus session) {noted : Entry κ} (hturn : noted.isTurn = false)
    (hreturned : ∀ name generation, noted.deactivated name generation = false)
    (hsettling : ∀ name generation extension,
      noted = .returned (.activate name generation extension) (.ok (.ok ())) →
        settling? = some (name, generation)) :
    HoldsFor settling? focus (session.noting noted) := by
  refine ⟨holds.accounted.note hturn hsettling, fun name generation => ?_, holds.marked⟩
  have hcount := holds.running name generation
  unfold Session.noting
  rw [List.countP_cons, List.countP_cons, hreturned, Entry.deactivates_of_isTurn hturn]
  exact hcount

theorem law : ExtensionLaw (Holds (κ := κ) (S := S)) HoldsAt := by
  have hnote : ∀ {focus : Focus} {session : Session κ S} {entry : Entry κ},
      entry.isLifecycle = false → Holds focus session → Holds focus (session.noting entry) := by
    intro focus session entry hentry holds
    refine holds.note (Entry.isTurn_of_isLifecycle hentry)
      (Entry.deactivated_of_isLifecycle hentry) fun name generation extension heq => ?_
    rw [heq] at hentry
    cases hentry
  refine ⟨fun hextensions hjournal holds => holds.congr hextensions hjournal, hnote,
    fun hentry holds => ⟨fun _ _ => hnote hentry holds, fun name generation extension heq => ?_⟩⟩
  dsimp only at heq
  rw [heq] at hentry
  cases hentry

theorem holdsAt_returned {call : Call κ} (outcome : Guarded call.Result) (session : Session κ S) :
    HoldsAt focus ⟨.returned call outcome, session⟩ := by
  refine ⟨fun _ heq => ?_, fun _ _ _ heq => ?_⟩
  · cases heq
  · cases heq

theorem meets_withdrawAll (holds : Holds focus session)
    (items : List (Contributed (ActionBody κ))) :
    (Session.withdrawAll items).Meets (HoldsAt focus) caller session fun _ => Holds focus :=
  Session.meets_withdrawAll items
    (holds.congr (Session.extensions_foldl_takingBack items)
      (Session.journal_foldl_takingBack items))

/-! ## Deactivation -/

/-- A deactivation that has begun is running until it returns. -/
theorem HoldsFor.entering (holds : Holds focus session) {registry : Registered κ}
    {generation : Nat} {extension : Extension κ}
    (accounted : Accounted none registry
      (.called (.deactivate name generation extension) :: session.journal))
    (hmarked : ∀ mark ∈ focus.mark?, Marked mark registry) :
    Holds (focus.entering name generation)
      (({ session with extensions := registry } : Session κ S).noting
        (.called (.deactivate name generation extension))) := by
  refine ⟨accounted, fun wanted other => ?_, hmarked⟩
  have hcount := holds.running wanted other
  unfold Session.noting Focus.entering
  rw [List.countP_cons, List.countP_cons]
  simp only [Entry.deactivates, Entry.deactivated, Bool.and_eq_true, beq_iff_eq,
    Bool.false_eq_true, if_false]
  omega

/-- What relies on a deactivation that is running does not need it. -/
theorem HoldsFor.leaving {generation : Nat}
    (holds : Holds (focus.entering name generation) session) : Holds focus session := by
  refine ⟨holds.accounted, fun wanted other => ?_, holds.marked⟩
  have hcount := holds.running wanted other
  unfold Focus.entering at hcount
  dsimp only at hcount
  omega

theorem HoldsFor.returned {generation : Nat}
    (holds : Holds (focus.entering name generation) session) (extension : Extension κ)
    (outcome : Guarded (Except ExtensionError Unit)) :
    Holds focus (session.noting (.returned (.deactivate name generation extension) outcome)) := by
  refine ⟨holds.accounted.note rfl nofun, fun wanted other => ?_, holds.marked⟩
  -- What `entering` has counted on top is what returns.
  have hcount := holds.running wanted other
  unfold Focus.entering at hcount
  unfold Session.noting
  rw [List.countP_cons, List.countP_cons]
  simp only [Entry.deactivates, Entry.deactivated, Bool.and_eq_true, beq_iff_eq,
    Bool.false_eq_true, if_false] at hcount ⊢
  omega

/-- While a registration is deactivated that is gone, its name is cleared. -/
theorem HoldsFor.cleared {generation : Nat}
    (holds : Holds ((focus.entering name generation).marking ⟨name, generation, true⟩) session) :
    Cleared name session.journal := by
  have hcount := holds.running name generation
  unfold Focus.marking Focus.entering at hcount
  simp only [and_self, if_true] at hcount
  have hrunning : Deactivating name generation session.journal := by
    unfold Deactivating
    omega
  exact (holds.accounted.cleared name generation hrunning).resolve_left
    ((holds.marked _ rfl).not_holds rfl)

/-- A deactivation of a registration that is gone leaves its name cleared. -/
theorem meets_shutDown (upholds : caller.Upholds Holds HoldsAt)
    (holds : Holds (focus.entering name entry.generation)
      (session.noting (.called (.deactivate name entry.generation entry.extension)))) :
    (Session.shutDown name entry).Meets (HoldsAt focus) caller session fun _ after =>
      Holds focus after ∧ (Marked ⟨name, entry.generation, true⟩ session.extensions →
        Cleared name after.journal) := by
  refine (Act.Meets.call_upholds upholds ⟨fun _ _ => holds.leaving, nofun⟩ holds.leaving
    fun outcome before _ => holdsAt_returned outcome before).bind fun outcome after hafter => ?_
  obtain ⟨before, rfl, hbefore⟩ := hafter
  refine (Session.meets_withdrawAll (R := fun _ after => Holds focus after ∧
    (Marked ⟨name, entry.generation, true⟩ session.extensions → Cleared name after.journal))
      entry.contributed ⟨?_, fun hgone => ?_⟩).bind fun _ after hafter => .pure hafter
  · exact ((hbefore _ holds).returned entry.extension outcome).congr
      (Session.extensions_foldl_takingBack _) (Session.journal_foldl_takingBack _)
  -- For this the mark is the one of the registration that is gone, and not the one of `focus`.
  · have hmarking : Holds ((focus.entering name entry.generation).marking
        ⟨name, entry.generation, true⟩)
          (session.noting (.called (.deactivate name entry.generation entry.extension))) := by
      refine ⟨holds.accounted, holds.running, ?_⟩
      rintro _ ⟨⟩
      exact hgone
    rw [Session.journal_foldl_takingBack]
    exact (hbefore _ hmarking).cleared.cons_aside rfl

theorem meets_unregister (upholds : caller.Upholds Holds HoldsAt) (holds : Holds focus session)
    (name : String) :
    (Session.unregister name).Meets (HoldsAt focus) caller session fun _ after =>
      Holds focus after ∧ Cleared name after.journal := by
  have hnumbered := holds.accounted.numbered.remove name
  have hother : ∀ wanted, wanted ≠ name →
      (session.extensions.remove name).get? wanted = session.extensions.get? wanted := by
    intro wanted hne
    rw [ExtensionRegistry.get?_remove, if_neg hne]
  have hmarked : ∀ mark ∈ focus.mark?, Marked mark (session.extensions.remove name) :=
    fun mark hmem => (holds.marked mark hmem).remove name
  refine .read_bind (.change_bind ?_)
  cases hstored : session.extensions.get? name with
  | none =>
      refine .pure ⟨⟨?_, holds.running, hmarked⟩, holds.accounted.cleared_of_get?_eq_none hstored⟩
      -- Nothing is stored under the name, so the registry does not change.
      refine holds.accounted.settle hnumbered fun wanted stored hget => ?_
      refine ⟨stored, ?_, rfl, fun hactive => hactive.resolve_right nofun⟩
      rw [hother wanted fun heq => ?_, hget]
      subst heq
      rw [hstored] at hget
      cases hget
  | some entry =>
      have accounted := holds.accounted.retire hstored hnumbered hother entry.extension
      refine (meets_shutDown upholds (holds.entering accounted hmarked)).bind fun _ after hafter =>
        .pure ⟨hafter.1, hafter.2 ⟨holds.accounted.numbered name entry hstored, ?_⟩⟩
      intro stored hget
      exact absurd rfl (ExtensionRegistry.get?_of_get?_remove hget).1

theorem upholds_register (name : String) (extension : Extension κ) :
    (Session.register (S := S) name extension).Upholds Holds HoldsAt := by
  intro caller _ upholds focus session holds
  refine (meets_unregister upholds holds name).bind fun _ after hafter => .change ?_
  obtain ⟨⟨haccounted, hrunning, hmarked⟩, hcleared⟩ := hafter
  exact ⟨haccounted.add hcleared extension, hrunning,
    fun mark hmem => (hmarked mark hmem).add name extension⟩

theorem upholds_deactivate (name : String) :
    (Session.deactivate name : Act κ S (Except ExtensionError Bool)).Upholds Holds HoldsAt := by
  intro caller _ upholds focus session holds
  refine .read_bind ?_
  cases hstored : session.extensions.get? name with
  | none => exact .pure holds
  | some entry =>
      dsimp only
      split
      · exact .pure holds
      · rename_i hstate
        have hactive : entry.state = .active := Decidable.not_not.1 hstate
        have hnumbered : (session.extensions.setInactive name).Numbered :=
          holds.accounted.numbered.modify name fun _ => rfl
        have accounted := holds.accounted.retire hstored hnumbered
          (fun wanted hne => ExtensionRegistry.get?_modify_of_ne _ hne _) entry.extension
        refine .change_bind ((meets_shutDown upholds (holds.entering accounted ?_)).bind
          fun _ after hafter => .pure hafter.1)
        -- An entry that is marked is not active.
        intro mark hmem
        refine (holds.marked mark hmem).modify (fun _ => rfl) ?_
        intro stored hget hactivating _ _
        rw [hstored] at hget
        obtain rfl := Option.some.inj hget
        rw [hactive] at hactivating
        cases hactivating

/-! ## Activation -/

/-- The bring-up that has to be settled after a result. -/
def settlingOf (name : String) (generation : Nat) :
    Except ExtensionError Unit → Option (String × Nat)
  | .ok () => some (name, generation)
  | .error _ => none

/-- A registered entry is marked and then brought up. -/
theorem holdsAt_listing (holds : Holds focus session)
    (hstored : session.extensions.get? name = some entry)
    (hregistered : entry.state = .registered) :
    let listing : Moment κ S := ⟨.called (.listing name entry.generation entry.extension),
      { session with extensions := session.extensions.setState name .activating }⟩
    HoldsAt focus listing ∧
      Holds (focus.marking ⟨name, entry.generation, false⟩)
        (listing.session.noting listing.entry) := by
  intro listing
  have hnumbered : (session.extensions.setState name .activating).Numbered :=
    holds.accounted.numbered.modify name fun _ => rfl
  have hmarked : (session.extensions.setState name .activating).get? name =
      some { entry with state := .activating } :=
    ExtensionRegistry.get?_modify_self hstored _
  have accounted := holds.accounted.list hstored hnumbered
    (fun wanted hne => ExtensionRegistry.get?_modify_of_ne _ hne _) hmarked rfl entry.extension
  have hrunning : ∀ wanted other, focus.running wanted other +
      (listing.session.noting listing.entry).journal.countP (Entry.deactivated wanted other) ≤
        (listing.session.noting listing.entry).journal.countP
          (Entry.deactivates wanted other) := by
    intro wanted other
    show _ + List.countP _ (_ :: _) ≤ List.countP _ (_ :: _)
    rw [List.countP_cons_of_neg (by nofun), List.countP_cons_of_neg (by nofun)]
    exact holds.running wanted other
  refine ⟨⟨fun _ _ => ⟨accounted, hrunning, fun mark hmem => ?_⟩, ?_⟩, accounted, hrunning, ?_⟩
  · exact (holds.marked mark hmem).modify (fun _ => rfl) fun _ _ _ _ _ => rfl
  · -- A bring-up that has succeeded would have made the registered entry active.
    rintro _ _ _ ⟨⟩ other since earlier unretired succeeded
    rcases holds.accounted.located name other since earlier unretired with
      hexcept | ⟨found, hfound, -, hactive⟩
    · exact hexcept
    · rw [hstored] at hfound
      obtain rfl := Option.some.inj hfound
      rw [hactive nofun succeeded] at hregistered
      cases hregistered
  · rintro _ ⟨⟩
    refine ⟨holds.accounted.numbered name entry hstored, fun found hfound _ => ?_⟩
    obtain rfl := Option.some.inj (hmarked.symm.trans hfound)
    exact ⟨rfl, rfl⟩

theorem meets_bringUp (apart : caller.HostApart) (upholds : caller.Upholds Holds HoldsAt)
    (hcalled : HoldsAt focus
      ⟨.called (.listing name entry.generation entry.extension), session⟩)
    (hmarking : Holds (focus.marking ⟨name, entry.generation, false⟩)
      (session.noting (.called (.listing name entry.generation entry.extension)))) :
    (Session.bringUp name entry).Meets (HoldsAt focus) caller session fun brought after =>
      HoldsFor (settlingOf name entry.generation brought.2) focus after ∧
        Marked ⟨name, entry.generation, false⟩ after.extensions := by
  have hreturned : ∀ {call : Call κ} outcome (before : Session κ S), Holds focus before →
      HoldsAt focus ⟨.returned call outcome, before⟩ :=
    fun outcome before _ => holdsAt_returned outcome before
  refine (Act.Meets.call_upholds upholds hcalled (hcalled.1 _ rfl) hreturned).bind
    fun listed after hafter => ?_
  obtain ⟨before, rfl, hbefore⟩ := hafter
  -- What the operation outside relies on and what this one relies on are kept side by side.
  have hlisted : Holds focus (before.noting
      (.returned (.listing name entry.generation entry.extension) listed)) :=
    (hbefore _ (hcalled.1 _ rfl)).note rfl (fun _ _ => rfl) nofun
  have hmarked : Holds (focus.marking ⟨name, entry.generation, false⟩) (before.noting
      (.returned (.listing name entry.generation entry.extension) listed)) :=
    (hbefore _ hmarking).note rfl (fun _ _ => rfl) nofun
  cases listed with
  | error panic => exact .pure ⟨hlisted, hmarked.marked _ rfl⟩
  | ok contributions =>
      refine ((Act.Upholds.of_madeOf (law.commands.contributeAll contributions)).meets apart upholds
        hlisted).bind fun contributed after hafter => ?_
      obtain ⟨-, hall⟩ := hafter
      obtain ⟨items, outcome⟩ := contributed
      cases outcome with
      | error cause => exact .pure ⟨hall _ hlisted, (hall _ hmarked).marked _ rfl⟩
      | ok _ =>
          have hactivate : ∀ focus, Holds focus after → Holds focus
              (after.noting (.called (.activate name entry.generation entry.extension))) :=
            fun _ holds => holds.note rfl (fun _ _ => rfl) nofun
          refine (Act.Meets.call_upholds upholds ⟨fun _ _ => hactivate _ (hall _ hlisted), nofun⟩
            (hactivate _ (hall _ hlisted)) hreturned).bind fun activated after' hafter' => ?_
          obtain ⟨before', rfl, hbefore'⟩ := hafter'
          refine .pure ⟨?_, (hbefore' _ (hactivate _ (hall _ hmarked))).marked _ rfl⟩
          refine (hbefore' _ (hactivate _ (hall _ hlisted))).note rfl (fun _ _ => rfl) ?_
          rintro _ _ _ ⟨⟩
          rfl

/-- The change of the registry when a bring-up is settled. -/
theorem HoldsFor.settle (holds : HoldsFor settling? focus session)
    {stored : ExtensionEntry (Extension κ) (ActionBody κ)}
    (hstored : session.extensions.get? name = some stored)
    {change : ExtensionEntry (Extension κ) (ActionBody κ) →
      ExtensionEntry (Extension κ) (ActionBody κ)}
    (hgeneration : ∀ entry, (change entry).generation = entry.generation)
    (hsettling : ∀ wanted generation, settling? = some (wanted, generation) → wanted = name)
    (hactive : stored.state = .active ∨ settling? = some (name, stored.generation) →
      (change stored).state = .active)
    (hother : ∀ mark ∈ focus.mark?, mark.name = name → mark.generation ≠ stored.generation) :
    Holds focus { session with extensions := session.extensions.modify name change } := by
  refine ⟨holds.accounted.settle (holds.accounted.numbered.modify name hgeneration)
    fun wanted found hfound => ?_, holds.running, fun mark hmem => ?_⟩
  · rw [ExtensionRegistry.get?_modify]
    split
    · rename_i hname
      subst hname
      rw [hstored] at hfound ⊢
      obtain rfl := Option.some.inj hfound
      exact ⟨_, rfl, hgeneration _, hactive⟩
    · rename_i hne
      refine ⟨found, hfound, rfl, fun hcause => hcause.resolve_right fun heq => ?_⟩
      exact hne (hsettling wanted found.generation heq)
  · refine (holds.marked mark hmem).modify hgeneration fun found hfound _ hname hsame => ?_
    rw [hstored] at hfound
    obtain rfl := Option.some.inj hfound
    exact absurd hsame.symm (hother mark hmem hname)

theorem meets_settle {result : Except ExtensionError Unit} {generation : Nat}
    (holds : HoldsFor (settlingOf name generation result) focus session)
    (hmarked : Marked ⟨name, generation, false⟩ session.extensions)
    (hother : ∀ mark ∈ focus.mark?, mark.name = name → mark.generation ≠ generation)
    (items : List (Contributed (ActionBody κ))) :
    (Session.settle name generation items result).Meets (HoldsAt focus) caller session
      fun _ => Holds focus := by
  refine .read_bind ?_
  cases hheld : session.extensions.holds name generation with
  | false =>
      -- The bring-up that should be settled is of a registration that is gone.
      have hsettled : Holds focus session := by
        refine ⟨holds.accounted.settle holds.accounted.numbered fun wanted stored hget => ?_,
          holds.running, holds.marked⟩
        refine ⟨stored, hget, rfl, fun hcause => hcause.resolve_right fun heq => ?_⟩
        cases result with
        | error cause => cases heq
        | ok _ =>
            cases heq
            rw [ExtensionRegistry.holds_iff.2 ⟨stored, hget, rfl⟩] at hheld
            cases hheld
      cases result with
      | ok _ => exact (meets_withdrawAll hsettled items).bind fun _ after hafter => .pure hafter
      | error cause =>
          exact (meets_withdrawAll hsettled items).bind fun _ after hafter => .pure hafter
  | true =>
      obtain ⟨stored, hstored, rfl⟩ := ExtensionRegistry.holds_iff.1 hheld
      cases result with
      | ok _ =>
          refine .change_bind (.pure (holds.settle hstored (fun _ => rfl) ?_ (fun _ => rfl) hother))
          rintro _ _ ⟨⟩
          rfl
      | error cause =>
          -- The entry is marked still, so it is not active.
          have hreset : Holds focus
              { session with extensions := session.extensions.setState name .registered } := by
            refine holds.settle hstored (fun _ => rfl) nofun (fun hcause => ?_) hother
            rw [(hmarked.activating stored hstored rfl).2] at hcause
            rcases hcause with hcause | hcause <;> cases hcause
          exact .change_bind ((meets_withdrawAll hreset items).bind fun _ after hafter =>
            .pure hafter)

theorem meets_activate (apart : caller.HostApart) (upholds : caller.Upholds Holds HoldsAt)
    (holds : Holds focus session) (name : String) :
    (Session.activate name).Meets (HoldsAt focus) caller session fun _ => Holds focus := by
  refine .read_bind ?_
  cases hstored : session.extensions.get? name with
  | none => exact .pure holds
  | some entry =>
      dsimp only
      split
      · exact .pure holds
      · rename_i hstate
        have hregistered : entry.state = .registered := Decidable.not_not.1 hstate
        -- What is marked is being brought up already, or gone.
        have hother : ∀ mark ∈ focus.mark?, mark.name = name →
            mark.generation ≠ entry.generation := by
          rintro mark hmem rfl hsame
          have hactivating := ((holds.marked mark hmem).activating entry hstored hsame.symm).2
          rw [hregistered] at hactivating
          cases hactivating
        obtain ⟨hcalled, hmarking⟩ := holdsAt_listing holds hstored hregistered
        refine .change_bind ((meets_bringUp apart upholds hcalled hmarking).bind
          fun brought after hbrought => ?_)
        obtain ⟨items, result⟩ := brought
        exact meets_settle hbrought.1 hbrought.2 hother items

/-! ## All runs -/

variable {allowed : Request κ → Prop}

theorem extensions : (Upholding (Holds (κ := κ) (S := S)) HoldsAt).Extensions where
  register name extension := .part (upholds_register name extension)
  unregister name := .part fun _ _ upholds _ _ holds =>
    (meets_unregister upholds holds name).mono fun _ _ hafter => hafter.1
  activate name := .part fun _ apart upholds _ _ holds => meets_activate apart upholds holds name
  deactivate name := .part (upholds_deactivate name)

/-- Every bring-up stays accounted for, whatever is done and whatever callbacks do. -/
theorem governs : Governs allowed (· = .idle) (Holds (κ := κ) (S := S)) HoldsAt :=
  ⟨law.covers extensions, fun _ holds => holds.congr rfl rfl,
    fun htop _ holdsAt => ⟨_, htop, holdsAt.1 _ rfl⟩⟩

theorem holds_of_reaches {sink : ChordSink} {host : Host} {app : S}
    (reaches : (Session.fresh sink host app).Reaches allowed session) : Holds .idle session := by
  have hfirst : Holds .idle (Session.fresh sink host app : Session κ S) := by
    refine ⟨⟨fun name entry hentry => ?_, fun name generation since earlier unretired => ?_,
      fun name generation deactivating => ?_⟩, fun _ _ => Nat.le_refl _, nofun⟩
    · cases (show none = some entry from hentry)
    · obtain ⟨⟨extension, hsplit⟩, -⟩ := unretired
      cases since <;> cases hsplit
    · exact absurd deactivating (Nat.lt_irrefl 0)
  obtain ⟨_, rfl, holds⟩ := governs.reaches ⟨.idle, rfl, hfirst⟩ reaches
  exact holds

end Retirement

end EditorShell
