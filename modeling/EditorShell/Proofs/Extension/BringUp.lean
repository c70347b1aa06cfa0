import EditorShell.Proofs.Extension.Contributions
import EditorShell.Proofs.Extension.Lifecycle
import EditorShell.Proofs.Run.ExtensionLaw

/-!
# Bring-ups of extensions

Whatever extensions do in the middle of their own activation and deactivation, the registry and the
journal stay orderly (`Lifecycle.governs`).
-/

namespace EditorShell

variable {κ S α : Type}

/-- If a bring-up begins at a moment, then an entry has just been marked that was registered
before, and every bring-up of it before is over. -/
def Moment.BeginsRegistered (moment : Moment κ S) : Prop :=
  ∀ name generation extension, moment.entry = .called (.listing name generation extension) →
    ∃ (before : Session κ S) (contributed : List (Contributed (ActionBody κ))),
      before.extensions.get? name = some ⟨extension, .registered, generation, contributed⟩ ∧
        Idle generation before.journal ∧ moment.session =
          { before with extensions := before.extensions.setState name .activating }

namespace Lifecycle

/-- The registry and the journal are orderly, and a registration may be watched. -/
def Holds (watch? : Option (Watch κ)) (session : Session κ S) : Prop :=
  Orderly session.extensions session.journal ∧
    ∀ watch ∈ watch?, Watched watch session.extensions session.journal

/-- The registry and the journal are orderly again when a moment has been noted. -/
def HoldsAt (watch? : Option (Watch κ)) (moment : Moment κ S) : Prop :=
  Holds watch? (moment.session.noting moment.entry) ∧ moment.BeginsRegistered

variable {watch? : Option (Watch κ)} {session : Session κ S}

/-! ## Changes outside the registry -/

theorem Holds.note (holds : Holds watch? session) {entry : Entry κ} (hturn : entry.isTurn = false) :
    Holds watch? (session.noting entry) := by
  refine ⟨holds.1.note_aside hturn, fun watch hwatch => ?_⟩
  refine (holds.2 watch hwatch).note (Entry.lists_of_isTurn hturn _) fun hretires => ?_
  rw [Entry.retires_of_isTurn hturn] at hretires
  cases hretires

theorem Moment.beginsRegistered_of_isTurn {entry : Entry κ} (hturn : entry.isTurn = false)
    (session : Session κ S) : Moment.BeginsRegistered ⟨entry, session⟩ := by
  intro name generation extension hentry
  dsimp only at hentry
  rw [hentry] at hturn
  cases hturn

theorem law : ExtensionLaw (Holds (κ := κ) (S := S)) HoldsAt where
  congr hextensions hjournal holds := by
    unfold Holds
    rw [hextensions, hjournal]
    exact holds
  note hentry holds := holds.note (Entry.isTurn_of_isLifecycle hentry)
  moment hentry holds :=
    ⟨holds.note (Entry.isTurn_of_isLifecycle hentry),
      Moment.beginsRegistered_of_isTurn (Entry.isTurn_of_isLifecycle hentry) _⟩

variable {caller : Caller κ S} {name : String}
  {entry : ExtensionEntry (Extension κ) (ActionBody κ)}

theorem meets_withdrawAll (holds : Holds watch? session)
    (items : List (Contributed (ActionBody κ))) :
    (Session.withdrawAll items).Meets (HoldsAt watch?) caller session fun _ after =>
      Holds watch? after ∧ after.extensions = session.extensions :=
  Session.meets_withdrawAll items
    ⟨law.congr (Session.extensions_foldl_takingBack items)
        (Session.journal_foldl_takingBack items) holds,
      Session.extensions_foldl_takingBack items⟩

/-! ## Deactivation -/

/-- A deactivation may begin when the registration is stored no more. -/
theorem Holds.note_retired (holds : Holds watch? session) (name : String) (generation : Nat)
    (hgone : ∀ other stored, session.extensions.get? other = some stored →
      stored.generation ≠ generation) (extension : Extension κ) :
    Holds watch? (session.noting (.called (.deactivate name generation extension))) := by
  refine ⟨holds.1.note (fun other hlists => by cases hlists) fun other hretires => ?_,
    fun watch hwatch => (holds.2 watch hwatch).note rfl fun hretires => ?_⟩
  · obtain rfl := beq_iff_eq.1 hretires
    exact fun wanted stored hstored heq => absurd heq (hgone wanted stored hstored)
  · obtain rfl := beq_iff_eq.1 hretires
    exact hgone

theorem meets_shutDown (upholds : caller.Upholds Holds HoldsAt)
    (holds : Holds watch?
      (session.noting (.called (.deactivate name entry.generation entry.extension)))) :
    (Session.shutDown name entry).Meets (HoldsAt watch?) caller session fun _ => Holds watch? := by
  refine (Act.Meets.call_upholds upholds ⟨holds, nofun⟩ holds fun outcome before hbefore => ?_).bind
    fun outcome after hafter => ?_
  · exact ⟨hbefore.note rfl, Moment.beginsRegistered_of_isTurn rfl before⟩
  · obtain ⟨before, rfl, hbefore⟩ := hafter
    have hreturned : Holds watch? (before.noting
        (.returned (.deactivate name entry.generation entry.extension) outcome)) :=
      (hbefore watch? holds).note rfl
    exact (meets_withdrawAll hreturned entry.contributed).bind fun _ after hafter => .pure hafter.1

theorem upholds_unregister (name : String) :
    (Session.unregister name : Act κ S Bool).Upholds Holds HoldsAt := by
  intro caller _ upholds watch? session holds
  have hremoved : Holds watch?
      { session with extensions := session.extensions.remove name } :=
    ⟨holds.1.remove name, fun watch hwatch => (holds.2 watch hwatch).remove name⟩
  refine .read_bind (.change_bind ?_)
  cases hstored : session.extensions.get? name with
  | none => exact .pure hremoved
  | some entry =>
      have hretired := hremoved.note_retired name entry.generation
        (fun other stored hother heq => ?_) entry.extension
      · refine (meets_shutDown upholds hretired).bind fun _ after hafter => ?_
        exact .pure hafter
      · obtain ⟨hne, hother⟩ := ExtensionRegistry.get?_of_get?_remove hother
        exact hne (holds.1.unique other name stored entry hother hstored heq)

theorem upholds_register (name : String) (extension : Extension κ) :
    (Session.register (S := S) name extension).Upholds Holds HoldsAt :=
  (upholds_unregister name).bind fun _ => .change fun holds =>
    ⟨holds.1.add name extension, fun watch hwatch => (holds.2 watch hwatch).add name extension⟩

theorem upholds_deactivate (name : String) :
    (Session.deactivate name : Act κ S (Except ExtensionError Bool)).Upholds Holds HoldsAt := by
  intro caller _ upholds watch? session holds
  refine .read_bind ?_
  cases hstored : session.extensions.get? name with
  | none => exact .pure holds
  | some entry =>
      dsimp only
      split
      · exact .pure holds
      · rename_i hstate
        have hactive : entry.state = .active := Decidable.not_not.1 hstate
        refine .change_bind ((meets_shutDown upholds ⟨?_, fun watch hwatch => ?_⟩).bind
          fun _ after hafter => .pure hafter)
        · exact holds.1.setInactive hstored hactive entry.extension
        · -- A registration that is watched is not active.
          have hother : entry.generation ≠ watch.generation := by
            intro heq
            have hactivating := ((holds.2 watch hwatch).stored name entry hstored heq).2
            rw [hactive] at hactivating
            cases hactivating
          have hinactive : Watched watch (session.extensions.setInactive name) session.journal := by
            refine (holds.2 watch hwatch).modify (fun _ => rfl) fun stored hget => ?_
            rw [hstored] at hget
            obtain rfl := Option.some.inj hget
            exact hother
          exact hinactive.note rfl fun hretires => absurd (beq_iff_eq.1 hretires) hother

/-! ## Activation -/

/-- How an activation ends is told by the journal: `told` is the entry that tells it. -/
def ToldBy (name : String) (entry : ExtensionEntry (Extension κ) (ActionBody κ)) (told : Entry κ) :
    Except ExtensionError Unit → Prop
  | .ok () => told = .returned (.activate name entry.generation entry.extension) (.ok (.ok ()))
  | .error _ => told.fails entry.generation = true

theorem hasInvalidChord_of_contributeAll (contributions : List (Contribution (ActionBody κ)))
    {cause : ExtensionError}
    (herror : ((Session.contributeAll contributions).run caller session).1.2 = .error cause) :
    contributions.any Contribution.hasInvalidChord = true := by
  induction contributions generalizing session with
  | nil => cases herror
  | cons contribution rest ih =>
      unfold Session.contributeAll at herror
      rw [List.any_cons, Bool.or_eq_true]
      cases hchord : contribution.keys.mapM Chord.parse with
      | error refusal =>
          left
          unfold Contribution.hasInvalidChord
          rw [hchord]
      | ok chord? =>
          right
          rw [hchord] at herror
          exact ih herror

/-- What is noted is seen from then on. -/
theorem Holds.see {watch : Watch κ} (holds : Holds (some watch) session) {told : Entry κ}
    (hturn : told.isTurn = false) :
    Holds (some { watch with seen := told :: watch.seen }) (session.noting told) := by
  obtain ⟨horderly, hwatched⟩ := holds.note hturn
  refine ⟨horderly, ?_⟩
  rintro _ ⟨⟩
  exact (hwatched watch rfl).see (holds.2 watch rfl).base_suffix

theorem meets_bringUp (apart : caller.HostApart) (upholds : caller.Upholds Holds HoldsAt)
    {watch : Watch κ}
    (hcalled : HoldsAt watch?
      ⟨.called (.listing name entry.generation entry.extension), session⟩)
    (hwatch : Holds (some watch)
      (session.noting (.called (.listing name entry.generation entry.extension)))) :
    (Session.bringUp name entry).Meets (HoldsAt watch?) caller session fun brought after =>
      Holds watch? after ∧ ∃ told, ToldBy name entry told brought.2 ∧
        Holds (some { watch with seen := told :: watch.seen }) after := by
  have hreturned : ∀ {call : Call κ} outcome (before : Session κ S), Holds watch? before →
      HoldsAt watch? ⟨.returned call outcome, before⟩ := fun outcome before hbefore =>
    ⟨hbefore.note rfl, Moment.beginsRegistered_of_isTurn rfl before⟩
  refine (Act.Meets.call_upholds upholds hcalled hcalled.1 hreturned).bind
    fun listed after hafter => ?_
  obtain ⟨before, rfl, hbefore⟩ := hafter
  let told : Entry κ := .returned (.listing name entry.generation entry.extension) listed
  -- The callback keeps both: what the operation outside watches, and what this one watches.
  have hlisted : Holds watch? (before.noting told) := (hbefore _ hcalled.1).note rfl
  have hkept : Holds (some watch) (before.noting told) := (hbefore _ hwatch).note rfl
  have hseen : Holds (some { watch with seen := told :: watch.seen }) (before.noting told) :=
    (hbefore _ hwatch).see rfl
  cases listed with
  | error panic =>
      refine .pure ⟨hlisted, _, ?_, hseen⟩
      exact beq_self_eq_true entry.generation
  | ok contributions =>
      refine ((Act.Upholds.of_madeOf (law.commands.contributeAll contributions)).meets apart upholds
        hlisted).bind fun contributed after hafter => ?_
      obtain ⟨hrun, hall⟩ := hafter
      obtain ⟨items, outcome⟩ := contributed
      cases outcome with
      | error cause =>
          have hinvalid := hasInvalidChord_of_contributeAll contributions
            (congrArg (fun run => run.1.2) hrun.symm)
          refine .pure ⟨hall _ hlisted, _, ?_, hall _ hseen⟩
          show (_ && _) = true
          rw [hinvalid, beq_self_eq_true]
          rfl
      | ok _ =>
          have hactivate : HoldsAt watch?
              ⟨.called (.activate name entry.generation entry.extension), after⟩ :=
            ⟨(hall _ hlisted).note rfl, Moment.beginsRegistered_of_isTurn rfl after⟩
          refine (Act.Meets.call_upholds upholds hactivate hactivate.1 hreturned).bind
            fun activated after' hafter' => ?_
          obtain ⟨before', rfl, hbefore'⟩ := hafter'
          let ended : Entry κ :=
            .returned (.activate name entry.generation entry.extension) activated
          have hended : Holds (some { watch with seen := ended :: watch.seen })
              (before'.noting ended) := (hbefore' _ ((hall _ hkept).note rfl)).see rfl
          refine .pure ⟨(hbefore' _ hactivate.1).note rfl, ended, ?_, hended⟩
          rcases activated with panic | cause | ⟨⟩
          · exact beq_self_eq_true _
          · exact beq_self_eq_true _
          · rfl

/-- No entry of a registration is active. -/
def Inactive (generation : Nat) (registry : Registered κ) : Prop :=
  ∀ name stored, registry.get? name = some stored → stored.generation = generation →
    stored.state ≠ .active

/-- A registration whose bring-up has ended becomes active if the bring-up succeeded and the
registration is still stored.  Otherwise it is not active. -/
theorem meets_settle {watch : Watch κ} {begun told : Entry κ} {earlier : List (Entry κ)}
    {result : Except ExtensionError Unit} (holds : Holds watch? session)
    (hother : ∀ other ∈ watch?, other.generation ≠ entry.generation)
    (hwatch : Holds (some watch) session) (hgeneration : watch.generation = entry.generation)
    (hbase : watch.base = begun :: earlier) (hbegun : begun.lists watch.generation = true)
    (hseen : told ∈ watch.seen) (htold : ToldBy name entry told result)
    (items : List (Contributed (ActionBody κ))) :
    (Session.settle name entry.generation items result).Meets (HoldsAt watch?) caller session
      fun answer after => Holds watch? after ∧
        (answer = .ok true → result = .ok () ∧
          session.extensions.holds name entry.generation = true ∧
          after = { session with extensions := session.extensions.setActive name items }) ∧
        (answer ≠ .ok true → Inactive entry.generation after.extensions) := by
  have hwatched := hwatch.2 watch rfl
  -- While it is stored, the registration is still being activated.
  have hinactive : Inactive entry.generation session.extensions := by
    intro other stored hstored hsame
    have hactivating := (hwatched.stored other stored hstored (hsame.trans hgeneration.symm)).2
    rw [hactivating]
    nofun
  refine .read_bind ?_
  cases hheld : session.extensions.holds name entry.generation with
  | false =>
      cases result with
      | ok _ =>
          refine (meets_withdrawAll holds items).bind fun _ after hafter => .pure ?_
          refine ⟨hafter.1, nofun, fun _ => ?_⟩
          rw [hafter.2]
          exact hinactive
      | error cause =>
          refine (meets_withdrawAll holds items).bind fun _ after hafter => .pure ?_
          refine ⟨hafter.1, nofun, fun _ => ?_⟩
          rw [hafter.2]
          exact hinactive
  | true =>
      obtain ⟨stored, hstored, hsame⟩ := ExtensionRegistry.holds_iff.1 hheld
      have hchanged : ∀ change : ExtensionEntry (Extension κ) (ActionBody κ) →
          ExtensionEntry (Extension κ) (ActionBody κ),
          (∀ entry, (change entry).generation = entry.generation) →
          (change stored).Fits session.journal →
            Holds watch? { session with extensions := session.extensions.modify name change } := by
        intro change hkept hfits
        refine ⟨holds.1.modify hkept fun found hfound => ?_, fun other hmem =>
          (holds.2 other hmem).modify hkept fun found hfound => ?_⟩
        · rw [hstored] at hfound
          obtain rfl := Option.some.inj hfound
          exact hfits
        · rw [hstored] at hfound
          obtain rfl := Option.some.inj hfound
          rw [hsame]
          exact (hother other hmem).symm
      cases result with
      | ok _ =>
          have hstands := hwatched.stands hbase hbegun hseen
            (by rw [show told = _ from htold, hgeneration]; exact beq_self_eq_true _) hstored
            (hsame.trans hgeneration.symm)
          rw [hgeneration, ← hsame] at hstands
          refine .change_bind (.pure ⟨hchanged _ (fun _ => rfl) ⟨nofun, fun _ => hstands⟩, ?_, ?_⟩)
          · exact fun _ => ⟨rfl, rfl, rfl⟩
          · exact fun hne => absurd rfl hne
      | error cause =>
          have hidle := hwatched.idle hbase hbegun hseen (by rw [hgeneration]; exact htold)
          rw [hgeneration, ← hsame] at hidle
          have hreset := hchanged (fun entry => { entry with state := .registered }) (fun _ => rfl)
            ⟨fun _ => hidle, nofun⟩
          refine .change_bind ((meets_withdrawAll hreset items).bind
            fun _ after hafter => .pure ⟨hafter.1, nofun, fun _ => ?_⟩)
          rw [hafter.2]
          intro other found hfound hsame'
          rcases ExtensionRegistry.exists_of_get?_modify hfound with ⟨-, before, -, rfl⟩ | ⟨-, hget⟩
          · nofun
          · exact hinactive other found hget hsame'

/-- An activation that says so has made the very entry active that it brought up, and any other one
has not. -/
structure Activated (name : String) (before : Session κ S) (answer : Except ExtensionError Bool)
    (after : Session κ S) : Prop where
  active : answer = .ok true → ∃ entry active, before.extensions.get? name = some entry ∧
    entry.state = .registered ∧ after.extensions.get? name = some active ∧
    active.generation = entry.generation ∧ active.extension = entry.extension ∧
    active.state = .active ∧ ∃ noted, after.journal = noted ++ before.journal ∧
      .returned (.activate name entry.generation entry.extension) (.ok (.ok ())) ∈ noted
  inactive : answer ≠ .ok true → ∀ entry, before.extensions.get? name = some entry →
    entry.state = .registered → Inactive entry.generation after.extensions

/-- A registered entry is marked and then brought up. -/
theorem holdsAt_listing (holds : Holds watch? session)
    (hstored : session.extensions.get? name = some entry) (hregistered : entry.state = .registered)
    (hother : ∀ watch ∈ watch?, watch.generation ≠ entry.generation) :
    HoldsAt watch? ⟨.called (.listing name entry.generation entry.extension),
      { session with extensions := session.extensions.setState name .activating }⟩ := by
  refine ⟨⟨holds.1.setActivating hstored hregistered entry.extension, fun watch hmem => ?_⟩, ?_⟩
  · have hmarked : Watched watch (session.extensions.setState name .activating)
        session.journal := by
      refine (holds.2 watch hmem).modify (fun _ => rfl) fun found hfound => ?_
      rw [hstored] at hfound
      obtain rfl := Option.some.inj hfound
      exact (hother watch hmem).symm
    exact hmarked.note (beq_eq_false_iff_ne.2 (hother watch hmem).symm) nofun
  · rintro _ _ _ ⟨⟩
    refine ⟨session, entry.contributed, ?_, ?_, rfl⟩
    · rw [hstored, ← hregistered]
    · exact (holds.1.fits name entry hstored).idle hregistered

/-- The entry that has become active is the one that was registered, and the journal tells of its
activation. -/
theorem exists_active {before : Session κ S} (hstored : before.extensions.get? name = some entry)
    (hregistered : entry.state = .registered)
    (hheld : session.extensions.holds name entry.generation = true) {told : Entry κ}
    (hwatch : Holds (some ⟨entry.generation, some (name, entry.extension),
      .called (.listing name entry.generation entry.extension) :: before.journal, [told]⟩) session)
    (htold : ToldBy name entry told (.ok ())) (items : List (Contributed (ActionBody κ))) :
    ∃ entry active, before.extensions.get? name = some entry ∧ entry.state = .registered ∧
      (session.extensions.setActive name items).get? name = some active ∧
      active.generation = entry.generation ∧ active.extension = entry.extension ∧
      active.state = .active ∧ ∃ noted, session.journal = noted ++ before.journal ∧
        .returned (.activate name entry.generation entry.extension) (.ok (.ok ())) ∈ noted := by
  obtain ⟨stored, hget, hsame⟩ := ExtensionRegistry.holds_iff.1 hheld
  have hwatched := hwatch.2 _ rfl
  obtain ⟨noted, hjournal, hseen, -⟩ := hwatched.since
  have hplace := (hwatched.stored name stored hget hsame).1
  have hactive : (session.extensions.setActive name items).get? name =
      some { stored with state := .active, contributed := items } :=
    ExtensionRegistry.get?_modify_self hget _
  refine ⟨entry, _, hstored, hregistered, hactive, hsame, ?_, rfl,
    noted ++ [.called (.listing name entry.generation entry.extension)], ?_, ?_⟩
  · exact (congrArg Prod.snd (Option.some.inj hplace)).symm
  · rw [hjournal, List.append_assoc]
    rfl
  · rw [← show told = _ from htold]
    exact List.mem_append_left _ (hseen List.mem_cons_self)

theorem meets_activate (apart : caller.HostApart) (upholds : caller.Upholds Holds HoldsAt)
    (holds : Holds watch? session) (name : String) :
    (Session.activate name).Meets (HoldsAt watch?) caller session fun answer after =>
      Holds watch? after ∧ Activated name session answer after := by
  refine .read_bind ?_
  cases hstored : session.extensions.get? name with
  | none =>
      refine .pure ⟨holds, nofun, fun _ entry hentry => ?_⟩
      rw [hstored] at hentry
      cases hentry
  | some entry =>
      dsimp only
      split
      · rename_i hstate
        refine .pure ⟨holds, nofun, fun _ other hother hregistered => ?_⟩
        rw [hstored] at hother
        obtain rfl := Option.some.inj hother
        exact absurd hregistered hstate
      · rename_i hstate
        have hregistered : entry.state = .registered := Decidable.not_not.1 hstate
        -- What is watched is being activated already.
        have hother : ∀ watch ∈ watch?, watch.generation ≠ entry.generation := by
          intro watch hmem heq
          have hactivating := ((holds.2 watch hmem).stored name entry hstored heq.symm).2
          rw [hregistered] at hactivating
          cases hactivating
        have hcalled := holdsAt_listing holds hstored hregistered hother
        -- From here on the registration is watched.
        let watch : Watch κ := ⟨entry.generation, some (name, entry.extension),
          .called (.listing name entry.generation entry.extension) :: session.journal, []⟩
        have hwatched : Holds (some watch) _ := ⟨hcalled.1.1, by
          rintro _ ⟨⟩
          exact .setActivating holds.1 hstored _⟩
        refine .change_bind ((meets_bringUp apart upholds hcalled hwatched).bind
          fun brought after hbrought => ?_)
        obtain ⟨items, result⟩ := brought
        obtain ⟨hafter, told, htold, hwatch⟩ := hbrought
        refine (meets_settle hafter hother hwatch rfl rfl (beq_self_eq_true _)
          List.mem_cons_self htold items).mono fun answer final hfinal => ?_
        refine ⟨hfinal.1, ⟨fun htrue => ?_, fun hne other hget _ => ?_⟩⟩
        · obtain ⟨rfl, hheld, rfl⟩ := hfinal.2.1 htrue
          exact exists_active hstored hregistered hheld hwatch htold items
        · rw [hstored] at hget
          obtain rfl := Option.some.inj hget
          exact hfinal.2.2 hne

/-! ## All runs -/

variable {allowed : Request κ → Prop}

theorem extensions : (Upholding (Holds (κ := κ) (S := S)) HoldsAt).Extensions where
  register name extension := .part (upholds_register name extension)
  unregister name := .part (upholds_unregister name)
  activate name := .part fun _ apart upholds _ _ holds =>
    (meets_activate apart upholds holds name).mono fun _ _ hafter => hafter.1
  deactivate name := .part (upholds_deactivate name)

/-- The registry and the journal stay orderly, whatever is done and whatever callbacks do. -/
theorem governs (T : Option (Watch κ) → Prop) :
    Governs allowed T (Holds (κ := κ) (S := S)) HoldsAt :=
  ⟨law.covers extensions, fun _ holds => holds, fun htop _ holdsAt => ⟨_, htop, holdsAt.1⟩⟩

theorem holds_fresh (sink : ChordSink) (host : Host) (app : S) :
    Holds none (.fresh sink host app : Session κ S) := by
  have hnone : ∀ name, (.fresh sink host app : Session κ S).extensions.get? name = none :=
    fun _ => rfl
  refine ⟨⟨fun name entry hentry => ?_, fun name _ entry _ hentry => ?_,
    fun _ _ hmem => absurd hmem List.not_mem_nil, fun name entry hentry => ?_,
    fun _ later _ _ hsplit => (by cases later <;> cases hsplit)⟩, by simp⟩
  all_goals
    rw [hnone] at hentry
    cases hentry

theorem holds_of_reaches {sink : ChordSink} {host : Host} {app : S}
    (reaches : (Session.fresh sink host app).Reaches allowed session) : Holds none session := by
  obtain ⟨_, rfl, holds⟩ := (governs (· = none)).reaches
    ⟨none, rfl, holds_fresh sink host app⟩ reaches
  exact holds

/-- A registration that is gone never comes back. -/
theorem gone_of_passes (holds : Holds none session) {generation : Nat}
    (hknown : generation ≤ session.extensions.lastGeneration)
    (hgone : ∀ name entry, session.extensions.get? name = some entry →
      entry.generation ≠ generation)
    {later : Session κ S} (passes : session.Passes allowed later) :
    ∀ name entry, later.extensions.get? name = some entry → entry.generation ≠ generation := by
  have hwatch : Holds (some ⟨generation, none, session.journal, []⟩) session := by
    refine ⟨holds.1, ?_⟩
    rintro _ ⟨⟩
    exact ⟨hknown, fun name entry hentry heq => absurd heq (hgone name entry hentry),
      [], rfl, by simp, by simp, by simp⟩
  -- The watched registration has no place where it may be stored.
  have hnowhere : ∀ {reached : Session κ S},
      Holds (some ⟨generation, none, session.journal, []⟩) reached →
        ∀ name entry, reached.extensions.get? name = some entry →
          entry.generation ≠ generation := by
    intro reached hreached name entry hentry heq
    cases ((hreached.2 _ rfl).stored name entry hentry heq).1
  refine (governs (· = some ⟨generation, none, session.journal, []⟩)).passes
    (R := fun later => ∀ name entry, later.extensions.get? name = some entry →
      entry.generation ≠ generation) ?_ ?_ ⟨_, rfl, hwatch⟩ passes
  · rintro _ reached rfl hreached
    exact hnowhere hreached
  · rintro _ moment rfl hoccurs
    have hnoted := hnowhere hoccurs.1
    exact hnoted

end Lifecycle

/-- Extensions are brought up one after the other, whatever they do to the registry from inside
their own calls.

A bring-up begins only while its registration is stored and not active, and when every bring-up of
it before is over.  Activating an extension that is being activated or active does nothing.
An activation says that it has made an extension active only if the registration that it brought up
is still stored and active then; in particular a registration that is gone never comes back. -/
theorem bring_ups_orderly {sink : ChordSink} {host : Host} {app : S} {session : Session κ S}
    (reaches : (Session.fresh sink host app).Reaches (fun _ => True) session) :
    (∀ moment : Moment κ S, moment.OccursFrom (fun _ => True) session →
        moment.BeginsRegistered) ∧
      (∀ generation later begun earlier, session.journal = later ++ begun :: earlier →
        begun.lists generation = true → Idle generation earlier) ∧
      (∀ name entry, session.extensions.get? name = some entry → entry.state ≠ .registered →
        ∀ caller : Caller κ S, (Session.activate name).run caller session = (.ok false, session) ∧
          (Session.activate name).moments caller session = []) ∧
      (∀ (code : Code κ S) (depth : Nat) (name : String), code.Within (fun _ => True) →
        Lifecycle.Activated name session ((Session.activate name).run (code.caller depth) session).1
          ((Session.activate name).run (code.caller depth) session).2) ∧
      (∀ name entry, session.extensions.get? name = some entry → entry.state = .active →
        Stands entry.generation session.journal) ∧
      ∀ generation ≤ session.extensions.lastGeneration,
        (∀ name entry, session.extensions.get? name = some entry →
          entry.generation ≠ generation) →
          ∀ later : Session κ S, session.Passes (fun _ => True) later →
            ∀ name entry, later.extensions.get? name = some entry →
              entry.generation ≠ generation := by
  have holds := Lifecycle.holds_of_reaches reaches
  refine ⟨fun moment occurs => ?_, holds.1.begun, fun name entry hstored hstate caller => ?_,
    fun code depth name within => ?_, fun name entry hstored hactive => ?_,
    fun generation hknown hgone later passes => ?_⟩
  · exact (Lifecycle.governs fun _ => True).occurs holds occurs |>.2
  · constructor
    · simp [Session.activate, hstored, hstate]
    · simp [Session.activate, hstored, hstate]
  · have upholds := (Lifecycle.governs fun _ => True).caller within depth
    exact (Lifecycle.meets_activate (within.apart depth) upholds holds name).1.2
  · exact (holds.1.fits name entry hstored).stands hactive
  · exact Lifecycle.gone_of_passes holds hknown hgone passes

/-- A program with two extensions: the first one replaces itself by the second one while it is being
activated, and activates that. -/
def Code.replacing : Code Bool Unit :=
  .ofExtensions (fun _ => .done [])
    (fun key =>
      if key then
        .request (.register "a" (.user false)) fun _ =>
          .request (.activate "a") fun _ => .done (.ok ())
      else .done (.ok ()))
    fun _ => .done (.ok ())

theorem Code.within_replacing : Code.replacing.Within fun _ => True := by
  refine Code.within_ofExtensions (fun _ => trivial) (fun key => ?_) fun _ => trivial
  cases key
  · exact trivial
  · exact ⟨trivial, fun _ => ⟨trivial, fun _ => trivial⟩⟩

/-- A session in which the first extension has been activated. -/
def Session.replacedSession : Session Bool Unit :=
  ((Request.activate "a").perform.run (Code.replacing.caller 2)
    ((Request.register "a" (.user true)).perform.run (Code.replacing.caller 2)
      (.fresh .nobody (.fresh .recording true) ())).2).2

/-- The second registration is active, and the first one never comes back. -/
theorem bring_ups_orderly_replaced :
    Session.replacedSession.extensions.get? "a" = some ⟨.user false, .active, 2, []⟩ ∧
      Stands 2 Session.replacedSession.journal ∧
      ∀ later : Session Bool Unit, Session.replacedSession.Passes (fun _ => True) later →
        ∀ name entry, later.extensions.get? name = some entry → entry.generation ≠ 1 := by
  have reaches : (Session.fresh .nobody (.fresh .recording true) () : Session Bool Unit).Reaches
      (fun _ => True) Session.replacedSession :=
    .act (.request _ trivial) Code.within_replacing
      (.act (.request _ trivial) Code.within_replacing .refl)
  have hstored : Session.replacedSession.extensions.entries.entries =
      [("a", ⟨.user false, .active, 2, []⟩)] := by rfl
  obtain ⟨-, -, -, -, hstands, hgone⟩ := bring_ups_orderly reaches
  have hactive : Session.replacedSession.extensions.get? "a" =
      some ⟨.user false, .active, 2, []⟩ := by rfl
  refine ⟨hactive, hstands "a" _ hactive rfl, hgone 1 (by decide) fun name entry hentry heq => ?_⟩
  have hmem := Table.mem_entries_iff.2 hentry
  rw [hstored, List.mem_singleton] at hmem
  cases hmem
  cases heq

end EditorShell
