import EditorShell.Proofs.Extension.Contributions
import EditorShell.Proofs.Run.ExtensionLaw

/-!
# Which bindings an extension takes with it

When an extension is deactivated, unregistered or replaced, its default chords are released.  Who
bound a chord is not recorded.  What is released is therefore told by the binding itself: it is one
of a chord that was bound as a default for the extension, to the same command and without arguments
(`Contributed.isDefault`).  Every other binding is left alone, whoever made it and whenever
(`bindings_released`).

A binding that someone else makes with just that chord and command is taken for the default and is
lost (`bound_again_released`).

## Strategy

Withdrawing is a fold over the contributions, and each of them filters the binding of every chord
(`releases_foldl_takingBack`).  That the defaults were listed by the extension itself is a law of
the extensions: an entry gets its contributions from a bring-up that has read them off a listing,
and the journal only grows.
-/

namespace EditorShell

variable {κ S : Type}

/-! ## What is released -/

/-- Whether a binding of a chord is the one that was made by default for a contribution. -/
def Contributed.isDefault {B : Type} (item : Contributed B) (text : String)
    (binding : KeyBinding) : Bool :=
  item.chord.any (fun chord => chord.text == text) && binding.command == item.name &&
    binding.args.isNone

namespace Session

variable {session : Session κ S}

/-- From `before` to `after` the chords lose the bindings that are defaults of `items`, and no
others. -/
def Releases (items : List (Contributed (ActionBody κ))) (before after : Session κ S) : Prop :=
  ∀ text, after.keys.bindings.get? text = (before.keys.bindings.get? text).filter fun binding =>
    !items.any fun item => item.isDefault text binding

/-- A binding stays exactly if it is no default. -/
theorem Releases.stays_iff {items : List (Contributed (ActionBody κ))} {before after : Session κ S}
    (releases : Releases items before after) {text : String} {binding : KeyBinding}
    (hbound : before.keys.bindings.get? text = some binding) :
    after.keys.bindings.get? text = some binding ↔
      ∀ item ∈ items, item.isDefault text binding = false := by
  rw [releases text, hbound, Option.filter_some]
  simp

private theorem filter_eq_self {α : Type} {value? : Option α} {p : α → Bool}
    (hp : ∀ value ∈ value?, p value = true) : value?.filter p = value? := by
  cases value? with
  | none => rfl
  | some value => exact Option.filter_some_pos (hp value rfl)

theorem get?_bindings_takingBack (item : Contributed (ActionBody κ)) (text : String) :
    (session.takingBack item).keys.bindings.get? text =
      (session.keys.bindings.get? text).filter fun binding => !item.isDefault text binding := by
  cases hchord : item.chord with
  | none =>
      have hkeys : (session.takingBack item).keys = session.keys := by simp [takingBack, hchord]
      rw [hkeys, filter_eq_self]
      intro binding _
      simp [Contributed.isDefault, hchord]
  | some chord =>
      have hkeys : (session.takingBack item).keys =
          if session.isDefaultBinding chord item.name then session.keys.unbind chord
          else session.keys := by simp [takingBack, hchord]
      have hdefault : ∀ binding, item.isDefault text binding =
          (chord.text == text && binding.command == item.name && binding.args.isNone) := by
        intro binding
        rw [Contributed.isDefault, hchord, Option.any_some]
      by_cases htext : chord.text = text
      · subst htext
        cases hbound : session.keys.bindings.get? chord.text with
        | none =>
            have hfree : session.isDefaultBinding chord item.name = false := by
              rw [isDefaultBinding, KeyDispatcher.binding?, hbound, Option.any_none]
            rw [hkeys, hfree, if_neg Bool.false_ne_true, hbound, Option.filter_none]
        | some binding =>
            have hplace : session.isDefaultBinding chord item.name =
                item.isDefault chord.text binding := by
              rw [isDefaultBinding, KeyDispatcher.binding?, hbound, Option.any_some, hdefault,
                beq_self_eq_true, Bool.true_and]
            rw [hkeys, hplace, Option.filter_some]
            cases item.isDefault chord.text binding with
            | true => exact (Table.get?_erase _ _ _).trans (if_pos rfl)
            | false => exact hbound
      -- The binding of another chord may be removed, which is no default of this one.
      · have hother : (session.takingBack item).keys.bindings.get? text =
            session.keys.bindings.get? text := by
          rw [hkeys]
          split
          · exact (Table.get?_erase _ _ _).trans (if_neg (Ne.symm htext))
          · rfl
        rw [hother, filter_eq_self]
        intro binding _
        rw [hdefault, beq_eq_false_iff_ne.2 htext]
        rfl

theorem releases_foldl_takingBack (items : List (Contributed (ActionBody κ))) :
    Releases items session (items.foldl takingBack session) := by
  induction items generalizing session with
  | nil =>
      intro text
      exact (filter_eq_self fun _ _ => rfl).symm
  | cons item rest ih =>
      intro text
      rw [List.foldl_cons, ih, get?_bindings_takingBack, Option.filter_filter]
      simp only [List.any_cons, Bool.not_or]

/-- The session once an extension has been told of its deactivation, and nothing is withdrawn
yet. -/
def toldOff (caller : Caller κ S) (name : String)
    (entry : ExtensionEntry (Extension κ) (ActionBody κ)) (session : Session κ S) : Session κ S :=
  ((Act.call (.deactivate name entry.generation entry.extension)).run caller session).2

variable {caller : Caller κ S} {name : String}
  {entry : ExtensionEntry (Extension κ) (ActionBody κ)}

theorem releases_shutDown (session : Session κ S) :
    Releases entry.contributed (session.toldOff caller name entry)
      ((shutDown name entry).run caller session).2 := by
  unfold shutDown toldOff
  rw [Act.run_bind, Act.run_bind, Act.run_pure, run_withdrawAll]
  exact releases_foldl_takingBack entry.contributed

/-- Deactivating, unregistering and replacing an extension all release its defaults. -/
theorem releases_of_stored (hstored : session.extensions.get? name = some entry) :
    (entry.state = .active → Releases entry.contributed
        (({ session with extensions := session.extensions.setInactive name } : Session κ S).toldOff
          caller name entry) ((deactivate name).run caller session).2) ∧
      Releases entry.contributed
        (({ session with extensions := session.extensions.remove name } : Session κ S).toldOff
          caller name entry) ((unregister name).run caller session).2 ∧
      ∀ extension, Releases entry.contributed
        (({ session with extensions := session.extensions.remove name } : Session κ S).toldOff
          caller name entry) ((register name extension).run caller session).2 := by
  have hunregister : Releases entry.contributed
      (({ session with extensions := session.extensions.remove name } : Session κ S).toldOff
        caller name entry) ((unregister name).run caller session).2 := by
    rw [run_unregister hstored]
    exact releases_shutDown _
  refine ⟨fun hactive => ?_, hunregister, fun extension => ?_⟩
  · rw [run_deactivate hstored hactive]
    exact releases_shutDown _
  · unfold register
    rw [Act.run_bind]
    exact hunregister

end Session

/-! ## Where the defaults come from -/

/-- The journal tells that a registration has listed a command under this name whose default chord
is the one that a contribution remembers. -/
def Contributed.ListedBy (generation : Nat) (journal : List (Entry κ))
    (item : Contributed (ActionBody κ)) : Prop :=
  ∀ chord, item.chord = some chord → ∃ name extension contributions,
    Entry.returned (.listing name generation extension) (.ok contributions) ∈ journal ∧
      ∃ contribution ∈ contributions, contribution.name = item.name ∧
        ∃ keys, contribution.keys = some keys ∧ Chord.parse keys = .ok chord

namespace Listed

variable {session : Session κ S} {told : List (Entry κ)}

/-- Every stored default was listed, and the entries of `told` have been noted. -/
structure Holds (told : List (Entry κ)) (session : Session κ S) : Prop where
  listed : ∀ name entry, session.extensions.get? name = some entry →
    ∀ item ∈ entry.contributed, item.ListedBy entry.generation session.journal
  noted : ∀ entry ∈ told, entry ∈ session.journal

/-- The same in the middle of an operation. -/
def HoldsAt (told : List (Entry κ)) (moment : Moment κ S) : Prop := Holds told moment.session

theorem Holds.noting (holds : Holds told session) (entry : Entry κ) :
    Holds told (session.noting entry) := by
  refine ⟨fun name stored hstored item hitem chord hchord => ?_,
    fun other hother => List.mem_cons_of_mem entry (holds.noted other hother)⟩
  obtain ⟨name', extension, contributions, hreturned, hlisted⟩ :=
    holds.listed name stored hstored item hitem chord hchord
  exact ⟨name', extension, contributions, List.mem_cons_of_mem entry hreturned, hlisted⟩

theorem law : ExtensionLaw (Holds (κ := κ) (S := S)) HoldsAt where
  congr heq hjournal holds := ⟨by rw [heq, hjournal]; exact holds.listed, by
    rw [hjournal]
    exact holds.noted⟩
  note _ holds := holds.noting _
  moment _ holds := holds

/-- A change of an entry that leaves its generation alone and adds only contributions that were
listed. -/
theorem Holds.modify (holds : Holds told session) {name : String}
    {change : ExtensionEntry (Extension κ) (ActionBody κ) →
      ExtensionEntry (Extension κ) (ActionBody κ)}
    (hgeneration : ∀ entry, (change entry).generation = entry.generation)
    (hitems : ∀ entry, session.extensions.get? name = some entry →
      ∀ item ∈ (change entry).contributed, item.ListedBy entry.generation session.journal) :
    Holds told { session with extensions := session.extensions.modify name change } := by
  refine ⟨fun wanted entry hentry item hitem => ?_, holds.noted⟩
  have hentry : (session.extensions.modify name change).get? wanted = some entry := hentry
  rw [ExtensionRegistry.get?_modify] at hentry
  split at hentry
  · obtain ⟨before, hbefore, rfl⟩ := Option.map_eq_some_iff.1 hentry
    rw [hgeneration]
    exact hitems before hbefore item hitem
  · exact holds.listed wanted entry hentry item hitem

theorem Holds.remove (holds : Holds told session) (name : String) :
    Holds told { session with extensions := session.extensions.remove name } := by
  refine ⟨fun wanted entry hentry item hitem => ?_, holds.noted⟩
  have hentry : (session.extensions.remove name).get? wanted = some entry := hentry
  rw [ExtensionRegistry.get?_remove] at hentry
  split at hentry
  · cases hentry
  · exact holds.listed wanted entry hentry item hitem

theorem Holds.add (holds : Holds told session) (name : String) (extension : Extension κ) :
    Holds told { session with extensions := session.extensions.add name extension } := by
  refine ⟨fun wanted entry hentry item hitem => ?_, holds.noted⟩
  have hentry : (session.extensions.add name extension).get? wanted = some entry := hentry
  rw [ExtensionRegistry.get?_add] at hentry
  split at hentry
  · obtain rfl := Option.some.inj hentry
    cases hitem
  · exact holds.listed wanted entry hentry item hitem

/-! ### Activation -/

variable {caller : Caller κ S} {name : String}
  {entry : ExtensionEntry (Extension κ) (ActionBody κ)}

private theorem exists_of_mapM_parse {keys? : Option String} {chord : Chord}
    (hparse : keys?.mapM Chord.parse = .ok (some chord)) :
    ∃ keys, keys? = some keys ∧ Chord.parse keys = .ok chord := by
  cases keys? with
  | none => cases hparse
  | some keys =>
      refine ⟨keys, rfl, ?_⟩
      have hmap : (Chord.parse keys).map some = .ok (some chord) := by
        rw [← hparse]
        rfl
      cases hkeys : Chord.parse keys with
      | error cause =>
          rw [hkeys] at hmap
          cases hmap
      | ok found =>
          rw [hkeys] at hmap
          cases hmap
          rfl

/-- What is remembered of a contribution is the chord that it asks for, or none. -/
theorem exists_of_mem_contributeAll (contributions : List (Contribution (ActionBody κ)))
    (session : Session κ S) {item : Contributed (ActionBody κ)}
    (hitem : item ∈ ((Session.contributeAll contributions).run caller session).1.1) {chord : Chord}
    (hchord : item.chord = some chord) :
    ∃ contribution ∈ contributions, contribution.name = item.name ∧
      ∃ keys, contribution.keys = some keys ∧ Chord.parse keys = .ok chord := by
  induction contributions generalizing session with
  | nil => cases hitem
  | cons contribution rest ih =>
      unfold Session.contributeAll at hitem
      split at hitem
      · cases hitem
      · rename_i chord? hparse
        rcases List.mem_cons.1 hitem with rfl | hitem
        · refine ⟨contribution, List.mem_cons_self, rfl, ?_⟩
          obtain ⟨hsome, -⟩ := Option.filter_eq_some_iff.1 hchord
          rw [hsome] at hparse
          exact exists_of_mapM_parse hparse
        · obtain ⟨other, hother, hlisted⟩ := ih _ hitem
          exact ⟨other, List.mem_cons_of_mem contribution hother, hlisted⟩

/-- The calls that extensions get uphold the law like all others. -/
theorem madeOf_call (call : Call κ) :
    (Act.call (S := S) call).MadeOf (Upholding Holds HoldsAt) := by
  have hnote : ∀ entry : Entry κ, (Act.note (S := S) entry).Upholds Holds HoldsAt := fun entry =>
    .note (fun holds => holds) fun holds => holds.noting entry
  exact .part (.call (hnote _) fun outcome => hnote _)

theorem meets_bringUp (apart : caller.HostApart) (upholds : caller.Upholds Holds HoldsAt)
    (holds : Holds told session) :
    (Session.bringUp name entry).Meets (HoldsAt told) caller session fun brought after =>
      Holds told after ∧ ∀ item ∈ brought.1, item.ListedBy entry.generation after.journal := by
  refine (Act.Meets.call_upholds upholds holds (holds.noting _) fun _ _ hbefore => hbefore).bind
    fun listed after hafter => ?_
  obtain ⟨before, rfl, hbefore⟩ := hafter
  let told' : Entry κ := .returned (.listing name entry.generation entry.extension) listed
  have hlisted : Holds told (before.noting told') := (hbefore told (holds.noting _)).noting told'
  cases listed with
  | error panic => exact .pure ⟨hlisted, fun _ hitem => by cases hitem⟩
  | ok contributions =>
      -- From here on the listing has been noted.
      have hseen : Holds [told'] (before.noting told') :=
        ⟨hlisted.listed, fun other hother => by
          obtain rfl := List.mem_singleton.1 hother
          exact List.mem_cons_self⟩
      refine ((Act.Upholds.of_madeOf (law.commands.contributeAll contributions)).meets apart upholds
        hlisted).bind fun contributed after hafter => ?_
      obtain ⟨hrun, hall⟩ := hafter
      obtain ⟨items, outcome⟩ := contributed
      have hitems : ∀ {later : Session κ S}, Holds [told'] later →
          ∀ item ∈ items, item.ListedBy entry.generation later.journal := by
        intro later hlater item hitem chord hchord
        have hmem : item ∈ ((Session.contributeAll contributions).run caller
            (before.noting told')).1.1 := by
          rw [← hrun]
          exact hitem
        exact ⟨name, entry.extension, contributions, hlater.noted told' List.mem_cons_self,
          exists_of_mem_contributeAll contributions _ hmem hchord⟩
      cases outcome with
      | error cause => exact .pure ⟨hall told hlisted, hitems (hall _ hseen)⟩
      | ok _ =>
          refine (Act.Meets.call_upholds upholds (hall told hlisted)
            ((hall told hlisted).noting _) fun _ _ hbefore => hbefore).bind
              fun activated after' hafter' => ?_
          obtain ⟨before', rfl, hbefore'⟩ := hafter'
          exact .pure ⟨(hbefore' told ((hall told hlisted).noting _)).noting _,
            hitems ((hbefore' _ ((hall _ hseen).noting _)).noting _)⟩

theorem meets_settle (holds : Holds told session) {generation : Nat}
    {items : List (Contributed (ActionBody κ))}
    (hitems : ∀ item ∈ items, item.ListedBy generation session.journal)
    (result : Except ExtensionError Unit) :
    (Session.settle name generation items result).Meets (HoldsAt told) caller session
      fun _ => Holds told := by
  have hwithdrawn : ∀ {later : Session κ S}, Holds told later →
      (Session.withdrawAll items).Meets (HoldsAt told) caller later fun _ => Holds told := by
    intro later hlater
    exact Session.meets_withdrawAll items (law.congr (Session.extensions_foldl_takingBack items)
      (Session.journal_foldl_takingBack items) hlater)
  refine .read_bind ?_
  -- What was contributed is kept only if the entry is still the same one; else all of it is
  -- withdrawn.
  cases hheld : session.extensions.holds name generation with
  | false =>
      cases result with
      | ok _ => exact (hwithdrawn holds).bind fun _ after hafter => .pure hafter
      | error cause => exact (hwithdrawn holds).bind fun _ after hafter => .pure hafter
  | true =>
      obtain ⟨stored, hstored, hsame⟩ := ExtensionRegistry.holds_iff.1 hheld
      cases result with
      | ok _ =>
          refine .change_bind (.pure (holds.modify (fun _ => rfl) fun found hfound => ?_))
          rw [hstored] at hfound
          obtain rfl := Option.some.inj hfound
          rw [hsame]
          exact hitems
      | error cause =>
          have hreset : Holds told
              { session with extensions := session.extensions.setState name .registered } :=
            holds.modify (fun _ => rfl) fun found hfound => holds.listed name found hfound
          exact .change_bind ((hwithdrawn hreset).bind fun _ after hafter => .pure hafter)

theorem upholds_activate (name : String) :
    (Session.activate name : Act κ S (Except ExtensionError Bool)).Upholds Holds HoldsAt := by
  intro caller apart upholds told session holds
  refine .read_bind ?_
  cases hstored : session.extensions.get? name with
  | none => exact .pure holds
  | some entry =>
      dsimp only
      split
      · exact .pure holds
      · have hmarked : Holds told
            { session with extensions := session.extensions.setState name .activating } :=
          holds.modify (fun _ => rfl) fun stored hget => holds.listed name stored hget
        exact .change_bind ((meets_bringUp apart upholds hmarked).bind fun brought after hafter =>
          meets_settle hafter.1 hafter.2 brought.2)

/-! ### All runs -/

theorem madeOf_unregister (name : String) :
    (Session.unregister name : Act κ S Bool).MadeOf (Upholding Holds HoldsAt) := by
  unfold Session.unregister
  refine .bind (.read _) fun entry? => .bind (.part (.change fun holds => holds.remove name))
    fun _ => ?_
  cases entry? with
  | none => exact .pure false
  | some entry =>
      exact .bind (Act.Class.Extensions.shutDown_of_call law.commands.withdrawAll name entry
        (madeOf_call _)) fun _ => .pure true

theorem extensions : (Upholding (Holds (κ := κ) (S := S)) HoldsAt).Extensions where
  register name extension :=
    .bind (madeOf_unregister name) fun _ => .part (.change fun holds => holds.add name extension)
  unregister := madeOf_unregister
  activate name := .part (upholds_activate name)
  deactivate name := by
    unfold Session.deactivate
    refine .bind (.read _) fun entry? => ?_
    cases entry? with
    | none => exact .pure _
    | some entry =>
        refine .ite (.pure _) (.bind (.part (.change fun holds => ?_)) fun _ => ?_)
        · exact holds.modify (fun _ => rfl) fun _ _ _ hitem => by cases hitem
        · exact .bind (Act.Class.Extensions.shutDown_of_call law.commands.withdrawAll name entry
            (madeOf_call _)) fun _ => .pure _

theorem governs (allowed : Request κ → Prop) :
    Governs allowed (fun _ => True) (Holds (κ := κ) (S := S)) HoldsAt :=
  ⟨law.covers extensions, fun _ holds => ⟨holds.listed, holds.noted⟩,
    fun _ _ holds => ⟨_, trivial, Holds.noting holds _⟩⟩

theorem holds_of_reaches {sink : ChordSink} {host : Host} {app : S} {allowed : Request κ → Prop}
    (reaches : (Session.fresh sink host app).Reaches allowed session) :
    ∃ told, Holds told session := by
  have hfresh : Holds [] (Session.fresh sink host app : Session κ S) := by
    refine ⟨fun name entry hentry => ?_, by simp⟩
    have hnone : (.fresh sink host app : Session κ S).extensions.get? name = none := rfl
    rw [hnone] at hentry
    cases hentry
  obtain ⟨told, -, holds⟩ := (governs allowed).reaches ⟨[], trivial, hfresh⟩ reaches
  exact ⟨told, holds⟩

end Listed

/-- An extension takes with it just those bindings that are its defaults by what they say.

When it is deactivated, unregistered or replaced, then, of all that is bound once it has been told
of its deactivation, the bindings of its default chords to its own commands without arguments are
removed; everything else stays bound as it is, and nothing is bound that was not.  Its default
chords are those that it listed for its commands. -/
theorem bindings_released {sink : ChordSink} {host : Host} {app : S} {session : Session κ S}
    (reaches : (Session.fresh sink host app).Reaches (fun _ => True) session) {name : String}
    {entry : ExtensionEntry (Extension κ) (ActionBody κ)}
    (stored : session.extensions.get? name = some entry) :
    (∀ item ∈ entry.contributed, item.ListedBy entry.generation session.journal) ∧
      ∀ caller : Caller κ S,
        let inactive : Session κ S :=
          { session with extensions := session.extensions.setInactive name }
        let removed : Session κ S :=
          { session with extensions := session.extensions.remove name }
        (entry.state = .active →
          Session.Releases entry.contributed (inactive.toldOff caller name entry)
            ((Session.deactivate name).run caller session).2) ∧
        Session.Releases entry.contributed (removed.toldOff caller name entry)
          ((Session.unregister name).run caller session).2 ∧
        ∀ extension, Session.Releases entry.contributed (removed.toldOff caller name entry)
          ((Session.register name extension).run caller session).2 := by
  obtain ⟨told, holds⟩ := Listed.holds_of_reaches reaches
  exact ⟨holds.listed name entry stored, fun caller => Session.releases_of_stored stored⟩

/-- A program with one extension, which contributes a command with a default chord. -/
def Code.greeting : Code Unit Unit :=
  .ofExtensions (fun _ => .done [⟨"greet", ⟨0, .user ()⟩, some "f1"⟩])
    (fun _ => .done (.ok ())) fun _ => .done (.ok ())

theorem Code.within_greeting : Code.greeting.Within fun _ => True :=
  Code.within_ofExtensions (fun _ => trivial) (fun _ => trivial) fun _ => trivial

/-- A session in which that extension is active and its chord has been bound again to `command`. -/
def Session.boundAgain (command : String) : Session Unit Unit :=
  ((Request.bind "f1" command none).perform.run (Code.greeting.caller 1)
    ((Request.activate "greeter").perform.run (Code.greeting.caller 1)
      ((Request.register "greeter" (.user ())).perform.run (Code.greeting.caller 1)
        (.fresh .dispatcher (.fresh .recording true) ())).2).2).2

theorem Session.reaches_boundAgain (command : String) :
    (Session.fresh .dispatcher (.fresh .recording true) () : Session Unit Unit).Reaches
      (fun _ => True) (Session.boundAgain command) :=
  .act (.request _ trivial) Code.within_greeting (.act (.request _ trivial) Code.within_greeting
    (.act (.request _ trivial) Code.within_greeting .refl))

/-- The chord stays bound to the command of someone else when the extension is deactivated. -/
theorem bindings_released_elsewhere :
    ((Session.deactivate "greeter").run (Code.greeting.caller 1)
      (Session.boundAgain "help")).2.keys.bindings.get? "f1" =
        some ⟨⟨.none, "f1"⟩, "help", none⟩ := by
  have hstored : (Session.boundAgain "help").extensions.get? "greeter" =
      some ⟨.user (), .active, 1, [⟨"greet", ⟨0, .user ()⟩, some ⟨.none, "f1"⟩⟩]⟩ := by rfl
  obtain ⟨-, hreleases⟩ := bindings_released (Session.reaches_boundAgain "help") hstored
  refine (((hreleases (Code.greeting.caller 1)).1 rfl).stays_iff (by rfl)).2 fun item hitem => ?_
  obtain rfl := List.mem_singleton.1 hitem
  decide

/-- Someone binds the chord to the command of the extension after that has been activated; the
extension itself does nothing when it is deactivated, and the binding is gone. -/
theorem bound_again_released :
    let bound := Session.boundAgain "greet"
    bound.extensions.isActive "greeter" = true ∧
      bound.keys.bindings.get? "f1" = some ⟨⟨.none, "f1"⟩, "greet", none⟩ ∧
      (bound.toldOff (Code.greeting.caller 1) "greeter"
        ⟨.user (), .active, 1, [⟨"greet", ⟨0, .user ()⟩, some ⟨.none, "f1"⟩⟩]⟩).keys.bindings.get?
          "f1" = some ⟨⟨.none, "f1"⟩, "greet", none⟩ ∧
      ((Session.deactivate "greeter").run (Code.greeting.caller 1) bound).2.keys.bindings.get?
        "f1" = none := by
  exact ⟨by rfl, by rfl, by rfl, by rfl⟩

end EditorShell
