import EditorShell.Proofs.Run.Governing

/-!
# Contributions are taken back exactly

An activation registers commands and binds default chords, one contribution after the other.  When
it fails, or when the extension is deactivated later, the contributions are withdrawn in the same
order.  Each of them takes back only what is still in place, and yet all of them together restore
every command and every binding, also when names and chords are repeated among them.

## Strategy

`Undoable` compares a session with an earlier one.  Wherever they differ the name or chord was free
before, and what stands there now belongs to one of the contributions that are still to be
withdrawn.  A new contribution adds itself to these, and withdrawing one removes it: what it leaves
in place belongs to another one.  When none is left, no difference is.
-/

namespace EditorShell

variable {κ S : Type}

/-- The same commands are registered, and the same chords are bound. -/
structure Session.SameTables (first second : Session κ S) : Prop where
  commands_eq : second.commands.commands = first.commands.commands
  bindings_eq : second.keys.bindings = first.keys.bindings

theorem Session.SameTables.refl (session : Session κ S) : session.SameTables session := ⟨rfl, rfl⟩

theorem Session.SameTables.trans {first second third : Session κ S}
    (hfirst : first.SameTables second) (hsecond : second.SameTables third) :
    first.SameTables third :=
  ⟨hsecond.commands_eq.trans hfirst.commands_eq, hsecond.bindings_eq.trans hfirst.bindings_eq⟩

/-- A call touches no command and no key binding. -/
structure Caller.LeavesTables (caller : Caller κ S) (call : Call κ) : Prop where
  tables : ∀ session : Session κ S, session.SameTables (caller.answer call session).2
  chordSink_eq : ∀ session : Session κ S,
    (caller.answer call session).2.chordSink = session.chordSink

/-- Where a session differs from an earlier one, nothing was registered or bound before, and what is
now belongs to one of `items`. -/
structure Undoable (before : Session κ S) (items : List (Contributed (ActionBody κ)))
    (after : Session κ S) : Prop where
  commands : ∀ name, after.commands.get? name = before.commands.get? name ∨
    before.commands.get? name = none ∧
      ∃ item ∈ items, item.name = name ∧ after.commands.holdsAction name item.action = true
  bindings : ∀ text, after.keys.bindings.get? text = before.keys.bindings.get? text ∨
    before.keys.bindings.get? text = none ∧
      ∃ item ∈ items, ∃ chord, item.chord = some chord ∧ chord.text = text ∧
        after.keys.bindings.get? text = some ⟨chord, item.name, none⟩
  absent : ∀ item ∈ items, before.commands.get? item.name = none
  free : ∀ item ∈ items, ∀ chord, item.chord = some chord →
    before.keys.bindings.get? chord.text = none

namespace Undoable

variable {before after : Session κ S} {items : List (Contributed (ActionBody κ))}

theorem refl (session : Session κ S) : Undoable session [] session :=
  ⟨fun _ => .inl rfl, fun _ => .inl rfl, by simp, by simp⟩

/-- Without contributions there is no difference. -/
theorem sameTables (undoable : Undoable before [] after) : before.SameTables after := by
  refine ⟨?_, ?_⟩
  · ext1 name
    rcases undoable.commands name with heq | ⟨-, item, hmem, -⟩
    · exact heq
    · cases hmem
  · ext1 text
    rcases undoable.bindings text with heq | ⟨-, item, hmem, -⟩
    · exact heq
    · cases hmem

theorem congr (undoable : Undoable before items after) {later : Session κ S}
    (same : after.SameTables later) : Undoable before items later := by
  obtain ⟨hcommands, hbindings⟩ := same
  refine ⟨fun name => ?_, fun text => ?_, undoable.absent, undoable.free⟩
  · have hname := undoable.commands name
    unfold CommandRegistry.holdsAction CommandRegistry.get? at hname ⊢
    rw [hcommands]
    exact hname
  · rw [hbindings]
    exact undoable.bindings text

/-- What was bound before is bound as it was. -/
theorem binding_kept (undoable : Undoable before items after) {text : String}
    {binding : KeyBinding} (hbound : before.keys.bindings.get? text = some binding) :
    after.keys.bindings.get? text = some binding := by
  rcases undoable.bindings text with heq | ⟨hnone, -⟩
  · rw [heq, hbound]
  · rw [hnone] at hbound
    cases hbound

end Undoable

/-! ## Single contributions -/

namespace Session

/-- A contribution is registered, and its chord is bound. -/
def contributing (session : Session κ S) (item : Contributed (ActionBody κ)) : Session κ S :=
  { session with
    commands := session.commands.insert
      ⟨{ CommandDescriptor.named item.name with keys := item.chord }, item.action⟩
    keys :=
      match item.chord with
      | some chord => session.keys.bind ⟨chord, item.name, none⟩
      | none => session.keys }

/-- A contribution is taken back as far as it is in place. -/
def takingBack (session : Session κ S) (item : Contributed (ActionBody κ)) : Session κ S :=
  { session with
    commands := (session.commands.unregisterAction item.name item.action).2
    keys :=
      match item.chord with
      | some chord =>
        if session.isDefaultBinding chord item.name then session.keys.unbind chord
        else session.keys
      | none => session.keys }

variable (caller : Caller κ S) (session : Session κ S)

/-- The chord of a contribution is bound if it is free. -/
theorem run_contribute (attached : session.chordSink = .dispatcher)
    (contribution : Contribution (ActionBody κ)) (chord? : Option Chord) :
    ∃ item : Contributed (ActionBody κ), item.name = contribution.name ∧
      (item.chord = chord?.filter fun chord => (session.keys.binding? chord).isNone) ∧
        (contribute contribution chord?).run caller session =
          (item, session.contributing item) := by
  refine ⟨⟨contribution.name, contribution.action,
    chord?.filter fun chord => (session.keys.binding? chord).isNone⟩, rfl, rfl, ?_⟩
  unfold contribute registerAction
  simp only [Act.run_bind, Act.run_read, Act.run_change]
  cases hchord : chord?.filter fun chord => (session.keys.binding? chord).isNone with
  | none => simp [contributing]
  | some chord => simp [contributing, announce, bindKeys, attached, CommandDescriptor.named]

theorem run_withdraw (item : Contributed (ActionBody κ)) :
    (withdraw item).run caller session = ((), session.takingBack item) := by
  unfold withdraw releaseDefault unregisterAction takingBack
  cases hchord : item.chord with
  | none => simp
  | some chord =>
      unfold releaseChord
      by_cases hplace : session.isDefaultBinding chord item.name = true
      · simp [hplace]
      · rw [Bool.not_eq_true] at hplace
        simp [hplace]

theorem run_withdrawAll (items : List (Contributed (ActionBody κ))) :
    (withdrawAll items).run caller session = ((), items.foldl takingBack session) := by
  induction items generalizing session with
  | nil => rfl
  | cons item rest ih =>
      unfold withdrawAll
      rw [Act.run_bind, run_withdraw, ih]
      rfl

/-- Withdrawing calls nothing. -/
theorem moments_withdrawAll (items : List (Contributed (ActionBody κ))) :
    (withdrawAll items).moments caller session = [] := by
  have hwithdraw : ∀ (item : Contributed (ActionBody κ)) (session : Session κ S),
      (withdraw item).moments caller session = [] := by
    intro item session
    unfold withdraw releaseDefault unregisterAction
    cases item.chord with
    | none => simp
    | some chord => simp [releaseChord]
  induction items generalizing session with
  | nil => rfl
  | cons item rest ih =>
      unfold withdrawAll
      rw [Act.moments_bind, hwithdraw, ih]
      rfl

variable {caller} {session}

theorem meets_withdrawAll {Q : Moment κ S → Prop} {R : Unit → Session κ S → Prop}
    (items : List (Contributed (ActionBody κ))) (hR : R () (items.foldl takingBack session)) :
    (withdrawAll items).Meets Q caller session R := by
  refine ⟨?_, fun moment hmoment => ?_⟩
  · rw [run_withdrawAll]
    exact hR
  · rw [moments_withdrawAll] at hmoment
    cases hmoment

theorem extensions_foldl_takingBack (items : List (Contributed (ActionBody κ))) :
    (items.foldl takingBack session).extensions = session.extensions := by
  induction items generalizing session with
  | nil => rfl
  | cons item rest ih => exact ih

theorem journal_foldl_takingBack (items : List (Contributed (ActionBody κ))) :
    (items.foldl takingBack session).journal = session.journal := by
  induction items generalizing session with
  | nil => rfl
  | cons item rest ih => exact ih

end Session

namespace Undoable

variable {before after : Session κ S} {item : Contributed (ActionBody κ)}
  {items rest : List (Contributed (ActionBody κ))}

theorem contributing (undoable : Undoable before items after)
    (habsent : before.commands.get? item.name = none)
    (hfree : ∀ chord, item.chord = some chord → after.keys.binding? chord = none) :
    Undoable before (items ++ [item]) (after.contributing item) := by
  have hmem : ∀ {other}, other ∈ items → other ∈ items ++ [item] := List.mem_append_left [item]
  have hitem : item ∈ items ++ [item] := List.mem_append_right items (List.mem_singleton_self item)
  -- A chord that is free now was free before: what was bound is bound still.
  have hfree' : ∀ chord, item.chord = some chord →
      before.keys.bindings.get? chord.text = none := by
    intro chord hchord
    cases hbound : before.keys.bindings.get? chord.text with
    | none => rfl
    | some binding =>
        have hnow := hfree chord hchord
        rw [KeyDispatcher.binding?, undoable.binding_kept hbound] at hnow
        cases hnow
  refine ⟨fun name => ?_, fun text => ?_, fun other hother => ?_,
    fun other hother chord hchord => ?_⟩
  · have hinsert : (after.contributing item).commands.get? name =
        if name = item.name then
          some ⟨{ CommandDescriptor.named item.name with keys := item.chord }, item.action⟩
        else after.commands.get? name := Table.get?_insert _ _ _ _
    unfold CommandRegistry.holdsAction
    rw [hinsert]
    split
    · rename_i heq
      subst heq
      exact .inr ⟨habsent, item, hitem, rfl, by simp⟩
    · rcases undoable.commands name with heq | ⟨hnone, other, hother, hheld⟩
      · exact .inl heq
      · exact .inr ⟨hnone, other, hmem hother, hheld⟩
  · have hold : after.keys.bindings.get? text = before.keys.bindings.get? text ∨
        before.keys.bindings.get? text = none ∧
          ∃ other ∈ items ++ [item], ∃ chord, other.chord = some chord ∧ chord.text = text ∧
            after.keys.bindings.get? text = some ⟨chord, other.name, none⟩ := by
      rcases undoable.bindings text with heq | ⟨hnone, other, hother, hbound⟩
      · exact .inl heq
      · exact .inr ⟨hnone, other, hmem hother, hbound⟩
    unfold Session.contributing
    cases hchord : item.chord with
    | none => exact hold
    | some chord =>
        dsimp only [KeyDispatcher.bind]
        rw [Table.get?_insert]
        split
        · rename_i heq
          subst heq
          exact .inr ⟨hfree' chord hchord, item, hitem, chord, hchord, rfl, rfl⟩
        · exact hold
  · rcases List.mem_append.1 hother with hother | hother
    · exact undoable.absent other hother
    · obtain rfl := List.mem_singleton.1 hother
      exact habsent
  · rcases List.mem_append.1 hother with hother | hother
    · exact undoable.free other hother chord hchord
    · obtain rfl := List.mem_singleton.1 hother
      exact hfree' chord hchord

theorem commands_takingBack (undoable : Undoable before (item :: rest) after) (name : String) :
    (after.takingBack item).commands.get? name = before.commands.get? name ∨
      before.commands.get? name = none ∧ ∃ other ∈ rest, other.name = name ∧
        (after.takingBack item).commands.holdsAction name other.action = true := by
  unfold Session.takingBack CommandRegistry.unregisterAction
  by_cases hholds : after.commands.holdsAction item.name item.action = true
  · simp only [hholds, if_true]
    have herase : (CommandRegistry.mk after.commands.nextAction
        (after.commands.commands.erase item.name)).get? name =
          if name = item.name then none else after.commands.get? name := Table.get?_erase _ _ _
    unfold CommandRegistry.holdsAction
    rw [herase]
    split
    · rename_i heq
      subst heq
      exact .inl (undoable.absent item List.mem_cons_self).symm
    · rename_i hne
      rcases undoable.commands name with heq | ⟨hnone, other, hother, hsame, hheld⟩
      · exact .inl heq
      · rcases List.mem_cons.1 hother with rfl | hother
        · exact absurd hsame.symm hne
        · exact .inr ⟨hnone, other, hother, hsame, hheld⟩
  -- Nothing is removed, so no command that is new can be the one of this contribution.
  · simp only [hholds]
    rcases undoable.commands name with heq | ⟨hnone, other, hother, hsame, hheld⟩
    · exact .inl heq
    · rcases List.mem_cons.1 hother with rfl | hother
      · rw [← hsame] at hheld
        exact absurd hheld hholds
      · exact .inr ⟨hnone, other, hother, hsame, hheld⟩

theorem bindings_takingBack (undoable : Undoable before (item :: rest) after) (text : String) :
    (after.takingBack item).keys.bindings.get? text = before.keys.bindings.get? text ∨
      before.keys.bindings.get? text = none ∧ ∃ other ∈ rest, ∃ chord, other.chord = some chord ∧
        chord.text = text ∧
          (after.takingBack item).keys.bindings.get? text = some ⟨chord, other.name, none⟩ := by
  unfold Session.takingBack
  cases hchord : item.chord with
  | none =>
      rcases undoable.bindings text with heq | ⟨hnone, other, hother, chord, hother', hbound⟩
      · exact .inl heq
      · rcases List.mem_cons.1 hother with rfl | hother
        · rw [hchord] at hother'
          cases hother'
        · exact .inr ⟨hnone, other, hother, chord, hother', hbound⟩
  | some chord =>
      -- Unless the chord is given back, it is not bound as the default of this contribution.
      have hkept : (chord.text = text → after.isDefaultBinding chord item.name = false) →
          after.keys.bindings.get? text = before.keys.bindings.get? text ∨
            before.keys.bindings.get? text = none ∧ ∃ other ∈ rest, ∃ chord,
              other.chord = some chord ∧ chord.text = text ∧
                after.keys.bindings.get? text = some ⟨chord, other.name, none⟩ := by
        intro hplace
        rcases undoable.bindings text with
          heq | ⟨hnone, other, hother, chord', hother', htext, hbound⟩
        · exact .inl heq
        · rcases List.mem_cons.1 hother with rfl | hother
          · rw [hchord] at hother'
            cases hother'
            have hdefault := hplace htext
            unfold Session.isDefaultBinding KeyDispatcher.binding? at hdefault
            rw [htext, hbound] at hdefault
            simp at hdefault
          · exact .inr ⟨hnone, other, hother, chord', hother', htext, hbound⟩
      cases hplace : after.isDefaultBinding chord item.name with
      | false =>
          simp only [hplace]
          exact hkept fun _ => hplace
      | true =>
          simp only [hplace, if_true, KeyDispatcher.unbind]
          rw [Table.get?_erase]
          split
          · rename_i heq
            subst heq
            exact .inl (undoable.free item List.mem_cons_self chord hchord).symm
          · rename_i hne
            exact hkept fun htext => absurd htext.symm hne

/-- What withdrawing a contribution leaves in place belongs to another one. -/
theorem takingBack (undoable : Undoable before (item :: rest) after) :
    Undoable before rest (after.takingBack item) :=
  ⟨undoable.commands_takingBack, undoable.bindings_takingBack,
    fun other hother => undoable.absent other (List.mem_cons_of_mem item hother),
    fun other hother => undoable.free other (List.mem_cons_of_mem item hother)⟩

theorem sameTables_withdrawAll {caller : Caller κ S} (undoable : Undoable before items after) :
    before.SameTables ((Session.withdrawAll items).run caller after).2 := by
  rw [Session.run_withdrawAll]
  induction items generalizing after with
  | nil => exact undoable.sameTables
  | cons item rest ih => exact ih undoable.takingBack

end Undoable

/-! ## Activations -/

namespace Session

variable {caller : Caller κ S} {before session : Session κ S} {name : String}
  {entry : ExtensionEntry (Extension κ) (ActionBody κ)}

theorem undoable_contributeAll (caller : Caller κ S) {items : List (Contributed (ActionBody κ))}
    (undoable : Undoable before items session) (attached : session.chordSink = .dispatcher)
    (contributions : List (Contribution (ActionBody κ)))
    (absent : ∀ contribution ∈ contributions, before.commands.get? contribution.name = none) :
    Undoable before (items ++ ((contributeAll contributions).run caller session).1.1)
      ((contributeAll contributions).run caller session).2 := by
  induction contributions generalizing session items with
  | nil =>
      unfold contributeAll
      rw [Act.run_pure, List.append_nil]
      exact undoable
  | cons contribution rest ih =>
      unfold contributeAll
      -- A chord that cannot be read ends it here, and what was contributed before can be undone.
      cases contribution.keys.mapM Chord.parse with
      | error cause =>
          dsimp only
          rw [Act.run_pure, List.append_nil]
          exact undoable
      | ok chord? =>
          obtain ⟨item, hname, hchord, hrun⟩ :=
            run_contribute caller session attached contribution chord?
          have hfree : ∀ chord, item.chord = some chord → session.keys.binding? chord = none := by
            intro chord hsome
            rw [hchord] at hsome
            exact Option.isNone_iff_eq_none.1 (Option.filter_eq_some_iff.1 hsome).2
          have habsent : before.commands.get? item.name = none := by
            rw [hname]
            exact absent contribution List.mem_cons_self
          have hrest := ih (undoable.contributing habsent hfree) attached fun other hother =>
            absent other (List.mem_cons_of_mem contribution hother)
          simp only [Act.run_bind, hrun, Act.run_pure]
          rw [List.append_assoc] at hrest
          exact hrest

/-- An extension that is told of its activation touches nothing itself. -/
structure Passive (caller : Caller κ S) (name : String)
    (entry : ExtensionEntry (Extension κ) (ActionBody κ)) : Prop where
  listing : caller.LeavesTables (.listing name entry.generation entry.extension)
  activate : caller.LeavesTables (.activate name entry.generation entry.extension)

/-- None of the commands that an extension lists is registered. -/
def OffersNew (caller : Caller κ S) (session : Session κ S) (name : String)
    (entry : ExtensionEntry (Extension κ) (ActionBody κ)) : Prop :=
  ∀ contributions after,
    caller.answer (.listing name entry.generation entry.extension) session =
        (.ok contributions, after) →
      ∀ contribution ∈ contributions, session.commands.get? contribution.name = none

theorem undoable_bringUp (passive : Passive caller name entry)
    (attached : session.chordSink = .dispatcher)
    (offersNew : OffersNew caller
      (session.noting (.called (.listing name entry.generation entry.extension))) name entry) :
    Undoable session ((bringUp name entry).run caller session).1.1
      ((bringUp name entry).run caller session).2 := by
  unfold bringUp
  rw [Act.run_bind, Act.run_call]
  have hlisted := passive.listing.tables
    (session.noting (.called (.listing name entry.generation entry.extension)))
  have hsink := passive.listing.chordSink_eq
    (session.noting (.called (.listing name entry.generation entry.extension)))
  unfold OffersNew at offersNew
  -- The extension only lists: while it does so the tables stay what they were.
  generalize caller.answer (.listing name entry.generation entry.extension) _ = listed
    at hlisted hsink offersNew ⊢
  obtain ⟨outcome, after⟩ := listed
  have hstart : Undoable session [] (after.noting
      (.returned (.listing name entry.generation entry.extension) outcome)) :=
    (Undoable.refl session).congr ⟨hlisted.commands_eq, hlisted.bindings_eq⟩
  cases outcome with
  | error panic => exact hstart
  | ok contributions =>
      have hcontributed := undoable_contributeAll caller hstart (hsink.trans attached) contributions
        (offersNew contributions after rfl)
      rw [List.nil_append] at hcontributed
      dsimp only
      rw [Act.run_bind]
      generalize (contributeAll contributions).run caller _ = contributed at hcontributed ⊢
      obtain ⟨⟨items, outcome⟩, after⟩ := contributed
      cases outcome with
      | error cause => exact hcontributed
      | ok _ =>
          dsimp only
          rw [Act.run_bind, Act.run_call, Act.run_pure]
          exact hcontributed.congr
            ⟨(passive.activate.tables _).commands_eq, (passive.activate.tables _).bindings_eq⟩

theorem run_settle_ok (caller : Caller κ S) (session : Session κ S) (name : String)
    (generation : Nat) (items : List (Contributed (ActionBody κ))) :
    (settle name generation items (.ok ())).run caller session =
      if session.extensions.holds name generation then
        (.ok true, { session with extensions := session.extensions.setActive name items })
      else (.ok false, ((withdrawAll items).run caller session).2) := by
  cases hheld : session.extensions.holds name generation <;>
    simp [settle, changeExtensions, hheld]

theorem run_settle_error (caller : Caller κ S) (session : Session κ S) (name : String)
    (generation : Nat) (items : List (Contributed (ActionBody κ))) (cause : ExtensionError) :
    (settle name generation items (.error cause)).run caller session =
      (.error cause, ((withdrawAll items).run caller
        (if session.extensions.holds name generation then
          { session with extensions := session.extensions.setState name .registered }
        else session)).2) := by
  cases hheld : session.extensions.holds name generation <;>
    simp [settle, changeExtensions, hheld]

/-- An activation keeps what was registered on the way, or takes it back. -/
theorem undoable_settle (caller : Caller κ S) (name : String)
    {items : List (Contributed (ActionBody κ))} (generation : Nat)
    (undoable : Undoable before items session) (result : Except ExtensionError Unit) :
    let settled := (settle name generation items result).run caller session
    (settled.1 = .ok true ∧ session.SameTables settled.2 ∧
        ∃ active, settled.2.extensions.get? name = some active ∧ active.state = .active ∧
          active.contributed = items) ∨
      settled.1 ≠ .ok true ∧ before.SameTables settled.2 := by
  intro settled
  cases result with
  | ok _ =>
      have hsettled : settled = _ := run_settle_ok caller session name generation items
      rw [hsettled]
      -- The entry may have been replaced meanwhile, and then nobody is left to keep the
      -- contributions.
      split
      · rename_i hheld
        left
        obtain ⟨stored, hstored, -⟩ := ExtensionRegistry.holds_iff.1 hheld
        have hactive : (session.extensions.setActive name items).get? name =
            some { stored with state := .active, contributed := items } :=
          ExtensionRegistry.get?_modify_self hstored _
        exact ⟨rfl, ⟨rfl, rfl⟩, _, hactive, rfl, rfl⟩
      · exact .inr ⟨nofun, undoable.sameTables_withdrawAll⟩
  | error cause =>
      have hsettled : settled = _ := run_settle_error caller session name generation items cause
      rw [hsettled]
      refine .inr ⟨nofun, Undoable.sameTables_withdrawAll ?_⟩
      split
      · exact undoable.congr ⟨rfl, rfl⟩
      · exact undoable

/-! ## The whole of it -/

theorem run_unregister (stored : session.extensions.get? name = some entry) :
    ((unregister name).run caller session).2 = ((shutDown name entry).run caller
      { session with extensions := session.extensions.remove name }).2 := by
  simp [unregister, stored, changeExtensions]

theorem run_unregister_of_none (missing : session.extensions.get? name = none) :
    ((unregister name).run caller session).2 =
      { session with extensions := session.extensions.remove name } := by
  simp [unregister, missing, changeExtensions]

theorem run_deactivate (stored : session.extensions.get? name = some entry)
    (active : entry.state = .active) :
    ((deactivate name).run caller session).2 = ((shutDown name entry).run caller
      { session with extensions := session.extensions.setInactive name }).2 := by
  simp [deactivate, stored, active, changeExtensions]

theorem run_activate (stored : session.extensions.get? name = some entry)
    (registered : entry.state = .registered) :
    (activate name).run caller session =
      let brought := (bringUp name entry).run caller
        { session with extensions := session.extensions.setState name .activating }
      (settle name entry.generation brought.1.1 brought.1.2).run caller brought.2 := by
  simp [activate, stored, registered, changeExtensions]

/-- Only an extension that waits for its activation is activated. -/
theorem run_activate_of_ne (hstate : session.extensions.state? name ≠ some .registered) :
    ((activate name).run caller session).2 = session := by
  unfold ExtensionRegistry.state? at hstate
  cases hentry : session.extensions.get? name with
  | none => simp [activate, hentry]
  | some entry =>
      rw [hentry, Option.map_some, ne_eq, Option.some.injEq] at hstate
      simp [activate, hentry, hstate]

/-- Only an active extension is deactivated. -/
theorem run_deactivate_of_ne (hstate : session.extensions.state? name ≠ some .active) :
    ((deactivate name).run caller session).2 = session := by
  unfold ExtensionRegistry.state? at hstate
  cases hentry : session.extensions.get? name with
  | none => simp [deactivate, hentry]
  | some entry =>
      rw [hentry, Option.map_some, ne_eq, Option.some.injEq] at hstate
      simp [deactivate, hentry, hstate]

theorem undoable_shutDown {later : Session κ S}
    (undoable : Undoable before entry.contributed later)
    (passive : caller.LeavesTables (.deactivate name entry.generation entry.extension)) :
    before.SameTables ((shutDown name entry).run caller later).2 := by
  have hcalled := passive.tables
    (later.noting (.called (.deactivate name entry.generation entry.extension)))
  unfold shutDown
  rw [Act.run_bind, Act.run_call, Act.run_bind, Act.run_pure]
  refine (undoable.congr ?_).sameTables_withdrawAll
  exact ⟨hcalled.commands_eq, hcalled.bindings_eq⟩

/-- Deactivating, unregistering and replacing an active extension all withdraw what it has
contributed. -/
theorem undone_shutDown (undoable : Undoable before entry.contributed session)
    (stored : session.extensions.get? name = some entry) (active : entry.state = .active)
    (passive : caller.LeavesTables (.deactivate name entry.generation entry.extension)) :
    before.SameTables ((deactivate name).run caller session).2 ∧
      before.SameTables ((unregister name).run caller session).2 ∧
      ∀ extension, before.SameTables ((register name extension).run caller session).2 := by
  have hshut : ∀ registry, before.SameTables
      ((shutDown name entry).run caller { session with extensions := registry }).2 :=
    fun registry => undoable_shutDown (undoable.congr ⟨rfl, rfl⟩) passive
  have hunregister : before.SameTables ((unregister name).run caller session).2 := by
    rw [run_unregister stored]
    exact hshut _
  refine ⟨?_, hunregister, fun extension => hunregister.trans ?_⟩
  · rw [run_deactivate stored active]
    exact hshut _
  · unfold register
    rw [Act.run_bind]
    exact ⟨rfl, rfl⟩

/-- An activation leads to the same tables, unless the extension becomes active. -/
theorem undoable_activate (stored : session.extensions.get? name = some entry)
    (attached : session.chordSink = .dispatcher) (passive : Passive caller name entry)
    (offersNew : OffersNew caller
      (({ session with
          extensions := session.extensions.setState name .activating } : Session κ S).noting
        (.called (.listing name entry.generation entry.extension))) name entry) :
    let activated := (activate name).run caller session
    (activated.1 = .ok true ∧ ∃ active, activated.2.extensions.get? name = some active ∧
        active.state = .active ∧ Undoable session active.contributed activated.2) ∨
      activated.1 ≠ .ok true ∧ session.SameTables activated.2 := by
  intro activated
  by_cases hstate : entry.state = .registered
  · have hactivated : activated = _ := run_activate stored hstate
    -- Marking the entry as being activated touches neither of the two tables.
    have attached' : ({ session with
        extensions := session.extensions.setState name .activating } : Session κ S).chordSink =
          .dispatcher := attached
    have hbrought := undoable_bringUp passive attached' offersNew
    rw [hactivated]
    generalize (bringUp name entry).run caller _ = brought at hbrought ⊢
    obtain ⟨⟨items, result⟩, after⟩ := brought
    have hundoable : Undoable session items after :=
      ⟨hbrought.commands, hbrought.bindings, hbrought.absent, hbrought.free⟩
    rcases undoable_settle caller name entry.generation hundoable result with
      ⟨hresult, hsame, active, hactive, hstate', hitems⟩ | hundone
    · left
      refine ⟨hresult, active, hactive, hstate', ?_⟩
      rw [hitems]
      exact hundoable.congr hsame
    · exact .inr hundone
  · right
    have hactivated : activated = (.ok false, session) := by
      simp [activated, activate, stored, hstate]
    rw [hactivated]
    exact ⟨by simp, ⟨rfl, rfl⟩⟩

end Session

/-- An extension leaves no trace in the commands and the key bindings.

While it is active everything is bound that was bound before, and in the same way.  If its
activation does not make it active, whatever the reason, the commands and the bindings are what they
were before.  If it becomes active they are so again after it has been deactivated, unregistered or
replaced, also when its deactivation fails, as long as no one else has changed them in between. -/
theorem contributions_undone {caller : Caller κ S} {session : Session κ S} {name : String}
    {entry : ExtensionEntry (Extension κ) (ActionBody κ)}
    (stored : session.extensions.get? name = some entry)
    (attached : session.chordSink = .dispatcher) (passive : Session.Passive caller name entry)
    (offersNew : Session.OffersNew caller
      (({ session with
          extensions := session.extensions.setState name .activating } : Session κ S).noting
        (.called (.listing name entry.generation entry.extension))) name entry) :
    let activated := (Session.activate name).run caller session
    (∀ text binding, session.keys.bindings.get? text = some binding →
        activated.2.keys.bindings.get? text = some binding) ∧
      (activated.1 ≠ .ok true → session.SameTables activated.2) ∧
      (activated.1 = .ok true → ∃ active, activated.2.extensions.get? name = some active ∧
        active.state = .active ∧
        ∀ (later : Session κ S) (caller' : Caller κ S), activated.2.SameTables later →
          later.extensions.get? name = some active →
          caller'.LeavesTables (.deactivate name active.generation active.extension) →
            session.SameTables ((Session.deactivate name).run caller' later).2 ∧
            session.SameTables ((Session.unregister name).run caller' later).2 ∧
            ∀ extension,
              session.SameTables ((Session.register name extension).run caller' later).2) := by
  intro activated
  rcases Session.undoable_activate stored attached passive offersNew with
    ⟨hresult, active, hactive, hstate, hundoable⟩ | ⟨hresult, hsame⟩
  · refine ⟨fun text binding hbound => hundoable.binding_kept hbound,
      fun hne => absurd hresult hne, fun _ => ⟨active, hactive, hstate, ?_⟩⟩
    intro later caller' hsame hlater passive'
    exact Session.undone_shutDown (hundoable.congr hsame) hlater hstate passive'
  · refine ⟨fun text binding hbound => ?_, fun _ => hsame, fun heq => absurd heq hresult⟩
    rw [hsame.bindings_eq]
    exact hbound

/-- A program with one extension, which repeats a name and a chord among its commands and panics
when it is deactivated. -/
def Code.repeating : Code Unit Unit :=
  .ofExtensions
    (fun _ => .done [⟨"x", ⟨0, .user ()⟩, some "f1"⟩, ⟨"x", ⟨1, .user ()⟩, some "f1"⟩,
      ⟨"y", ⟨1, .user ()⟩, some "f2"⟩])
    (fun _ => .done (.ok ()))
    fun _ => .panic "no"

/-- A session in which that extension is registered and one of its chords is taken. -/
def Session.repeatingSession : Session Unit Unit :=
  ((Session.register "twice" (.user ())).run (Code.repeating.caller 1)
    ((Session.bind "f2" "z" none).run (Code.repeating.caller 1)
      (.fresh .dispatcher (.fresh .recording true) ())).2).2

/-- The extension becomes active, and leaves no trace although its deactivation panics. -/
theorem contributions_undone_repeating :
    let activated :=
      (Session.activate "twice").run (Code.repeating.caller 1) Session.repeatingSession
    activated.1 = .ok true ∧ Session.repeatingSession.SameTables
      ((Session.deactivate "twice").run (Code.repeating.caller 1) activated.2).2 := by
  have hresult : ((Session.activate "twice").run (Code.repeating.caller 1)
      Session.repeatingSession).1 = .ok true := by rfl
  have passive : Session.Passive (Code.repeating.caller 1) "twice"
      (⟨.user (), .registered, 1, []⟩ : ExtensionEntry (Extension Unit) (ActionBody Unit)) :=
    ⟨⟨fun _ => ⟨rfl, rfl⟩, fun _ => rfl⟩, ⟨fun _ => ⟨rfl, rfl⟩, fun _ => rfl⟩⟩
  have hextension : (((Session.activate "twice").run (Code.repeating.caller 1)
      Session.repeatingSession).2.extensions.get? "twice").map ExtensionEntry.extension =
        some (.user ()) := by rfl
  have hstored : Session.repeatingSession.extensions.get? "twice" =
      some ⟨.user (), .registered, 1, []⟩ := by rfl
  obtain ⟨-, -, hundone⟩ := contributions_undone hstored rfl passive fun _ _ _ _ _ => rfl
  obtain ⟨active, hactive, -, hlater⟩ := hundone hresult
  rw [hactive, Option.map_some, Option.some.injEq] at hextension
  refine ⟨hresult, (hlater _ (Code.repeating.caller 1) (.refl _) hactive ?_).1⟩
  rw [hextension]
  exact ⟨fun _ => ⟨rfl, rfl⟩, fun _ => rfl⟩

end EditorShell
