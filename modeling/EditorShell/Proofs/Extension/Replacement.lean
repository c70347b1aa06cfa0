import EditorShell.Proofs.Extension.Accounting

/-!
# What replacing extensions leaves behind

An extension that has been activated is active until it is told of its deactivation, and its
commands are gone afterwards (`bring_ups_accounted`).

This does not go for what is registered under a name while an extension of that name is being
replaced: it is overwritten without being deactivated, and keeps its commands
(`late_command_left`).
-/

namespace EditorShell

variable {κ S : Type}

/-! ## The commands of an extension that is retired -/

theorem CommandRegistry.holdsAction_unregisterAction {B : Type} (registry : CommandRegistry B)
    (name wanted : String) (action other : Action B) :
    (registry.unregisterAction name action).2.holdsAction wanted other =
      (registry.holdsAction wanted other &&
        !(decide (wanted = name) && registry.holdsAction name action)) := by
  unfold unregisterAction
  cases hheld : registry.holdsAction name action with
  | false => simp
  | true =>
      have herase : (CommandRegistry.mk registry.nextAction (registry.commands.erase name)).get?
          wanted = if wanted = name then none else registry.get? wanted := Table.get?_erase _ _ _
      unfold holdsAction
      simp only [if_true, herase]
      split
      · rename_i hname
        simp [hname]
      · rename_i hname
        simp [hname]

/-- The command that is contributed. -/
def Contribution.command {B : Type} (contribution : Contribution B) : String × Action B :=
  (contribution.name, contribution.action)

/-- The command that was registered. -/
def Contributed.command {B : Type} (item : Contributed B) : String × Action B :=
  (item.name, item.action)

namespace Session

variable {caller : Caller κ S} {session : Session κ S} {name : String}
  {entry : ExtensionEntry (Extension κ) (ActionBody κ)}

/-- None of these contributions is registered with its action. -/
def Withdrawn (items : List (Contributed (ActionBody κ))) (session : Session κ S) : Prop :=
  ∀ item ∈ items, session.commands.holdsAction item.name item.action = false

/-- What is not registered is not registered by withdrawing either. -/
theorem holdsAction_foldl_takingBack {wanted : String} {action : Action (ActionBody κ)}
    (hnot : session.commands.holdsAction wanted action = false)
    (items : List (Contributed (ActionBody κ))) :
    (items.foldl takingBack session).commands.holdsAction wanted action = false := by
  induction items generalizing session with
  | nil => exact hnot
  | cons item rest ih =>
      refine ih ((CommandRegistry.holdsAction_unregisterAction _ _ _ _ _).trans ?_)
      rw [hnot, Bool.false_and]

theorem withdrawn_foldl_takingBack (items : List (Contributed (ActionBody κ)))
    (session : Session κ S) : Withdrawn items (items.foldl takingBack session) := by
  induction items generalizing session with
  | nil => exact fun _ hmem => absurd hmem List.not_mem_nil
  | cons item rest ih =>
      intro other hmem
      rcases List.mem_cons.1 hmem with rfl | hmem
      -- It is gone after its own turn, and no later turn brings it back.
      · refine holdsAction_foldl_takingBack
          ((CommandRegistry.holdsAction_unregisterAction _ _ _ _ _).trans ?_) rest
        simp
      · exact ih (session.takingBack item) other hmem

theorem withdrawn_withdrawAll (items : List (Contributed (ActionBody κ))) (session : Session κ S) :
    Withdrawn items ((withdrawAll items).run caller session).2 := by
  rw [run_withdrawAll]
  exact withdrawn_foldl_takingBack items session

theorem withdrawn_shutDown (session : Session κ S) :
    Withdrawn entry.contributed ((shutDown name entry).run caller session).2 := by
  unfold shutDown
  rw [Act.run_bind, Act.run_bind, Act.run_pure]
  exact withdrawn_withdrawAll entry.contributed _

/-- Unregistering, replacing and deactivating an active extension all withdraw its commands. -/
theorem withdrawn_of_active (hstored : session.extensions.get? name = some entry)
    (hactive : entry.state = .active) :
    Withdrawn entry.contributed ((deactivate name).run caller session).2 ∧
      Withdrawn entry.contributed ((unregister name).run caller session).2 ∧
      ∀ extension,
        Withdrawn entry.contributed ((register name extension).run caller session).2 := by
  have hunregister : Withdrawn entry.contributed ((unregister name).run caller session).2 := by
    rw [run_unregister hstored]
    exact withdrawn_shutDown _
  refine ⟨?_, hunregister, fun extension => ?_⟩
  · rw [run_deactivate hstored hactive]
    exact withdrawn_shutDown _
  · unfold register
    rw [Act.run_bind]
    exact hunregister

/-! ## The commands of an extension that is activated -/

/-- What was registered are the commands that were listed, when none of them was refused. -/
theorem commands_contributeAll (caller : Caller κ S) (session : Session κ S)
    (contributions : List (Contribution (ActionBody κ)))
    (hdone : ((contributeAll contributions).run caller session).1.2 = .ok ()) :
    ((contributeAll contributions).run caller session).1.1.map Contributed.command =
      contributions.map Contribution.command := by
  induction contributions generalizing session with
  | nil => rfl
  | cons contribution rest ih =>
      unfold contributeAll at hdone ⊢
      cases hchord : contribution.keys.mapM Chord.parse with
      | error cause =>
          rw [hchord] at hdone
          cases hdone
      | ok chord? =>
          rw [hchord] at hdone
          exact congrArg (contribution.command :: ·) (ih _ hdone)

theorem commands_bringUp (caller : Caller κ S) (session : Session κ S) (name : String)
    (entry : ExtensionEntry (Extension κ) (ActionBody κ))
    (hdone : ((bringUp name entry).run caller session).1.2 = .ok ()) :
    ∃ contributions, (caller.answer (.listing name entry.generation entry.extension)
        (session.noting (.called (.listing name entry.generation entry.extension)))).1 =
          .ok contributions ∧
      ((bringUp name entry).run caller session).1.1.map Contributed.command =
        contributions.map Contribution.command := by
  unfold bringUp at hdone ⊢
  rw [Act.run_bind, Act.run_call] at hdone ⊢
  generalize caller.answer (.listing name entry.generation entry.extension) _ = listed at hdone ⊢
  obtain ⟨outcome, after⟩ := listed
  cases outcome with
  | error panic => cases hdone
  | ok contributions =>
      refine ⟨contributions, rfl, ?_⟩
      have hcommands := commands_contributeAll caller (after.noting
        (.returned (.listing name entry.generation entry.extension) (.ok contributions)))
          contributions
      dsimp only at hdone ⊢
      rw [Act.run_bind] at hdone ⊢
      generalize (contributeAll contributions).run caller _ = contributed at hdone hcommands ⊢
      obtain ⟨⟨items, outcome⟩, after⟩ := contributed
      cases outcome with
      | error cause => cases hdone
      | ok _ => exact hcommands rfl

/-- What an extension answers when it is asked for its commands in an activation. -/
def listed (caller : Caller κ S) (session : Session κ S) (name : String)
    (entry : ExtensionEntry (Extension κ) (ActionBody κ)) :
    Guarded (List (Contribution (ActionBody κ))) :=
  (caller.answer (.listing name entry.generation entry.extension)
    (({ session with
        extensions := session.extensions.setState name .activating } : Session κ S).noting
      (.called (.listing name entry.generation entry.extension)))).1

/-- An activation that makes an extension active stores the commands that the extension has listed
as its contributions.  If the extension is gone by then, none of them is registered any more. -/
theorem commands_activate (hstored : session.extensions.get? name = some entry)
    (hregistered : entry.state = .registered) :
    let activated := (activate name).run caller session
    (activated.1 = .ok true → ∃ contributions stored,
      listed caller session name entry = .ok contributions ∧
        activated.2.extensions.get? name = some stored ∧ stored.state = .active ∧
          stored.contributed.map Contributed.command =
            contributions.map Contribution.command) ∧
      (activated.1 = .ok false → ∃ contributions,
        listed caller session name entry = .ok contributions ∧ ∀ contribution ∈ contributions,
          activated.2.commands.holdsAction contribution.name contribution.action = false) := by
  intro activated
  have hactivated : activated = _ := run_activate hstored hregistered
  have hcommands := commands_bringUp caller
    { session with extensions := session.extensions.setState name .activating } name entry
  generalize (bringUp name entry).run caller _ = brought at hactivated hcommands
  obtain ⟨⟨items, result⟩, after⟩ := brought
  rw [hactivated]
  cases result with
  | error cause =>
      dsimp only
      rw [run_settle_error]
      exact ⟨nofun, nofun⟩
  | ok _ =>
      obtain ⟨contributions, hlisted, hitems⟩ := hcommands rfl
      dsimp only at hitems ⊢
      rw [run_settle_ok]
      cases hheld : after.extensions.holds name entry.generation with
      | true =>
          obtain ⟨stored, hget, -⟩ := ExtensionRegistry.holds_iff.1 hheld
          exact ⟨fun _ => ⟨contributions, _, hlisted,
            ExtensionRegistry.get?_modify_self hget _, rfl, hitems⟩, nofun⟩
      | false =>
          refine ⟨nofun, fun _ => ⟨contributions, hlisted, fun contribution hmem => ?_⟩⟩
          -- The contribution was registered on the way, and everything is taken back.
          have hcommand := List.mem_map_of_mem (f := Contribution.command) hmem
          rw [← hitems] at hcommand
          obtain ⟨item, hitem, hsame⟩ := List.mem_map.1 hcommand
          obtain ⟨hname, haction⟩ := Prod.mk.inj hsame
          rw [← hname, ← haction]
          exact withdrawn_withdrawAll items after item hitem

end Session

/-- An extension that has been activated successfully is stored and active, or it has been told of
its deactivation since, or it was brought up while another registration of its name was being
deactivated.

Such an activation is over in one of these ways before another one under the same name begins.  When
an active extension is deactivated, unregistered or replaced, none of its commands is registered
with its action any more.  Its commands are those that it listed, and if it is gone when it has been
activated none of them is registered either. -/
theorem bring_ups_accounted {sink : ChordSink} {host : Host} {app : S} {session : Session κ S}
    (reaches : (Session.fresh sink host app).Reaches (fun _ => True) session) :
    (∀ name generation since earlier, Unretired name generation since earlier session.journal →
        Succeeded name generation since → ¬Superseded name generation earlier →
          ∃ stored, session.extensions.get? name = some stored ∧
            stored.generation = generation ∧ stored.state = .active) ∧
      (∀ moment : Moment κ S, moment.OccursFrom (fun _ => True) session → moment.BeginsAlone) ∧
      ∀ name stored, session.extensions.get? name = some stored → ∀ caller : Caller κ S,
        (stored.state = .active →
          Session.Withdrawn stored.contributed ((Session.deactivate name).run caller session).2 ∧
          Session.Withdrawn stored.contributed ((Session.unregister name).run caller session).2 ∧
          ∀ extension, Session.Withdrawn stored.contributed
            ((Session.register name extension).run caller session).2) ∧
        (stored.state = .registered →
          let activated := (Session.activate name).run caller session
          (activated.1 = .ok true → ∃ contributions active,
            Session.listed caller session name stored = .ok contributions ∧
              activated.2.extensions.get? name = some active ∧ active.state = .active ∧
                active.contributed.map Contributed.command =
                  contributions.map Contribution.command) ∧
          (activated.1 = .ok false → ∃ contributions,
            Session.listed caller session name stored = .ok contributions ∧
              ∀ contribution ∈ contributions,
                activated.2.commands.holdsAction contribution.name contribution.action =
                  false)) := by
  have holds := Retirement.holds_of_reaches reaches
  refine ⟨fun name generation since earlier unretired succeeded hnot => ?_,
    fun moment occurs => ?_, fun name stored hstored caller => ⟨fun hactive => ?_,
      fun hregistered => ?_⟩⟩
  · rcases holds.accounted.located name generation since earlier unretired with
      hexcept | ⟨stored, hget, hsame, hactive⟩
    · exact absurd hexcept hnot
    · exact ⟨stored, hget, hsame, hactive nofun succeeded⟩
  · exact (Retirement.governs.occurs holds occurs).2
  · exact Session.withdrawn_of_active hstored hactive
  · exact Session.commands_activate hstored hregistered

/-- A program with three extensions.  The first one registers and activates the second one in its
place when it is deactivated; the second one contributes a command. -/
def Code.relaying : Code (Fin 3) Unit :=
  .ofExtensions
    (fun key => .done (if key = 1 then [⟨"late", ⟨0, .user 0⟩, none⟩] else []))
    (fun _ => .done (.ok ()))
    fun key =>
      if key = 0 then
        .request (.register "a" (.user 1)) fun _ =>
          .request (.activate "a") fun _ => .done (.ok ())
      else .done (.ok ())

theorem Code.within_relaying : Code.relaying.Within fun _ => True := by
  refine Code.within_ofExtensions (fun _ => trivial) (fun _ => trivial) fun key => ?_
  split
  · exact ⟨trivial, fun _ => ⟨trivial, fun _ => trivial⟩⟩
  · exact trivial

/-- A session in which the first extension is active. -/
def Session.relaySession : Session (Fin 3) Unit :=
  ((Request.activate "a").perform.run (Code.relaying.caller 2)
    ((Request.register "a" (.user 0)).perform.run (Code.relaying.caller 2)
      (.fresh .nobody (.fresh .recording true) ())).2).2

theorem Session.reaches_relaySession :
    (Session.fresh .nobody (.fresh .recording true) () : Session (Fin 3) Unit).Reaches
      (fun _ => True) Session.relaySession :=
  .act (.request _ trivial) Code.within_relaying
    (.act (.request _ trivial) Code.within_relaying .refl)

/-- The extension is stored and active, and it is gone from the registry with all its commands when
it has been unregistered. -/
theorem bring_ups_accounted_relay :
    ∃ stored, Session.relaySession.extensions.get? "a" = some stored ∧ stored.generation = 1 ∧
      stored.state = .active ∧ Session.Withdrawn stored.contributed
        ((Session.unregister "a").run (Code.relaying.caller 2) Session.relaySession).2 := by
  obtain ⟨hactive, -, hcommands⟩ := bring_ups_accounted Session.reaches_relaySession
  have unretired : Unretired "a" 1
      [.returned (.activate "a" 1 (.user 0)) (.ok (.ok ())), .called (.activate "a" 1 (.user 0)),
        .returned (.listing "a" 1 (.user 0)) (.ok [])] [] Session.relaySession.journal :=
    ⟨⟨.user 0, by rfl⟩, by simp [Entry.lists], by simp [Entry.retires]⟩
  obtain ⟨stored, hstored, hsame, hstate⟩ := hactive "a" 1 _ _ unretired
    ⟨.user 0, List.mem_cons_self⟩ fun ⟨_, _, hrunning⟩ => absurd hrunning (Nat.lt_irrefl 0)
  exact ⟨stored, hstored, hsame, hstate,
    ((hcommands "a" stored hstored (Code.relaying.caller 2)).1 hstate).2.1⟩

/-- That session after the first extension has been replaced by the third one. -/
def Session.overwrittenSession : Session (Fin 3) Unit :=
  ((Request.register "a" (.user 2)).perform.run (Code.relaying.caller 2)
    Session.relaySession).2

/-- The second extension has been activated, is stored no more, has not been told of its
deactivation, and its command is registered still. -/
theorem late_command_left :
    (∃ since earlier, Unretired "a" 2 since earlier Session.overwrittenSession.journal ∧
        Succeeded "a" 2 since) ∧
      Session.overwrittenSession.extensions.holds "a" 2 = false ∧
      Session.overwrittenSession.commands.holdsAction "late" ⟨0, .user 0⟩ = true := by
  -- The replacement begins before and ends after all that is told of the second extension.
  have unretired : Unretired "a" 2
      [.returned (.deactivate "a" 1 (.user 0)) (.ok (.ok ())),
        .returned (.activate "a" 2 (.user 1)) (.ok (.ok ())), .called (.activate "a" 2 (.user 1)),
        .returned (.listing "a" 2 (.user 1)) (.ok [⟨"late", ⟨0, .user 0⟩, none⟩])]
      (.called (.deactivate "a" 1 (.user 0)) :: Session.relaySession.journal)
      Session.overwrittenSession.journal :=
    ⟨⟨.user 1, by rfl⟩, by simp [Entry.lists], by simp [Entry.retires]⟩
  exact ⟨⟨_, _, unretired, .user 1, List.mem_cons_of_mem _ List.mem_cons_self⟩, by rfl, by rfl⟩

end EditorShell
