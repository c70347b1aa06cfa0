import EditorShell.Proofs.Run.Upholding

/-!
# Sending a message

While the host acts on a message nothing happens to the bridge, provided that the host leaves it
alone (`Caller.HostApart`).  So a message changes the counts of the bridge and nothing else, and the
journal tells of this message and of no other one (`bridge_callHost`, `journal_callHost`).

## Strategy

`Session.Idle` relates a session to a later one in which the bridge is the same and nothing more has
been sent.  Each layer of `callHost` below the counting is idle.
-/

namespace EditorShell

variable {κ S : Type}

/-- Nothing happens to the bridge, and nothing is sent. -/
structure Session.Idle (before after : Session κ S) : Prop where
  bridge_eq : after.bridge = before.bridge
  journal_eq : ∃ noted, after.journal = noted ++ before.journal ∧
    ∀ message accepted, Entry.sent message accepted ∉ noted

namespace Session

theorem Idle.refl (session : Session κ S) : session.Idle session := ⟨rfl, [], rfl, by simp⟩

theorem Idle.trans {first second third : Session κ S} (hfirst : first.Idle second)
    (hsecond : second.Idle third) : first.Idle third := by
  obtain ⟨noted, hjournal, hnoted⟩ := hfirst.journal_eq
  obtain ⟨noted', hjournal', hnoted'⟩ := hsecond.journal_eq
  refine ⟨hsecond.bridge_eq.trans hfirst.bridge_eq, noted' ++ noted, ?_, fun message accepted => ?_⟩
  · rw [hjournal', hjournal, List.append_assoc]
  · rw [List.mem_append]
    exact fun hmem => hmem.elim (hnoted' message accepted) (hnoted message accepted)

/-- A message that is taken or refused is not an entry by itself. -/
theorem idle_noting (session : Session κ S) (entry : Entry κ)
    (hentry : ∀ message accepted, entry ≠ .sent message accepted) :
    session.Idle (session.noting entry) :=
  ⟨rfl, [entry], rfl, fun message accepted hmem =>
    hentry message accepted (List.mem_singleton.1 hmem).symm⟩

theorem sent_notMem_publicationEntry (host : Host) (message sent : HostMessage) (accepted : Bool) :
    Entry.sent sent accepted ∉ (publicationEntry host message : List (Entry κ)) := by
  unfold publicationEntry
  split <;> simp

variable {caller : Caller κ S}

/-! ## Up to the answer -/

theorem idle_letHostAct (caller : Caller κ S) (message : HostMessage) (session : Session κ S) :
    session.Idle ((letHostAct message).run caller session).2 :=
  ⟨rfl, publicationEntry session.host message, rfl,
    sent_notMem_publicationEntry session.host message⟩

theorem idle_call (apart : caller.HostApart) (message : HostMessage) (session : Session κ S) :
    session.Idle ((Act.call (.host message)).run caller session).2 := by
  rw [Act.run_call]
  refine (idle_noting session (.called (.host message)) (by simp)).trans ?_
  exact Idle.trans ⟨apart.bridge_eq _ _, apart.journal_eq _ _⟩ (idle_noting _ _ (by simp))

theorem idle_sendDirectly (apart : caller.HostApart) (message : HostMessage)
    (session : Session κ S) : session.Idle ((sendDirectly message).run caller session).2 := by
  have hcall := idle_call apart message session
  unfold sendDirectly
  rw [Act.run_bind]
  split
  · exact hcall.trans (idle_letHostAct caller message _)
  · exact hcall
  · exact hcall

theorem idle_attempt (apart : caller.HostApart) (message : HostMessage) (session : Session κ S) :
    session.Idle ((attempt message).run caller session).2 := by
  have hsend := idle_sendDirectly apart message session
  unfold attempt
  rw [Act.run_bind]
  split <;> exact hsend

theorem idle_offer (apart : caller.HostApart) (message : HostMessage) (session : Session κ S) :
    session.Idle ((offer message).run caller session).2 := by
  unfold offer
  rw [Act.run_bind, Act.run_read, Act.run_ite]
  split
  · exact .refl session
  · obtain ⟨hbridge, hjournal⟩ := idle_attempt apart message { session with hostBusy := true }
    exact ⟨hbridge, hjournal⟩

/-! ## With the answer -/

/-- A message changes the counts and nothing else. -/
theorem bridge_callHost (apart : caller.HostApart) (message : HostMessage) (session : Session κ S) :
    ((callHost message).run caller session).2.bridge =
      (session.bridge.countCall message.op).countAnswer
        ((callHost message).run caller session).1 := by
  have hidle := (idle_offer apart message
    { session with bridge := session.bridge.countCall message.op }).bridge_eq
  exact congrArg (fun bridge => Bridge.countAnswer bridge _) hidle

/-- The journal tells how a message was taken, and of no other message. -/
theorem journal_callHost (apart : caller.HostApart) (message : HostMessage)
    (session : Session κ S) : ∃ noted,
      ((callHost message).run caller session).2.journal =
        .sent message ((callHost message).run caller session).1 :: noted ++ session.journal ∧
      ∀ sent accepted, Entry.sent sent accepted ∉ noted := by
  obtain ⟨noted, hjournal, hnoted⟩ := (idle_offer apart message
    { session with bridge := session.bridge.countCall message.op }).journal_eq
  exact ⟨noted, congrArg (List.cons _) hjournal, hnoted⟩

/-! ## In between -/

/-- While a message is on its way nothing is noted but that the host is called and returns. -/
theorem moments_sendDirectly (apart : caller.HostApart) (message : HostMessage)
    (session : Session κ S) : ∀ moment ∈ (sendDirectly message).moments caller session,
      moment.session.bridge = session.bridge ∧
        (moment.entry = .called (.host message) ∨
          ∃ outcome, moment.entry = .returned (.host message) outcome) := by
  intro moment hmoment
  unfold sendDirectly at hmoment
  rw [Act.moments_bind, List.mem_append, Act.moments_call, apart.moments_eq] at hmoment
  rcases hmoment with hmoment | hmoment
  · rcases List.mem_cons.1 hmoment with rfl | hmoment
    · exact ⟨rfl, .inl rfl⟩
    · obtain rfl := List.mem_singleton.1 hmoment
      exact ⟨apart.bridge_eq _ _, .inr ⟨_, rfl⟩⟩
  · split at hmoment <;> cases hmoment

theorem moments_callHost (apart : caller.HostApart) (message : HostMessage)
    (session : Session κ S) : ∀ moment ∈ (callHost message).moments caller session,
      moment.session.bridge = session.bridge.countCall message.op ∧
        (moment.entry = .called (.host message) ∨
          ∃ outcome, moment.entry = .returned (.host message) outcome) := by
  intro moment hmem
  -- Counting and concluding note nothing.
  change moment ∈ (offer message).moments caller
    { session with bridge := session.bridge.countCall message.op } ++ [] at hmem
  unfold offer attempt at hmem
  simp only [setHostBusy, Act.moments_bind, Act.moments_read, Act.run_read, Act.moments_ite,
    Act.moments_pure, Act.moments_change, Act.run_change, List.nil_append, List.append_nil] at hmem
  split at hmem
  · cases hmem
  · rw [List.mem_append] at hmem
    rcases hmem with hmem | hmem
    · exact moments_sendDirectly apart message _ moment hmem
    · split at hmem <;> cases hmem

end Session

end EditorShell
