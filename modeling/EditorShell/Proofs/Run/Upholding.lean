import EditorShell.Session.Engine

/-!
# What acts uphold

An act upholds a statement about sessions when the statement holds after the act, provided that
every callback the act calls upholds it too.  `Act.Upholds` says this together with what holds at
every moment of the act; it goes through sequencing (`Act.Upholds.bind`), so what an act upholds
follows from what its parts uphold.  Where what is done depends on what was seen before, an act is
followed from one session: `Act.Meets` says what holds when it is run there.

Statements have an index.  A callback upholds a statement at every index, so an act that has called
one may choose the index by what it knew before the call, and gets to know what the callback cannot
have changed.

Many statements are about the *core* of a session, the part in which widgets, handles and deferred
work live.  A pass holds jobs that it has taken out of the scheduler and not run yet.  They appear
in no session, so they are the index of such a statement; passes nest, and a statement that a
callback keeps has to be kept whatever the passes around it still hold (`Act.Keeps`).
-/

namespace EditorShell

variable {κ S α β ι : Type}

/-- The part of a session in which widgets, handles and deferred work live. -/
structure Core (κ : Type) where
  scheduler : Scheduler (Job κ)
  debouncers : List Debouncer
  slots : HandleSlots
  host : Host
  hostBusy : Bool
  bridge : Bridge (Handler κ)
  journal : List (Entry κ)

/-- The core of a session. -/
def Session.core (session : Session κ S) : Core κ where
  scheduler := session.scheduler
  debouncers := session.debouncers
  slots := session.slots
  host := session.host
  hostBusy := session.hostBusy
  bridge := session.bridge
  journal := session.journal

/-- A core with one more entry in its journal. -/
def Core.noting (core : Core κ) (entry : Entry κ) : Core κ :=
  { core with journal := entry :: core.journal }

/-- A statement about the jobs that passes have taken and not run yet, and the core of a session. -/
abbrev Assertion (κ : Type) := List (Task (Job κ)) → Core κ → Prop

/-- While the host acts on a message the bridge stays as it is, nothing is sent and no callback is
called. -/
structure Caller.HostApart (caller : Caller κ S) : Prop where
  bridge_eq : ∀ message session,
    (caller.answer (.host message) session).2.bridge = session.bridge
  journal_eq : ∀ message session, ∃ noted,
    (caller.answer (.host message) session).2.journal = noted ++ session.journal ∧
      ∀ sent accepted, Entry.sent sent accepted ∉ noted
  moments_eq : ∀ message session, caller.moments (.host message) session = []

/-! ## Acts from one session -/

/-- Run with a caller in a session, an act ends as `R` says, and `Q` holds at all its moments. -/
def Act.Meets (Q : Moment κ S → Prop) (caller : Caller κ S) (act : Act κ S α)
    (session : Session κ S) (R : α → Session κ S → Prop) : Prop :=
  R (act.run caller session).1 (act.run caller session).2 ∧
    ∀ moment ∈ act.moments caller session, Q moment

namespace Act.Meets

variable {Q : Moment κ S → Prop} {caller : Caller κ S} {session : Session κ S}
  {R : α → Session κ S → Prop} {T : β → Session κ S → Prop}

theorem pure {value : α} (hR : R value session) :
    (Pure.pure value : Act κ S α).Meets Q caller session R := by
  refine ⟨hR, fun moment hmoment => ?_⟩
  cases hmoment

theorem change {f : Session κ S → Session κ S} {R : Unit → Session κ S → Prop}
    (hR : R () (f session)) : (Act.change f).Meets Q caller session R := by
  refine ⟨hR, fun moment hmoment => ?_⟩
  cases hmoment

theorem note {entry : Entry κ} {R : Unit → Session κ S → Prop} (hQ : Q ⟨entry, session⟩)
    (hR : R () (session.noting entry)) : (Act.note entry).Meets Q caller session R := by
  refine ⟨hR, fun moment hmoment => ?_⟩
  obtain rfl := List.mem_singleton.1 hmoment
  exact hQ

theorem mono {act : Act κ S α} {R' : α → Session κ S → Prop} (hact : act.Meets Q caller session R)
    (hR : ∀ value after, R value after → R' value after) : act.Meets Q caller session R' :=
  ⟨hR _ _ hact.1, hact.2⟩

/-- The next act starts where the first one has ended. -/
theorem bind_run {first : Act κ S α} {next : α → Act κ S β}
    (hfirst : ∀ moment ∈ first.moments caller session, Q moment)
    (hnext : (next (first.run caller session).1).Meets Q caller (first.run caller session).2 T) :
    (first >>= next).Meets Q caller session T := by
  refine ⟨hnext.1, fun moment hmoment => ?_⟩
  rw [Act.moments_bind, List.mem_append] at hmoment
  rcases hmoment with hmoment | hmoment
  · exact hfirst moment hmoment
  · exact hnext.2 moment hmoment

/-- What an act leads to is what the next one starts from. -/
theorem bind {first : Act κ S α} {next : α → Act κ S β} (hfirst : first.Meets Q caller session R)
    (hnext : ∀ value after, R value after → (next value).Meets Q caller after T) :
    (first >>= next).Meets Q caller session T := by
  obtain ⟨hR, hmoments⟩ := hfirst
  exact bind_run hmoments (hnext _ _ hR)

theorem read_bind {view : Session κ S → α} {next : α → Act κ S β}
    (hnext : (next (view session)).Meets Q caller session T) :
    (Act.read view >>= next).Meets Q caller session T := hnext

theorem change_bind {f : Session κ S → Session κ S} {next : Unit → Act κ S β}
    (hnext : (next ()).Meets Q caller (f session) T) :
    (Act.change f >>= next).Meets Q caller session T := hnext

theorem note_bind {entry : Entry κ} {next : Unit → Act κ S β} (hQ : Q ⟨entry, session⟩)
    (hnext : (next ()).Meets Q caller (session.noting entry) T) :
    (Act.note entry >>= next).Meets Q caller session T := by
  refine bind_run (fun moment hmoment => ?_) hnext
  obtain rfl := List.mem_singleton.1 hmoment
  exact hQ

/-- A call begins, the callback runs, and the call returns. -/
theorem call {call : Call κ} {R : Guarded call.Result → Session κ S → Prop}
    (hcalled : Q ⟨.called call, session⟩)
    (hmoments : ∀ moment ∈ caller.moments call (session.noting (.called call)), Q moment)
    (hreturned : ∀ outcome after,
      caller.answer call (session.noting (.called call)) = (outcome, after) →
        Q ⟨.returned call outcome, after⟩ ∧ R outcome (after.noting (.returned call outcome))) :
    (Act.call call).Meets Q caller session R := by
  obtain ⟨hQ, hR⟩ := hreturned _ _ rfl
  refine ⟨?_, fun moment hmoment => ?_⟩
  · rw [Act.run_call]
    exact hR
  · rw [Act.moments_call, List.mem_append] at hmoment
    rcases hmoment with hmoment | hmoment
    · rcases List.mem_cons.1 hmoment with rfl | hmoment
      · exact hcalled
      · exact hmoments moment hmoment
    · obtain rfl := List.mem_singleton.1 hmoment
      exact hQ

end Act.Meets

/-! ## What is upheld in every session -/

/-- Every callback keeps `P`, and `Q` holds at all its moments. -/
structure Caller.Upholds (P : ι → Session κ S → Prop) (Q : ι → Moment κ S → Prop)
    (caller : Caller κ S) : Prop where
  answer : ∀ {index session} (call : Call κ), P index session →
    P index (caller.answer call session).2
  moments : ∀ {index session} (call : Call κ), P index session →
    ∀ moment ∈ caller.moments call session, Q index moment

/-- An act keeps `P`, and `Q` holds at all its moments, if its callbacks are like that. -/
def Act.Upholds (P : ι → Session κ S → Prop) (Q : ι → Moment κ S → Prop) (act : Act κ S α) : Prop :=
  ∀ caller : Caller κ S, caller.HostApart → caller.Upholds P Q →
    ∀ index session, P index session → act.Meets (Q index) caller session fun _ => P index

namespace Act.Upholds

variable {P : ι → Session κ S → Prop} {Q : ι → Moment κ S → Prop}

theorem pure (value : α) : (Pure.pure value : Act κ S α).Upholds P Q := by
  intro caller _ _ index session hP
  exact .pure hP

theorem read (view : Session κ S → α) : (Act.read view).Upholds P Q := by
  intro caller _ _ index session hP
  exact .read_bind (.pure hP)

theorem bind {first : Act κ S α} {next : α → Act κ S β} (hfirst : first.Upholds P Q)
    (hnext : ∀ value, (next value).Upholds P Q) : (first >>= next).Upholds P Q := by
  intro caller apart upholds index session hP
  refine (hfirst caller apart upholds index session hP).bind fun value after hafter => ?_
  exact hnext value caller apart upholds index after hafter

theorem ite {condition : Prop} [Decidable condition] {first second : Act κ S α}
    (hfirst : first.Upholds P Q) (hsecond : second.Upholds P Q) :
    (if condition then first else second).Upholds P Q := by
  split
  · exact hfirst
  · exact hsecond

theorem look {next : Session κ S → Act κ S α} (hnext : ∀ session, (next session).Upholds P Q) :
    (Act.look next).Upholds P Q := by
  intro caller apart upholds index session hP
  exact hnext session caller apart upholds index session hP

/-- A change upholds a statement if it keeps it at every index. -/
theorem change {f : Session κ S → Session κ S}
    (hf : ∀ {index session}, P index session → P index (f session)) :
    (Act.change f).Upholds P Q := by
  intro caller _ _ index session hP
  exact .change (hf hP)

theorem note {entry : Entry κ}
    (hQ : ∀ {index session}, P index session → Q index ⟨entry, session⟩)
    (hP : ∀ {index session}, P index session → P index (session.noting entry)) :
    (Act.note (S := S) entry).Upholds P Q := by
  intro caller _ _ index session h
  exact .note (hQ h) (hP h)

theorem raise (call : Call κ) : (Act.raise (S := S) call).Upholds P Q := by
  intro caller _ upholds index session hP
  exact ⟨upholds.answer call hP, upholds.moments call hP⟩

theorem call {call : Call κ} (hcalled : (Act.note (S := S) (.called call)).Upholds P Q)
    (hreturned : ∀ outcome, (Act.note (S := S) (.returned call outcome)).Upholds P Q) :
    (Act.call (S := S) call).Upholds P Q := by
  refine hcalled.bind fun _ => ?_
  refine (raise call).bind fun outcome => ?_
  exact (hreturned outcome).bind fun _ => .pure outcome

variable {caller : Caller κ S} {index : ι} {session : Session κ S}

/-- An act upholds a statement at all indices at once. -/
theorem meets {act : Act κ S α} (upheld : act.Upholds P Q) (apart : caller.HostApart)
    (upholds : caller.Upholds P Q) (hP : P index session) :
    act.Meets (Q index) caller session fun value after =>
      (value, after) = act.run caller session ∧ ∀ other, P other session → P other after := by
  refine ⟨⟨rfl, fun other hother => ?_⟩, ?_⟩
  · exact (upheld caller apart upholds other session hother).1
  · exact (upheld caller apart upholds index session hP).2

end Act.Upholds

/-- A callback upholds a statement at all indices that it is called with. -/
theorem Act.Meets.call_upholds {P : ι → Session κ S → Prop} {Q : ι → Moment κ S → Prop}
    {caller : Caller κ S} {index : ι} {session : Session κ S} (upholds : caller.Upholds P Q)
    {call : Call κ} (hcalled : Q index ⟨.called call, session⟩)
    (hP : P index (session.noting (.called call)))
    (hreturned : ∀ outcome before, P index before → Q index ⟨.returned call outcome, before⟩) :
    (Act.call call).Meets (Q index) caller session fun outcome after =>
      ∃ before, after = before.noting (.returned call outcome) ∧
        ∀ other, P other (session.noting (.called call)) → P other before := by
  refine .call hcalled (upholds.moments call hP) fun outcome before hanswer => ?_
  have hbefore : ∀ other, P other (session.noting (.called call)) → P other before := by
    intro other hother
    have hkept := upholds.answer call hother
    rw [hanswer] at hkept
    exact hkept
  exact ⟨hreturned outcome before (hbefore index hP), before, rfl, hbefore⟩

/-! ## What is kept of the core -/

/-- Every callback keeps an assertion, and `Q` holds at all its moments. -/
abbrev Caller.Keeps (P : Assertion κ) (Q : Moment κ S → Prop) (caller : Caller κ S) : Prop :=
  caller.Upholds (fun waiting session => P waiting session.core) fun _ => Q

/-- An act keeps an assertion, and `Q` holds at all its moments, if its callbacks are like that. -/
abbrev Act.Keeps (P : Assertion κ) (Q : Moment κ S → Prop) (act : Act κ S α) : Prop :=
  act.Upholds (fun waiting session => P waiting session.core) fun _ => Q

/-- Run with a caller in a session, an act leads to an assertion, and `Q` holds at all its
moments. -/
abbrev Act.Leads (P : Assertion κ) (Q : Moment κ S → Prop) (caller : Caller κ S) (act : Act κ S α)
    (waiting : List (Task (Job κ))) (session : Session κ S) : Prop :=
  act.Meets Q caller session fun _ after => P waiting after.core

/-- A change outside the core keeps every assertion. -/
theorem Act.Keeps.aside {P : Assertion κ} {Q : Moment κ S → Prop} {f : Session κ S → Session κ S}
    (hf : ∀ session, (f session).core = session.core) : (Act.change f).Keeps P Q := by
  refine .change fun {waiting session} hP => ?_
  rw [hf session]
  exact hP

end EditorShell
