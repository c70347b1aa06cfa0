import EditorShell.Proofs.Run.Views

/-!
# Histories

A session tells what is the case, and its journal tells what was noted.  In which sessions it was
noted, neither of them says.  A story does: it is everything that has been done so far with all its
moments, those of callbacks included, the oldest first.

`Act.Tells` is for statements about a history and the session at its end.  It goes through
sequencing, the history of what comes second being longer by the moments of what comes first.  If
everything that can be done keeps such a statement, then it holds of every story
(`Session.Story.upholds`).  A statement that looks at little of the session and at a few kinds of
moments is kept by everything that does not touch these (`HistoryLaw.sees`).
-/

namespace EditorShell

variable {κ S V α β : Type}

/-- Everything that was done from the first session on, moment by moment, and the session that it
led to. -/
inductive Session.Story (allowed : Request κ → Prop) (first : Session κ S) :
    List (Moment κ S) → Session κ S → Prop where
  | nil : Story allowed first [] first
  /-- The embedding program has stored a state. -/
  | store {told : List (Moment κ S)} {session : Session κ S} (app : S)
      (story : Story allowed first told session) :
      Story allowed first told { session with app := app }
  | act {told : List (Moment κ S)} {session : Session κ S} {α : Type} {act : Act κ S α}
      {code : Code κ S} {depth : Nat} (undertaking : Undertaking allowed act)
      (within : code.Within allowed) (story : Story allowed first told session) :
      Story allowed first (told ++ act.moments (code.caller depth) session)
        (act.run (code.caller depth) session).2

/-- A statement about what has happened and the session that it led to. -/
abbrev History (κ S : Type) := List (Moment κ S) → Session κ S → Prop

variable {P : History κ S}

/-- Every callback keeps a statement about what has happened. -/
def Caller.Tells (P : History κ S) (caller : Caller κ S) : Prop :=
  ∀ {told session} (call : Call κ), P told session →
    P (told ++ caller.moments call session) (caller.answer call session).2

/-- An act keeps a statement about what has happened if its callbacks do. -/
def Act.Tells (P : History κ S) (act : Act κ S α) : Prop :=
  ∀ caller : Caller κ S, caller.HostApart → caller.Tells P → ∀ told session, P told session →
    P (told ++ act.moments caller session) (act.run caller session).2

/-- The acts that keep a statement about what has happened. -/
def Telling (P : History κ S) : Act.Class κ S := fun _ act => act.Tells P

namespace Act.Tells

theorem pure (value : α) : (Pure.pure value : Act κ S α).Tells P := by
  intro caller _ _ told session hP
  rw [Act.moments_pure, List.append_nil]
  exact hP

theorem bind {first : Act κ S α} {next : α → Act κ S β} (hfirst : first.Tells P)
    (hnext : ∀ value, (next value).Tells P) : (first >>= next).Tells P := by
  intro caller apart tells told session hP
  rw [Act.moments_bind, ← List.append_assoc]
  exact hnext _ caller apart tells _ _ (hfirst caller apart tells told session hP)

theorem change {f : Session κ S → Session κ S}
    (hf : ∀ {told session}, P told session → P told (f session)) : (Act.change f).Tells P := by
  intro caller _ _ told session hP
  rw [Act.moments_change, List.append_nil]
  exact hf hP

theorem note {entry : Entry κ} (hentry : ∀ {told session}, P told session →
    P (told ++ [⟨entry, session⟩]) (session.noting entry)) : (Act.note (S := S) entry).Tells P :=
  fun _ _ _ _ _ hP => hentry hP

theorem call {call : Call κ} (hcalled : (Act.note (S := S) (.called call)).Tells P)
    (hreturned : ∀ outcome, (Act.note (S := S) (.returned call outcome)).Tells P) :
    (Act.call (S := S) call).Tells P := by
  have hraise : (Act.raise (S := S) call).Tells P :=
    fun _ _ tells _ _ hP => tells call hP
  exact hcalled.bind fun _ => hraise.bind fun outcome => (hreturned outcome).bind fun _ =>
    .pure outcome

/-- An act keeps a statement if it is made of acts that do. -/
theorem of_madeOf {act : Act κ S α} (hact : act.MadeOf (Telling P)) : act.Tells P := by
  refine hact.covered .pure (fun view => ?_) (fun {_ next} hnext => ?_) bind
  · intro caller _ _ told session hP
    rw [Act.moments_read, List.append_nil]
    exact hP
  · intro caller apart tells told session hP
    exact hnext session caller apart tells told session hP

end Act.Tells

/-! ## Stories -/

section

variable {allowed : Request κ → Prop} {code : Code κ S}

/-- Callbacks keep whatever everything keeps that can be done, however deep they nest. -/
theorem Code.tells (covers : (Telling P).Covers allowed) (within : code.Within allowed)
    (depth : Nat) : (code.caller depth).Tells P := by
  induction depth with
  | zero =>
      intro told session call hP
      exact (List.append_nil told).symm ▸ hP
  | succ depth ih =>
      intro told session call hP
      exact Act.Tells.of_madeOf (covers.respond within call) _ (within.apart depth) ih told session
        hP

/-- What holds at first, and is kept by everything that can be done, holds of every story. -/
theorem Session.Story.upholds (covers : (Telling P).Covers allowed)
    (store : ∀ {told session} (app : S), P told session → P told { session with app := app })
    {first last : Session κ S} {told : List (Moment κ S)} (hfirst : P [] first)
    (story : first.Story allowed told last) : P told last := by
  induction story with
  | nil => exact hfirst
  | store app _ ih => exact store app ih
  | @act told session _ act code depth undertaking within _ ih =>
      exact Act.Tells.of_madeOf (covers.undertaking undertaking) _ (within.apart depth)
        (Code.tells covers within depth) told session ih

/-- What happens, and what it leads to, when requests are made one after the other. -/
def Code.tell (code : Code κ S) (depth : Nat) (requests : List (Request κ))
    (told : List (Moment κ S) × Session κ S) : List (Moment κ S) × Session κ S :=
  requests.foldl (fun told request =>
    (told.1 ++ request.perform.moments (code.caller depth) told.2,
      (request.perform.run (code.caller depth) told.2).2)) told

theorem Code.story_tell (within : code.Within allowed) (depth : Nat) {requests : List (Request κ)}
    (permitted : ∀ request ∈ requests, allowed request) {first : Session κ S}
    {told : List (Moment κ S) × Session κ S} (story : first.Story allowed told.1 told.2) :
    first.Story allowed (code.tell depth requests told).1 (code.tell depth requests told).2 := by
  induction requests generalizing told with
  | nil => exact story
  | cons request rest ih =>
      refine ih (fun other hmem => permitted other (List.mem_cons_of_mem request hmem)) ?_
      exact .act (.request request (permitted request List.mem_cons_self)) within story

end

/-! ## Statements about a view -/

/-- `P` is a statement about a view of the session and about the shown moments of the history.  It
may look at the journal, but what it has found there must still count when the journal has grown. -/
structure HistoryLaw (view : Session κ S → V) (shown : Entry κ → Bool) (P : History κ S) :
    Prop where
  congr : ∀ {told session later}, view later = view session →
    session.journal <:+ later.journal → P told session → P told later
  moment : ∀ {told session} {moment : Moment κ S}, shown moment.entry = false → P told session →
    P (told ++ [moment]) session

namespace HistoryLaw

variable {view : Session κ S → V} {shown : Entry κ → Bool} (law : HistoryLaw view shown P)

include law

/-- Moments that are not shown may be added. -/
theorem append {told moments : List (Moment κ S)} {session : Session κ S}
    (hmoments : ∀ moment ∈ moments, shown moment.entry = false) (hP : P told session) :
    P (told ++ moments) session := by
  induction moments generalizing told with
  | nil => rwa [List.append_nil]
  | cons moment rest ih =>
      have hrest := ih (fun other hmem => hmoments other (List.mem_cons_of_mem moment hmem))
        (law.moment (hmoments moment List.mem_cons_self) hP)
      rwa [List.append_assoc] at hrest

variable (hview : ∀ (session : Session κ S) journal,
  view { session with journal := journal } = view session)

include hview

theorem tells_note {entry : Entry κ} (hentry : shown entry = false) :
    (Act.note (S := S) entry).Tells P :=
  .note fun {_ session} hP =>
    law.congr (hview session _) (List.suffix_cons entry _) (law.moment hentry hP)

/-- What keeps a statement about a view sees no more than the view. -/
theorem sees : (Telling P).Sees view shown where
  change f hf := by
    refine .part (.change fun {_ session} hP => ?_)
    obtain ⟨heq, noted, hjournal, -⟩ := hf session
    exact law.congr heq ⟨noted, hjournal.symm⟩ hP
  note entry _ hentry := .part (law.tells_note hview hentry)
  call call hcall := .part (.call (law.tells_note hview hcall.1) fun outcome =>
    law.tells_note hview (hcall.2 outcome))

end HistoryLaw

end EditorShell
