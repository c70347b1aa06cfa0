import EditorShell.Proofs.Run.Requests

/-!
# Laws of runs

A law is a statement `P` about sessions that everything upholds, together with a statement `Q` about
the moments on the way.  `Governs` lists what has to be shown for a law; it then holds of every
session that is reached (`Governs.reaches`).  The indices that `Top` selects are those at which
sessions are reached.

A callback runs with a caller of less depth, so what all callbacks uphold follows by induction on
the depth (`Governs.caller`).
-/

namespace EditorShell

variable {κ S α β ι : Type}

/-! ## What upholds a law -/

/-- The acts that uphold a law. -/
def Upholding (P : ι → Session κ S → Prop) (Q : ι → Moment κ S → Prop) : Act.Class κ S :=
  fun _ act => act.Upholds P Q

variable {P : ι → Session κ S → Prop} {Q : ι → Moment κ S → Prop}

/-- An act upholds a law if it is made of acts that do. -/
theorem Act.Upholds.of_madeOf {act : Act κ S α} (hact : act.MadeOf (Upholding P Q)) :
    act.Upholds P Q :=
  hact.covered .pure .read .look .bind

/-! ## Laws of runs -/

/-- `P` is a law of sessions whose program makes only `allowed` requests, and `Q` holds at every
moment of their runs. -/
structure Governs (allowed : Request κ → Prop) (Top : ι → Prop) (P : ι → Session κ S → Prop)
    (Q : ι → Moment κ S → Prop) : Prop where
  covers : (Upholding P Q).Covers allowed
  /-- The law does not look at the state of the embedding program. -/
  store : ∀ {index session} (app : S), P index session → P index { session with app := app }
  /-- The law holds wherever a callback other than the host starts. -/
  callback : ∀ {index} {call : Call κ} {session : Session κ S}, Top index → call.isHost = false →
    Q index ⟨.called call, session⟩ → ∃ index, Top index ∧ P index (session.noting (.called call))

namespace Governs

variable {allowed : Request κ → Prop} {Top : ι → Prop} {code : Code κ S}

/-- Callbacks uphold every law, however deep they nest. -/
theorem caller (law : Governs allowed Top P Q) (within : code.Within allowed) (depth : Nat) :
    (code.caller depth).Upholds P Q := by
  induction depth with
  | zero => exact ⟨fun _ hP => hP, fun _ _ moment hmoment => by cases hmoment⟩
  | succ depth ih =>
      have hrespond := fun call => Act.Upholds.of_madeOf (law.covers.respond within call)
        (code.caller depth) (within.apart depth) ih
      exact ⟨fun call hP => (hrespond call _ _ hP).1, fun call hP => (hrespond call _ _ hP).2⟩

/-- What upholds a law if callbacks do so keeps it. -/
theorem meets (law : Governs allowed Top P Q) {act : Act κ S α}
    (hact : act.MadeOf (Upholding P Q)) (within : code.Within allowed) (depth : Nat) (index : ι)
    {session : Session κ S} (hP : P index session) :
    act.Meets (Q index) (code.caller depth) session fun _ => P index :=
  Act.Upholds.of_madeOf hact _ (within.apart depth) (law.caller within depth) index session hP

/-- What is done in a session upholds every law. -/
theorem undertaking (law : Governs allowed Top P Q) {act : Act κ S α}
    (undertaken : Undertaking allowed act) (within : code.Within allowed) (depth : Nat)
    {index : ι} {session : Session κ S} (hP : P index session) :
    act.Meets (Q index) (code.caller depth) session fun _ => P index :=
  law.meets (law.covers.undertaking undertaken) within depth index hP

/-- Under a law `Q` holds at every moment of what is done. -/
theorem occurs (law : Governs allowed Top P Q) {index : ι} {session : Session κ S}
    {moment : Moment κ S} (hP : P index session) (hoccurs : moment.OccursFrom allowed session) :
    Q index moment := by
  obtain ⟨undertaken, within, mem⟩ := hoccurs
  exact (law.undertaking undertaken within _ hP).2 moment mem

/-- A law that holds of a session holds of every session it reaches. -/
theorem reaches (law : Governs allowed Top P Q) {first session : Session κ S}
    (hfirst : ∃ index, Top index ∧ P index first) (hreaches : first.Reaches allowed session) :
    ∃ index, Top index ∧ P index session := by
  induction hreaches with
  | refl => exact hfirst
  | store app _ ih =>
      obtain ⟨index, htop, hP⟩ := ih
      exact ⟨index, htop, law.store app hP⟩
  | act undertaken within _ ih =>
      obtain ⟨index, htop, hP⟩ := ih
      exact ⟨index, htop, (law.undertaking undertaken within _ hP).1⟩
  | @callback session moment call hoccurs called own _ ih =>
      obtain ⟨index, htop, hP⟩ := ih
      have hQ : Q index ⟨.called call, moment.session⟩ := by
        rw [← called]
        exact law.occurs hP hoccurs
      rw [called]
      exact law.callback htop own hQ

/-- Under a law `Q` holds at every moment of what is done in a session that is reached. -/
theorem occurs_of_reaches (law : Governs allowed Top P Q) {first session : Session κ S}
    {moment : Moment κ S} (hfirst : ∃ index, Top index ∧ P index first)
    (hreaches : first.Reaches allowed session) (hoccurs : moment.OccursFrom allowed session) :
    ∃ index, Top index ∧ Q index moment := by
  obtain ⟨index, htop, hP⟩ := law.reaches hfirst hreaches
  exact ⟨index, htop, law.occurs hP hoccurs⟩

/-- Between the requests of a run a law holds at the index at which it held first. -/
theorem runs (law : Governs allowed Top P Q) (within : code.Within allowed) {index : ι}
    {first session : Session κ S} (hfirst : P index first)
    (runs : code.Runs allowed first session) : P index session := by
  induction runs with
  | refl => exact hfirst
  | store app _ ih => exact law.store app ih
  | request request permitted _ ih =>
      exact (law.undertaking (.request request permitted) within _ ih).1

/-- What follows from a law holds of every session on the way, also in the middle of what is
done. -/
theorem passes (law : Governs allowed Top P Q) {R : Session κ S → Prop}
    (hsession : ∀ {index session}, Top index → P index session → R session)
    (hmoment : ∀ {index moment}, Top index → Q index moment → R moment.session)
    {first session : Session κ S} (hfirst : ∃ index, Top index ∧ P index first)
    (hpasses : first.Passes allowed session) : R session := by
  cases hpasses with
  | reached reaches =>
      obtain ⟨index, htop, hP⟩ := law.reaches hfirst reaches
      exact hsession htop hP
  | within occurs reaches =>
      obtain ⟨index, htop, hQ⟩ := law.occurs_of_reaches hfirst reaches occurs
      exact hmoment htop hQ

end Governs

end EditorShell
