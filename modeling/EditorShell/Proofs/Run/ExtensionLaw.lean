import EditorShell.Proofs.Run.Views

/-!
# Laws of the extensions

A law of the extensions is a statement about the registered extensions and the journal, for which
only the calls that extensions get count among all that is noted.  Everything but registering,
unregistering, activating and deactivating an extension upholds such a law
(`ExtensionLaw.covers`).
-/

namespace EditorShell

variable {κ S ι : Type}

/-- `P` is a statement about the registered extensions and the journal.  Entries that do not tell
of the calls of extensions keep it, and under it `Q` holds where they are noted. -/
abbrev ExtensionLaw (P : ι → Session κ S → Prop) (Q : ι → Moment κ S → Prop) : Prop :=
  ViewLaw Session.extensions Entry.isLifecycle P Q

namespace ExtensionLaw

variable {P : ι → Session κ S → Prop} {Q : ι → Moment κ S → Prop} (law : ExtensionLaw P Q)

include law

theorem sees : (Upholding P Q).Sees Session.extensions Entry.isLifecycle :=
  ViewLaw.sees law fun _ _ => rfl

theorem ordinary : (Upholding P Q).Ordinary :=
  law.sees.ordinary fun _ _ hlifecycle _ _ => ⟨hlifecycle, fun _ => hlifecycle⟩

omit law in
theorem hidden_of_isJob (call : Call κ) (hjob : call.isJob = true) :
    call.Hidden Entry.isLifecycle :=
  ⟨Call.isLifecycle_of_isJob hjob, fun _ => Call.isLifecycle_of_isJob hjob⟩

theorem commands : (Upholding P Q).Commands :=
  law.sees.commands law.ordinary
    (fun entry hpress => by cases entry <;> first | rfl | cases hpress) fun _ _ _ => rfl

/-- What is left to show for a law of the extensions is that their own operations uphold it. -/
theorem covers {allowed : Request κ → Prop} (extensions : (Upholding P Q).Extensions) :
    (Upholding P Q).Covers allowed := by
  have panels := law.sees.panels law.ordinary rfl fun _ _ => rfl
  have core : (Upholding P Q).Core allowed := law.sees.core law.ordinary
    (fun _ => ⟨rfl, fun _ => rfl⟩) hidden_of_isJob
    (fun entry hinner => by cases entry <;> first | rfl | cases hinner) fun _ _ => rfl
  exact .of_core panels core (law.sees.outer fun _ _ _ _ => rfl)
    (law.sees.events (fun _ _ _ => ⟨rfl, fun _ => rfl⟩)
      (fun entry hevent => by cases entry <;> first | rfl | cases hevent) fun _ _ => rfl)
    law.commands extensions
    (law.sees.shell panels core
      (fun entry hdisplay => by cases entry <;> first | rfl | cases hdisplay) fun _ _ _ => rfl)

end ExtensionLaw

end EditorShell
