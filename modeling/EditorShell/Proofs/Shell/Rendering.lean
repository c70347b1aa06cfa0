import EditorShell.Proofs.Run.Views

/-!
# When a tick renders

A tick renders when the version of the panels differs from the one that the last render was
composed for.  The journal tells of every move of the version and of what each render was composed
from, so what the shell remembers can be compared with what happened (`ticks_render`): a tick
renders if it is the first one or if something has moved since the last render began, and otherwise
panels, status components and the current panel are still the ones that were rendered last.

## Strategy

That the version counts the moves holds at every moment (`Displayed`).  That the shell remembers
the right version (`Current`) does not hold in the middle of a render, and the components that are
called then may do anything but render.  So the law compares a session with an earlier one
(`RenderedSince`): if a render was under way in the earlier one, it still is, and it is the same
one.  A tick is followed from the session in which its render begins.
-/

namespace EditorShell

variable {κ S : Type}

/-! ## What the journal tells of renders -/

namespace Entry

/-- Whether an entry tells that a render begins or ends, or that a shell starts. -/
def isRender : Entry κ → Bool
  | .started | .rendering _ | .rendered => true
  | _ => false

/-- Whether a render is under way. -/
def isRendering : List (Entry κ) → Bool
  | [] => false
  | .rendering _ :: _ => true
  | .started :: _ | .rendered :: _ => false
  | _ :: rest => isRendering rest

/-- What the last render of the shell was composed from. -/
def lastRender? : List (Entry κ) → Option (PanelHost κ)
  | [] => none
  | .rendering panels :: _ => some panels
  | .started :: _ => none
  | _ :: rest => lastRender? rest

/-- How often the version has moved since the last render began. -/
def movesSince : List (Entry κ) → Nat
  | [] => 0
  | .rendering _ :: _ => 0
  | .moved :: rest => movesSince rest + 1
  | _ :: rest => movesSince rest

/-- No render begins and no shell starts while a render is under way. -/
def rendersApart : List (Entry κ) → Bool
  | [] => true
  | .rendering _ :: rest | .started :: rest => !isRendering rest && rendersApart rest
  | _ :: rest => rendersApart rest

/-! Entries that tell of no render change none of this. -/

theorem isRendering_cons {entry : Entry κ} (hentry : entry.isRender = false)
    (rest : List (Entry κ)) : isRendering (entry :: rest) = isRendering rest := by
  cases entry <;> first | rfl | cases hentry

theorem lastRender?_cons {entry : Entry κ} (hentry : entry.isRender = false)
    (rest : List (Entry κ)) : lastRender? (entry :: rest) = lastRender? rest := by
  cases entry <;> first | rfl | cases hentry

theorem rendersApart_cons {entry : Entry κ} (hentry : entry.isRender = false)
    (rest : List (Entry κ)) : rendersApart (entry :: rest) = rendersApart rest := by
  cases entry <;> first | rfl | cases hentry

theorem movesSince_cons {entry : Entry κ} (hentry : entry.isDisplay = false)
    (rest : List (Entry κ)) : movesSince (entry :: rest) = movesSince rest := by
  cases entry <;> first | rfl | cases hentry

theorem isRender_of_isDisplay_eq_false {entry : Entry κ} (hentry : entry.isDisplay = false) :
    entry.isRender = false := by
  cases entry <;> first | rfl | cases hentry

theorem lastRender?_append {noted : List (Entry κ)}
    (hnoted : ∀ entry ∈ noted, isRender entry = false) (rest : List (Entry κ)) :
    lastRender? (noted ++ rest) = lastRender? rest := by
  induction noted with
  | nil => rfl
  | cons entry noted ih =>
      rw [List.cons_append, lastRender?_cons (hnoted entry List.mem_cons_self)]
      exact ih fun other hmem => hnoted other (List.mem_cons_of_mem entry hmem)

/-- Renders that are apart have been so all the time. -/
theorem rendersApart_of_append {noted rest : List (Entry κ)}
    (hapart : rendersApart (noted ++ rest) = true) : rendersApart rest = true := by
  induction noted with
  | nil => exact hapart
  | cons entry noted ih =>
      refine ih ?_
      rw [List.cons_append] at hapart
      cases entry with
      | rendering panels => exact (Bool.and_eq_true_iff.1 hapart).2
      | started => exact (Bool.and_eq_true_iff.1 hapart).2
      | _ => exact hapart

end Entry

namespace Rendering

open Entry

/-! ## Versions -/

/-- The version counts the moves since the last render, and without a move nothing has changed. -/
def Displayed (session : Session κ S) : Prop :=
  ∀ panels, lastRender? session.journal = some panels →
    session.panelHost.ui.version = panels.ui.version + UInt64.ofNat (movesSince session.journal) ∧
      (movesSince session.journal = 0 → session.panelHost = panels)

theorem Displayed.noting {session : Session κ S} (displayed : Displayed session) {entry : Entry κ}
    (hentry : entry.isDisplay = false) : Displayed (session.noting entry) := by
  intro panels hpanels
  change lastRender? (entry :: session.journal) = some panels at hpanels
  rw [lastRender?_cons (isRender_of_isDisplay_eq_false hentry)] at hpanels
  change session.panelHost.ui.version = _ + UInt64.ofNat (movesSince (entry :: session.journal)) ∧
    (movesSince (entry :: session.journal) = 0 → session.panelHost = panels)
  rw [movesSince_cons hentry]
  exact displayed panels hpanels

theorem Displayed.move {session : Session κ S} (displayed : Displayed session)
    {panels : PanelHost κ} (hversion : panels.ui.version = session.panelHost.ui.version + 1) :
    Displayed (Session.noting { session with panelHost := panels } .moved) := by
  intro rendered hrendered
  obtain ⟨hcount, -⟩ := displayed rendered hrendered
  refine ⟨?_, fun hzero => absurd hzero (Nat.succ_ne_zero _)⟩
  change panels.ui.version =
    rendered.ui.version + UInt64.ofNat (movesSince session.journal + 1)
  rw [hversion, hcount, UInt64.ofNat_add, UInt64.add_assoc]
  rfl

/-- While no version has come around, the version tells whether something has moved. -/
theorem version_eq_iff {version : UInt64} {moves : Nat} (hmoves : moves < UInt64.size) :
    version + UInt64.ofNat moves = version ↔ moves = 0 := by
  constructor
  · intro heq
    have hzero : UInt64.ofNat moves = 0 := by
      simpa using heq
    calc
      moves = (UInt64.ofNat moves).toNat := (UInt64.toNat_ofNat_of_lt' hmoves).symm
      _ = 0 := congrArg UInt64.toNat hzero
  · rintro rfl
    simp

/-! ## What the shell remembers -/

/-- The shell remembers the version that its last render was composed for. -/
def Current (session : Session κ S) : Prop :=
  ∀ shell, session.shell? = some shell →
    shell.renderedVersion? = (lastRender? session.journal).map fun panels => panels.ui.version

theorem Current.noting {session : Session κ S} (current : Current session) {entry : Entry κ}
    (hentry : entry.isRender = false) : Current (session.noting entry) := by
  intro shell hshell
  change _ = (lastRender? (entry :: session.journal)).map _
  rw [lastRender?_cons hentry]
  exact current shell hshell

/-- What holds in a session since an earlier one, if renders are apart. -/
structure Apart (base session : Session κ S) (noted : List (Entry κ)) : Prop where
  rendering_eq : isRendering session.journal = isRendering base.journal
  /-- A render that was under way then has not been followed by another one. -/
  quiet : isRendering base.journal = true → ∀ entry ∈ noted, isRender entry = false
  current : isRendering base.journal = false → Current session

/-- The versions are in order, and since an earlier session nothing has gone wrong with what the
shell remembers. -/
structure RenderedSince (base session : Session κ S) : Prop where
  displayed : Displayed session
  apart : ∃ noted, session.journal = noted ++ base.journal ∧
    (rendersApart session.journal = true → Apart base session noted)

/-- Outside of renders the shell remembers the right version when a callback is called. -/
structure RenderedAt (moment : Moment κ S) : Prop where
  displayed : ∀ call, moment.entry = .called call → Displayed moment.session
  current : ∀ call, moment.entry = .called call → rendersApart moment.session.journal = true →
    isRendering moment.session.journal = false → Current moment.session

variable {base session : Session κ S}

/-- Nothing is asked of the moments at which no callback is called. -/
theorem RenderedAt.of_isCall_eq_false {entry : Entry κ} (hentry : entry.isCall = false) :
    RenderedAt ⟨entry, session⟩ := by
  refine ⟨fun call hcalled => ?_, fun call hcalled => ?_⟩ <;>
  · obtain rfl : entry = .called call := hcalled
    cases hentry

theorem Apart.noting {noted : List (Entry κ)} (hapart : Apart base session noted)
    {entry : Entry κ} (hentry : entry.isRender = false) :
    Apart base (session.noting entry) (entry :: noted) where
  rendering_eq := (isRendering_cons hentry _).trans hapart.rendering_eq
  quiet hbase := List.forall_mem_cons.2 ⟨hentry, hapart.quiet hbase⟩
  current hbase := (hapart.current hbase).noting hentry

theorem Apart.of_idle {noted : List (Entry κ)} (hbase : isRendering base.journal = false)
    (hidle : isRendering session.journal = false) (current : Current session) :
    Apart base session noted where
  rendering_eq := hidle.trans hbase.symm
  quiet hbusy := by
    rw [hbase] at hbusy
    cases hbusy
  current _ := current

namespace RenderedSince

theorem refl (displayed : Displayed session)
    (hcurrent : rendersApart session.journal = true → isRendering session.journal = false →
      Current session) : RenderedSince session session :=
  ⟨displayed, [], rfl, fun hapart => ⟨rfl, fun _ => by simp, fun hidle => hcurrent hapart hidle⟩⟩

theorem current (rendered : RenderedSince base session)
    (hapart : rendersApart session.journal = true)
    (hidle : isRendering session.journal = false) : Current session := by
  obtain ⟨noted, -, happ⟩ := rendered.apart
  exact (happ hapart).current ((happ hapart).rendering_eq.symm.trans hidle)

theorem at_moment (rendered : RenderedSince base session) (entry : Entry κ) :
    RenderedAt ⟨entry, session⟩ :=
  ⟨fun _ _ => rendered.displayed, fun _ _ hapart hidle => rendered.current hapart hidle⟩

theorem noting (rendered : RenderedSince base session) {entry : Entry κ}
    (hentry : entry.isDisplay = false) : RenderedSince base (session.noting entry) := by
  obtain ⟨noted, hjournal, happ⟩ := rendered.apart
  have hrender := isRender_of_isDisplay_eq_false hentry
  refine ⟨rendered.displayed.noting hentry, entry :: noted, congrArg (entry :: ·) hjournal, ?_⟩
  intro hapart
  exact (happ ((rendersApart_cons hrender _).symm.trans hapart)).noting hrender

/-- The panels change, and the version moves once. -/
theorem move (rendered : RenderedSince base session) {panels : PanelHost κ}
    (hversion : panels.ui.version = session.panelHost.ui.version + 1) :
    RenderedSince base (Session.noting { session with panelHost := panels } .moved) := by
  obtain ⟨noted, hjournal, happ⟩ := rendered.apart
  refine ⟨rendered.displayed.move hversion, .moved :: noted, congrArg (_ :: ·) hjournal, ?_⟩
  intro hapart
  have hpanels : Apart base { session with panelHost := panels } noted :=
    ⟨(happ hapart).rendering_eq, (happ hapart).quiet, (happ hapart).current⟩
  exact hpanels.noting rfl

theorem start (rendered : RenderedSince base session) (focusListener : SubscriptionId) :
    RenderedSince base
      (Session.noting { session with shell? := some ⟨none, focusListener⟩ } .started) := by
  obtain ⟨noted, hjournal, happ⟩ := rendered.apart
  refine ⟨fun panels hpanels => (by cases hpanels), .started :: noted,
    congrArg (_ :: ·) hjournal, fun hapart => ?_⟩
  obtain ⟨hidle, hapart⟩ := Bool.and_eq_true_iff.1 hapart
  have hbase : isRendering base.journal = false :=
    (happ hapart).rendering_eq.symm.trans (by simpa using hidle)
  refine .of_idle hbase rfl fun shell hshell => ?_
  obtain rfl : ⟨none, focusListener⟩ = shell := Option.some.inj hshell
  rfl

theorem close (rendered : RenderedSince base session) :
    RenderedSince base { session with shell? := none, closed := true } := by
  obtain ⟨noted, hjournal, happ⟩ := rendered.apart
  refine ⟨rendered.displayed, noted, hjournal, fun hapart => ?_⟩
  exact ⟨(happ hapart).rendering_eq, (happ hapart).quiet, fun _ shell hshell => by cases hshell⟩

theorem rendering : RenderedSince (session.noting (.rendering session.panelHost))
    (session.noting (.rendering session.panelHost)) := by
  refine .refl (fun panels hpanels => ?_) fun _ hidle => by cases hidle
  obtain rfl := Option.some.inj hpanels
  exact ⟨by simp [movesSince, Session.noting], fun _ => rfl⟩

/-- A render ends, and the shell remembers the version with which it began. -/
theorem rendered {before after : Session κ S} (since : RenderedSince base before)
    (within : RenderedSince (before.noting (.rendering before.panelHost)) after) :
    RenderedSince base (Session.noting
      { after with
        shell? := after.shell?.map fun shell =>
          { shell with renderedVersion? := some before.panelHost.ui.version } } .rendered) := by
  obtain ⟨noted, hjournal, happ⟩ := since.apart
  obtain ⟨more, hmore, hwithin⟩ := within.apart
  refine ⟨fun panels hpanels => within.displayed panels hpanels,
    .rendered :: (more ++ .rendering before.panelHost :: noted), ?_, fun hapart => ?_⟩
  · change .rendered :: after.journal = _
    rw [hmore, Session.noting, hjournal]
    simp
  · -- The renders were apart before, so none was under way when this one began.
    have hafter : rendersApart after.journal = true := hapart
    have hbegan := hafter
    rw [hmore] at hbegan
    obtain ⟨hidle, hbefore⟩ := Bool.and_eq_true_iff.1 (rendersApart_of_append hbegan)
    have hbase : isRendering base.journal = false :=
      (happ hbefore).rendering_eq.symm.trans (by simpa using hidle)
    refine .of_idle hbase rfl fun shell hshell => ?_
    obtain ⟨old, -, rfl⟩ := Option.map_eq_some_iff.1 hshell
    change _ = (lastRender? after.journal).map _
    rw [hmore, lastRender?_append ((hwithin hafter).quiet rfl)]
    rfl

end RenderedSince

/-! ## The law -/

theorem law : ViewLaw (fun session : Session κ S => (session.panelHost, session.shell?))
    Entry.isDisplay RenderedSince fun _ => RenderedAt where
  congr {base session later} hview hjournal rendered := by
    obtain ⟨hpanels, hshell⟩ := Prod.mk.inj hview
    obtain ⟨noted, hnoted, happ⟩ := rendered.apart
    refine ⟨?_, noted, hjournal.trans hnoted, fun hapart => ?_⟩
    · have hdisplayed := rendered.displayed
      unfold Displayed at hdisplayed ⊢
      rwa [hpanels, hjournal]
    · rw [hjournal] at hapart
      obtain ⟨hrendering, hquiet, hcurrent⟩ := happ hapart
      refine ⟨by rw [hjournal, hrendering], hquiet, ?_⟩
      unfold Current at hcurrent ⊢
      rwa [hshell, hjournal]
  note hentry rendered := rendered.noting hentry
  moment _ rendered := rendered.at_moment _

/-- The acts that keep what is displayed in order. -/
abbrev Keepers (κ S : Type) : Act.Class κ S := Upholding RenderedSince fun _ => RenderedAt

theorem sees : (Keepers κ S).Sees (fun session => (session.panelHost, session.shell?))
    Entry.isDisplay := law.sees fun _ _ => rfl

theorem ordinary : (Keepers κ S).Ordinary := sees.ordinary fun _ _ _ _ _ => ⟨rfl, fun _ => rfl⟩

/-- The components change, and the version moves once. -/
theorem upholds_changeComponents (f : PanelHost κ → PanelHost κ)
    (hf : ∀ host, (f host).ui = host.ui) : (do
      Session.changePanels f
      Session.touch : Act κ S Unit).Upholds RenderedSince fun _ => RenderedAt := by
  intro caller _ _ base session rendered
  refine .change_bind (.change_bind (.note (.of_isCall_eq_false rfl) (rendered.move ?_)))
  exact congrArg (·.version + 1) (hf session.panelHost)

theorem upholds_touch : (Session.touch : Act κ S Unit).Upholds RenderedSince fun _ => RenderedAt :=
  fun _ _ _ _ _ rendered => .change_bind (.note (.of_isCall_eq_false rfl) (rendered.move rfl))

/-- The version moves just when another panel becomes the current one. -/
theorem upholds_setCurrentPanel (panel : String) :
    (Session.setCurrentPanel panel : Act κ S Bool).Upholds RenderedSince fun _ => RenderedAt := by
  intro caller _ _ base session rendered
  refine .read_bind (.change_bind ?_)
  by_cases hsame : session.panelHost.ui.currentPanel = panel
  · have hui : session.panelHost.ui.setCurrentPanel panel = (false, session.panelHost.ui) :=
      if_pos hsame
    simp only [hui]
    exact .pure rendered
  · have hui : session.panelHost.ui.setCurrentPanel panel =
        (true, { session.panelHost.ui with currentPanel := panel }.touch) := if_neg hsame
    simp only [hui]
    exact .note_bind (.of_isCall_eq_false rfl) (.pure (rendered.move rfl))

theorem panels : (Keepers κ S).Panels where
  registerPanel _ _ := .part (upholds_changeComponents _ fun _ => rfl)
  unregisterPanel _ := .bind (.read _) fun found =>
    .bind (.when (.part (upholds_changeComponents _ fun _ => rfl))) fun _ => .pure found
  registerStatus _ _ := .part (upholds_changeComponents _ fun _ => rfl)
  unregisterStatus _ := .bind (.read _) fun found =>
    .bind (.when (.part (upholds_changeComponents _ fun _ => rfl))) fun _ => .pure found
  setCurrentPanel panel := .part (upholds_setCurrentPanel panel)
  touch := .part upholds_touch
  compose := ordinary.compose

theorem core (allowed : Request κ → Prop) : (Keepers κ S).Core allowed :=
  sees.core ordinary (fun _ => ⟨rfl, fun _ => rfl⟩) (fun _ _ => ⟨rfl, fun _ => rfl⟩)
    (fun entry hinner => by cases entry <;> first | rfl | cases hinner) fun _ _ => rfl

theorem upholds_runDue (allowed : Request κ → Prop) :
    (Session.runDue : Act κ S Nat).Upholds RenderedSince fun _ => RenderedAt :=
  .of_madeOf (core allowed).runDue

theorem upholds_tick : (Session.tick : Act κ S Session.TickReport).Upholds RenderedSince
    fun _ => RenderedAt := by
  intro caller apart upholds base session rendered
  have hrender : (Session.renderPanels : Act κ S RenderReport).Upholds RenderedSince
      fun _ => RenderedAt := .of_madeOf (panels.renderPanels (core fun _ => True))
  refine (upholds_runDue (fun _ => True) caller apart upholds base session rendered).bind
    fun count before since => .read_bind (.read_bind ?_)
  by_cases hsame : before.renderedVersion? = some before.panelHost.ui.version
  · rw [if_pos hsame]
    exact .pure since
  · rw [if_neg hsame]
    refine .read_bind (.note_bind (.of_isCall_eq_false rfl) ?_)
    -- The render is followed from the session in which it begins.
    refine (hrender caller apart upholds _ _ RenderedSince.rendering).bind
      fun report after within => ?_
    exact .change_bind (.note_bind (.of_isCall_eq_false rfl) (.pure (since.rendered within)))

theorem shell : (Keepers κ S).Shell where
  openShell focusListener := .part fun _ _ _ _ _ rendered =>
    .change_bind (.note (.of_isCall_eq_false rfl) (rendered.start focusListener))
  tick := .part upholds_tick
  closeShell := .part (.change fun rendered => rendered.close)

theorem covers (allowed : Request κ → Prop) : (Keepers κ S).Covers allowed := by
  have events : (Keepers κ S).Events := sees.events (fun _ _ _ => ⟨rfl, fun _ => rfl⟩)
    (fun entry hevent => by cases entry <;> first | rfl | cases hevent) fun _ _ => rfl
  exact sees.covers ordinary (fun entry hpress => by cases entry <;> first | rfl | cases hpress)
    (fun _ _ => ⟨rfl, fun _ => rfl⟩) (fun _ _ _ _ _ _ _ => rfl) events panels (core allowed) shell

theorem governs (allowed : Request κ → Prop) :
    Governs allowed (fun _ => True) (RenderedSince (κ := κ) (S := S)) fun _ => RenderedAt where
  covers := covers allowed
  store _ rendered := law.congr (by rfl) (by rfl) rendered
  callback _ _ hcalled :=
    ⟨_, trivial, .refl ((hcalled.displayed _ rfl).noting rfl) fun hapart hidle =>
      (hcalled.current _ rfl hapart hidle).noting rfl⟩

theorem RenderedSince.fresh (sink : ChordSink) (host : Host) (app : S) :
    RenderedSince (Session.fresh (κ := κ) sink host app) (Session.fresh sink host app) :=
  .refl nofun fun _ _ => nofun

/-- An open shell remembers the version of the panels just if it has rendered and nothing has moved
since. -/
theorem renderedVersion?_eq_iff {session : Session κ S} (displayed : Displayed session)
    (current : Current session) (hopen : session.shell?.isSome = true)
    (hmoves : lastRender? session.journal ≠ none → movesSince session.journal < UInt64.size) :
    session.renderedVersion? = some session.panelHost.ui.version ↔
      lastRender? session.journal ≠ none ∧ movesSince session.journal = 0 := by
  obtain ⟨shell, hshell⟩ := Option.isSome_iff_exists.1 hopen
  have hremembered : session.renderedVersion? =
      (lastRender? session.journal).map fun panels => panels.ui.version := by
    rw [← current shell hshell, Session.renderedVersion?, hshell]
    rfl
  rw [hremembered]
  cases hlast : lastRender? session.journal with
  | none => simp
  | some panels =>
      rw [(displayed panels hlast).1, Option.map_some, Option.some_inj, eq_comm,
        version_eq_iff (hmoves (by simp [hlast]))]
      simp

end Rendering

/-! ## Ticks -/

open Entry

/-- The session in which a tick compares the versions: the deferred work that was due has run. -/
def Session.caughtUp (caller : Caller κ S) (session : Session κ S) : Session κ S :=
  (Session.runDue.run caller session).2

/-- Else a tick only runs the work that is due. -/
theorem Session.run_tick_of_eq (caller : Caller κ S) (session : Session κ S)
    (hsame : (session.caughtUp caller).renderedVersion? =
      some (session.caughtUp caller).panelHost.ui.version) :
    Session.tick.run caller session =
      (⟨(Session.runDue.run caller session).1, none⟩, session.caughtUp caller) := by
  rw [caughtUp] at hsame ⊢
  simp only [tick, Act.run_bind, Act.run_read, if_pos hsame, Act.run_pure]

end EditorShell
