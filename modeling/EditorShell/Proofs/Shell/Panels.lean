import EditorShell.Proofs.Handle.Lasting
import EditorShell.Proofs.Shell.Rendering
import EditorShell.Proofs.Widget.Rendering

/-!
# Registered panels stay mounted

A tick that renders leaves every registered panel mounted, whichever panel is on screen and whatever
the components return, if the host accepts every mount.  So nothing takes a panel away as long as it
stays registered, and its handle stays the same (`panels_stay_mounted`).

## Strategy

* **Ids that clash.**  The walk skips a node whose id it has met, with everything below it.  Only
  the root and the stack of panels are above a panel, and nothing is visited before these two.  So
  every panel gets its turn (`mem_stops_shellTree`), and if its id has been met by then, it has been
  visited as the id of another node, and is mounted all the same.
* **Runs.**  Only renders withdraw widgets, and the render of a tick withdraws what the walk has not
  met.  `PanelsKept` compares a session with an earlier one; a tick is followed by hand, since a
  render of any other tree could withdraw anything.
-/

namespace EditorShell

variable {κ S : Type}

/-! ## Every panel gets its turn -/

namespace Node

variable {ι : Type} (enters : NodeId → Bool) {id : NodeId}

theorem stops_eq (parent : Option NodeId) (index : Nat) (met : NodeId → Bool) (node : Node ι) :
    node.stops enters parent index met =
      if met (node.effectiveId parent index) then []
      else ⟨node.effectiveId parent index, parent, index⟩ ::
        if enters (node.effectiveId parent index) then
          stopsBelow enters (node.effectiveId parent index) 0
            (fun other => met other || other == node.effectiveId parent index) node.children
        else [] := by
  obtain ⟨id, kind, style, props, handlers, children, data⟩ := node
  rw [stops]

theorem effectiveId_of_id {node : Node ι} (hid : node.id = some id) (parent : Option NodeId)
    (index : Nat) : node.effectiveId parent index = id := by
  unfold effectiveId
  rw [hid]

/-- A node is visited, or its id has been met. -/
theorem mem_stops {node : Node ι} (hid : node.id = some id) (parent : Option NodeId) (index : Nat)
    (met : NodeId → Bool) :
    met id = true ∨ id ∈ (node.stops enters parent index met).map Stop.id := by
  rw [stops_eq, effectiveId_of_id hid]
  by_cases hmet : met id = true
  · exact .inl hmet
  · rw [if_neg hmet]
    exact .inr List.mem_cons_self

/-- The children of a node get their turns one after the other. -/
theorem mem_stopsBelow {children : List (Node ι)} {child : Node ι} (hmem : child ∈ children)
    (hid : child.id = some id) (parent : NodeId) (index : Nat) (met : NodeId → Bool) :
    met id = true ∨ id ∈ (stopsBelow enters parent index met children).map Stop.id := by
  induction children generalizing index met with
  | nil => cases hmem
  | cons first rest ih =>
      rw [stopsBelow, List.map_append, List.mem_append]
      rcases List.mem_cons.1 hmem with rfl | hmem
      · have hfirst := mem_stops enters hid (some parent) index met
        exact hfirst.imp_right .inl
      · rcases ih hmem (index + 1) fun other => met other ||
          ((first.stops enters (some parent) index met).map Stop.id).contains other with
          hmet | hlater
        · rcases Bool.or_eq_true_iff.1 hmet with hmet | hvisited
          · exact .inl hmet
          · exact .inr (.inl (List.contains_iff_mem.1 hvisited))
        · exact .inr (.inr hlater)

variable {enters}

/-- Where the walk goes on below every node, it goes on below this one. -/
theorem stops_of_id {node : Node ι} (hid : node.id = some id) {parent : Option NodeId} {index : Nat}
    {met : NodeId → Bool} (hmet : met id = false)
    (henters : ∀ stop ∈ node.stops enters parent index met, enters stop.id = true) :
    node.stops enters parent index met =
      ⟨id, parent, index⟩ :: stopsBelow enters id 0 (fun other => met other || other == id)
        node.children := by
  have hstops := stops_eq enters parent index met node
  rw [effectiveId_of_id hid, if_neg (Bool.eq_false_iff.1 hmet)] at hstops
  have hid : enters id = true := by
    refine henters ⟨id, parent, index⟩ ?_
    rw [hstops]
    exact List.mem_cons_self
  rw [hstops, if_pos hid]

/-- The children of the first child of a root are visited if the walk goes on below every node. -/
theorem mem_stops_of_grandchild {root stack node : Node ι} {top first : NodeId}
    {rest : List (Node ι)} (hroot : root.id = some top) (hchildren : root.children = stack :: rest)
    (hstack : stack.id = some first) (hne : first ≠ top)
    (henters : ∀ stop ∈ root.stops enters none 0 fun _ => false, enters stop.id = true)
    (hmem : node ∈ stack.children) (hid : node.id = some id) :
    id ∈ (root.stops enters none 0 fun _ => false).map Stop.id := by
  have htree := stops_of_id hroot rfl henters
  rw [hchildren, stopsBelow] at htree
  rw [htree] at henters ⊢
  have hnew : (false || first == top) = false := by simpa using hne
  have hfirst := stops_of_id hstack hnew fun stop hstop =>
    henters stop (List.mem_cons_of_mem _ (List.mem_append_left _ hstop))
  rw [hfirst]
  rcases mem_stopsBelow enters hmem hid first 0
    (fun other => (false || other == top) || other == first) with hmet | hvisited
  · rw [Bool.false_or, Bool.or_eq_true, beq_iff_eq, beq_iff_eq] at hmet
    rcases hmet with rfl | rfl
    · exact List.mem_cons_self
    · exact List.mem_cons_of_mem _ List.mem_cons_self
  · rw [List.map_cons, List.map_append, List.map_cons]
    exact List.mem_cons_of_mem _ (List.mem_append_left _ (List.mem_cons_of_mem _ hvisited))

end Node

namespace Session

/-- If the walk goes on below every node that it visits, then it visits every panel. -/
theorem mem_stops_shellTree {context : RenderContext} {panels status : List (Node (Handler κ))}
    {enters : NodeId → Bool}
    (henters : ∀ stop ∈ (shellTree context panels status).stops enters none 0 fun _ => false,
      enters stop.id = true)
    {panel : Node (Handler κ)} (hmem : panel ∈ panels) {id : NodeId} (hid : panel.id = some id) :
    id ∈ ((shellTree context panels status).stops enters none 0 fun _ => false).map Stop.id := by
  have hchildren : (shellTree context panels status).children =
      [panelStack context panels, statusBar status] := rfl
  exact Node.mem_stops_of_grandchild rfl hchildren rfl (by decide) henters hmem hid

/-! ## The composed tree -/

variable {caller : Caller κ S}

theorem id_renderComponent (context : RenderContext) (id : String) (component : Component κ)
    (session : Session κ S) :
    ((renderComponent context id component).run caller session).1.id = some id := by
  unfold renderComponent
  rw [Act.run_bind]
  split <;> rfl

/-- Each component gives one node, with the id under which it is registered. -/
theorem map_id_renderComponents (context : RenderContext)
    (components : List (String × Component κ)) (session : Session κ S) :
    ((renderComponents context components).run caller session).1.map Node.id =
      components.map fun entry => some entry.1 := by
  induction components generalizing session with
  | nil => rfl
  | cons entry rest ih =>
      unfold renderComponents
      simp only [Act.run_bind, Act.run_pure, List.map_cons, id_renderComponent, ih]

/-- The composed tree has a node for every id that is registered when it is composed. -/
theorem exists_compose (caller : Caller κ S) (session : Session κ S) : ∃ context panels status,
    (compose.run caller session).1 = shellTree context panels status ∧
      ∀ id ∈ session.panelHost.panels.ids, ∃ panel ∈ panels, panel.id = some id := by
  unfold compose
  simp only [Act.run_bind, Act.run_read, Act.run_pure]
  refine ⟨_, _, _, rfl, fun id hid => ?_⟩
  have hmem := List.mem_map_of_mem (f := some) hid
  rw [ComponentRegistry.ids, List.map_map] at hmem
  refine List.mem_map.1 ?_
  rw [map_id_renderComponents]
  exact hmem

/-- After the walk over a composed tree every panel that it was composed with has been met and is
mounted, unless the host has refused a mount. -/
theorem walked_panels (apart : caller.HostApart) {session composed walked : Session κ S}
    {tree : Node (Handler κ)} {walk : Walk} (htree : tree = (compose.run caller session).1)
    (hwalk : (walkTree none 0 .start tree).run caller composed = (walk, walked)) :
    ∃ noted, walked.journal = noted ++ composed.journal ∧
      (noted.any Entry.refusesMount = false → ∀ id ∈ session.panelHost.panels.ids,
        walk.seen.contains id = true ∧ walked.bridge.isMounted id = true) := by
  obtain ⟨context, panels, status, hcomposed, hpanels⟩ := exists_compose caller session
  obtain ⟨tour, htrip, hstops⟩ := trip_walkTree apart none 0 .start tree composed (by simp)
  rw [hwalk] at htrip hstops
  obtain ⟨noted, hjournal, -⟩ := htrip.journal_eq
  refine ⟨noted, hjournal, fun haccepted id hid => ?_⟩
  have hmounted := htrip.accepted noted hjournal haccepted
  have htour : (shellTree context panels status).stops walked.bridge.isMounted none 0
      (fun _ => false) = tour := by
    rw [← hcomposed, ← htree]
    exact hstops walked.bridge.isMounted fun _ _ => rfl
  obtain ⟨panel, hpanel, hpanelId⟩ := hpanels id hid
  have hvisited := mem_stops_shellTree (fun stop hstop => hmounted stop (htour ▸ hstop)) hpanel
    hpanelId
  rw [htour] at hvisited
  obtain ⟨stop, hstop, rfl⟩ := List.mem_map.1 hvisited
  exact ⟨htrip.seen_of_mem hvisited, hmounted stop hstop⟩

end Session

/-! ## What has been withdrawn since -/

/-- Whether an entry tells that a widget is about to be unmounted. -/
def Entry.isWithdrawal : Entry κ → Bool
  | .withdrawn _ => true
  | _ => false

/-- Whether an entry tells of a render that was composed while no panel had this id. -/
def Entry.leavesOut (id : NodeId) : Entry κ → Bool
  | .rendering panels => !panels.panels.contains id
  | _ => false

/-- From when on the panels are watched, and the widgets that may go. -/
structure PanelWatch (κ S : Type) where
  base : Session κ S
  spare : NodeId → Prop

/-- If the host has refused no mount, then nothing has been withdrawn since the session `base` but
what a render was composed without, and nothing else may go. -/
def PanelsKept (watch : PanelWatch κ S) (session : Session κ S) : Prop :=
  ∃ noted, session.journal = noted ++ watch.base.journal ∧
    (noted.any Entry.refusesMount = false →
      ∀ id, .withdrawn id ∈ noted ∨ watch.spare id → noted.any (Entry.leavesOut id) = true)

/-- At a moment the panels are kept, whatever may go then. -/
def PanelsKeptAt (watch : PanelWatch κ S) (moment : Moment κ S) : Prop :=
  ∃ spare, PanelsKept ⟨watch.base, spare⟩ moment.session

namespace PanelsKept

variable {watch : PanelWatch κ S} {session : Session κ S}

theorem refl (session : Session κ S) : PanelsKept ⟨session, fun _ => False⟩ session :=
  ⟨[], rfl, fun _ id hid => by simp at hid⟩

/-- An entry may be noted if it does not tell of a withdrawal, or of one of a widget that may go. -/
theorem noting (kept : PanelsKept watch session) {entry : Entry κ}
    (hentry : ∀ id, entry = .withdrawn id → watch.spare id) :
    PanelsKept watch (session.noting entry) := by
  obtain ⟨noted, hjournal, hleft⟩ := kept
  refine ⟨entry :: noted, congrArg (List.cons entry) hjournal, fun haccepted id hid => ?_⟩
  rw [List.any_cons, Bool.or_eq_false_iff] at haccepted
  have hgone : .withdrawn id ∈ noted ∨ watch.spare id := by
    rcases hid with hmem | hspare
    · rcases List.mem_cons.1 hmem with heq | hmem
      · exact .inr (hentry id heq.symm)
      · exact .inl hmem
    · exact .inr hspare
  rw [List.any_cons, hleft haccepted.2 id hgone, Bool.or_true]

theorem noting_of_isWithdrawal (kept : PanelsKept watch session) {entry : Entry κ}
    (hentry : entry.isWithdrawal = false) : PanelsKept watch (session.noting entry) :=
  kept.noting fun id heq => by
    rw [heq] at hentry
    cases hentry

/-- More widgets may go when a render has been composed without them. -/
theorem sparing (kept : PanelsKept watch session) {before : Session κ S}
    (hbefore : PanelsKept watch before) {noted : List (Entry κ)} {panels : PanelHost κ}
    (hjournal : session.journal = noted ++ .rendering panels :: before.journal)
    {spare : NodeId → Prop}
    (hspare : noted.any Entry.refusesMount = false → ∀ id, spare id → id ∉ panels.panels.ids) :
    PanelsKept ⟨watch.base, fun id => watch.spare id ∨ spare id⟩ session := by
  obtain ⟨since, hsince, hleft⟩ := kept
  obtain ⟨earlier, hearlier, -⟩ := hbefore
  obtain rfl : since = noted ++ .rendering panels :: earlier := by
    refine List.append_cancel_right (hsince.symm.trans ?_)
    rw [hjournal, hearlier, List.append_assoc, List.cons_append]
  refine ⟨_, hsince, fun haccepted id hid => ?_⟩
  rcases hid with hmem | hold | hnew
  · exact hleft haccepted id (.inl hmem)
  · exact hleft haccepted id (.inr hold)
  · rw [List.any_append, Bool.or_eq_false_iff] at haccepted
    have hout : Entry.leavesOut id (.rendering panels) = true := by
      refine congrArg not (Bool.eq_false_iff.2 fun hregistered => ?_)
      exact hspare haccepted.1 id hnew (List.contains_iff_mem.1 hregistered)
    rw [List.any_append, List.any_cons, hout, Bool.true_or, Bool.or_true]

theorem of_sparing {spare : NodeId → Prop}
    (kept : PanelsKept ⟨watch.base, fun id => watch.spare id ∨ spare id⟩ session) :
    PanelsKept watch session := by
  obtain ⟨noted, hjournal, hleft⟩ := kept
  exact ⟨noted, hjournal, fun haccepted id hid => hleft haccepted id (hid.imp_right .inl)⟩

end PanelsKept

/-- A render since `before` has left the panels of `ids` mounted, unless the host has refused a
mount. -/
def Session.KeepsPanels (before : Session κ S) (ids : List NodeId) (report : RenderReport)
    (after : Session κ S) : Prop :=
  ∃ noted, after.journal = noted ++ before.journal ∧
    (noted.any Entry.refusesMount = false → ∀ id ∈ ids,
      after.bridge.isMounted id = true ∧ id ∉ report.unmounted)

/-! ## The law -/

namespace Staying

theorem law : ViewLaw (fun _ : Session κ S => ()) Entry.isWithdrawal PanelsKept PanelsKeptAt where
  congr {watch session later} _ hjournal kept := by
    unfold PanelsKept at kept ⊢
    rwa [hjournal]
  note hentry kept := kept.noting_of_isWithdrawal hentry
  moment _ kept := ⟨_, kept⟩

/-- The acts that withdraw no panel. -/
abbrev Keepers (κ S : Type) : Act.Class κ S := Upholding PanelsKept PanelsKeptAt

theorem sees : (Keepers κ S).Sees (fun _ => ()) Entry.isWithdrawal := law.sees fun _ _ => rfl

theorem ordinary : (Keepers κ S).Ordinary := sees.ordinary fun _ _ _ _ _ => ⟨rfl, fun _ => rfl⟩

theorem isWithdrawal_of_isRecord (entry : Entry κ) (hrecord : entry.isRecord = true) :
    entry.isWithdrawal = false := by
  cases entry <;> first | rfl | cases hrecord

theorem steady (allowed : Request κ → Prop) : (Keepers κ S).Steady allowed :=
  sees.steady (fun _ => ⟨rfl, fun _ => rfl⟩) isWithdrawal_of_isRecord (fun _ _ => rfl)
    fun _ _ => rfl

theorem runDue : (Session.runDue : Act κ S Nat).MadeOf (Keepers κ S) :=
  sees.runDue (steady fun _ => True) (fun _ _ => ⟨rfl, fun _ => rfl⟩)
    (fun entry hpass => by cases entry <;> first | rfl | cases hpass) fun _ _ => rfl

/-! A withdrawal is noted only of what may go. -/

/-- What is left of an unmount when it has been noted. -/
theorem forget (id : NodeId) (record? : Option MountRecord) (pending? : Option TaskId) : (do
      Session.changeBridge fun bridge => bridge.evict id
      Session.cancelTask? pending? .targetUnmounted
      Session.changeSlots fun slots => slots.discard id
      match record? with
      | none => pure false
      | some record => Session.callHost (Session.unmountMessage id record) :
        Act κ S Bool).MadeOf (Keepers κ S) := by
  have pieces := steady (κ := κ) (S := S) fun _ => True
  refine .bind (sees.aside (fun _ => rfl) fun _ => rfl) fun _ => ?_
  refine .bind (pieces.cancelTask? _ _) fun _ => .bind (pieces.changeSlots _) fun _ => ?_
  cases record? with
  | none => exact .pure false
  | some record =>
      have works : ∀ f : Session κ S → Session κ S, (∀ session : Session κ S,
          session.Works (fun _ => True) (f session)) → (Act.change f).MadeOf (Keepers κ S) :=
        sees.works isWithdrawal_of_isRecord fun _ _ => rfl
      exact Act.Class.callHost_of_exchange (Act.Class.exchange_of_works works)
        (fun _ => sees.call _ ⟨rfl, fun _ => rfl⟩) _

section

variable {watch : PanelWatch κ S} {session : Session κ S} {caller : Caller κ S}
  (apart : caller.HostApart) (upholds : caller.Upholds PanelsKept PanelsKeptAt)

include apart upholds

theorem meets_unmount {id : NodeId} (kept : PanelsKept watch session) (spare : watch.spare id) :
    (Session.unmount id).Meets (PanelsKeptAt watch) caller session fun _ => PanelsKept watch := by
  unfold Session.unmount
  refine .read_bind (.read_bind (.bind (R := fun _ => PanelsKept watch) ?_ fun _ after kept => ?_))
  · cases (session.bridge.mounted.get? id).isSome with
    | false => exact .pure kept
    | true =>
        refine .note ⟨_, kept⟩ (kept.noting fun other heq => ?_)
        rw [← Entry.withdrawn.inj heq]
        exact spare
  · exact Act.Upholds.of_madeOf (forget id _ _) caller apart upholds watch after kept

theorem meets_unmountAll {ids : List NodeId} (kept : PanelsKept watch session)
    (spare : ∀ id ∈ ids, watch.spare id) :
    (Session.unmountAll ids).Meets (PanelsKeptAt watch) caller session
      fun _ => PanelsKept watch := by
  induction ids generalizing session with
  | nil => exact .pure kept
  | cons id rest ih =>
      refine .bind (meets_unmount apart upholds kept (spare id List.mem_cons_self)) ?_
      exact fun _ after kept => ih kept fun other hother =>
        spare other (List.mem_cons_of_mem id hother)

/-- The widgets that may go are unmounted. -/
theorem meets_sweep {ids : List NodeId}
    (kept : PanelsKept ⟨watch.base, fun id => watch.spare id ∨ id ∈ ids⟩ session) :
    (Session.unmountAll ids).Meets (PanelsKeptAt watch) caller session fun _ after =>
      PanelsKept watch after ∧ after = ((Session.unmountAll ids).run caller session).2 := by
  obtain ⟨hafter, hmoments⟩ := meets_unmountAll apart upholds kept fun _ hid => .inr hid
  exact ⟨⟨hafter.of_sparing, rfl⟩, hmoments⟩

/-- A render of the panels withdraws nothing that they were composed with. -/
theorem meets_renderPanels {before : Session κ S} (kept : PanelsKept watch before)
    (hbegun : session = before.noting (.rendering before.panelHost)) :
    Session.renderPanels.Meets (PanelsKeptAt watch) caller session fun report after =>
      PanelsKept watch after ∧ session.KeepsPanels before.panelHost.panels.ids report after := by
  have hkept : PanelsKept watch session := by
    rw [hbegun]
    exact kept.noting_of_isWithdrawal rfl
  have hcompose : (Session.compose : Act κ S (Node (Handler κ))).Upholds PanelsKept PanelsKeptAt :=
    .of_madeOf ordinary.compose
  refine .bind (hcompose.meets apart upholds hkept) ?_
  rintro tree composed ⟨hcomposed, hsince⟩
  obtain ⟨calls, hcalls, -⟩ := hsince ⟨session, fun _ => False⟩ (.refl session)
  have hwalk : (Session.walkTree none 0 .start tree : Act κ S Session.Walk).Upholds PanelsKept
      PanelsKeptAt := .of_madeOf ((steady fun _ => True).placing.walkTree none 0 .start tree)
  refine .bind (hwalk.meets apart upholds (hsince watch hkept)) ?_
  rintro walk walked ⟨hwalked, hsince'⟩
  obtain ⟨mounts, hmounts, hmet⟩ :=
    Session.walked_panels apart (congrArg Prod.fst hcomposed) hwalked.symm
  have hjournal : walked.journal = (mounts ++ calls) ++ session.journal := by
    rw [hmounts, hcalls, List.append_assoc]
  refine .read_bind ?_
  obtain ⟨vanished, hvanished⟩ : ∃ vanished, vanished =
      walked.bridge.unmountOrder fun id => !walk.seen.contains id := ⟨_, rfl⟩
  rw [← hvanished]
  -- What the walk has not met is no panel that the tree was composed with.
  have hstays : mounts.any Entry.refusesMount = false → ∀ id ∈ before.panelHost.panels.ids,
      walked.bridge.isMounted id = true ∧ id ∉ vanished := by
    intro haccepted id hid
    obtain ⟨hseen, hmounted⟩ := hmet haccepted id (hbegun ▸ hid)
    refine ⟨hmounted, fun hgone => ?_⟩
    rw [hvanished, Bridge.mem_unmountOrder, hseen] at hgone
    cases hgone.2
  have hspared : PanelsKept ⟨watch.base, fun id => watch.spare id ∨ id ∈ vanished⟩ walked := by
    rw [hbegun] at hjournal
    refine (hsince' watch (hsince watch hkept)).sparing kept hjournal
      fun haccepted id hgone hid => ?_
    rw [List.any_append, Bool.or_eq_false_iff] at haccepted
    exact (hstays haccepted.1 id hid).2 hgone
  obtain ⟨hget, unmounts, hunmounts, -⟩ := Session.get?_unmountAll apart vanished walked
  refine .bind (meets_sweep apart upholds hspared) ?_
  rintro _ after ⟨hafter, rfl⟩
  refine .pure ⟨hafter, unmounts ++ (mounts ++ calls), ?_, fun haccepted id hid => ?_⟩
  · rw [hunmounts, hjournal, List.append_assoc unmounts]
  · simp only [List.any_append, Bool.or_eq_false_iff] at haccepted
    obtain ⟨hmounted, hgone⟩ := hstays haccepted.2.1 id hid
    refine ⟨?_, hgone⟩
    rw [Bridge.isMounted_congr ((hget id).trans (if_neg hgone)), hmounted]

/-- A tick withdraws no panel that its render was composed with. -/
theorem meets_tick (kept : PanelsKept watch session) :
    Session.tick.Meets (PanelsKeptAt watch) caller session fun report after =>
      PanelsKept watch after ∧ ∀ rendered, report.render? = some rendered →
        session.KeepsPanels (session.caughtUp caller).panelHost.panels.ids rendered after := by
  have hdue : (Session.runDue : Act κ S Nat).Upholds PanelsKept PanelsKeptAt := .of_madeOf runDue
  refine (hdue.meets apart upholds kept).bind ?_
  rintro count before ⟨hran, hsince⟩
  -- The panels that count are those registered after the pass of the tick.
  have hcaught : session.caughtUp caller = before := by
    rw [Session.caughtUp, ← hran]
  obtain ⟨calls, hcalls, -⟩ := hsince ⟨session, fun _ => False⟩ (.refl session)
  have hkept := hsince watch kept
  refine .read_bind (.read_bind ?_)
  by_cases hsame : before.renderedVersion? = some before.panelHost.ui.version
  · rw [if_pos hsame]
    -- Nothing moved, so nothing is rendered and there is no report to speak about.
    refine .pure ⟨hkept, fun rendered hrendered => ?_⟩
    cases hrendered
  · rw [if_neg hsame]
    refine .read_bind (.note_bind ⟨_, hkept⟩ ?_)
    refine (meets_renderPanels apart upholds hkept rfl).bind ?_
    rintro report after ⟨hafter, noted, hnoted, hpanels⟩
    have hlast : PanelsKept watch (after.noting .rendered) := hafter.noting_of_isWithdrawal rfl
    refine .change_bind (.note_bind ⟨_, hafter⟩ (.pure ⟨hlast, ?_⟩))
    rintro rendered ⟨⟩
    refine ⟨.rendered :: (noted ++ .rendering before.panelHost :: calls), ?_, fun haccepted => ?_⟩
    · change .rendered :: after.journal = _
      rw [hnoted, Session.noting, hcalls]
      simp
    · simp only [List.any_cons, List.any_append, Bool.or_eq_false_iff] at haccepted
      rw [hcaught]
      exact hpanels haccepted.2.1

end

theorem upholds_tick :
    (Session.tick : Act κ S Session.TickReport).Upholds PanelsKept PanelsKeptAt :=
  fun _ apart upholds _ _ kept => (meets_tick apart upholds kept).mono fun _ _ => And.left

theorem shell : (Keepers κ S).Shell where
  openShell _ := .bind (sees.aside (fun _ => rfl) fun _ => rfl) fun _ => sees.note _ rfl rfl
  tick := .part upholds_tick
  closeShell := sees.aside (fun _ => rfl) fun _ => rfl

/-- Everything withdraws no panel, if widgets are unmounted by ticks alone. -/
theorem covers : (Keepers κ S).Covers fun request => request.unmounts = false := by
  have events : (Keepers κ S).Events := sees.events (fun _ _ _ => ⟨rfl, fun _ => rfl⟩)
    (fun entry hevent => by cases entry <;> first | rfl | cases hevent) fun _ _ => rfl
  have commands : (Keepers κ S).Commands := sees.commands ordinary
    (fun entry hpress => by cases entry <;> first | rfl | cases hpress) fun _ _ _ => rfl
  have panels : (Keepers κ S).Panels := sees.panels ordinary rfl fun _ _ => rfl
  have extensions : (Keepers κ S).Extensions :=
    sees.extensions commands.toRegistering (fun _ _ => ⟨rfl, fun _ => rfl⟩) fun _ _ => rfl
  have inner : (Keepers κ S).Inner fun request => request.unmounts = false :=
    .of_steady ordinary (steady _) runDue fun _ permitted => permitted
  exact ⟨sees.outer fun _ _ _ _ => rfl, events, commands, panels, extensions, inner, shell, nofun⟩

theorem governs (first : Session κ S) : Governs (fun request => request.unmounts = false)
    (fun watch => watch.base = first) PanelsKept (PanelsKeptAt (κ := κ) (S := S)) where
  covers := covers
  store _ kept := kept
  callback htop _ hQ := by
    obtain ⟨spare, kept⟩ := hQ
    exact ⟨⟨_, spare⟩, htop, kept.noting_of_isWithdrawal rfl⟩

end Staying

/-! ## Panels -/

/-- Let widgets be unmounted by ticks alone.  A tick that renders leaves every panel mounted that is
registered when its tree is composed, and reports none of them as unmounted, unless the host refuses
a mount on the way; whatever the components return, and whichever panel is on screen.  So while the
host accepts every mount and every render is composed with the panel of an id, the widget of this id
is not withdrawn: it stays mounted, and a handle that is cached for it stays the same. -/
theorem panels_stay_mounted {code : Code κ S}
    (within : code.Within fun request => request.unmounts = false) :
    (∀ (depth : Nat) (session : Session κ S) (rendered : RenderReport),
      (Session.tick.run (code.caller depth) session).1.render? = some rendered →
        session.KeepsPanels (session.caughtUp (code.caller depth)).panelHost.panels.ids rendered
          (Session.tick.run (code.caller depth) session).2) ∧
      ∀ {sink : ChordSink} {host : Host} {app : S} {session later : Session κ S},
        (Session.fresh sink host app).Reaches (fun request => request.unmounts = false) session →
        session.Passes (fun request => request.unmounts = false) later →
        ∃ noted, later.journal = noted ++ session.journal ∧
          (noted.any Entry.refusesMount = false → ∀ id, noted.any (Entry.leavesOut id) = false →
            .withdrawn id ∉ noted ∧
              (session.bridge.isMounted id = true → later.bridge.isMounted id = true) ∧
              ∀ handle, session.bridge.handles.get? id = some handle →
                later.bridge.handles.get? id = some handle) := by
  refine ⟨fun depth session rendered hrendered => ?_, fun {sink host app session later} reached
    passed => ?_⟩
  · have upholds := (Staying.governs session).caller within depth
    exact (Staying.meets_tick (within.apart depth) upholds (.refl session)).1.2 rendered hrendered
  · obtain ⟨noted, hjournal, hlasts⟩ := follows_of_passes reached passed
    have hjournal : later.journal = noted ++ session.journal := hjournal
    have hkept : ∃ spare, PanelsKept ⟨session, spare⟩ later := by
      refine (Staying.governs session).passes
        (R := fun later => ∃ spare, PanelsKept ⟨session, spare⟩ later)
        (fun {watch after} htop kept => ?_) (fun {watch moment} htop keptAt => ?_)
        ⟨_, rfl, .refl session⟩ passed
      · obtain rfl := htop
        exact ⟨watch.spare, kept⟩
      · obtain rfl := htop
        exact keptAt
    obtain ⟨spare, noted', hjournal', hleft⟩ := hkept
    obtain rfl := List.append_cancel_right (hjournal'.symm.trans hjournal)
    refine ⟨noted', hjournal, fun haccepted id hregistered => ?_⟩
    -- A widget is withdrawn only by a rendering that leaves it out.
    have hstays : .withdrawn id ∉ noted' := by
      intro hwithdrawn
      rw [hleft haccepted id (.inl hwithdrawn)] at hregistered
      cases hregistered
    exact ⟨hstays, (hlasts id).resolve_left hstays⟩

/-- A program with two components: one uses ids that are not its own, the other one panics. -/
def Code.clashing : Code Bool Unit := .ofComponents fun clashes =>
  if clashes then
    .done ((Node.ofKind .view).withChildren
      [(Node.ofText "a").withId "shell::root", (Node.ofText "b").withId "panels",
        (Node.ofText "c").withId "second", (Node.ofText "d").withId "statusBar"])
  else .panic "no tree"

theorem Code.within_clashing (allowed : Request Bool → Prop) : Code.clashing.Within allowed :=
  Code.within_ofComponents fun clashes => by cases clashes <;> exact True.intro

/-- A session with two panels that have been rendered and have their handles. -/
def Session.panelSession : Session Bool Unit :=
  ((Request.tick).perform.run (Code.clashing.caller 2)
    ((Request.tick).perform.run (Code.clashing.caller 2)
      ((Request.registerPanel "second" false).perform.run (Code.clashing.caller 2)
        ((Request.registerPanel "first" true).perform.run (Code.clashing.caller 2)
          ((Session.start .default).run (Code.clashing.caller 2)
            (.fresh .nobody (.fresh .recording true) ())).2).2).2).2).2

/-- The session in which another panel is about to be shown. -/
def Session.showingSession : Session Bool Unit :=
  ((Request.showPanel "first").perform.run (Code.clashing.caller 2) panelSession).2

/-- The session after the tick that shows it. -/
def Session.shownSession : Session Bool Unit :=
  (Session.tick.run (Code.clashing.caller 2) showingSession).2

/-- A panel whose id another panel has taken is skipped, but it stays mounted with its handle. -/
theorem clashing_panel_stays_mounted :
    ∃ rendered, (Session.tick.run (Code.clashing.caller 2) Session.showingSession).1.render? =
        some rendered ∧ rendered.duplicates = 4 ∧ "second" ∉ rendered.unmounted ∧
      Session.shownSession.bridge.isMounted "second" = true ∧
      Session.panelSession.bridge.handles.get? "second" = some ⟨4⟩ ∧
      Session.shownSession.bridge.handles.get? "second" = some ⟨4⟩ := by
  have within : Code.clashing.Within fun request => request.unmounts = false :=
    Code.within_clashing _
  have reached : (Session.fresh .nobody (.fresh .recording true) ()).Reaches
      (fun request => request.unmounts = false) Session.panelSession :=
    .act (.request .tick rfl) within (.act (.request .tick rfl) within
      (.act (.request (.registerPanel "second" false) rfl) within
        (.act (.request (.registerPanel "first" true) rfl) within
          (.act (.start .default) within .refl))))
  have passed : Session.panelSession.Passes (fun request => request.unmounts = false)
      Session.shownSession :=
    .reached (.act (.request .tick rfl) within
      (.act (.request (.showPanel "first") rfl) within .refl))
  -- What the run comes to is evaluated in one go.
  obtain ⟨haccepted, hregistered, hcached, hpanel, hrender⟩ :
      Session.shownSession.journal.any Entry.refusesMount = false ∧
        Session.shownSession.journal.any (Entry.leavesOut "second") = false ∧
        Session.panelSession.bridge.handles.get? "second" = some ⟨4⟩ ∧
        "second" ∈
          (Session.showingSession.caughtUp (Code.clashing.caller 2)).panelHost.panels.ids ∧
        (Session.tick.run (Code.clashing.caller 2) Session.showingSession).1.render?.map
          RenderReport.duplicates = some 4 := by decide +kernel
  obtain ⟨rendered, hrendered, hduplicates⟩ := Option.map_eq_some_iff.1 hrender
  obtain ⟨hticks, hruns⟩ := panels_stay_mounted within
  have hkeeps := hticks 2 Session.showingSession rendered hrendered
  rw [← Session.shownSession] at hkeeps
  obtain ⟨noted, hjournal, hkept⟩ := hkeeps
  have htick : noted.any Entry.refusesMount = false := by
    rw [hjournal, List.any_append, Bool.or_eq_false_iff] at haccepted
    exact haccepted.1
  obtain ⟨hmounted, hstays⟩ := hkept htick "second" hpanel
  obtain ⟨noted', hjournal', hlasts⟩ := hruns reached passed
  rw [hjournal', List.any_append, Bool.or_eq_false_iff] at haccepted hregistered
  obtain ⟨-, -, hhandle⟩ := hlasts haccepted.1 "second" hregistered.1
  exact ⟨rendered, hrendered, hduplicates, hstays, hmounted, hcached, hhandle ⟨4⟩ hcached⟩

end EditorShell
