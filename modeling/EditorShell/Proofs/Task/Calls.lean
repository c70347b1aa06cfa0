import EditorShell.Proofs.Task.Rostering

/-!
# Jobs call in their turns

A job calls something only in its turn, and only once.  In the journal each call of a job stands
directly after the entry of its turn (`Entry.Heralded`), so a job has made no more calls than it has
had turns (`Entry.Heralded.count_le`).

A turn begins only if the job is not cancelled, and nothing can cancel it between that and the call.
So a job that calls is not cancelled either (`Heralding.HoldsAt`).
-/

namespace EditorShell

variable {κ S : Type}

/-- The job that makes a call. -/
def Call.job? : Call κ → Option TaskId
  | .task id _ | .delivery id _ _ => some id
  | _ => none

theorem Call.job?_eq_none {call : Call κ} (hjob : call.isJob = false) : call.job? = none := by
  cases call <;> first | rfl | cases hjob

namespace Entry

/-- The job whose call begins. -/
def jobCall? : Entry κ → Option TaskId
  | .called call => call.job?
  | _ => none

/-- The jobs that called, newest first. -/
def jobCalls (journal : List (Entry κ)) : List TaskId := journal.filterMap jobCall?

/-- The call that begins, if it is one of this job. -/
def callOf? (id : TaskId) : Entry κ → Option (Call κ)
  | .called call => if call.job? = some id then some call else none
  | _ => none

/-- The calls that a job has made, newest first. -/
def callsOf (id : TaskId) (journal : List (Entry κ)) : List (Call κ) :=
  journal.filterMap (callOf? id)

/-- Whether an entry tells that a job calls. -/
def isJobCall : Entry κ → Bool
  | .called call => call.isJob
  | _ => false

theorem jobCall?_eq_none {entry : Entry κ} (hentry : entry.isJobCall = false) :
    entry.jobCall? = none := by
  cases entry with
  | called call => exact Call.job?_eq_none hentry
  | _ => rfl

theorem callOf?_eq_none_iff {id : TaskId} {entry : Entry κ} :
    entry.callOf? id = none ↔ entry.jobCall? ≠ some id := by
  cases entry with
  | called call =>
      change (if call.job? = some id then some call else none) = none ↔ call.job? ≠ some id
      simp
  | _ => simp [callOf?, jobCall?]

/-- A job has made as many calls as the journal tells of. -/
theorem length_callsOf (id : TaskId) (journal : List (Entry κ)) :
    (callsOf id journal).length = (jobCalls journal).count id := by
  induction journal with
  | nil => rfl
  | cons entry rest ih =>
      cases hcall : entry.callOf? id with
      | none =>
          have hother := callOf?_eq_none_iff.1 hcall
          rw [callsOf, List.filterMap_cons_none hcall]
          refine ih.trans ?_
          -- The call of another job is counted on neither side.
          cases hjob : entry.jobCall? with
          | none => rw [jobCalls, jobCalls, List.filterMap_cons_none hjob]
          | some other =>
              have hne : other ≠ id := fun heq => hother (heq ▸ hjob)
              rw [jobCalls, jobCalls, List.filterMap_cons_some hjob, List.count_cons_of_ne hne]
      | some call =>
          have hjob : entry.jobCall? = some id := by
            by_contra hother
            rw [callOf?_eq_none_iff.2 hother] at hcall
            cases hcall
          rw [callsOf, List.filterMap_cons_some hcall, jobCalls, List.filterMap_cons_some hjob,
            List.count_cons_self, List.length_cons]
          exact congrArg (· + 1) ih

theorem callsOf_append (id : TaskId) (later earlier : List (Entry κ)) :
    callsOf id (later ++ earlier) = callsOf id later ++ callsOf id earlier :=
  List.filterMap_append

theorem mem_callsOf {id : TaskId} {call : Call κ} {journal : List (Entry κ)}
    (hcall : .called call ∈ journal) (hjob : call.job? = some id) : call ∈ callsOf id journal :=
  List.mem_filterMap.2 ⟨_, hcall, if_pos hjob⟩

/-- What a job calls is called right at the beginning of its turn. -/
def Heralded : List (Entry κ) → Prop
  | [] => True
  | .called call :: rest =>
    (∀ id, call.job? = some id → ∃ earlier, rest = .ran id :: earlier) ∧ Heralded rest
  | _ :: rest => Heralded rest

theorem Heralded.cons {rest : List (Entry κ)} (heralded : Heralded rest) {entry : Entry κ}
    (hentry : entry.isJobCall = false) : Heralded (entry :: rest) := by
  cases entry with
  | called call =>
      refine ⟨fun id hid => ?_, heralded⟩
      rw [Call.job?_eq_none hentry] at hid
      cases hid
  | _ => exact heralded

theorem Heralded.of_cons {entry : Entry κ} {rest : List (Entry κ)}
    (heralded : Heralded (entry :: rest)) : Heralded rest := by
  cases entry with
  | called call => exact heralded.2
  | _ => exact heralded

/-- A turn that has just begun is not matched by a call yet. -/
theorem Heralded.count_le_and {journal : List (Entry κ)} (heralded : Heralded journal)
    (id : TaskId) : (jobCalls journal).count id ≤ (ranIds journal).count id ∧
      ∀ other earlier, journal = .ran other :: earlier →
        (jobCalls journal).count id ≤ (ranIds earlier).count id := by
  induction journal with
  | nil => exact ⟨Nat.le_refl _, fun _ _ heq => by cases heq⟩
  | cons entry rest ih =>
      cases entry with
      | called call =>
          obtain ⟨hran, hrest⟩ := heralded
          obtain ⟨hle, hlt⟩ := ih hrest
          refine ⟨?_, fun _ _ heq => by cases heq⟩
          have hrans : ranIds (.called call :: rest) = ranIds rest := rfl
          cases hjob : call.job? with
          | none =>
              have hcalls : jobCalls (.called call :: rest) = jobCalls rest :=
                List.filterMap_cons_none hjob
              rw [hcalls, hrans]
              exact hle
          | some other =>
              have hcalls : jobCalls (.called call :: rest) = other :: jobCalls rest :=
                List.filterMap_cons_some hjob
              -- The turn before the call had not been matched by a call, so there is room for one.
              obtain ⟨earlier, rfl⟩ := hran other hjob
              have hturn : ranIds (.ran other :: earlier) = other :: ranIds earlier := rfl
              have hcount := hlt other earlier rfl
              rw [hcalls, hrans, hturn, List.count_cons, List.count_cons]
              omega
      | ran other =>
          obtain ⟨hle, -⟩ := ih heralded
          have hcalls : jobCalls (.ran other :: rest) = jobCalls rest := rfl
          have hturn : ranIds (.ran other :: rest) = other :: ranIds rest := rfl
          refine ⟨?_, fun _ earlier heq => ?_⟩
          · rw [hcalls, hturn, List.count_cons]
            omega
          · obtain ⟨-, rfl⟩ := List.cons.inj heq
            exact hle
      | _ => exact ⟨(ih heralded).1, fun _ _ heq => by cases heq⟩

/-- No job calls more often than it has had turns. -/
theorem Heralded.count_le {journal : List (Entry κ)} (heralded : Heralded journal) (id : TaskId) :
    (jobCalls journal).count id ≤ (ranIds journal).count id :=
  (heralded.count_le_and id).1

end Entry

namespace Heralding

/-- The journal says of every call of a job that its turn had just come. -/
def Holds (_ : Unit) (session : Session κ S) : Prop := Entry.Heralded session.journal

/-- Also of the entry that is noted at a moment, and a job that calls then is not cancelled. -/
structure HoldsAt (moment : Moment κ S) : Prop where
  heralded : Entry.Heralded (moment.entry :: moment.session.journal)
  live : ∀ id, moment.entry.jobCall? = some id →
    moment.session.scheduler.isCancelled id = false

/-- The acts in whose course jobs call in their turns only. -/
abbrev Keepers (κ S : Type) : Act.Class κ S :=
  Upholding (Holds (κ := κ) (S := S)) fun _ => HoldsAt

/-- Where no job calls there is nothing to show of the moment but that it may be noted. -/
theorem HoldsAt.of_not_isJobCall {moment : Moment κ S} (hentry : moment.entry.isJobCall = false)
    (heralded : Holds () moment.session) : HoldsAt moment := by
  refine ⟨Entry.Heralded.cons heralded hentry, fun id hid => ?_⟩
  rw [Entry.jobCall?_eq_none hentry] at hid
  cases hid

theorem law : ViewLaw (fun _ => ()) Entry.isJobCall (Holds (κ := κ) (S := S)) fun _ => HoldsAt where
  congr _ hjournal heralded := by
    unfold Holds
    rw [hjournal]
    exact heralded
  note hentry heralded := Entry.Heralded.cons heralded hentry
  moment hentry heralded := .of_not_isJobCall hentry heralded

theorem sees : (Keepers κ S).Sees (fun _ => ()) Entry.isJobCall := law.sees fun _ _ => rfl

theorem ordinary : (Keepers κ S).Ordinary :=
  sees.ordinary fun _ _ _ hjob _ => ⟨hjob, fun _ => rfl⟩

theorem isJobCall_of_isInner (entry : Entry κ) (hinner : entry.isInner = true) :
    entry.isJobCall = false := by
  cases entry <;> first | rfl | cases hinner

theorem pieces (allowed : Request κ → Prop) : (Keepers κ S).Pieces allowed :=
  sees.pieces (fun _ => ⟨rfl, fun _ => rfl⟩) isJobCall_of_isInner fun _ _ => rfl

variable {caller : Caller κ S}

/-- A job calls when its turn has just been noted. -/
theorem meets_call (upholds : caller.Upholds Holds fun _ => HoldsAt) {call : Call κ} {id : TaskId}
    (hjob : call.job? = some id) {session : Session κ S} {earlier : List (Entry κ)}
    (hjournal : session.journal = .ran id :: earlier)
    (hlive : session.scheduler.isCancelled id = false) (heralded : Holds () session) :
    (Act.call call).Meets HoldsAt caller session fun _ => Holds () := by
  have hown : ∀ other, call.job? = some other → other = id := by
    intro other hother
    exact Option.some.inj (hother.symm.trans hjob)
  have hcalled : Holds () (session.noting (.called call)) := by
    refine ⟨fun other hother => ?_, heralded⟩
    obtain rfl := hown other hother
    exact ⟨earlier, hjournal⟩
  have hcalling : HoldsAt ⟨.called call, session⟩ := by
    refine ⟨hcalled, fun other hother => ?_⟩
    obtain rfl := hown other hother
    exact hlive
  have hreturned : ∀ outcome before, Holds () before →
      HoldsAt (κ := κ) (S := S) ⟨.returned call outcome, before⟩ := by
    intro outcome before hbefore
    exact .of_not_isJobCall rfl hbefore
  refine (Act.Meets.call_upholds upholds hcalling hcalled hreturned).mono ?_
  rintro outcome _ ⟨before, rfl, hbefore⟩
  exact (hreturned outcome before (hbefore () hcalled)).heralded

theorem meets_runJob (apart : caller.HostApart) (upholds : caller.Upholds Holds fun _ => HoldsAt)
    (id : TaskId) (job : Job κ) {session : Session κ S} (heralded : Holds () session)
    (hlive : session.scheduler.isCancelled id = false) :
    (Session.runJob id job).Meets HoldsAt caller (session.noting (.ran id)) fun _ => Holds () := by
  have hran : Holds () (session.noting (.ran id)) := Entry.Heralded.cons heralded rfl
  cases job with
  | task body =>
      exact .bind (meets_call upholds rfl rfl hlive hran) fun _ _ hafter => .pure hafter
  | debounced debouncer body =>
      -- The debouncer learns that its job has started, which neither is noted nor cancels anything.
      refine .bind (R := fun _ after => after.journal = .ran id :: session.journal ∧
        after.scheduler = session.scheduler) ?_ ?_
      · refine .read_bind ?_
        split
        · exact .change ⟨rfl, rfl⟩
        · exact .pure ⟨rfl, rfl⟩
      · rintro _ after ⟨hjournal, hscheduler⟩
        have hafter : Holds () after := law.congr rfl hjournal hran
        rw [← hscheduler] at hlive
        exact .bind (meets_call upholds rfl hjournal hlive hafter) fun _ _ hlast => .pure hlast
  | resolveHandle target =>
      have hresolve : (Session.resolveRequested target).Upholds (Holds (κ := κ) (S := S))
          fun _ => HoldsAt := .of_madeOf ((pieces fun _ => True).resolveRequested target)
      exact hresolve caller apart upholds () _ hran
  | deliverHandle target receiver =>
      exact .read_bind
        (.bind (meets_call upholds rfl rfl hlive hran) fun _ _ hafter => .pure hafter)

theorem passing : Passing (Holds (κ := κ) (S := S)) HoldsAt fun _ index => index where
  began heralded := ⟨.of_not_isJobCall rfl heralded, Entry.Heralded.cons heralded rfl⟩
  skip heralded _ := heralded
  turn apart upholds heralded hlive :=
    .note_bind (.of_not_isJobCall rfl heralded) (meets_runJob apart upholds _ _ heralded hlive)
  ended _ _ heralded := ⟨.of_not_isJobCall rfl heralded, Entry.Heralded.cons heralded rfl⟩

/-- Everything keeps it so. -/
theorem governs {allowed : Request κ → Prop} :
    Governs allowed (fun _ => True) (Holds (κ := κ) (S := S)) fun _ => HoldsAt where
  covers := by
    have core : (Keepers κ S).Core allowed :=
      .of_pieces ordinary (pieces allowed) (.part passing.upholds_runDue)
    have panels : (Keepers κ S).Panels := sees.panels ordinary rfl fun _ _ => rfl
    have events : (Keepers κ S).Events := sees.events (fun _ _ _ => ⟨rfl, fun _ => rfl⟩)
      (fun entry hevent => by cases entry <;> first | rfl | cases hevent) fun _ _ => rfl
    have shell : (Keepers κ S).Shell := sees.shell panels core
      (fun entry hdisplay => by cases entry <;> first | rfl | cases hdisplay) fun _ _ _ => rfl
    have lifecycle : ∀ call : Call κ, call.isLifecycle = true → call.Hidden Entry.isJobCall := by
      intro call hlifecycle
      refine ⟨?_, fun _ => rfl⟩
      cases call <;> first | rfl | cases hlifecycle
    exact sees.covers ordinary (fun entry hpress => by cases entry <;> first | rfl | cases hpress)
      lifecycle (fun _ _ _ _ _ _ _ => rfl) events panels core shell
  store _ heralded := heralded
  callback _ _ hcalled := ⟨(), trivial, hcalled.heralded⟩

/-- Jobs have called in their turns only when a pass is over. -/
theorem heralded_runDue {allowed : Request κ → Prop} {code : Code κ S}
    (within : code.Within allowed) (depth : Nat) {session : Session κ S}
    (heralded : Entry.Heralded session.journal) :
    Entry.Heralded (Session.runDue.run (code.caller depth) session).2.journal := by
  have herald : Governs allowed (fun _ => True) (Holds (κ := κ) (S := S)) fun _ => HoldsAt :=
    governs
  exact (herald.meets herald.covers.runDue within depth () heralded).1

end Heralding

/-- In every session on the way of a run jobs have called in their turns only. -/
theorem Entry.heralded_of_passes {allowed : Request κ → Prop} {sink : ChordSink} {host : Host}
    {app : S} {session : Session κ S}
    (hpasses : (Session.fresh sink host app).Passes allowed session) :
    Entry.Heralded session.journal := by
  have hfresh : Heralding.Holds () (Session.fresh (κ := κ) sink host app) := True.intro
  refine Heralding.governs.passes (fun _ heralded => heralded) (fun moment hmoment => ?_)
    ⟨(), trivial, hfresh⟩ hpasses
  exact hmoment.heralded.of_cons

end EditorShell
