import EditorShell.Proofs.Event.Subscriptions
import EditorShell.Proofs.Run.Views

/-!
# The course of what is done

Whatever is done in a session takes a course of small changes, entries in the journal and calls, the
calls nested in each other (`Session.Course`).  Three things follow from this alone.

* The journal only grows, and each entry that is noted at a moment of the course stands in the
  journal where that moment says (`Session.Course.recount`).
* Calls and their returns match.  So a stretch of the journal can be read without what happened in
  the middle of calls: `Entry.outermost` are the entries that an act has noted itself.
* Some facts are never undone: a cancelled job stays cancelled, and the number of a subscription is
  not given out again (`Session.Precedes.lasts`).
-/

namespace EditorShell

variable {κ S : Type}

/-! ## What is never undone -/

/-- What no operation undoes. -/
structure Session.Lasts (before after : Session κ S) : Prop where
  cancelled : ∀ id, before.scheduler.isCancelled id = true → after.scheduler.isCancelled id = true
  events : before.events.Grows after.events

namespace Session

theorem Lasts.refl (session : Session κ S) : session.Lasts session := ⟨fun _ h => h, .refl _⟩

theorem Lasts.trans {first second third : Session κ S} (hfirst : first.Lasts second)
    (hsecond : second.Lasts third) : first.Lasts third where
  cancelled id hid := hsecond.cancelled id (hfirst.cancelled id hid)
  events := hfirst.events.trans hsecond.events

/-- What is not cancelled later was not cancelled before. -/
theorem Lasts.live {before after : Session κ S} (lasts : before.Lasts after) {id : TaskId}
    (hafter : after.scheduler.isCancelled id = false) :
    before.scheduler.isCancelled id = false := by
  cases hbefore : before.scheduler.isCancelled id with
  | false => rfl
  | true =>
      rw [lasts.cancelled id hbefore] at hafter
      cases hafter

theorem lasts_noting (session : Session κ S) (entry : Entry κ) :
    session.Lasts (session.noting entry) := ⟨fun _ h => h, .refl _⟩

/-- Waiting jobs come and go, but their flags stay up. -/
theorem lasts_of_worked {allowed : Request κ → Prop} {before after : Session κ S}
    {noted : List (Entry κ)} (hevents : after.events = before.events)
    (worked : Scheduler.Worked allowed before.scheduler noted after.scheduler) :
    before.Lasts after := by
  refine ⟨fun id hid => ?_, hevents ▸ .refl _⟩
  generalize after.scheduler = scheduler at worked
  cases worked with
  | idle unscheduled => exact hid
  | scheduled deadline job => exact hid
  | cancelled other reason => simp [Scheduler.isCancelled_cancel, hid]
  | cleared permitted => exact hid

/-! ## Courses -/

/-- A change between two entries.  What became of jobs, messages and handles is noted along with
it. -/
structure Shifts (before after : Session κ S) : Prop where
  lasts : before.Lasts after
  noted : ∃ noted, after.journal = noted ++ before.journal ∧
    ∀ entry ∈ noted, Entry.isRecord entry = true

theorem Shifts.of_journal_eq {before after : Session κ S} (lasts : before.Lasts after)
    (hjournal : after.journal = before.journal) : before.Shifts after := by
  refine ⟨lasts, [], hjournal, fun entry hentry => ?_⟩
  cases hentry

/-- How one session becomes another one, with the moments on the way. -/
inductive Course : Session κ S → List (Moment κ S) → Session κ S → Prop where
  | done (session : Session κ S) : Course session [] session
  | shift {first last after : Session κ S} {moments : List (Moment κ S)}
      (course : Course first moments last) (shifts : last.Shifts after) :
      Course first moments after
  | note {first last : Session κ S} {moments : List (Moment κ S)} {entry : Entry κ}
      (course : Course first moments last) (plain : entry.isCall = false) :
      Course first (moments ++ [⟨entry, last⟩]) (last.noting entry)
  /-- A callback takes its own course between its call and its return. -/
  | call {first last after : Session κ S} {moments inner : List (Moment κ S)} {call : Call κ}
      (course : Course first moments last)
      (within : Course (last.noting (.called call)) inner after)
      (outcome : Guarded call.Result) :
      Course first
        (moments ++ (⟨.called call, last⟩ :: inner ++ [⟨.returned call outcome, after⟩]))
        (after.noting (.returned call outcome))

theorem Course.trans {first second third : Session κ S} {moments more : List (Moment κ S)}
    (hfirst : Course first moments second) (hsecond : Course second more third) :
    Course first (moments ++ more) third := by
  induction hsecond with
  | done => rwa [List.append_nil]
  | shift _ shifts ih => exact .shift (ih hfirst) shifts
  | note _ plain ih =>
      rw [← List.append_assoc]
      exact .note (ih hfirst) plain
  | call _ within outcome ih _ =>
      rw [← List.append_assoc]
      exact .call (ih hfirst) within outcome

end Session

/-- Every callback takes a course. -/
def Caller.Courses (caller : Caller κ S) : Prop :=
  ∀ call session, Session.Course session (caller.moments call session)
    (caller.answer call session).2

/-- The acts that take a course if their callbacks do. -/
def Coursing : Act.Class κ S := fun _ act =>
  ∀ caller : Caller κ S, caller.Courses → ∀ session,
    Session.Course session (act.moments caller session) (act.run caller session).2

namespace Coursing

theorem bind {α β : Type} {first : Act κ S α} {next : α → Act κ S β} (hfirst : Coursing α first)
    (hnext : ∀ value, Coursing β (next value)) : Coursing β (first >>= next) := by
  intro caller courses session
  have hcourse := hfirst caller courses session
  exact hcourse.trans (hnext _ caller courses _)

theorem change {f : Session κ S → Session κ S} (hf : ∀ session : Session κ S,
    session.Shifts (f session)) : Coursing Unit (Act.change f) := by
  intro caller courses session
  exact .shift (.done session) (hf session)

theorem call (call : Call κ) : Coursing (S := S) _ (Act.call call) := by
  intro caller courses session
  rw [Act.run_call, Act.moments_call]
  exact .call (.done session) (courses call _) _

theorem of_madeOf {α : Type} {act : Act κ S α} (hact : act.MadeOf Coursing) : Coursing α act := by
  apply hact.covered
  · exact fun _ _ _ session => .done session
  · exact fun _ _ _ session => .done session
  · exact fun hnext caller courses session => hnext session caller courses session
  · exact bind

theorem sees : (Coursing (κ := κ) (S := S)).Sees
    (fun session => (session.scheduler, session.events)) fun _ => false where
  change f hf := by
    refine .part (change fun session => ?_)
    obtain ⟨hview, noted, hjournal, hnoted⟩ := hf session
    obtain ⟨hscheduler, hevents⟩ := Prod.mk.inj hview
    refine ⟨⟨fun id hid => ?_, ?_⟩, noted, hjournal, fun entry hentry => (hnoted entry hentry).1⟩
    · rwa [hscheduler]
    · rw [hevents]
      exact .refl _
  note entry hcall _ := .part fun _ _ session => .note (.done session) hcall
  call call _ := .part (Coursing.call call)

theorem ordinary : (Coursing (κ := κ) (S := S)).Ordinary :=
  sees.ordinary fun _ _ _ _ _ => ⟨rfl, fun _ => rfl⟩

theorem events : (Coursing (κ := κ) (S := S)).Events where
  subscribe event listener := by
    refine .bind (.read _) fun id => ?_
    refine .bind (.part (change fun session => .of_journal_eq ?_ rfl)) fun _ => .pure id
    exact ⟨fun _ hid => hid, session.events.grows_subscribe event listener⟩
  unsubscribe event id := by
    refine .bind (.read _) fun found => ?_
    refine .bind (.part (change fun session => .of_journal_eq ?_ rfl)) fun _ => .pure found
    exact ⟨fun _ hid => hid, session.events.grows_unsubscribe event id⟩
  clearEvent event := by
    refine .part (change fun session => .of_journal_eq ?_ rfl)
    exact ⟨fun _ hid => hid, session.events.grows_clear event⟩
  emit := Act.Class.emit_of_call (fun _ _ _ => sees.call _ ⟨rfl, fun _ => rfl⟩)
    (sees.note_of (fun _ hevent => Entry.isCall_eq_false (.inl hevent)) fun _ _ => rfl)

theorem note (entry : Entry κ) (hinner : entry.isInner = true) :
    (Act.note (S := S) entry).MadeOf Coursing := by
  refine sees.note_of (fun other hother => ?_) (fun _ _ => rfl) entry hinner
  exact Entry.isCall_eq_false (.inr (.inr (.inr hother)))

theorem note_isPass (entry : Entry κ) (hpass : entry.isPass = true) :
    (Act.note (S := S) entry).MadeOf Coursing := note entry (by simp [Entry.isInner, hpass])

theorem pieces (allowed : Request κ → Prop) :
    (Coursing (κ := κ) (S := S)).Pieces allowed := by
  apply Act.Class.Pieces.of_change
  · refine fun f hf => .part (change fun session => ?_)
    obtain ⟨heq, noted, hjournal, hnoted, worked⟩ := hf session
    have hevents : (f session).events = session.events := by
      rw [heq]
      rfl
    exact ⟨Session.lasts_of_worked hevents worked, noted, hjournal, hnoted⟩
  · exact fun message => .part (call _)
  · exact fun entry hplacing => note entry (by simp [Entry.isInner, hplacing])

theorem turns : (Coursing (κ := κ) (S := S)).Turns :=
  (pieces fun _ => True).turns fun job _ => .part (call job)

theorem core (allowed : Request κ → Prop) : (Coursing (κ := κ) (S := S)).Core allowed := by
  have pieces : (Coursing (κ := κ) (S := S)).Pieces allowed := pieces allowed
  refine .of_pieces ordinary pieces (turns.runDue note_isPass ?_)
  exact Act.Class.takeBatch_of_change fun _ =>
    .part (change fun session => .of_journal_eq ⟨fun _ hid => hid, .refl _⟩ rfl)

/-- Everything takes a course. -/
theorem covers {allowed : Request κ → Prop} : (Coursing (κ := κ) (S := S)).Covers allowed := by
  have panels := sees.panels (ordinary (κ := κ) (S := S)) rfl fun _ _ => rfl
  refine sees.covers ordinary (fun _ _ => rfl) (fun _ _ => ⟨rfl, fun _ => rfl⟩)
    (fun _ _ _ _ _ _ _ => rfl) events panels (core allowed) ?_
  exact sees.shell panels (core allowed) (fun _ _ => rfl) fun _ _ _ => rfl

end Coursing

/-- What a callback does takes a course, also when it is the host's. -/
theorem Coursing.respond (code : Code κ S) (call : Call κ) :
    (code.respond call).MadeOf Coursing := by
  have covers : (Coursing (κ := κ) (S := S)).Covers fun _ => True := Coursing.covers
  cases hhost : call.isHost with
  | false =>
      rw [← code.respond_withSilentHost hhost]
      exact covers.respond code.within_withSilentHost call
  | true =>
      cases call with
      | host message => exact .program covers.app covers.perform (code.host message).uses_any
      | _ => cases hhost

/-- Callbacks take a course, however deep they nest. -/
theorem Code.caller_courses (code : Code κ S) (depth : Nat) : (code.caller depth).Courses := by
  induction depth with
  | zero => exact fun _ session => .done session
  | succ depth ih =>
      intro call session
      exact Coursing.of_madeOf (Coursing.respond code call) (code.caller depth) ih session

theorem Code.courses {allowed : Request κ → Prop} {code : Code κ S} (_ : code.Within allowed)
    (depth : Nat) : (code.caller depth).Courses := code.caller_courses depth

/-! ## What the journal tells of a course -/

/-- The entries of a stretch of the journal that were not noted in the middle of a call, newest
first.  A call shows as its return only.  `depth` returns have been passed whose calls have not. -/
def Entry.outermost : Nat → List (Entry κ) → List (Entry κ)
  | _, [] => []
  | depth, .called _ :: rest => outermost (depth - 1) rest
  | 0, .returned call outcome :: rest => .returned call outcome :: outermost 1 rest
  | depth + 1, .returned _ _ :: rest => outermost (depth + 2) rest
  | 0, entry :: rest => entry :: outermost 0 rest
  | depth + 1, _ :: rest => outermost (depth + 1) rest

/-- Every call in a stretch of the journal has its return there, and conversely. -/
structure Entry.Whole (noted : List (Entry κ)) : Prop where
  outer : ∀ rest, outermost 0 (noted ++ rest) = outermost 0 noted ++ outermost 0 rest
  inner : ∀ depth rest, outermost (depth + 1) (noted ++ rest) = outermost (depth + 1) rest

namespace Entry

theorem Whole.nil : Whole ([] : List (Entry κ)) := ⟨fun _ => rfl, fun _ _ => rfl⟩

theorem outermost_cons {entry : Entry κ} (plain : entry.isCall = false) (rest : List (Entry κ)) :
    outermost 0 (entry :: rest) = entry :: outermost 0 rest := by
  cases entry <;> first | rfl | cases plain

theorem outermost_succ_cons {entry : Entry κ} (plain : entry.isCall = false) (depth : Nat)
    (rest : List (Entry κ)) :
    outermost (depth + 1) (entry :: rest) = outermost (depth + 1) rest := by
  cases entry <;> first | rfl | cases plain

theorem Whole.singleton {entry : Entry κ} (plain : entry.isCall = false) : Whole [entry] where
  outer rest := by
    rw [List.singleton_append, outermost_cons plain, outermost_cons plain]
    rfl
  inner depth rest := by rw [List.singleton_append, outermost_succ_cons plain]

theorem Whole.append {later earlier : List (Entry κ)} (hlater : Whole later)
    (hearlier : Whole earlier) : Whole (later ++ earlier) where
  outer rest := by
    rw [List.append_assoc, hlater.outer, hearlier.outer, hlater.outer, List.append_assoc]
  inner depth rest := by rw [List.append_assoc, hlater.inner, hearlier.inner]

theorem Whole.of_forall {noted : List (Entry κ)} (plain : ∀ entry ∈ noted, isCall entry = false) :
    Whole noted := by
  induction noted with
  | nil => exact .nil
  | cons entry rest ih =>
      have hrest := ih fun other hmem => plain other (List.mem_cons_of_mem entry hmem)
      exact (Whole.singleton (plain entry List.mem_cons_self)).append hrest

/-- What a callback notes stands between its return and its call. -/
theorem outermost_call {inner : List (Entry κ)} (whole : Whole inner) (call : Call κ)
    (outcome : Guarded call.Result) (rest : List (Entry κ)) :
    outermost 0 (.returned call outcome :: (inner ++ .called call :: rest)) =
      .returned call outcome :: outermost 0 rest := by
  change _ :: outermost 1 (inner ++ .called call :: rest) = _
  rw [whole.inner 0]
  rfl

theorem Whole.call {inner : List (Entry κ)} (whole : Whole inner) (call : Call κ)
    (outcome : Guarded call.Result) :
    Whole (.returned call outcome :: (inner ++ [.called call])) where
  outer rest := by
    rw [outermost_call whole, List.cons_append, List.append_assoc, List.singleton_append,
      outermost_call whole]
    rfl
  inner depth rest := by
    rw [List.cons_append, List.append_assoc]
    change outermost (depth + 2) (inner ++ .called call :: rest) = _
    rw [whole.inner (depth + 1)]
    rfl

theorem isCall_of_isRecord {entry : Entry κ} (hrecord : entry.isRecord = true) :
    entry.isCall = false :=
  isCall_eq_false (.inr (.inr (.inr (by simp [isInner, hrecord]))))

end Entry

/-- Each of these entries was noted on top of the earlier ones and of `base` at one of these
moments, unless it came along with a change. -/
def Session.Told (base : List (Entry κ)) (moments : List (Moment κ S)) (noted : List (Entry κ)) :
    Prop :=
  ∀ later entry earlier, noted = later ++ entry :: earlier → Entry.isRecord entry = false →
    ∃ moment ∈ moments, moment.entry = entry ∧ moment.session.journal = earlier ++ base

namespace Session

theorem Told.append {base noted more : List (Entry κ)} {moments others : List (Moment κ S)}
    (told : Told base moments noted) (htold : Told (noted ++ base) others more) :
    Told base (moments ++ others) (more ++ noted) := by
  intro later entry earlier hsplit hrecord
  rcases List.append_eq_append_iff.1 hsplit with ⟨middle, rfl, hnoted⟩ | ⟨middle, hmore, hsplit⟩
  · obtain ⟨moment, hmem, hmoment⟩ := told middle entry earlier hnoted hrecord
    exact ⟨moment, List.mem_append_left _ hmem, hmoment⟩
  · cases middle with
    | nil =>
        obtain ⟨moment, hmem, hmoment⟩ := told [] entry earlier hsplit.symm hrecord
        exact ⟨moment, List.mem_append_left _ hmem, hmoment⟩
    | cons first rest =>
        obtain ⟨rfl, rfl⟩ := List.cons.inj hsplit
        obtain ⟨moment, hmem, hentry, hjournal⟩ := htold later entry rest hmore hrecord
        refine ⟨moment, List.mem_append_right _ hmem, hentry, ?_⟩
        rw [hjournal]
        exact (List.append_assoc rest noted base).symm

theorem Told.of_record {base noted : List (Entry κ)}
    (hnoted : ∀ entry ∈ noted, Entry.isRecord entry = true) :
    Told (S := S) base [] noted := by
  rintro later entry earlier rfl hrecord
  simp [hnoted entry (by simp)] at hrecord

theorem Told.singleton (session : Session κ S) (entry : Entry κ) :
    Told session.journal [⟨entry, session⟩] [entry] := by
  intro later other earlier hsplit _
  rcases List.append_eq_singleton_iff.1 hsplit.symm with ⟨rfl, hsingle⟩ | ⟨-, hnil⟩
  · obtain ⟨rfl, rfl⟩ := List.cons.inj hsingle
    exact ⟨_, List.mem_singleton_self _, rfl, rfl⟩
  · cases hnil

/-- What the journal tells of a course. -/
structure Recount (first : Session κ S) (moments : List (Moment κ S)) (noted : List (Entry κ)) :
    Prop where
  whole : Entry.Whole noted
  told : Told first.journal moments noted

/-- The journal grows by what is noted in a course. -/
theorem Course.recount {first last : Session κ S} {moments : List (Moment κ S)}
    (course : Course first moments last) :
    ∃ noted, last.journal = noted ++ first.journal ∧ Recount first moments noted := by
  induction course with
  | done => exact ⟨[], rfl, .nil, .of_record (by simp)⟩
  | shift _ shifts ih =>
      obtain ⟨noted, hjournal, recount⟩ := ih
      obtain ⟨more, hmore, hrecord⟩ := shifts.noted
      refine ⟨more ++ noted, by rw [hmore, hjournal, List.append_assoc], ?_, ?_⟩
      · have hwhole := Entry.Whole.of_forall fun entry hentry =>
          Entry.isCall_of_isRecord (hrecord entry hentry)
        exact hwhole.append recount.whole
      · have htold := recount.told.append (Told.of_record (S := S) hrecord)
        rwa [List.append_nil] at htold
  | @note first last moments entry _ plain ih =>
      obtain ⟨noted, hjournal, recount⟩ := ih
      refine ⟨entry :: noted, by rw [noting, hjournal]; rfl, ?_, ?_⟩
      · exact (Entry.Whole.singleton plain).append recount.whole
      · have hnoted := Told.singleton last entry
        rw [hjournal] at hnoted
        exact recount.told.append hnoted
  | @call first last after moments inner call _ _ outcome ih hinner =>
      -- The call, what the callback notes, and the return: three stretches, told one after another.
      obtain ⟨noted, hjournal, recount⟩ := ih
      obtain ⟨more, hmore, within⟩ := hinner
      refine ⟨.returned call outcome :: (more ++ .called call :: noted), ?_, ?_, ?_⟩
      · rw [noting, hmore, noting, hjournal]
        simp
      · have happend := (within.whole.call call outcome).append recount.whole
        rwa [List.cons_append, List.append_assoc] at happend
      · have hcalled := Told.singleton last (.called call)
        have hreturned := Told.singleton after (.returned call outcome)
        have hwithin := within.told
        rw [hmore, noting, hjournal] at hreturned
        rw [noting, hjournal] at hwithin
        rw [hjournal] at hcalled
        have hcall := (hcalled.append hwithin).append (by simpa using hreturned)
        simpa using recount.told.append hcall

/-- What is noted in a course has all its calls returned. -/
theorem Course.whole {first last : Session κ S} {moments : List (Moment κ S)}
    (course : Course first moments last) {noted : List (Entry κ)}
    (hjournal : last.journal = noted ++ first.journal) : Entry.Whole noted := by
  obtain ⟨told, htold, recount⟩ := course.recount
  rw [List.append_cancel_right (hjournal.symm.trans htold)]
  exact recount.whole

/-- A call notes its return, and what the callback notes stands before it. -/
theorem call_spec {caller : Caller κ S} (courses : caller.Courses) (call : Call κ)
    (session : Session κ S) :
    ∃ noted, ((Act.call call).run caller session).2.journal = noted ++ session.journal ∧
      Entry.Whole noted ∧
      Entry.outermost 0 noted = [.returned call ((Act.call call).run caller session).1] := by
  obtain ⟨inner, hinner, recount⟩ := (courses call (session.noting (.called call))).recount
  refine ⟨_, ?_, recount.whole.call call _, Entry.outermost_call recount.whole call _ []⟩
  rw [Act.run_call]
  change _ :: (caller.answer call (session.noting (.called call))).2.journal = _
  rw [hinner]
  simp [noting]

/-- What is never undone lasts from each moment to the later ones. -/
structure Lasting (first : Session κ S) (moments : List (Moment κ S)) (last : Session κ S) :
    Prop where
  lasts : first.Lasts last
  since : ∀ moment ∈ moments, first.Lasts moment.session
  until_end : ∀ moment ∈ moments, moment.session.Lasts last
  pairwise : moments.Pairwise fun earlier later => earlier.session.Lasts later.session

theorem Lasting.append {first second third : Session κ S} {moments more : List (Moment κ S)}
    (hfirst : Lasting first moments second) (hsecond : Lasting second more third) :
    Lasting first (moments ++ more) third where
  lasts := hfirst.lasts.trans hsecond.lasts
  since moment hmem := by
    rcases List.mem_append.1 hmem with hmem | hmem
    · exact hfirst.since moment hmem
    · exact hfirst.lasts.trans (hsecond.since moment hmem)
  until_end moment hmem := by
    rcases List.mem_append.1 hmem with hmem | hmem
    · exact (hfirst.until_end moment hmem).trans hsecond.lasts
    · exact hsecond.until_end moment hmem
  pairwise := by
    refine List.pairwise_append.2 ⟨hfirst.pairwise, hsecond.pairwise, ?_⟩
    intro earlier hearlier later hlater
    exact (hfirst.until_end earlier hearlier).trans (hsecond.since later hlater)

theorem lasting_noting (session : Session κ S) (entry : Entry κ) :
    Lasting session [⟨entry, session⟩] (session.noting entry) where
  lasts := session.lasts_noting entry
  since moment hmem := by
    obtain rfl := List.mem_singleton.1 hmem
    exact .refl session
  until_end moment hmem := by
    obtain rfl := List.mem_singleton.1 hmem
    exact session.lasts_noting entry
  pairwise := List.pairwise_singleton _ _

theorem Course.lasting {first last : Session κ S} {moments : List (Moment κ S)}
    (course : Course first moments last) : Lasting first moments last := by
  induction course with
  | done session => exact ⟨.refl session, by simp, by simp, .nil⟩
  | shift _ shifts ih =>
      have happend := ih.append ⟨shifts.lasts, by simp, by simp, .nil⟩
      rwa [List.append_nil] at happend
  | note _ _ ih => exact ih.append (lasting_noting _ _)
  | call _ _ _ ih hinner =>
      exact ih.append (((lasting_noting _ _).append hinner).append (lasting_noting _ _))

end Session

/-! ## One session after another -/

/-- What is done in a session takes a course. -/
theorem Undertaking.course {allowed : Request κ → Prop} {α : Type} {act : Act κ S α}
    (undertaking : Undertaking allowed act) {code : Code κ S} (within : code.Within allowed)
    (depth : Nat) (session : Session κ S) :
    Session.Course session (act.moments (code.caller depth) session)
      (act.run (code.caller depth) session).2 := by
  have coursing := Coursing.covers.undertaking undertaking
  exact Coursing.of_madeOf coursing _ (code.courses within depth) session

/-- The journal grows from request to request. -/
theorem Code.exists_noted_runAll {allowed : Request κ → Prop} {code : Code κ S}
    (within : code.Within allowed) {requests : List (Request κ)}
    (hrequests : ∀ request ∈ requests, allowed request) (session : Session κ S) :
    ∃ noted, (code.runAll requests session).journal = noted ++ session.journal := by
  induction requests generalizing session with
  | nil => exact ⟨[], rfl⟩
  | cons request rest ih =>
      obtain ⟨hrequest, hrest⟩ := List.forall_mem_cons.1 hrequests
      obtain ⟨later, hlater⟩ := ih hrest (code.run request.perform session).2
      obtain ⟨noted, hnoted, -⟩ := ((Undertaking.request request hrequest).course within
        Code.nestingLimit session).recount
      exact ⟨later ++ noted, by rw [List.append_assoc, ← hnoted]; exact hlater⟩

namespace Session

theorem Reaches.lasts {allowed : Request κ → Prop} {first session : Session κ S}
    (reaches : first.Reaches allowed session) : first.Lasts session := by
  induction reaches with
  | refl => exact .refl first
  | store app _ ih => exact ih.trans ⟨fun _ hid => hid, .refl _⟩
  | act undertaking within _ ih =>
      exact ih.trans (undertaking.course within _ _).lasting.lasts
  | callback occurs _ _ _ ih =>
      obtain ⟨undertaking, within, mem⟩ := occurs
      have hsince := (undertaking.course within _ _).lasting.since _ mem
      exact (ih.trans hsince).trans (lasts_noting _ _)

theorem Passes.lasts {allowed : Request κ → Prop} {first session : Session κ S}
    (passes : first.Passes allowed session) : first.Lasts session := by
  cases passes with
  | reached reaches => exact reaches.lasts
  | within occurs reaches =>
      obtain ⟨undertaking, within, mem⟩ := occurs
      exact reaches.lasts.trans ((undertaking.course within _ _).lasting.since _ mem)

/-- One session comes after another one in a run: in what is done after it, later in the course of
what is just being done, or in what is done after that. -/
inductive Precedes (allowed : Request κ → Prop) : Session κ S → Session κ S → Prop where
  | passes {earlier later : Session κ S} (passes : earlier.Passes allowed later) :
      Precedes allowed earlier later
  | amid {session : Session κ S} {earlier later : Moment κ S} {α : Type} {act : Act κ S α}
      {code : Code κ S} {depth : Nat} (undertaking : Undertaking allowed act)
      (within : code.Within allowed)
      (order : [earlier, later].Sublist (act.moments (code.caller depth) session)) :
      Precedes allowed earlier.session later.session
  | since {session later : Session κ S} {earlier : Moment κ S} {α : Type} {act : Act κ S α}
      {code : Code κ S} {depth : Nat} (undertaking : Undertaking allowed act)
      (within : code.Within allowed) (mem : earlier ∈ act.moments (code.caller depth) session)
      (passes : (act.run (code.caller depth) session).2.Passes allowed later) :
      Precedes allowed earlier.session later

theorem Precedes.lasts {allowed : Request κ → Prop} {earlier later : Session κ S}
    (precedes : Precedes allowed earlier later) : earlier.Lasts later := by
  cases precedes with
  | passes passes => exact passes.lasts
  | @amid session _ _ _ _ _ depth undertaking within order =>
      have lasting := (undertaking.course within depth session).lasting
      exact List.pairwise_iff_forall_sublist.1 lasting.pairwise order
  | since undertaking within mem passes =>
      exact ((undertaking.course within _ _).lasting.until_end _ mem).trans passes.lasts

end Session

end EditorShell
