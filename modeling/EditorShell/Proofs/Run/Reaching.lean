import EditorShell.Proofs.Run.Upholding
import EditorShell.Proofs.Run.Making

/-!
# Runs

`Session.Reaches` relates a session to every session that can come of it: by requests of the
embedding program, by the start of a shell, and in the middle of these wherever a callback starts,
since a callback can make requests too.  The code of the embedding program is any code that makes
allowed requests only and whose host leaves the bridge alone (`Code.Within`).

`Session.Passes` adds the sessions in the middle of what is done.
-/

namespace EditorShell

variable {κ S R : Type}

/-- Every request that a program can make is one of `allowed`. -/
def Program.Uses (allowed : Request κ → Prop) : Program κ S R → Prop
  | .done _ | .panic _ => True
  | .look next => ∀ session, (next session).Uses allowed
  | .store _ rest => rest.Uses allowed
  | .request operation next => allowed operation ∧ ∀ reply, (next reply).Uses allowed

/-- A program makes whatever requests it makes. -/
theorem Program.uses_any (program : Program κ S R) : program.Uses fun _ => True := by
  induction program with
  | done _ | panic _ => exact True.intro
  | look _ ih => exact ih
  | store _ _ ih => exact ih
  | request _ _ ih => exact ⟨trivial, ih⟩

/-- Every callback makes allowed requests only, and the host leaves the bridge alone. -/
structure Code.Within (allowed : Request κ → Prop) (code : Code κ S) : Prop where
  action : ∀ key name args, (code.action key name args).Uses allowed
  listener : ∀ key event payload, (code.listener key event payload).Uses allowed
  task : ∀ key, (code.task key).Uses allowed
  delivery : ∀ key handle?, (code.delivery key handle?).Uses allowed
  interaction : ∀ key event, (code.interaction key event).Uses allowed
  component : ∀ key id context, (code.component key id context).Uses allowed
  listing : ∀ key, (code.listing key).Uses allowed
  activate : ∀ key, (code.activate key).Uses allowed
  deactivate : ∀ key, (code.deactivate key).Uses allowed
  host : ∀ message, (code.host message).Uses allowed
  announce : ∀ chord command, (code.announce chord command).Uses allowed
  apart : ∀ depth, (code.caller depth).HostApart

/-- A program without requests leaves all but the state of the embedding program as it is. -/
theorem Program.run_of_uses_nothing {program : Program κ S R} (silent : program.Uses fun _ => False)
    (caller : Caller κ S) (session : Session κ S) :
    (program.toAct.run caller session).2.core = session.core ∧
      program.toAct.moments caller session = [] := by
  induction program generalizing session with
  | done result => exact ⟨rfl, rfl⟩
  | panic message => exact ⟨rfl, rfl⟩
  | look next ih => exact ih session (silent session) session
  | store app rest ih => exact ih silent { session with app := app }
  | request operation next ih => exact silent.1.elim

/-- A host that makes no requests leaves the bridge alone. -/
theorem Code.hostApart_of_silent {code : Code κ S}
    (silent : ∀ message, (code.host message).Uses fun _ => False) (depth : Nat) :
    (code.caller depth).HostApart := by
  cases depth with
  | zero => exact ⟨fun _ _ => rfl, fun _ _ => ⟨[], rfl, by simp⟩, fun _ _ => rfl⟩
  | succ depth =>
      have hcore := fun message session =>
        (Program.run_of_uses_nothing (silent message) (code.caller depth) session).1
      refine ⟨fun message session => congrArg Core.bridge (hcore message session),
        fun message session => ⟨[], congrArg Core.journal (hcore message session), by simp⟩,
        fun message session => ?_⟩
      exact (Program.run_of_uses_nothing (silent message) (code.caller depth) session).2

theorem Code.hostApart_plain (depth : Nat) : ((Code.plain (S := S)).caller depth).HostApart := by
  refine Code.hostApart_of_silent (fun message => ?_) depth
  exact True.intro

/-- Code without callbacks of its own makes no requests. -/
theorem Code.within_plain (allowed : Request Empty → Prop) :
    (Code.plain (S := S)).Within allowed where
  action := nofun
  listener := nofun
  task := nofun
  delivery := nofun
  interaction := nofun
  component := nofun
  listing := nofun
  activate := nofun
  deactivate := nofun
  host _ := True.intro
  announce _ _ := True.intro
  apart := Code.hostApart_plain

/-- The code of a program that has extensions and nothing else of its own. -/
def Code.ofExtensions (listing : κ → Program κ S (List (Contribution (ActionBody κ))))
    (activate deactivate : κ → Program κ S (Except ExtensionError Unit)) : Code κ S where
  action _ _ _ := .done (.ok ())
  listener _ _ _ := .done (.ok ())
  task _ := .done ()
  delivery _ _ := .done ()
  interaction _ _ := .done ()
  component _ _ _ := .done (Node.ofKind .view)
  listing := listing
  activate := activate
  deactivate := deactivate
  host _ := .done (.ok ())
  announce _ _ := .done ()

theorem Code.within_ofExtensions {allowed : Request κ → Prop}
    {listing : κ → Program κ S (List (Contribution (ActionBody κ)))}
    {activate deactivate : κ → Program κ S (Except ExtensionError Unit)}
    (hlisting : ∀ key, (listing key).Uses allowed) (hactivate : ∀ key, (activate key).Uses allowed)
    (hdeactivate : ∀ key, (deactivate key).Uses allowed) :
    (Code.ofExtensions listing activate deactivate).Within allowed where
  action _ _ _ := True.intro
  listener _ _ _ := True.intro
  task _ := True.intro
  delivery _ _ := True.intro
  interaction _ _ := True.intro
  component _ _ _ := True.intro
  listing := hlisting
  activate := hactivate
  deactivate := hdeactivate
  host _ := True.intro
  announce _ _ := True.intro
  apart := Code.hostApart_of_silent fun _ => True.intro

/-- The code of a program that has commands and nothing else of its own. -/
def Code.ofActions (action : κ → Program κ S (Except HandlerError Unit)) : Code κ S where
  action key _ _ := action key
  listener _ _ _ := .done (.ok ())
  task _ := .done ()
  delivery _ _ := .done ()
  interaction _ _ := .done ()
  component _ _ _ := .done (Node.ofKind .view)
  listing _ := .done []
  activate _ := .done (.ok ())
  deactivate _ := .done (.ok ())
  host _ := .done (.ok ())
  announce _ _ := .done ()

theorem Code.within_ofActions {allowed : Request κ → Prop}
    {action : κ → Program κ S (Except HandlerError Unit)}
    (haction : ∀ key, (action key).Uses allowed) : (Code.ofActions action).Within allowed where
  action key _ _ := haction key
  listener _ _ _ := True.intro
  task _ := True.intro
  delivery _ _ := True.intro
  interaction _ _ := True.intro
  component _ _ _ := True.intro
  listing _ := True.intro
  activate _ := True.intro
  deactivate _ := True.intro
  host _ := True.intro
  announce _ _ := True.intro
  apart := Code.hostApart_of_silent fun _ => True.intro

/-- The code of a program that has components and nothing else of its own. -/
def Code.ofComponents (component : κ → Program κ S (Node (Handler κ))) : Code κ S :=
  { ofActions fun _ => .done (.ok ()) with component := fun key _ _ => component key }

theorem Code.within_ofComponents {allowed : Request κ → Prop}
    {component : κ → Program κ S (Node (Handler κ))}
    (hcomponent : ∀ key, (component key).Uses allowed) :
    (Code.ofComponents component).Within allowed where
  action _ _ _ := True.intro
  listener _ _ _ := True.intro
  task _ := True.intro
  delivery _ _ := True.intro
  interaction _ _ := True.intro
  component key _ _ := hcomponent key
  listing _ := True.intro
  activate _ := True.intro
  deactivate _ := True.intro
  host _ := True.intro
  announce _ _ := True.intro
  apart := Code.hostApart_of_silent fun _ => True.intro

/-- The code of a program whose callbacks accept everything and do nothing. -/
def Code.accepting : Code Unit Unit := .ofActions fun _ => .done (.ok ())

theorem Code.within_accepting (allowed : Request Unit → Prop) : Code.accepting.Within allowed :=
  Code.within_ofActions fun _ => True.intro

/-- The same code with a host that does nothing of its own. -/
def Code.withSilentHost (code : Code κ S) : Code κ S :=
  { code with host := fun _ => .done (.ok ()) }

theorem Code.within_withSilentHost (code : Code κ S) :
    code.withSilentHost.Within fun _ => True where
  action key name args := (code.action key name args).uses_any
  listener key event payload := (code.listener key event payload).uses_any
  task key := (code.task key).uses_any
  delivery key handle? := (code.delivery key handle?).uses_any
  interaction key event := (code.interaction key event).uses_any
  component key id context := (code.component key id context).uses_any
  listing key := (code.listing key).uses_any
  activate key := (code.activate key).uses_any
  deactivate key := (code.deactivate key).uses_any
  host _ := True.intro
  announce chord command := (code.announce chord command).uses_any
  apart := Code.hostApart_of_silent fun _ => True.intro

theorem Code.respond_withSilentHost (code : Code κ S) {call : Call κ} (hown : call.isHost = false) :
    code.withSilentHost.respond call = code.respond call := by
  cases call <;> first | rfl | cases hown

/-- A session in which nothing is mounted yet and the host records what it gets. -/
def Session.recordingSession : Session Empty Unit := .fresh .nobody (.fresh .recording true) ()

theorem Program.Uses.mono {first second : Request κ → Prop} {program : Program κ S R}
    (uses : program.Uses first) (himplies : ∀ request, first request → second request) :
    program.Uses second := by
  induction program with
  | done _ | panic _ => exact True.intro
  | look next ih => exact fun session => ih session (uses session)
  | store _ rest ih => exact ih uses
  | request operation next ih =>
      exact ⟨himplies operation uses.1, fun reply => ih reply (uses.2 reply)⟩

theorem Code.Within.mono {first second : Request κ → Prop} {code : Code κ S}
    (within : code.Within first) (himplies : ∀ request, first request → second request) :
    code.Within second where
  action key name args := (within.action key name args).mono himplies
  listener key event payload := (within.listener key event payload).mono himplies
  task key := (within.task key).mono himplies
  delivery key handle? := (within.delivery key handle?).mono himplies
  interaction key event := (within.interaction key event).mono himplies
  component key id context := (within.component key id context).mono himplies
  listing key := (within.listing key).mono himplies
  activate key := (within.activate key).mono himplies
  deactivate key := (within.deactivate key).mono himplies
  host message := (within.host message).mono himplies
  announce chord command := (within.announce chord command).mono himplies
  apart := within.apart

/-- What is done in a session from outside: an allowed request, or the start of a shell. -/
inductive Undertaking (allowed : Request κ → Prop) : {α : Type} → Act κ S α → Prop where
  | request (request : Request κ) (permitted : allowed request) :
      Undertaking allowed request.perform
  | start (config : ShellConfig) : Undertaking allowed (Session.start config)

/-- A moment in the course of something that is done in a session. -/
inductive Moment.OccursFrom (allowed : Request κ → Prop) (session : Session κ S)
    (moment : Moment κ S) : Prop where
  | intro {α : Type} {act : Act κ S α} {code : Code κ S} {depth : Nat}
      (undertaking : Undertaking allowed act) (within : code.Within allowed)
      (mem : moment ∈ act.moments (code.caller depth) session)

/-- The sessions that can come of a session. -/
inductive Session.Reaches (allowed : Request κ → Prop) (first : Session κ S) :
    Session κ S → Prop where
  /-- Nothing has been done yet. -/
  | refl : Reaches allowed first first
  /-- The embedding program has stored a state. -/
  | store {session : Session κ S} (app : S) (reaches : Reaches allowed first session) :
      Reaches allowed first { session with app := app }
  /-- Something has been done. -/
  | act {session : Session κ S} {α : Type} {act : Act κ S α} {code : Code κ S} {depth : Nat}
      (undertaking : Undertaking allowed act) (within : code.Within allowed)
      (reaches : Reaches allowed first session) :
      Reaches allowed first (act.run (code.caller depth) session).2
  /-- A callback starts while something is done. -/
  | callback {session : Session κ S} {moment : Moment κ S} {call : Call κ}
      (occurs : moment.OccursFrom allowed session) (called : moment.entry = .called call)
      (own : call.isHost = false) (reaches : Reaches allowed first session) :
      Reaches allowed first (moment.session.noting moment.entry)

/-- The sessions that can come of a session, and those on the way, in the middle of what is done. -/
inductive Session.Passes (allowed : Request κ → Prop) (first : Session κ S) :
    Session κ S → Prop where
  | reached {session : Session κ S} (reaches : Reaches allowed first session) :
      Passes allowed first session
  | within {session : Session κ S} {moment : Moment κ S}
      (occurs : moment.OccursFrom allowed session) (reaches : Reaches allowed first session) :
      Passes allowed first moment.session

/-- The sessions between the requests of a run. -/
inductive Code.Runs (code : Code κ S) (allowed : Request κ → Prop) (first : Session κ S) :
    Session κ S → Prop where
  | refl : Runs code allowed first first
  /-- The embedding program has stored a state. -/
  | store {session : Session κ S} (app : S) (runs : Runs code allowed first session) :
      Runs code allowed first { session with app := app }
  | request {session : Session κ S} (request : Request κ) (permitted : allowed request)
      (runs : Runs code allowed first session) :
      Runs code allowed first (code.run request.perform session).2

/-- A session comes of another one by these requests, made from outside in this order. -/
inductive Code.Performs (code : Code κ S) (first : Session κ S) :
    List (Request κ) → Session κ S → Prop where
  | refl : Performs code first [] first
  /-- The embedding program has stored a state. -/
  | store {requests : List (Request κ)} {session : Session κ S} (app : S)
      (performs : Performs code first requests session) :
      Performs code first requests { session with app := app }
  | request {requests : List (Request κ)} {session : Session κ S} (request : Request κ)
      (performs : Performs code first requests session) :
      Performs code first (requests ++ [request]) (code.run request.perform session).2

/-- The session after these requests, made in this order. -/
def Code.runAll (code : Code κ S) (requests : List (Request κ)) (session : Session κ S) :
    Session κ S :=
  requests.foldl (fun session request => (code.run request.perform session).2) session

theorem Code.runAll_append (code : Code κ S) (done rest : List (Request κ))
    (session : Session κ S) :
    code.runAll (done ++ rest) session = code.runAll rest (code.runAll done session) :=
  List.foldl_append

/-- The request that a step of a script makes. -/
def ScriptStep.request : ScriptStep → Request κ
  | .key chord => .handleKey chord.text
  | .wait span => .advance span
  | .showPanel panel => .showPanel panel
  | .run command args => .execute command args

theorem Session.run_playStep (caller : Caller κ S) (report : PlayReport) (step : ScriptStep)
    (session : Session κ S) : ((playStep report step).run caller session).2 =
      (step.request.perform.run caller session).2 := by
  cases step with
  | key chord =>
      unfold playStep ScriptStep.request Request.perform
      simp only [Act.run_bind, Act.run_ite, Act.run_pure]
      split <;> rfl
  | wait span => rfl
  | showPanel panel => rfl
  | run command args =>
      unfold playStep ScriptStep.request Request.perform
      rw [Act.run_bind]
      split <;> rfl

/-- To play a script is to make the requests of its steps, with a tick after each of them. -/
theorem Code.run_play (code : Code κ S) (steps : List ScriptStep) (session : Session κ S) :
    (code.run (Request.play steps).perform session).2 =
      code.runAll (steps.flatMap fun step => [step.request, .tick]) session := by
  show (code.run (Session.playFrom .zero steps) session).2 = _
  generalize Session.PlayReport.zero = report
  induction steps generalizing report session with
  | nil => rfl
  | cons step rest ih =>
      unfold Code.run Session.playFrom
      rw [Act.run_bind, Act.run_bind, Session.run_playStep]
      exact ih _ _

theorem Code.Performs.runAll {code : Code κ S} {first session : Session κ S}
    {done : List (Request κ)} (performs : code.Performs first done session)
    (requests : List (Request κ)) :
    code.Performs first (done ++ requests) (code.runAll requests session) := by
  induction requests generalizing done session with
  | nil => rwa [List.append_nil]
  | cons request rest ih =>
      have hlater := ih (.request request performs)
      rwa [List.append_assoc] at hlater

theorem Code.Runs.runAll {code : Code κ S} {allowed : Request κ → Prop}
    {first session : Session κ S}
    (runs : code.Runs allowed first session) {requests : List (Request κ)}
    (hrequests : ∀ request ∈ requests, allowed request) :
    code.Runs allowed first (code.runAll requests session) := by
  induction requests generalizing session with
  | nil => exact runs
  | cons request rest ih =>
      have hrequest := hrequests request List.mem_cons_self
      refine ih (.request request hrequest runs) fun other hother => ?_
      exact hrequests other (List.mem_cons_of_mem request hother)

theorem Code.Runs.mono {code : Code κ S} {allowed more : Request κ → Prop}
    {first session : Session κ S} (runs : code.Runs allowed first session)
    (himplies : ∀ request, allowed request → more request) : code.Runs more first session := by
  induction runs with
  | refl => exact .refl
  | store app _ ih => exact .store app ih
  | request request permitted _ ih => exact .request request (himplies request permitted) ih

/-- A run leads to sessions that can come of the first one. -/
theorem Code.Runs.reached {code : Code κ S} {allowed : Request κ → Prop}
    (within : code.Within allowed) {first session : Session κ S}
    (runs : code.Runs allowed first session) : first.Reaches allowed session := by
  induction runs with
  | refl => exact .refl
  | store app _ ih => exact .store app ih
  | request request permitted _ ih => exact .act (.request request permitted) within ih

/-- A run of a shell that has started is among the runs of a fresh session. -/
theorem Code.Runs.reaches {code : Code κ S} {allowed : Request κ → Prop}
    (within : code.Within fun _ => True) {config : ShellConfig} {host : Host} {app : S}
    {session : Session κ S} (runs : code.Runs allowed (code.launch config host app) session) :
    (Session.fresh .dispatcher host app).Reaches (fun _ => True) session := by
  induction runs with
  | refl => exact .act (.start config) within .refl
  | store app _ ih => exact .store app ih
  | request request _ _ ih => exact .act (.request request trivial) within ih

/-- A session in which a widget is mounted and waits for its handle. -/
def Session.askedSession : Session Empty Unit :=
  ((Request.update "a" (Node.ofKind .view)).perform.run (Code.plain.caller 1)
    ((Request.mount "a" (Node.ofKind .view) .root).perform.run (Code.plain.caller 1)
      recordingSession).2).2

theorem Session.reaches_askedSession {allowed : Request Empty → Prop}
    (hmount : allowed (.mount "a" (Node.ofKind .view) .root))
    (hupdate : allowed (.update "a" (Node.ofKind .view))) :
    recordingSession.Reaches allowed askedSession :=
  .act (.request _ hupdate) (Code.within_plain allowed)
    (.act (.request _ hmount) (Code.within_plain allowed) .refl)

end EditorShell
