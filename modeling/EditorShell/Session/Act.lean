import EditorShell.Session.State

/-!
# Acts

An act is a computation that changes a session and may call callbacks.  How a callback is called is
not fixed here: an act is run with a `Caller`, and everything that is proved of an act for all
callers holds whatever the callbacks do and however deep they nest.

A call cannot fail the act that makes it.  A panic of the callback is part of the call's result, and
each call and its return are noted in the journal.

Besides its effect an act has its *moments*: what is noted in the course of it, each entry with the
session as it is just then.  Running an act does not compute them; laws about what holds in the
middle of a run are stated on them.
-/

namespace EditorShell

/-- An entry of the journal with the session in which it is about to be noted. -/
structure Moment (κ S : Type) where
  entry : Entry κ
  session : Session κ S

/-- A way to call callbacks. -/
structure Caller (κ S : Type) where
  answer : (call : Call κ) → Session κ S → Guarded call.Result × Session κ S
  /-- What is noted while the callback runs, in order. -/
  moments : Call κ → Session κ S → List (Moment κ S)

/-- A computation on a session that may call callbacks. -/
@[ext]
structure Act (κ S α : Type) where
  run : Caller κ S → Session κ S → α × Session κ S
  /-- What is noted in the course of the act and of its callbacks, in order. -/
  moments : Caller κ S → Session κ S → List (Moment κ S)

namespace Act

variable {κ S α β : Type}

/-- Gives a value and changes nothing. -/
def result (value : α) : Act κ S α := ⟨fun _ session => (value, session), fun _ _ => []⟩

/-- Does one act and goes on as its value says. -/
def andThen (first : Act κ S α) (next : α → Act κ S β) : Act κ S β :=
  ⟨fun caller session =>
    let (value, session) := first.run caller session
    (next value).run caller session,
  fun caller session =>
    first.moments caller session ++
      (next (first.run caller session).1).moments caller (first.run caller session).2⟩

instance : Monad (Act κ S) where
  pure := result
  bind := andThen

/-- Gives what is seen of the session and changes nothing. -/
def read (view : Session κ S → α) : Act κ S α :=
  ⟨fun _ session => (view session, session), fun _ _ => []⟩

/-- Changes the session. -/
def change (f : Session κ S → Session κ S) : Act κ S Unit :=
  ⟨fun _ session => ((), f session), fun _ _ => []⟩

/-- Notes an entry in the journal. -/
def note (entry : Entry κ) : Act κ S Unit :=
  ⟨fun _ session => ((), session.noting entry), fun _ session => [⟨entry, session⟩]⟩

/-- Does an act on a condition, and otherwise nothing. -/
def when (condition : Bool) (act : Act κ S Unit) : Act κ S Unit :=
  if condition then act else pure ()

/-- Calls a callback as the caller does. -/
def raise (call : Call κ) : Act κ S (Guarded call.Result) :=
  ⟨fun caller => caller.answer call, fun caller => caller.moments call⟩

/-- Goes on as the session says. -/
def look (next : Session κ S → Act κ S α) : Act κ S α :=
  ⟨fun caller session => (next session).run caller session,
    fun caller session => (next session).moments caller session⟩

/-- Calls a callback and notes the call and its return. -/
def call (call : Call κ) : Act κ S (Guarded call.Result) := do
  note (.called call)
  let outcome ← raise call
  note (.returned call outcome)
  pure outcome

/-! ## What running an act gives

The equations are proved by components and not by definition alone: so `simp` rewrites a condition
together with the way it is decided. -/

variable (caller : Caller κ S) (session : Session κ S)

@[simp]
theorem run_pure (value : α) :
    (pure value : Act κ S α).run caller session = (value, session) :=
  Prod.ext rfl rfl

@[simp]
theorem run_bind (first : Act κ S α) (next : α → Act κ S β) :
    (first >>= next).run caller session =
      (next (first.run caller session).1).run caller (first.run caller session).2 :=
  Prod.ext rfl rfl

@[simp]
theorem run_map (f : α → β) (act : Act κ S α) :
    (f <$> act).run caller session =
      (f (act.run caller session).1, (act.run caller session).2) := Prod.ext rfl rfl

@[simp]
theorem run_read (view : Session κ S → α) :
    (read view).run caller session = (view session, session) := Prod.ext rfl rfl

@[simp]
theorem run_change (f : Session κ S → Session κ S) :
    (change f).run caller session = ((), f session) := Prod.ext rfl rfl

@[simp]
theorem run_note (entry : Entry κ) :
    (note entry).run caller session = ((), session.noting entry) := Prod.ext rfl rfl

@[simp]
theorem run_look (next : Session κ S → Act κ S α) :
    (look next).run caller session = (next session).run caller session := Prod.ext rfl rfl

@[simp]
theorem run_ite (condition : Prop) [Decidable condition] (first second : Act κ S α) :
    (if condition then first else second).run caller session =
      if condition then first.run caller session else second.run caller session := by
  split <;> rfl

@[simp]
theorem run_when (condition : Bool) (act : Act κ S Unit) :
    (when condition act).run caller session =
      if condition then act.run caller session else ((), session) := by
  cases condition <;> rfl

theorem run_call (call : Call κ) :
    (Act.call call).run caller session =
      ((caller.answer call (session.noting (.called call))).1,
        (caller.answer call (session.noting (.called call))).2.noting
          (.returned call (caller.answer call (session.noting (.called call))).1)) :=
  Prod.ext rfl rfl

/-! ## What is noted in the course of an act -/

@[simp]
theorem moments_pure (value : α) : (pure value : Act κ S α).moments caller session = [] := rfl

@[simp]
theorem moments_bind (first : Act κ S α) (next : α → Act κ S β) :
    (first >>= next).moments caller session =
      first.moments caller session ++
        (next (first.run caller session).1).moments caller (first.run caller session).2 := rfl

@[simp]
theorem moments_map (f : α → β) (act : Act κ S α) :
    (f <$> act).moments caller session = act.moments caller session := List.append_nil _

@[simp]
theorem moments_read (view : Session κ S → α) : (read view).moments caller session = [] := rfl

@[simp]
theorem moments_change (f : Session κ S → Session κ S) :
    (change f).moments caller session = [] := rfl

@[simp]
theorem moments_note (entry : Entry κ) :
    (note entry).moments caller session = [⟨entry, session⟩] := rfl

@[simp]
theorem moments_look (next : Session κ S → Act κ S α) :
    (look next).moments caller session = (next session).moments caller session := rfl

@[simp]
theorem moments_ite (condition : Prop) [Decidable condition] (first second : Act κ S α) :
    (if condition then first else second).moments caller session =
      if condition then first.moments caller session else second.moments caller session := by
  split <;> rfl

@[simp]
theorem moments_when (condition : Bool) (act : Act κ S Unit) :
    (when condition act).moments caller session =
      if condition then act.moments caller session else [] := by
  cases condition <;> rfl

/-- A call begins, the callback runs, and the call returns. -/
theorem moments_call (call : Call κ) :
    (Act.call call).moments caller session =
      ⟨.called call, session⟩ :: caller.moments call (session.noting (.called call)) ++
        [⟨.returned call (caller.answer call (session.noting (.called call))).1,
          (caller.answer call (session.noting (.called call))).2⟩] := by
  change [_] ++ (caller.moments call _ ++ ([_] ++ [])) = _
  rw [List.append_nil]
  rfl

instance : LawfulMonad (Act κ S) :=
  .mk' _ (fun _ => Act.ext rfl (funext fun _ => funext fun _ => List.append_nil _))
    (fun _ _ => rfl)
    (fun _ _ _ => Act.ext rfl (funext fun _ => funext fun _ => List.append_assoc _ _ _))

end Act

end EditorShell
