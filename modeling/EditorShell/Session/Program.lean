import EditorShell.Session.Request

/-!
# Programs on a session

A program is what one callback of the embedding program does: it looks at the session, stores a
state of its own, makes requests, and ends with a result or a panic.  A program cannot change a
session in any other way, so a law that every request keeps is kept by every program.
-/

namespace EditorShell

/-- A program with a result of type `R`. -/
inductive Program (κ S R : Type) where
  | done (result : R)
  | panic (message : String)
  | look (next : Session κ S → Program κ S R)
  /-- Replaces the state of the embedding program. -/
  | store (app : S) (rest : Program κ S R)
  /-- Makes a request and goes on with the reply. -/
  | request (operation : Request κ) (next : operation.Reply → Program κ S R)

namespace Program

variable {κ S Q R : Type}

/-- Does one program and goes on as its result says; a panic ends both. -/
def andThen (first : Program κ S Q) (next : Q → Program κ S R) : Program κ S R :=
  match first with
  | done result => next result
  | panic message => .panic message
  | look view => .look fun session => (view session).andThen next
  | store app rest => .store app (rest.andThen next)
  | request operation view => .request operation fun reply => (view reply).andThen next

instance : Monad (Program κ S) where
  pure := done
  bind := andThen

/-- Gives what is seen of the session. -/
def read (view : Session κ S → R) : Program κ S R := .look fun session => .done (view session)

/-- Makes a request and gives the reply. -/
def ask (operation : Request κ) : Program κ S operation.Reply := .request operation .done

/-- Changes the state of the embedding program. -/
def modify (f : S → S) : Program κ S Unit :=
  .look fun session => .store (f session.app) (.done ())

/-- Does one program and then another one, whether the first ends with a result or with a panic. -/
def andFinally (program : Program κ S R) (last : Program κ S Unit) : Program κ S R :=
  match program with
  | done result => last.andThen fun _ => .done result
  | panic message => last.andThen fun _ => .panic message
  | look view => .look fun session => (view session).andFinally last
  | store app rest => .store app (rest.andFinally last)
  | request operation view => .request operation fun reply => (view reply).andFinally last

/-- Does what a program says; a panic becomes part of the result. -/
def toAct : Program κ S R → Act κ S (Guarded R)
  | done result => pure (.ok result)
  | panic message => pure (.error ⟨message⟩)
  | look next => .look fun session => (next session).toAct
  | store app rest => do
    .change fun session => { session with app := app }
    rest.toAct
  | request operation next => do
    let reply ← operation.perform
    (next reply).toAct

@[simp]
theorem pure_eq_done (result : R) : (pure result : Program κ S R) = .done result := rfl

@[simp]
theorem done_bind (result : Q) (next : Q → Program κ S R) :
    (Program.done result >>= next) = next result := rfl

end Program

end EditorShell
