import MailSync.Collection.Stats
import MailSync.Mailbox.Call
import MailSync.Network

/-!
# Programs

What a sync does, apart from who carries it out: a program ends with a value, or asks its
surroundings for one effect and goes on with the answer. An operation is a program that may
fail. Programs say nothing about the server's replies, about when the user cancels, or about
where the mailbox is kept.
-/
namespace MailSync

inductive Effect where
  /-- Posts a request and waits for the reply. -/
  | post (account : Account) (request : Request)
  | ask (call : Mailbox.Call)
  /-- Looks whether the user has cancelled. -/
  | checkCancelled
  /-- Takes a lock, unless it is held. -/
  | acquire (lock : String)
  | release (lock : String)
  /-- Tells the listener. -/
  | tell (notice : Notice)
  /-- Makes an id that was never used. -/
  | freshId
deriving Repr, DecidableEq

abbrev Effect.Answer : Effect → Type
  | post .. => Except TransportError Reply
  | ask call => Except StorageError call.Answer
  | checkCancelled => Bool
  | acquire _ => Bool
  | release _ => Unit
  | tell _ => Unit
  | freshId => String

inductive Program (α : Type) : Type where
  | done (value : α)
  | step (effect : Effect) (next : effect.Answer → Program α)

namespace Program

def bind {α β : Type} (p : Program α) (f : α → Program β) : Program β :=
  match p with
  | done a => f a
  | step e next => step e fun answer => (next answer).bind f

instance : Monad Program where
  pure := done
  bind := bind

theorem pure_eq {α : Type} (a : α) : (pure a : Program α) = done a := rfl

theorem done_bind {α β : Type} (a : α) (f : α → Program β) : done a >>= f = f a := rfl

theorem step_bind {α β : Type} (e : Effect) (next : e.Answer → Program α) (f : α → Program β) :
    step e next >>= f = step e fun answer => next answer >>= f := rfl

theorem bind_done {α : Type} (p : Program α) : p >>= done = p := by
  induction p with
  | done a => rfl
  | step e next ih =>
    rw [step_bind]
    congr 1
    funext answer
    exact ih answer

theorem bind_bind {α β γ : Type} (p : Program α) (f : α → Program β) (g : β → Program γ) :
    p >>= f >>= g = p >>= fun a => f a >>= g := by
  induction p with
  | done a => rfl
  | step e next ih =>
    simp only [step_bind]
    congr 1
    funext answer
    exact ih answer

instance : LawfulMonad Program :=
  LawfulMonad.mk' Program bind_done (fun _ _ => rfl) bind_bind

/-- The program that only asks for one effect. -/
def effect (e : Effect) : Program e.Answer := step e done

end Program

/-- A program that may fail. -/
abbrev Operation := ExceptT SyncError Program

namespace Operation

def ofProgram {α : Type} (p : Program α) : Operation α := ExceptT.lift p

def fail {α : Type} (e : SyncError) : Operation α := ExceptT.mk (pure (.error e))

/-- Ends with what a program found. -/
def ofResult {α : Type} (p : Program (Except SyncError α)) : Operation α := ExceptT.mk p

def ask (call : Mailbox.Call) : Operation call.Answer :=
  ExceptT.mk do
    match ← Program.effect (.ask call) with
    | .ok answer => pure (.ok answer)
    | .error e => pure (.error (.storage e))

def tell (notice : Notice) : Operation Unit := ofProgram (Program.effect (.tell notice))

def freshId : Operation String := ofProgram (Program.effect .freshId)

/-- Fails once the user has cancelled. -/
def checkCancelled : Operation Unit :=
  ExceptT.mk do
    if ← Program.effect .checkCancelled then pure (.error .cancelled) else pure (.ok ())

/-- Runs an operation while a lock is held. The lock is released however it ends. -/
def withLock {α : Type} (lock : String) (op : Operation α) : Operation α :=
  ExceptT.mk do
    if ← Program.effect (.acquire lock) then
      let result ← op.run
      Program.effect (.release lock)
      pure result
    else pure (.error (.syncInProgress lock))

end Operation
end MailSync
