import MailSync.Locks
import MailSync.Program

/-!
# Running programs

A world holds the mailbox, the locks, whether the user has cancelled, and the history of
what programs did to the outside, each moment with the mailbox as it was just then. The
surroundings are all that programs cannot foresee: the server's replies, what happens while
a request is in flight, when the user cancels, and fresh ids. They may go by the whole
history.
-/
namespace MailSync

inductive Event where
  | sent (account : Account) (request : Request)
  | received (result : Except TransportError Reply)
  | wrote (call : Mailbox.Call)
  | told (notice : Notice)

structure Moment (σ : Type) where
  event : Event
  /-- The mailbox right after the event. -/
  mailbox : σ

structure World (σ : Type) where
  mailbox : σ
  locks : Locks
  cancelled : Bool
  /-- What happened so far, in order. -/
  history : List (Moment σ)

namespace World

variable {σ : Type}

/-- A world in which nothing has happened yet. -/
def start (mailbox : σ) : World σ := ⟨mailbox, .free, false, []⟩

def record (w : World σ) (event : Event) : World σ :=
  { w with history := w.history ++ [⟨event, w.mailbox⟩] }

/-- The requests sent so far. -/
def requests (w : World σ) : List (Account × Request) :=
  w.history.filterMap fun moment =>
    match moment.event with
    | .sent account request => some (account, request)
    | _ => none

def notices (w : World σ) : List Notice :=
  w.history.filterMap fun moment =>
    match moment.event with
    | .told notice => some notice
    | _ => none

end World

structure Surroundings (σ : Type) where
  reply : World σ → Account → Request → Except TransportError Reply
  /-- What happens while a request is in flight, before its reply. -/
  inFlight : World σ → World σ
  /-- Whether the user cancels before the program looks. -/
  cancels : World σ → Bool
  newId : World σ → String

namespace Effect

variable {σ : Type} [Mailbox.Medium σ]

def perform (s : Surroundings σ) : (e : Effect) → World σ → e.Answer × World σ
  | post account request, w =>
    let sent := s.inFlight (w.record (.sent account request))
    let result := s.reply sent account request
    (result, sent.record (.received result))
  | ask call, w =>
    let (answer, mailbox) := Mailbox.Medium.answer call w.mailbox
    let after := { w with mailbox }
    (answer, if call.isWrite then after.record (.wrote call) else after)
  | checkCancelled, w =>
    let cancelled := w.cancelled || s.cancels w
    (cancelled, { w with cancelled })
  | acquire lock, w =>
    match w.locks.acquire? lock with
    | some locks => (true, { w with locks })
    | none => (false, w)
  | release lock, w => ((), { w with locks := w.locks.release lock })
  | tell notice, w => ((), w.record (.told notice))
  | freshId, w => (s.newId w, w)

end Effect

namespace Program

variable {σ α β : Type} [Mailbox.Medium σ]

/-- Runs a program to its end. -/
def run (s : Surroundings σ) : Program α → World σ → α × World σ
  | done a, w => (a, w)
  | step e next, w =>
    let (answer, w) := e.perform s w
    (next answer).run s w

theorem run_done (s : Surroundings σ) (a : α) (w : World σ) : (done a).run s w = (a, w) := rfl

theorem run_step (s : Surroundings σ) (e : Effect) (next : e.Answer → Program α) (w : World σ) :
    (step e next).run s w = (next (e.perform s w).1).run s (e.perform s w).2 := rfl

theorem run_bind (s : Surroundings σ) (p : Program α) (f : α → Program β) (w : World σ) :
    (p >>= f).run s w = (f (p.run s w).1).run s (p.run s w).2 := by
  induction p generalizing w with
  | done a => rfl
  | step e next ih => exact ih (e.perform s w).1 (e.perform s w).2

theorem run_effect (s : Surroundings σ) (e : Effect) (w : World σ) :
    (effect e).run s w = e.perform s w := rfl

end Program

/-- Runs an operation: its result, and the world it leaves. -/
def Operation.runIn {σ α : Type} [Mailbox.Medium σ] (op : Operation α) (s : Surroundings σ)
    (w : World σ) : Except SyncError α × World σ :=
  Program.run s op.run w

end MailSync
