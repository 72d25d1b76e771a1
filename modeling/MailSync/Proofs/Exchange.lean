import MailSync.Exchange
import MailSync.Proofs.Mailbox.Marks

/-!
# Exchanges in a history

The requests of a history, each with its reply. They can only become more, and writes and notices
do not count.
-/
namespace MailSync
open Mailbox (Call Memory Medium)

variable {σ : Type}

/-- A request and what came of it. -/
abbrev Exchanged := Request × Except TransportError Reply

namespace Moment

/-- Reads a history on: the request that waits for its reply, and the exchanges so far. -/
def read (log : Option Request × List Exchanged) (moment : Moment σ) :
    Option Request × List Exchanged :=
  match moment.event, log with
  | .sent _ request, (_, done) => (some request, done)
  | .received result, (some request, done) => (none, done ++ [(request, result)])
  | _, log => log

theorem exchanges_prefix_read (log : Option Request × List Exchanged) (moment : Moment σ) :
    log.2 <+: (read log moment).2 := by
  obtain ⟨event, mailbox⟩ := moment
  obtain ⟨waiting, done⟩ := log
  cases event with
  | received result =>
    cases waiting with
    | none => exact List.prefix_rfl
    | some request => exact List.prefix_append ..
  | _ => exact List.prefix_rfl

theorem exchanges_prefix_foldl_read (history : List (Moment σ))
    (log : Option Request × List Exchanged) : log.2 <+: (history.foldl read log).2 := by
  induction history generalizing log with
  | nil => exact List.prefix_rfl
  | cons moment history ih => exact (exchanges_prefix_read log moment).trans (ih _)

end Moment

namespace World

/-- The exchanges so far. -/
def exchanges (w : World σ) : List Exchanged := (w.history.foldl Moment.read (none, [])).2

theorem exchanges_prefix {w w' : World σ} (h : w.history <+: w'.history) :
    w.exchanges <+: w'.exchanges := by
  obtain ⟨rest, hr⟩ := h
  rw [exchanges, exchanges, ← hr, List.foldl_append]
  exact Moment.exchanges_prefix_foldl_read rest _

theorem exchanges_exchanged (w : World σ) (account : Account) (request : Request)
    (result : Except TransportError Reply) (cancelled : Bool) :
    (w.exchanged account request result cancelled).exchanges =
      w.exchanges ++ [(request, result)] := by
  rw [exchanges, exchanged, List.foldl_append]
  rfl

theorem exchanges_written (w : World Memory) (calls : List Call) :
    (w.written calls).exchanges = w.exchanges := by
  have h (m : Memory) (log) : (m.trail calls).foldl Moment.read log = log := by
    induction calls generalizing m with
    | nil => rfl
    | cons call calls ih => exact ih (m.next call)
  rw [exchanges, written, List.foldl_append, h, exchanges]

/-- The exchanges from one world to a later one. -/
def since (w w' : World σ) : List Exchanged := w'.exchanges.drop w.exchanges.length

theorem exchanges_append_since {w w' : World σ} (h : w.history <+: w'.history) :
    w.exchanges ++ w.since w' = w'.exchanges := by
  obtain ⟨rest, hr⟩ := exchanges_prefix h
  rw [since, ← hr, List.drop_left]

theorem since_eq {w w' : World σ} {rest : List Exchanged} (h : w'.exchanges = w.exchanges ++ rest) :
    w.since w' = rest := by
  rw [since, h, List.drop_left]

theorem since_self (w : World σ) : w.since w = [] := since_eq (List.append_nil _).symm

/-- There can only be more of them. -/
theorem since_prefix {w v u : World σ} (h : v.history <+: u.history) : w.since v <+: w.since u := by
  obtain ⟨rest, hr⟩ := exchanges_prefix h
  rw [since, since, ← hr, List.drop_append]
  exact List.prefix_append ..

theorem since_append {w v u : World σ} (h : w.history <+: v.history)
    (h' : v.history <+: u.history) : w.since u = w.since v ++ v.since u := by
  apply since_eq
  rw [← List.append_assoc, exchanges_append_since h, exchanges_append_since h']

end World

namespace Exchange

theorem run_post [Medium σ] {s : Surroundings σ} (hs : s.Solitary) (account : Account)
    (request : Request) (w : World σ) :
    ∃ result cancelled, (post account request).run s w =
      (documentOf request.command result, w.exchanged account request result cancelled) := by
  obtain ⟨r, c, h⟩ := Effect.perform_post hs account request w
  refine ⟨r, c, ?_⟩
  rw [post, Program.run_bind, Program.run_effect, h]
  rfl

end Exchange

namespace Session

/-- A session with the standard settings, for runs on given replies. -/
def sample : Session where
  account := ⟨"device", "ann@example.org",
    ⟨"mail.example.org", 443, .tls, .password, "ann", "pw"⟩, "14.1", none⟩
  settings := .standard
  maxWindow := .all
  mayProvision := true

/-- The account that goes with a request, with the policy key now in force. -/
def accountIn (sess : Session) (m : Memory) : Account :=
  { sess.account with policyKey := m.extras[Mailbox.policyKeyMark]? }

/-- One exchange of a pass, and a look whether the user cancelled before anything is made of the
reply. -/
def turn {ε : Type} (sess : Session) (exchange : Account → Program ε) : Operation ε := do
  let outcome ← Operation.ofProgram (exchange (← sess.snapshot))
  Operation.checkCancelled
  pure outcome

theorem turn_bind {ε α : Type} (sess : Session) (exchange : Account → Program ε)
    (f : ε → Operation α) :
    sess.turn exchange >>= f = (do
      let account ← sess.snapshot
      let outcome ← Operation.ofProgram (exchange account)
      Operation.checkCancelled
      f outcome) := by
  simp only [turn, bind_assoc, pure_bind]

end Session

theorem Operation.Ensures.turn {ε : Type} {s : Surroundings Memory} {w : World Memory}
    {sess : Session} {exchange : Account → Program ε} {request : Request}
    {f : Except TransportError Reply → ε} {Q : ε → World Memory → Prop}
    {E : SyncError → World Memory → Prop}
    (hex : ∃ r c, (exchange (sess.accountIn w.mailbox)).run s w =
      (f r, w.exchanged (sess.accountIn w.mailbox) request r c))
    (hQ : ∀ r c, Q (f r) (w.exchanged (sess.accountIn w.mailbox) request r c))
    (hE : ∀ r c, E .cancelled (w.exchanged (sess.accountIn w.mailbox) request r c)) :
    Ensures (sess.turn exchange) s w Q E := by
  obtain ⟨r, c, hr⟩ := hex
  have hrun := runIn_ofProgram (exchange (sess.accountIn w.mailbox)) s w
  rw [hr] at hrun
  refine .bind_ok sess.runIn_snapshot (.bind_ok hrun ?_)
  exact .bind (R := fun _ v => ∃ c, v = w.exchanged (sess.accountIn w.mailbox) request r c)
    (.checkCancelled (fun c => ⟨c, rfl⟩) fun c => hE r c) fun _ v ⟨c, hv⟩ => .pure (hv ▸ hQ r c)

end MailSync
