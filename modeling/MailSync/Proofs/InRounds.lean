import MailSync.Proofs.Ensures
import MailSync.Proofs.Exchange

/-!
# Passes in rounds

A pass goes on in rounds. In each it looks whether the user has cancelled, posts a request and looks
again; then the reply has it go on, end or fail, or run something else before it goes on. Passes
over the hierarchy and over a collection differ in what they post and in what follows a reply. What
holds before each round is carried to the end in the same way.
-/
namespace MailSync
open Mailbox (Memory)
open Operation (Ensures)

variable {π : Type}

/-- What a pass does after a round. -/
inductive Step (π : Type) where
  | again (p : π)
  | finish (p : π)
  /-- Runs something else, and goes on with what comes of it. -/
  | detour (op : Operation π)
  | fail (error : SyncError)

/-- Runs something first that leaves the progress as it is. -/
def Step.after (op : Operation Unit) (p : π) : Step π := .detour do
  op
  pure p

/-- A kind of pass: the request of a round, what follows the reply, and the error when no rounds are
left. -/
structure Rounds (π : Type) where
  request : π → Request
  step : π → Except TransportError Reply → Step π
  limit : SyncError

namespace Rounds

/-- One round, up to what follows it. -/
def turn (R : Rounds π) (sess : Session) (p : π) : Operation (Step π) :=
  sess.turn fun account =>
    Program.effect (.post account (R.request p)) >>= fun r => pure (R.step p r)

/-- Collects rounds, at most as many as are left. The result counts those not used. -/
def collect (R : Rounds π) (sess : Session) : Nat → π → Operation (π × Nat)
  | 0, _ => do
    Operation.checkCancelled
    throw R.limit
  | left + 1, p => do
    Operation.checkCancelled
    match ← R.turn sess p with
    | .again q => R.collect sess left q
    | .finish q => pure (q, left)
    | .detour op => op >>= R.collect sess left
    | .fail e => throw e

/-- The world of a pass once the reply to its next request is there. -/
def replied (R : Rounds π) (sess : Session) (p : π) (w : World Memory)
    (result : Except TransportError Reply) (cancelled : Bool) : World Memory :=
  w.exchanged (sess.accountIn w.mailbox) (R.request p) result cancelled

/-- A round is told by its request and what follows the reply. -/
theorem turn_bind_eq {α ε : Type} {R : Rounds π} {sess : Session} {p : π}
    {exchange : Account → Program ε} {g : Except TransportError Reply → ε} {f : ε → Operation α}
    {k : Step π → Operation α}
    (hex : ∀ account, exchange account =
      Program.effect (.post account (R.request p)) >>= fun r => pure (g r))
    (hk : ∀ r, f (g r) = k (R.step p r)) : sess.turn exchange >>= f = R.turn sess p >>= k := by
  have hpost {ε : Type} (g : Except TransportError Reply → ε) (f : ε → Operation α) :
      (sess.turn fun account =>
        Program.effect (.post account (R.request p)) >>= fun r => pure (g r)) >>= f =
      sess.snapshot >>= fun account =>
        Operation.ofProgram (Program.effect (.post account (R.request p))) >>= fun r =>
          Operation.checkCancelled >>= fun _ => f (g r) := by
    rw [Session.turn_bind]
    rfl
  rw [turn, hpost, show exchange = _ from funext hex, hpost]
  simp only [hk]

theorem ensures_turn {s : Surroundings Memory} (hs : s.Solitary) {R : Rounds π} {sess : Session}
    {p : π} {w : World Memory} {Q : Step π → World Memory → Prop}
    {E : SyncError → World Memory → Prop} (hQ : ∀ r c, Q (R.step p r) (R.replied sess p w r c))
    (hE : ∀ r c, E .cancelled (R.replied sess p w r c)) : Ensures (R.turn sess p) s w Q E := by
  refine .turn ?_ hQ hE
  obtain ⟨r, c, hr⟩ := Effect.perform_post hs (sess.accountIn w.mailbox) (R.request p) w
  refine ⟨r, c, ?_⟩
  rw [Program.run_bind, Program.run_effect, hr]
  rfl

end Rounds

/-- What holds where the pass goes on (I), at the end (F) or with an error (E). -/
def Step.Ensures (step : Step π) (s : Surroundings Memory) (w : World Memory)
    (I F : π → World Memory → Prop) (E : SyncError → World Memory → Prop) : Prop :=
  match step with
  | .again p => I p w
  | .finish p => F p w
  | .detour op => Operation.Ensures op s w I E
  | .fail e => E e w

theorem Step.ensures_after {op : Operation Unit} {p : π} {s : Surroundings Memory}
    {w : World Memory} {I F : π → World Memory → Prop} {E : SyncError → World Memory → Prop}
    (h : Operation.Ensures op s w (fun _ v => I p v) E) : (Step.after op p).Ensures s w I F E :=
  Operation.Ensures.bind h fun _ _ hv => .pure hv

section
variable (R : Rounds π) (s : Surroundings Memory) (sess : Session)

/-- What holds before each round (I), carried from one round to the next, to the end (F) or to an
error (E). -/
structure Rounds.Carries (I F : π → World Memory → Prop) (E : SyncError → World Memory → Prop) :
    Prop where
  look {p w} (c : Bool) : I p w → I p { w with cancelled := c }
  stop {p w} : I p w → E .cancelled w
  limit {p w} : I p w → E R.limit w
  drop {p w} r c : I p w → E .cancelled (R.replied sess p w r c)
  step {p w} r c : I p w → (R.step p r).Ensures s (R.replied sess p w r c) I F E

variable {R s sess} {I F : π → World Memory → Prop} {E : SyncError → World Memory → Prop}

theorem Rounds.Carries.ensures (hs : s.Solitary) (h : R.Carries s sess I F E) (left : Nat) {p : π}
    {w : World Memory} (hI : I p w) :
    Ensures (R.collect sess left p) s w (fun r v => F r.1 v) E := by
  have hlook {p w} (hI : I p w) : Ensures Operation.checkCancelled s w (fun _ v => I p v) E :=
    .checkCancelled (fun c => h.look c hI) fun c => h.stop (h.look c hI)
  -- On the rounds that are left: each spends one, whatever it leads to.
  induction left generalizing p w with
  | zero => exact (hlook hI).bind fun _ v hv => .throw (h.limit hv)
  | succ left ih =>
    refine (hlook hI).bind fun _ w hI => ?_
    refine (ensures_turn hs (Q := fun step v => step.Ensures s v I F E)
      (fun r c => h.step r c hI) fun r c => h.drop r c hI).bind fun step v hv => ?_
    cases step with
    | again q => exact ih hv
    | finish q => exact .pure hv
    | detour op => exact Ensures.bind hv fun q v hq => ih hq
    | fail e => exact .throw hv

end
end MailSync
