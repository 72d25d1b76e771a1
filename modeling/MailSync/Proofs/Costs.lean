import MailSync.Proofs.Composition

/-!
# What operations cost

Whatever the answers are, an operation asks for no more than a tally says. A pass over the hierarchy
spends a round on each of its requests and runs the handshake once at most. A pass over a collection
does the same, and runs one pass over the hierarchy at most, with a handshake of its own.
-/
namespace MailSync
open Mailbox (Medium)
open Operation (Always)

variable {σ α β : Type}

namespace Operation

/-- Whatever the answers are, the operation asks for no more than this. -/
def Costs (op : Operation α) (n : Tally) : Prop :=
  op.Always (fun t _ => Tally.of t ≤ n) fun t => Tally.of t ≤ n

namespace Costs
variable {op : Operation α} {f : α → Operation β} {n m k : Tally}

theorem of_only (h : Only Effect.Free op) : Costs op n := by
  refine (Always.of_only h).mono (fun t _ ht => ?_) fun t ht => ?_
  · rw [Tally.of_free ht]
    exact Tally.zero_le n
  · rw [Tally.of_free ht]
    exact Tally.zero_le n

theorem bind (h : Costs op n) (hf : ∀ a, Costs (f a) m) (hk : n + m ≤ k) :
    Costs (op >>= f) k := by
  have hn : n ≤ k := (Tally.le_of_add_le hk).1
  have hop := Always.mono h (fun _ _ ht => ht) fun _ ht => Tally.le_trans ht hn
  refine Always.bind hop fun t a ht => ?_
  refine Always.mono (hf a) (fun t' b ht' => ?_) fun t' ht' => ?_
  · rw [Tally.of_append]
    exact Tally.le_trans (Tally.add_le_add ht ht') hk
  · rw [Tally.of_append]
    exact Tally.le_trans (Tally.add_le_add ht ht') hk

theorem withLock {lock : String} (h : Costs op n) (hk : Tally.ofLock lock + n ≤ k) :
    Costs (withLock lock op) k := by
  have hlocked {t : List Asked} (ht : Tally.of t ≤ n) :
      Tally.of (⟨.acquire lock, true⟩ :: t ++ [⟨.release lock, ()⟩]) ≤ k := by
    have hrelease : Tally.of [⟨.release lock, ()⟩] = 0 := rfl
    rw [Tally.of_append, ← List.singleton_append, Tally.of_append, Tally.of_acquire, hrelease]
    exact Tally.le_trans (Tally.add_zero_le _)
      (Tally.le_trans (Tally.add_le_add (Tally.le_refl _) ht) hk)
  refine Always.withLock ?_ (Always.mono h (fun _ _ ht => hlocked ht) fun _ ht => hlocked ht)
  rw [Tally.of_acquire]
  exact (Tally.le_of_add_le hk).1

theorem trace_le [Medium σ] (h : Costs op n) (s : Surroundings σ) (w : World σ) :
    Tally.of (op.trace s w) ≤ n := by
  have hr := Program.Always.run h s w
  generalize (op.run.run s w).1 = r at hr
  cases r <;> exact hr

/-- Whatever comes of an operation is a value to go on with. -/
theorem attempt (h : Costs op n) : Costs (ofProgram op.run) n := by
  refine Always.ofProgram (Program.Always.mono h fun t r hr => ?_)
  cases r <;> exact hr

theorem post (account : Account) (request : Request) (g : Except TransportError Reply → α) :
    Costs (ofProgram (Program.effect (.post account request) >>= fun r => Pure.pure (g r)))
      (.ofCommand request.command) := by
  refine Always.ofProgram fun reply => ?_
  change Tally.of [⟨.post account request, reply⟩] ≤ _
  rw [Tally.of_post]
  exact Tally.le_refl _

theorem composes : Composes fun n _ _ op => Costs op n where
  pure a := of_only (.pure a)
  throw _ := of_only (.throw _)
  bind := bind
  withLock _ := withLock
  look := of_only (.checkCancelled trivial)
  tell _ := of_only (.ofProgram ⟨trivial, fun _ => trivial⟩)

theorem serves (sess : Session) : Serves (fun n _ _ op => Costs op n) sess :=
  composes.serves (fun _ => of_only (.ask trivial))
    (of_only (.ofProgram ⟨trivial, fun _ => trivial⟩)) post

theorem resumes : Resumes fun n _ _ op => Costs op n where
  attempt hop hok herror hk := by
    refine hop.attempt.bind (fun r => ?_) hk
    cases r with
    | ok a => exact hok a
    | error e => exact herror e (of_only (.throw e))

end Costs
end Operation
open Operation (Costs)

theorem Hierarchy.costs_pass (sess : Session) : Costs (pass sess) (passTally sess) :=
  (Costs.serves sess).upholds.hierarchyPass (Locks.acquire?_free _)

namespace Collection
variable (sess : Session) (folder : String)

theorem costs_pass (errand : Errand) : Costs (pass sess folder errand) (passTally sess) :=
  ((Costs.serves sess).upholds.handles folder).pass errand (Locks.acquire?_free _)

theorem costs_syncFolder : Costs (syncFolder sess folder) (passTally sess + passTally sess) :=
  ((Costs.serves sess).upholds.handles folder).syncFolder Costs.resumes

end Collection
end MailSync
