import MailSync.Proofs.Hierarchy.Pass
import MailSync.Proofs.Trace

/-!
# Exchanges that may need the handshake

An exchange that has no key is tried once, and once more if the server demands the handshake and the
handshake then succeeds. This is told from the trace alone, whatever the answers are: those of the
server and those of the storage.
-/
namespace MailSync
open Operation (Always)

/-- Nothing is posted in a trace. -/
def Unposted (t : List Asked) : Prop := ∀ command, exchangesOf command t = []

theorem unposted_ask (call : Mailbox.Call) (answer : (Effect.ask call).Answer) :
    Unposted [⟨.ask call, answer⟩] := fun _ => rfl

namespace Session
variable {α : Type} {sess : Session}

/-- The account with some policy key. -/
def Dresses (sess : Session) (account : Account) : Prop :=
  ∃ key, account = { sess.account with policyKey := key }

theorem always_snapshot (sess : Session) :
    sess.snapshot.Always (fun t account => Unposted t ∧ sess.Dresses account) Unposted := by
  refine Always.bind (R := fun t _ => Unposted t) ((Always.ask _).mono ?_ ?_) fun t key ht => ?_
  · rintro _ _ ⟨answer, rfl⟩
    exact unposted_ask _ answer
  · rintro _ ⟨answer, rfl⟩
    exact unposted_ask _ answer
  · change Unposted (t ++ []) ∧ sess.Dresses { sess.account with policyKey := key }
    rw [List.append_nil]
    exact ⟨ht, key, rfl⟩

/-- A handshake posts about nothing else. -/
theorem always_provision (sess : Session) :
    sess.provision.run.Always fun t r => sess.provision.run.Yields t r ∧
      ∀ command, command ≠ "Provision" → exchangesOf command t = [] := by
  refine (Program.Always.yields _).and ?_
  have honly : sess.provision.run.Only fun e => ∀ command, command ≠ "Provision" →
      e.Avoids command := by
    refine sess.only_provision (fun _ q hq command hc => ?_) fun _ _ _ => trivial
    exact fun h => hc (h.symm.trans hq)
  refine (Program.Always.of_only honly).mono fun t _ ht command hc => ?_
  exact exchangesOf_of_avoids fun x hx => ht x hx command hc

/-- How an exchange comes to its outcome, when one attempt is known by its trace and its outcome. -/
inductive Answered (sess : Session) (R : List Asked → Except Failure α → Prop) :
    List Asked → Except Failure α → Prop
  | once {before asked : List Asked} {o : Except Failure α} (unposted : Unposted before)
      (attempt : R asked o) : Answered sess R (before ++ asked) o
  | twice {before asked handshake between again : List Asked} {f : Failure} {o : Except Failure α}
      (unposted : Unposted before) (attempt : R asked (.error f))
      (demands : f.verdict = .provisioningRequired) (may : sess.mayProvision = true)
      (succeeds : sess.provision.run.Yields handshake (.ok ()))
      (about : ∀ command, command ≠ "Provision" → exchangesOf command handshake = [])
      (quiet : Unposted between) (retry : R again o) :
      Answered sess R (before ++ (asked ++ (handshake ++ (between ++ again)))) o

/-- How an exchange fails without an outcome: at the storage, or in the handshake. -/
inductive Unanswered (sess : Session) (R : List Asked → Except Failure α → Prop) :
    List Asked → Prop
  | unasked {t : List Asked} (unposted : Unposted t) : Unanswered sess R t
  | undone {before asked rest : List Asked} {f : Failure} (unposted : Unposted before)
      (attempt : R asked (.error f)) (demands : f.verdict = .provisioningRequired)
      (about : ∀ command, command ≠ "Provision" → exchangesOf command rest = []) :
      Unanswered sess R (before ++ (asked ++ rest))

theorem always_exchange {op : Account → Program (Except Failure α)}
    {R : List Asked → Except Failure α → Prop}
    (h : ∀ account, sess.Dresses account → (op account).Always R) :
    (sess.exchange op).Always (sess.Answered R) (sess.Unanswered R) := by
  refine (sess.always_snapshot.mono (fun _ _ ht => ht) fun _ => .unasked).bind ?_
  rintro before account ⟨hbefore, haccount⟩
  refine Always.bind (.ofProgram (h account haccount)) fun asked o hasked => ?_
  have honce : sess.Answered R (before ++ (asked ++ [])) o := by
    rw [List.append_nil]
    exact .once hbefore hasked
  cases o with
  | ok a => exact honce
  | error f =>
    simp only
    split_ifs with hdemand
    swap
    · exact honce
    obtain ⟨hverdict, hmay⟩ := hdemand
    have hhandshake : sess.provision.Always
        (fun t _ => sess.provision.run.Yields t (.ok ()) ∧
          ∀ command, command ≠ "Provision" → exchangesOf command t = [])
        fun t => sess.Unanswered R (before ++ (asked ++ t)) := by
      refine sess.always_provision.mono fun t r ht => ?_
      cases r with
      | ok => exact ht
      | error e => exact .undone hbefore hasked hverdict ht.2
    refine hhandshake.bind fun handshake _ ⟨hyields, habout⟩ => ?_
    refine (sess.always_snapshot.mono (fun _ _ ht => ht) fun t ht => ?_).bind ?_
    · refine .undone hbefore hasked hverdict fun command hc => ?_
      rw [exchangesOf_append, habout command hc, ht command]
      rfl
    · rintro between account' ⟨hbetween, haccount'⟩
      refine .ofProgram ((h account' haccount').mono fun again o hagain => ?_)
      exact .twice hbefore hasked hverdict hmay hyields habout hbetween hagain

end Session
end MailSync
