import Mathlib.Data.ENat.Lattice
import MailSync.Proofs.Trace
import MailSync.Retry

/-!
# When retrying stops

An operation that is retried may give any sequence of results. It is called until one of them
settles it, a value or an error that will not pass by itself, and at most as often as the policy
allows; the last result is the result. Between two calls there is one pause, numbered in order from
zero. No number along the way outgrows the 32 bits that attempts are counted in. An operation that
only ends with results that settle it is not repeated at all.
-/
namespace MailSync

variable {α : Type}

/-- What retrying does to the outside. -/
inductive RetryStep where
  | call
  | pause (attempt : Nat)
deriving DecidableEq

/-- The steps before a call, which is numbered from zero: all earlier calls, each with the pause
that follows it. -/
def stepsBefore (call : Nat) : List RetryStep :=
  (List.range call).flatMap fun attempt => [.call, .pause attempt]

theorem stepsBefore_succ (call : Nat) :
    stepsBefore (call + 1) = stepsBefore call ++ [.call, .pause call] := by
  simp [stepsBefore, List.range_succ]

@[simp] theorem count_call_stepsBefore (call : Nat) : (stepsBefore call).count .call = call := by
  induction call with
  | zero => rfl
  | succ call ih => simp [stepsBefore_succ, List.count_append, ih]

/-- A result after which another attempt is no use. -/
def Conclusive : Except SyncError α → Prop
  | .ok _ => True
  | .error e => e.isRetryable = false

section
variable (results : Nat → Except SyncError α)

/-- The operation whose calls give these results, one after the other. -/
def yielding : StateM (List RetryStep) (Except SyncError α) := fun steps =>
  (results (steps.count .call), steps ++ [.call])

/-- A pause that is only noted down. -/
def noting (attempt : Nat) : StateM (List RetryStep) Unit := fun steps =>
  ((), steps ++ [.pause attempt])

/-- The index of the first result that settles the operation; infinite if none does. -/
noncomputable def firstConclusive : ℕ∞ := ⨅ (i : Nat) (_ : Conclusive (results i)), (i : ℕ∞)

variable {results}

theorem le_firstConclusive {i : Nat} (hbefore : ∀ j < i, ¬Conclusive (results j)) :
    (i : ℕ∞) ≤ firstConclusive results := by
  refine le_iInf₂ fun j hj => ?_
  by_contra hlt
  exact hbefore j (by exact_mod_cast not_le.mp hlt) hj

theorem firstConclusive_eq {i : Nat} (hi : Conclusive (results i))
    (hbefore : ∀ j < i, ¬Conclusive (results j)) : firstConclusive results = i :=
  le_antisymm (iInf₂_le i hi) (le_firstConclusive hbefore)

/-- Which call is the last one, when so many are left besides the next: nothing settles the
operation before it, and it is settled by then or no call is left. -/
structure IsLastCall (results : Nat → Except SyncError α) (next left last : Nat) : Prop where
  le : next ≤ last
  le_add : last ≤ next + left
  inconclusive : ∀ j, next ≤ j → j < last → ¬Conclusive (results j)
  ends : Conclusive (results last) ∨ last = next + left

theorem IsLastCall.of_conclusive {next left : Nat} (h : Conclusive (results next)) :
    IsLastCall results next left next where
  le := le_rfl
  le_add := Nat.le_add_right next left
  inconclusive _ hj hlt := absurd hlt (Nat.not_lt.mpr hj)
  ends := .inl h

theorem IsLastCall.of_none_left (results : Nat → Except SyncError α) (next : Nat) :
    IsLastCall results next 0 next where
  le := le_rfl
  le_add := le_rfl
  inconclusive _ hj hlt := absurd hlt (Nat.not_lt.mpr hj)
  ends := .inr rfl

theorem IsLastCall.succ {next left last : Nat} (h : IsLastCall results (next + 1) left last)
    (hnext : ¬Conclusive (results next)) : IsLastCall results next (left + 1) last where
  le := by have := h.le; omega
  le_add := by have := h.le_add; omega
  inconclusive j hj hlt := by
    by_cases he : j = next
    · exact he ▸ hnext
    · exact h.inconclusive j (by omega) hlt
  ends := h.ends.imp_right fun he => by omega

/-- As many calls are made as the first result that settles the operation asks for, or as there
may be. -/
theorem IsLastCall.calls_eq {left last : Nat} (h : IsLastCall results 0 left last) :
    ((last + 1 : Nat) : ℕ∞) = min (firstConclusive results + 1) (left + 1 : Nat) := by
  have hle := h.le_add
  have hbefore : ∀ j < last, ¬Conclusive (results j) := fun j => h.inconclusive j (Nat.zero_le j)
  rcases h.ends with hlast | hlast
  · rw [firstConclusive_eq hlast hbefore, min_eq_left]
    · exact Nat.cast_succ last
    · exact_mod_cast (by omega : last + 1 ≤ left + 1)
  · rw [min_eq_right]
    · exact_mod_cast (by omega : last + 1 = left + 1)
    · have hfirst : (left : ℕ∞) ≤ firstConclusive results :=
        le_firstConclusive (by rwa [← Nat.zero_add left, ← hlast])
      push_cast
      gcongr

/-- One call, and what follows it. -/
theorem run_yielding (next : Nat) : (yielding results).run (stepsBefore next) =
    (results next, stepsBefore next ++ [.call]) := by
  change (results ((stepsBefore next).count .call), _) = _
  rw [count_call_stepsBefore]

/-- One call, and then the next one after a pause, if there is any use in it. -/
theorem run_retryFrom_succ (left next : Nat) :
    (retryFrom noting (yielding results) (left + 1) next).run (stepsBefore next) =
      match results next with
      | .ok a => (.ok a, stepsBefore next ++ [.call])
      | .error e =>
        if e.isRetryable then
          (retryFrom noting (yielding results) left (next + 1)).run (stepsBefore (next + 1))
        else (.error e, stepsBefore next ++ [.call]) := by
  have hpause : (noting next).run (stepsBefore next ++ [.call]) = ((), stepsBefore (next + 1)) := by
    change ((), stepsBefore next ++ [.call] ++ [.pause next]) = _
    rw [stepsBefore_succ, List.append_assoc]
    rfl
  rw [retryFrom, StateT.run_bind, run_yielding]
  cases results next with
  | ok a => rfl
  | error e =>
    change StateT.run (if e.isRetryable then _ else _) _ = if e.isRetryable then _ else _
    split_ifs
    · rw [StateT.run_bind, hpause]
      rfl
    · rfl

theorem run_retryFrom (results : Nat → Except SyncError α) (left next : Nat) :
    ∃ last, IsLastCall results next left last ∧
      (retryFrom noting (yielding results) left next).run (stepsBefore next) =
        (results last, stepsBefore last ++ [.call]) := by
  -- On the calls that are left besides the next one.
  induction left generalizing next with
  | zero => exact ⟨next, .of_none_left results next, run_yielding next⟩
  | succ left ih =>
    rw [run_retryFrom_succ]
    cases hresult : results next with
    | ok a =>
      have hconclusive : Conclusive (results next) := by simp [hresult, Conclusive]
      exact ⟨next, .of_conclusive hconclusive, by rw [hresult]⟩
    | error e =>
      cases he : e.isRetryable with
      | false =>
        have hconclusive : Conclusive (results next) := by simp [hresult, Conclusive, he]
        exact ⟨next, .of_conclusive hconclusive, by simp [hresult, he]⟩
      | true =>
        have hinconclusive : ¬Conclusive (results next) := by simp [hresult, Conclusive, he]
        obtain ⟨last, hlast, hrun⟩ := ih (next + 1)
        exact ⟨last, hlast.succ hinconclusive, by simpa [he] using hrun⟩

end

/-- An operation is retried until a result settles it, at most as often as the policy allows, and
always once. The last result is the result. Between two calls there is one pause, numbered in order
from zero, and none follows the last call. Each attempt can be counted in a word. -/
theorem retry_stops (policy : RetryPolicy) (results : Nat → Except SyncError α) :
    ∃ (last : Nat) (steps : List RetryStep),
      (retry policy noting (yielding results)).run [] = (results last, steps) ∧
      steps = stepsBefore last ++ [.call] ∧
      steps.count .call = last + 1 ∧
      ((last + 1 : Nat) : ℕ∞) =
        min (firstConclusive results + 1) (max 1 policy.maxAttempts.toNat : Nat) ∧
      ∀ attempt ≤ last, (UInt32.ofNat attempt + 1).toNat = attempt + 1 := by
  obtain ⟨last, hlast, hrun⟩ := run_retryFrom results (policy.maxAttempts.toNat - 1) 0
  have hallowed : max 1 policy.maxAttempts.toNat = policy.maxAttempts.toNat - 1 + 1 := by omega
  refine ⟨last, _, hrun, rfl, ?_, ?_, fun attempt hattempt => ?_⟩
  · simp [List.count_append]
  · rw [hallowed, hlast.calls_eq]
  · have hword := policy.maxAttempts.toNat_lt
    have hle := hlast.le_add
    have hfits : attempt + 1 < 2 ^ 32 := by omega
    have hcount : (UInt32.ofNat attempt).toNat = attempt :=
      UInt32.toNat_ofNat_of_lt' (Nat.lt_of_succ_lt hfits)
    rw [UInt32.toNat_add, hcount, UInt32.toNat_one, Nat.mod_eq_of_lt hfits]

/-- What follows a program changes nothing if it hands each value on as it is. -/
theorem Program.bind_eq_self {p : Program α} {f : α → Program α}
    (h : p.Always fun _ a => f a = .done a) : p >>= f = p := by
  induction p with
  | done a => exact h
  | step e next ih =>
    rw [step_bind]
    congr 1
    funext answer
    exact ih answer (h answer)

theorem retryFrom_eq_self {p : Program (Except SyncError α)} (h : p.Always fun _ r => Conclusive r)
    (pause : Nat → Program Unit) (left attempt : Nat) : retryFrom pause p left attempt = p := by
  cases left with
  | zero => rfl
  | succ left =>
    rw [retryFrom]
    refine Program.bind_eq_self (h.mono fun _ r hr => ?_)
    cases r with
    | ok a => rfl
    | error e => exact if_neg (Bool.eq_false_iff.mp hr)

/-- Whatever the policy is, an operation is not repeated if each of its results settles it. -/
theorem Operation.retrying_eq_self {op : Operation α} (h : op.run.Always fun _ r => Conclusive r)
    (policy : RetryPolicy) : op.retrying policy = op :=
  retryFrom_eq_self h _ _ _

end MailSync
