import MailSync.Program

/-!
# Retrying

Callers repeat operations whose failure may pass by itself, with growing pauses. The
operations themselves never repeat a failed request.
-/
namespace MailSync

structure RetryPolicy where
  /-- Attempts in all. Zero means one. -/
  maxAttempts : UInt32
  /-- Milliseconds before the second attempt. -/
  initialDelay : UInt64
  maxDelay : UInt64
  multiplier : Float
  /-- Whether to add a random part to each pause. -/
  jitter : Bool
deriving Repr

namespace RetryPolicy

def standard : RetryPolicy := ⟨3, 500, 30000, 2.0, true⟩

/-- A policy that never repeats anything. -/
def never : RetryPolicy := { standard with maxAttempts := 1 }

/-- Squares the base for each binary digit of the exponent and multiplies the squares whose
digit is set, from the lowest on. The fuel bounds the number of digits. -/
def powerFrom : Nat → Float → Float → Nat → Float
  | 0, product, _, _ => product
  | fuel + 1, product, base, n =>
    let product := if n % 2 = 1 then product * base else product
    if n / 2 = 0 then product else powerFrom fuel product (base * base) (n / 2)

/-- A power with an integer exponent. -/
def power (base : Float) (exponent : Int) : Float :=
  let p := powerFrom 64 1.0 base exponent.natAbs
  if exponent < 0 then 1.0 / p else p

/-- The milliseconds to pause after an attempt, counted from zero, without the random part.
The exponent is the count as a signed 32-bit word. -/
def delay (policy : RetryPolicy) (attempt : Nat) : UInt64 :=
  let grown := policy.initialDelay.toFloat * power policy.multiplier (Int.bmod attempt UInt32.size)
  let limit := policy.maxDelay.toFloat
  (if grown < limit then grown else limit).toUInt64

end RetryPolicy

/-- Repeats an operation while attempts are left. `attempt` counts those already made. -/
def retryFrom {m : Type → Type} [Monad m] {α : Type} (pause : Nat → m Unit)
    (op : m (Except SyncError α)) : Nat → Nat → m (Except SyncError α)
  | 0, _ => op
  | left + 1, attempt => do
    match ← op with
    | .ok a => pure (.ok a)
    | .error e =>
      if e.isRetryable then
        pause attempt
        retryFrom pause op left (attempt + 1)
      else pure (.error e)

/-- Runs an operation until it succeeds, fails for good, or attempts run out. Pauses after
each failure that is followed by another attempt. -/
def retry {m : Type → Type} [Monad m] {α : Type} (policy : RetryPolicy) (pause : Nat → m Unit)
    (op : m (Except SyncError α)) : m (Except SyncError α) :=
  retryFrom pause op (policy.maxAttempts.toNat - 1) 0

/-- Retries within a program, where time does not matter. -/
def Operation.retrying {α : Type} (policy : RetryPolicy) (op : Operation α) : Operation α :=
  ofResult (retry policy (fun _ => pure ()) op.run)

end MailSync
