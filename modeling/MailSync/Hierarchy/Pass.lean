import MailSync.DevicePolicy.Handshake
import MailSync.Hierarchy.Replay
import MailSync.Hierarchy.Round
import MailSync.Locks

/-!
# A pass over the folder hierarchy

Rounds are collected until the server has no more; only then is the batch written, and the
new key after it. A refused key restarts the pass once, and a demand for the policy handshake
is met once. A pass that fails or is cancelled before it writes leaves the mailbox alone.
-/
namespace MailSync.Hierarchy

def subject : String := "folder hierarchy"

/-- Where a pass stands between two rounds. -/
structure Progress where
  key : Option String
  batch : Batch
  restarted : Bool
  provisioned : Bool
deriving Repr, DecidableEq

def Progress.start (key : Option String) : Progress := ⟨key, .none, false, false⟩

/-- What a pass does after a round. -/
inductive Next where
  | again (p : Progress)
  | finish (p : Progress)
  /-- Runs the policy handshake, then goes on. -/
  | provision (p : Progress)
  | fail (error : SyncError)
deriving Repr, DecidableEq

def Progress.next (p : Progress) (mayProvision : Bool) : Except Failure (Round Batch) → Next
  | .ok round =>
    let p := { p with key := some round.key, batch := p.batch.extend round.batch }
    if round.more then .again p else .finish p
  | .error f =>
    if f.verdict = .keyInvalid ∧ ¬p.restarted then
      .again { p with key := none, batch := .none, restarted := true }
    else if f.verdict = .provisioningRequired ∧ ¬p.provisioned ∧ mayProvision then
      .provision { p with provisioned := true }
    else .fail (f.toError subject)

def roundLimit (limit : Nat) : SyncError :=
  .malformedResponse s!"folder sync did not finish within {limit} rounds"

/-- Collects rounds, at most as many as are left. The result counts those not used. -/
def collect (s : Session) : Nat → Progress → Operation (Progress × Nat)
  | left, p => do
    Operation.checkCancelled
    match left with
    | 0 => throw (roundLimit s.maxRounds)
    | left + 1 =>
      let outcome ← Operation.ofProgram (exchange s.settings (← s.snapshot) p.key)
      Operation.checkCancelled
      match p.next s.mayProvision outcome with
      | .again p => collect s left p
      | .finish p => pure (p, left)
      | .provision p =>
        s.provision
        collect s left p
      | .fail e => throw e

structure Stats where
  rounds : Nat
  added : Nat
  changed : Nat
  removed : Nat
  /-- Folders left out because their type has no role. -/
  skipped : Nat
  reset : Bool
deriving Repr, DecidableEq

/-- Replays a batch over the stored folders and writes the difference. -/
def write (batch : Batch) : Operation Difference := do
  let stored := Records.ofList (← Operation.ask .folders)
  let difference := Difference.between stored (batch.replay stored)
  difference.calls.forM fun call => discard (Operation.ask call)
  pure difference

/-- Runs a pass: the stored folders become those of the server. -/
def pass (s : Session) : Operation Stats :=
  Operation.withLock Locks.hierarchy do
    let stored ← Mailbox.hierarchyKey
    let (p, left) ← collect s s.maxRounds (.start stored)
    Operation.checkCancelled
    let difference ← write p.batch
    if p.key ≠ stored then Mailbox.setHierarchyKey p.key
    pure {
      rounds := s.maxRounds - left
      added := difference.added.length
      changed := difference.changed.length
      removed := difference.removed.length
      skipped := p.batch.deltas.countP Delta.isSkipped
      reset := p.batch.reset }

/-- Runs a pass and tells whether it succeeded. Denied access, a refused login, a pass under
way and cancelling are errors all the same. -/
def refresh (s : Session) : Operation Bool :=
  tryCatch (do discard (pass s); pure true) fun e =>
    match e with
    | .accessDenied | .authenticationFailed | .cancelled | .syncInProgress _ => throw e
    | _ => pure false

end MailSync.Hierarchy
