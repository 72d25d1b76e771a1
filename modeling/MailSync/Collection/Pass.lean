import MailSync.Collection.Round
import MailSync.Hierarchy.Pass

/-!
# A pass over a collection

Rounds are collected until the server has no more. Nothing is written meanwhile, except by
a pass over the hierarchy that the server may demand once. A refused key restarts the pass
once, and a demand for the policy handshake is met once. A restart drops what was collected
and sends the commands again. The number of messages asked for grows while the server
answers without moving its key.
-/
namespace MailSync.Collection

/-- Messages asked for in a round, and the step by which that grows. -/
def windowStep : UInt32 := 10

def windowLimit : UInt32 := 512

/-- What a pass is run for. -/
structure Errand where
  getChanges : Bool
  truncation : Option UInt32
  commands : List Command
deriving Repr, DecidableEq

namespace Errand

def changes : Errand := ⟨true, some truncationSize, []⟩

def orders (commands : List Command) : Errand := ⟨false, some truncationSize, commands⟩

/-- Whole bodies of messages. -/
def fetch (ids : List String) : Errand := ⟨false, none, ids.map .fetch⟩

end Errand

/-- Where a pass stands between two rounds. -/
structure Progress where
  /-- The key in the mailbox. -/
  stored : Option String
  key : Option String
  batch : Batch
  /-- Commands that the server has not yet taken. -/
  pending : List Command
  windowSize : UInt32
  restarted : Bool
  provisioned : Bool
  refreshed : Bool
deriving Repr, DecidableEq

namespace Progress

def start (errand : Errand) (stored : Option String) : Progress where
  stored := stored
  key := stored
  batch := .none
  pending := errand.commands
  windowSize := windowStep
  restarted := false
  provisioned := false
  refreshed := false

/-- Begins again from a key, with nothing collected and nothing delivered. -/
def restart (p : Progress) (errand : Errand) (key : Option String) : Progress :=
  { p with key, batch := .none, pending := errand.commands, windowSize := windowStep }

/-- The request of the next round. -/
def request (p : Progress) (errand : Errand) (folder : String) (window : Window) : Request where
  collection := folder
  window := window
  windowSize := p.windowSize
  getChanges := errand.getChanges
  deletesAsMoves := !p.pending.any Command.isDelete
  truncation := errand.truncation
  commands := if SyncKey.isInitial p.key then [] else p.pending

end Progress

/-- What a pass does after a round. -/
inductive Next where
  | again (p : Progress)
  | finish (p : Progress)
  /-- Runs a pass over the hierarchy, then begins again from the stored key. -/
  | refresh (p : Progress)
  /-- Runs the policy handshake, then goes on. -/
  | provision (p : Progress)
  | fail (error : SyncError)
deriving Repr, DecidableEq

def stalled (folder : String) : SyncError :=
  .malformedResponse s!"server keeps {folder} stalled at window size {windowLimit.toNat}"

/-- After a round that was accepted. -/
def Progress.accept (p : Progress) (folder : String) (round : Round Batch) : Next :=
  let fresh := SyncKey.isInitial p.key
  let after := { p with
    key := some round.key
    batch := p.batch.extend round.batch
    pending := if fresh then p.pending else [] }
  if round.more then
    if ¬fresh ∧ p.key = some round.key then
      let grown := p.windowSize + windowStep
      if windowLimit < grown then .fail (stalled folder)
      else .again { after with windowSize := grown }
    else .again after
  else .finish after

def Progress.next (p : Progress) (errand : Errand) (folder : String) (mayProvision : Bool) :
    Except Failure (Round Batch) → Next
  | .ok round => p.accept folder round
  | .error f =>
    if f.verdict = .keyInvalid ∧ ¬p.restarted then
      .again { p.restart errand none with restarted := true }
    else if f.verdict = .hierarchyChanged ∧ ¬p.refreshed then
      .refresh { p with refreshed := true }
    else if f.verdict = .provisioningRequired ∧ ¬p.provisioned ∧ mayProvision then
      .provision { p with provisioned := true }
    else .fail (f.toError folder)

def roundLimit (folder : String) (limit : Nat) : SyncError :=
  .malformedResponse s!"sync of {folder} did not finish within {limit} rounds"

/-- Collects rounds, at most as many as are left. The result counts those not used. -/
def collect (s : Session) (folder : String) (errand : Errand) (window : Window) :
    Nat → Progress → Operation (Progress × Nat)
  | left, p => do
    Operation.checkCancelled
    match left with
    | 0 => throw (roundLimit folder s.maxRounds)
    | left + 1 =>
      let request := p.request errand folder window
      let outcome ← Operation.ofProgram (exchange s.settings (← s.snapshot) request p.key)
      Operation.checkCancelled
      match p.next errand folder s.mayProvision outcome with
      | .again p => collect s folder errand window left p
      | .finish p => pure (p, left)
      | .refresh p =>
        discard (Hierarchy.pass s)
        requireFolder folder
        let stored ← Mailbox.key folder
        collect s folder errand window left { p.restart errand stored with stored }
      | .provision p =>
        s.provision
        collect s folder errand window left p
      | .fail e => throw e

/-- The window of a folder; a standard one if none was chosen. -/
def windowOf (folder : String) : Operation Window := do
  requireFolder folder
  pure ((← Mailbox.window? folder).getD .standard)

/-- What a pass collected, not yet written. -/
structure Collected where
  batch : Batch
  /-- The key in the mailbox. -/
  stored : Option String
  key : Option String
  rounds : Nat
deriving Repr, DecidableEq

def pass (s : Session) (folder : String) (errand : Errand) : Operation Collected := do
  requireFolder folder
  let window ← windowOf folder
  let stored ← Mailbox.key folder
  let (p, left) ← collect s folder errand (window.cappedAt s.maxWindow) s.maxRounds
    (.start errand stored)
  Operation.checkCancelled
  pure ⟨p.batch, p.stored, p.key, s.maxRounds - left⟩

/-- Stores the key that a pass ended with, once its batch is written. -/
def commit (folder : String) (c : Collected) : Operation Unit := do
  if c.key ≠ c.stored then Mailbox.setKey folder c.key

end MailSync.Collection
