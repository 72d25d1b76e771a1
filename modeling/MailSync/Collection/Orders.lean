import MailSync.Collection.Apply
import MailSync.Collection.Pass
import MailSync.ItemStatus

/-!
# Orders to the server

Flag changes and deletions travel with a pass. What the server says of each message decides
what is done to it here.
-/
namespace MailSync.Collection

/-- What the status of a deletion means. None means that it was taken; a message that the
server does not have is gone as well. -/
def deletionStatus : Option UInt32 → ItemStatus
  | none => .success
  | some status =>
    if status = 1 ∨ status = 8 then .success
    else if status = 5 ∨ status = 7 ∨ status = 16 then .retry
    else .revert

def deletionOutcome (b : Batch) (ids : List String) : DeleteOutcome :=
  ids.foldl (fun o id => o.record id (deletionStatus (b.status? id .delete))) .none

/-- Deletes messages on the server, and here those that it confirmed. -/
def deleteMessages (s : Session) (folder : String) (ids : List String) :
    Operation DeleteOutcome :=
  if ids.isEmpty then pure .none
  else Operation.withLock (Locks.ofFolder folder) do
    let collected ← pass s folder (.orders (ids.map .delete))
    discard (collected.batch.write folder .any)
    let outcome := deletionOutcome collected.batch ids
    Operation.ask (.destroyMessages folder outcome.deleted)
    commit folder collected
    pure outcome

/-- Whether the server took a flag change. -/
def tookFlag (b : Batch) (id : String) : Bool :=
  match b.status? id .change with
  | none => true
  | some status => status = 1

/-- Changes a flag on the server, and here where it was taken. -/
def changeFlag (s : Session) (folder : String) (ids : List String) (flag : Flag)
    (state : Bool) : Operation Unit :=
  Operation.withLock (Locks.ofFolder folder) do
    let collected ← pass s folder (.orders (ids.map fun id => .flag id flag state))
    let b := collected.batch
    discard (b.write folder .any)
    (ids.filter (tookFlag b)).forM fun id =>
      discard (Operation.ask (.setFlag folder id flag state))
    commit folder collected

/-- Sets or clears a flag. The deleted flag can only be set, which deletes; the server has no
command for answered and forwarded. -/
def setFlag (s : Session) (folder : String) (ids : List String) (flag : Flag) (state : Bool) :
    Operation Unit :=
  match flag, state with
  | .deleted, false => throw (.unsupported "clearing the deleted flag")
  | .deleted, true => discard (deleteMessages s folder ids)
  | .answered, _ | .forwarded, _ => throw (.unsupported "setting answered or forwarded flags")
  | flag, state => if ids.isEmpty then pure () else changeFlag s folder ids flag state

end MailSync.Collection
