import MailSync.Collection.Apply
import MailSync.Collection.Pass

/-!
# Downloading whole messages

Messages that were cut short are fetched again without a limit. One that the server no longer
has, or cuts short again, is taken out of the mailbox.
-/
namespace MailSync.Collection

/-- The item status of a message that the server does not have. -/
def itemNotFound : UInt32 := 8

/-- What became of the messages asked for. -/
structure Report where
  downloaded : List Message
  discarded : List String
  /-- Ids that the server did not deliver, each with its status if there was one. -/
  failed : List (String × Option UInt32)
deriving Repr, DecidableEq

/-- Settles the ids that neither came in full nor were taken out already. -/
def settle (folder : String) (b : Batch) : List String → Report → Operation Report
  | [], r => pure r
  | id :: ids, r =>
    if id ∈ r.discarded ∨ r.downloaded.any (·.id = id) then settle folder b ids r
    else match b.status? id .fetch with
      | some status => do
        if status = itemNotFound then
          Operation.ask (.destroyMessages folder [id])
          settle folder b ids { r with discarded := r.discarded ++ [id] }
        else settle folder b ids { r with failed := r.failed ++ [(id, some status)] }
      | none => settle folder b ids { r with failed := r.failed ++ [(id, none)] }

/-- Fetches whole messages. The folder's lock is held by the caller. -/
def fetch (s : Session) (folder : String) (ids : List String) : Operation Report := do
  let collected ← pass s folder (.fetch ids)
  let b := collected.batch
  discard (b.write folder .whole)
  let report ← settle folder b ids ⟨b.completed, b.rejected .whole, []⟩
  commit folder collected
  pure report

inductive DownloadOutcome where
  /-- There was nothing to do, and nothing was sent. -/
  | alreadyComplete
  | downloaded (message : Message)
  /-- The message was taken out of the mailbox. -/
  | discarded
deriving Repr, DecidableEq

/-- What a report says about the one message asked for. -/
def Report.outcome (r : Report) (id : String) : Operation DownloadOutcome :=
  match r.downloaded.getLast?, r.discarded, r.failed.head? with
  | some m, _, _ => pure (.downloaded m)
  | none, _ :: _, _ => pure .discarded
  | none, [], some (_, some status) => throw (.server status)
  | none, [], _ => throw (.malformedResponse s!"server did not return message {id}")

/-- Downloads one message in full. -/
def download (s : Session) (folder id : String) : Operation DownloadOutcome :=
  Operation.withLock (Locks.ofFolder folder) do
    requireFolder folder
    match ← Operation.ask (.message folder id) with
    | none => throw (.invalidArgument s!"no message {id} in folder {folder}")
    | some stored =>
      if stored.state = .complete then pure .alreadyComplete
      else if SyncKey.isInitial (← Mailbox.key folder) then
        throw (.invalidArgument s!"folder {folder} has not been synced yet")
      else (← fetch s folder [id]).outcome id

end MailSync.Collection
