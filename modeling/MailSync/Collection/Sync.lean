import MailSync.Collection.Download

/-!
# Syncing a folder

A pass for changes is written, its key is stored, and the listener is told of each message
that came in full. Messages cut short are then downloaded; whatever goes wrong there is only
counted.
-/
namespace MailSync.Collection

/-- Tells the listener of messages, in order. -/
def announce (folder : String) (ms : List Message) : Operation Unit :=
  ms.forM fun m => Operation.tell (.downloaded folder m)

/-- The counts of a pass that was written. -/
def Stats.ofCollected (c : Collected) (flagsChanged : Nat) : Stats :=
  { Stats.zero with
    rounds := c.rounds
    added := c.batch.added.length
    removed := c.batch.deletions
    flagsChanged := flagsChanged
    downloaded := c.batch.completed.length
    reset := c.batch.reset }

/-- Fetches messages that were cut short and tells the listener of those that came. -/
def complete (s : Session) (folder : String) (ids : List String) : Operation Report := do
  let report ← fetch s folder ids
  announce folder report.downloaded
  pure report

def Stats.addReport (stats : Stats) (r : Report) : Stats :=
  { stats with
    downloaded := stats.downloaded + r.downloaded.length
    discarded := stats.discarded + r.discarded.length
    failures := stats.failures + r.failed.length }

/-- Downloads the messages of a folder that are cut short. Never fails; it counts. -/
def completeAll (s : Session) (folder : String) (stats : Stats) : Operation Stats := do
  match ← Operation.ofProgram (Operation.ask (.truncatedIds folder)).run with
  | .error _ => pure { stats with failures := stats.failures + 1 }
  | .ok [] => pure stats
  | .ok ids =>
    match ← Operation.ofProgram (complete s folder ids).run with
    | .ok report => pure (stats.addReport report)
    | .error _ => pure { stats with failures := stats.failures + ids.length }

def syncFolder (s : Session) (folder : String) : Operation Stats :=
  Operation.withLock (Locks.ofFolder folder) do
    let collected ← pass s folder .changes
    let flagsChanged ← collected.batch.write folder .any
    commit folder collected
    announce folder collected.batch.completed
    let stats ← completeAll s folder (.ofCollected collected flagsChanged)
    let ids ← Operation.ask (.truncatedIds folder)
    pure { stats with truncated := ids.length }

/-- As `syncFolder`, with the listener told of its beginning and its end. -/
def sync (s : Session) (folder : String) : Operation Stats := do
  Operation.tell (.started folder)
  match ← Operation.ofProgram (syncFolder s folder).run with
  | .ok stats =>
    Operation.tell (.finished folder stats)
    pure stats
  | .error e =>
    Operation.tell (.failed folder e)
    throw e

end MailSync.Collection
