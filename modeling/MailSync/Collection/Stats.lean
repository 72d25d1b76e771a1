import MailSync.Error
import MailSync.Message

/-!
# Progress of a sync

The counts of one sync of a folder, and what a listener is told while it runs.
-/
namespace MailSync

namespace Collection

structure Stats where
  /-- Rounds of the pass for changes. -/
  rounds : Nat
  added : Nat
  removed : Nat
  flagsChanged : Nat
  /-- Messages reported to the listener as stored in full. -/
  downloaded : Nat
  /-- Messages dropped because the server would not send them in full. -/
  discarded : Nat
  /-- Messages still cut short at the end. -/
  truncated : Nat
  /-- Full downloads that failed after the key was stored. -/
  failures : Nat
  reset : Bool
deriving Repr, DecidableEq

def Stats.zero : Stats := ⟨0, 0, 0, 0, 0, 0, 0, 0, false⟩

end Collection

inductive Notice where
  | started (folder : String)
  /-- A message is now stored in full. -/
  | downloaded (folder : String) (message : Message)
  | finished (folder : String) (stats : Collection.Stats)
  | failed (folder : String) (error : SyncError)
deriving Repr, DecidableEq

end MailSync
