import MailSync.Hierarchy.Round
import MailSync.Session

/-!
# Checking an account's settings

One round about the folder hierarchy from the beginning shows whether host and credentials
are right. Nothing is stored. A server that demands the policy handshake has accepted them.
-/
namespace MailSync.ServerCheck

def subject : String := "server settings check"

def judge (host : String) : Except Failure (Round Hierarchy.Batch) → Except SyncError Unit
  | .ok _ => .ok ()
  | .error f =>
    match f.verdict with
    | .provisioningRequired => .ok ()
    | .network .unknownHost => .error (.unknownHost host)
    | _ => .error (f.toError subject)

def check (s : Session) : Operation Unit := do
  let account ← s.snapshot
  let outcome ← Operation.ofProgram (Hierarchy.exchange s.settings account none)
  Operation.ofResult (pure (judge account.server.host outcome))

end MailSync.ServerCheck
